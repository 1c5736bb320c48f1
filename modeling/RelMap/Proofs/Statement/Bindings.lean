import RelMap.Proofs.Scope.Binding
import RelMap.Proofs.Statement.Elements
import RelMap.Proofs.Statement.Visits

/-!
# Registration in steps

Whatever registration does to the scopes is a run of steps. Given aliases are confined to the
outermost scope if the queries inside leave their tables to generated ones.
-/

namespace RelMap

open Compiling Resolver

/-! ## Generated aliases -/

mutual

/-- Whether the tables of nested queries go by generated aliases. Modifications do not, since their
tables go by their own names. -/
def Element.generates (nested : Bool) : Element → Bool
  | .fromTable _ aliasName _ | .table _ aliasName _ => !nested || aliasName.isNone
  | .insert _ | .update _ _ | .delete _ _ => !nested
  | .join j => j.generates nested
  | .subquery inner _ => Element.allGenerate true inner
  | .condition clause => clause.generates nested
  | .sql _ | .select _ _ _ | .aliasOf _ | .column _ | .values _ | .set _ | .param _ => true
termination_by structural e => e

def Element.allGenerate (nested : Bool) : List Element → Bool
  | [] => true
  | e :: rest => e.generates nested && Element.allGenerate nested rest
termination_by structural es => es

def JoinElement.generates (nested : Bool) : JoinElement → Bool
  | ⟨_, target, aliasName, _, onClause, _⟩ =>
    target.generates && (!nested || aliasName.isNone) && onClause.generates nested
termination_by structural j => j

def JoinTarget.generates : JoinTarget → Bool
  | .entity _ => true
  | .subquery _ inner _ => Element.allGenerate true inner
termination_by structural t => t

def JoinOn.generates (nested : Bool) : JoinOn → Bool
  | .template inner => Element.allGenerate nested inner
  | .relation _ | .none => true
termination_by structural onClause => onClause

def WhereClause.generates (nested : Bool) : WhereClause → Bool
  | .template inner => Element.allGenerate nested inner
  | .object _ _ _ => true
termination_by structural clause => clause

end

/-! ## Steps -/

variable {named : Resolver → Prop} {α β : Type}

def Compiling.Stepwise (named : Resolver → Prop) (x : Compiling α) : Prop :=
  ∀ state a state', x.run state = .ok (a, state') → Steps named state.resolver state'.resolver

namespace Compiling.Stepwise

theorem of_quiet {x : Compiling α} (hx : Quiet x) : Stepwise named x := by
  intro state a state' h
  rw [(hx state a state' h).1]

theorem bind {x : Compiling α} {f : α → Compiling β} (hx : Stepwise named x)
    (hf : ∀ a, Stepwise named (f a)) : Stepwise named (x >>= f) := by
  intro state b state' h
  obtain ⟨a, between, hrun, h⟩ := StateT.bind_eq_ok h
  exact (hx state a between hrun).trans (hf a between b state' h)

theorem pure (a : α) : Stepwise named (pure a : Compiling α) := of_quiet (.pure a)

theorem generateAlias (naming : NamingStrategy) (entity : EntityInfo) (path : String) :
    Stepwise named (resolving (Resolver.generateAlias naming entity path)) := by
  intro state aliasName state' h
  obtain ⟨r, hr, rfl⟩ := resolving_ok h
  obtain ⟨hnew, -, hfresh, rfl⟩ := generateAlias_ok hr
  exact .single (.generate ⟨entity, path, aliasName⟩ hnew hfresh)

theorem modifyTableUse (f : TableUse → TableUse) :
    Stepwise named (Compiling.modifyTableUse f) := by
  intro state a state' h
  cases h
  exact .single (.use _ f)

end Compiling.Stepwise

namespace Registration

variable {s : Schema} {before after : CompileState}

theorem bindTable_steps {entity : EntityInfo} {path : String} {aliasName : Option String}
    {bound : String}
    (hname : aliasName = none ∨ named before.resolver)
    (h : (bindTable s entity path aliasName).run before = .ok (bound, after)) :
    Steps named before.resolver after.resolver := by
  cases aliasName with
  | none => exact Stepwise.generateAlias s.naming entity path before bound after h
  | some aliasName =>
    obtain ⟨_, between, hset, h⟩ := StateT.bind_eq_ok h
    cases h
    obtain ⟨r, hr, rfl⟩ := resolving_ok hset
    obtain ⟨hnew, -, rfl⟩ := setAlias_ok hr
    rcases hname with hnone | hnamed
    · cases hnone
    · exact .single (.name ⟨entity, path, bound⟩ hnew hnamed)

theorem registerTable_steps {entity : EntityInfo} {path : String} {aliasName : Option String}
    {bound : String}
    (hname : aliasName = none ∨ named before.resolver)
    (h : (registerTable s entity aliasName path).run before = .ok (bound, after)) :
    Steps named before.resolver after.resolver := by
  unfold registerTable at h
  obtain ⟨_, between, hbind, h⟩ := StateT.bind_eq_ok h
  obtain ⟨_, rooted, hroot, h⟩ := StateT.bind_eq_ok h
  cases h
  have hsteps := bindTable_steps hname hbind
  cases hroot
  dsimp only
  split <;> exact hsteps

theorem noteSource_stepwise (source : PlannedTable) (joined : Occurrence) :
    Stepwise named (noteSource source joined) := by
  unfold noteSource
  split
  · exact (Stepwise.modifyTableUse _).bind fun _ => .pure _
  · exact .pure _

theorem planRelation_stepwise (source : PlannedTable) (relation : Relation) (parent : Entity) :
    Stepwise named (planRelation s source relation parent) := by
  apply (Stepwise.generateAlias _ _ _).bind
  intro aliasName
  apply (Stepwise.of_quiet (.lift _)).bind
  intro condition
  apply (noteSource_stepwise _ _).bind
  intro holder
  exact (Stepwise.of_quiet (Quiet.get.bind fun _ => .pure _)).bind fun _ => .pure _

mutual

theorem planField_stepwise {source : PlannedTable} {inlinePath : String} {start : Nat} (f : Field) :
    Stepwise named (planField s source inlinePath start f) := by
  cases f with
  | scalar info typ | ref info target key | converted info converter => exact .pure _
  | inline info target fields => exact planFields_stepwise fields
  | foreignKey info target key fields =>
    rw [planField]
    apply (Stepwise.of_quiet (.lift _)).bind
    intro relation
    apply (planRelation_stepwise _ _ _).bind
    intro join
    apply (Stepwise.of_quiet (.lift _)).bind
    intro relations
    exact (planFields_stepwise fields).bind fun _ => .pure _
termination_by structural f

theorem planFields_stepwise {source : PlannedTable} {inlinePath : String} {start : Nat}
    (fields : List Field) : Stepwise named (planFields s source inlinePath start fields) := by
  cases fields with
  | nil => exact .pure _
  | cons f rest =>
    rw [planFields]
    apply (planField_stepwise f).bind
    intro first
    exact (planFields_stepwise rest).bind fun _ => .pure _
termination_by structural fields

end

theorem registerFrom_steps {entity : Entity} {aliasName : Option String} {autoJoin : Bool}
    (hname : aliasName = none ∨ named before.resolver)
    (h : (registerFrom s entity aliasName autoJoin).run before = .ok ((), after)) :
    Steps named before.resolver after.resolver := by
  unfold registerFrom at h
  obtain ⟨bound, registered, htable, h⟩ := StateT.bind_eq_ok h
  have hsteps := registerTable_steps hname htable
  cases autoJoin with
  | false =>
    cases h
    exact hsteps
  | true =>
    obtain ⟨_, -, h⟩ := lift_bind_ok h
    obtain ⟨joins, planned, hplan, h⟩ := StateT.bind_eq_ok h
    cases h
    have hplanned : Steps named registered.resolver planned.resolver :=
      planFields_stepwise entity.fields registered joins planned hplan
    exact hsteps.trans hplanned

theorem registerJoined_steps {entity : EntityName} {aliasName path : Option String}
    {onClause : JoinOn}
    (hname : aliasName = none ∨ named before.resolver)
    (h : (registerJoined s entity aliasName path onClause).run before = .ok ((), after)) :
    Steps named before.resolver after.resolver := by
  unfold registerJoined at h
  obtain ⟨e, -, h⟩ := entity_bind_ok h
  obtain ⟨path', located, hpath, h⟩ := StateT.bind_eq_ok h
  have hsame := (quiet_joinedPath s e aliasName path onClause before path' located hpath).1
  obtain ⟨bound, _, hbound, h⟩ := StateT.bind_eq_ok h
  cases h
  rw [← hsame] at hname ⊢
  have hsteps := registerTable_steps hname hbound
  exact hsteps

theorem table_steps {name : EntityName} {aliasName : Option String} {path : String}
    (hname : aliasName = none ∨ named before.resolver)
    (h : (do
      let e ← s.entity name
      let _ ← registerTable s e.toEntityInfo aliasName path : Compiling Unit).run before =
        .ok ((), after)) : Steps named before.resolver after.resolver := by
  obtain ⟨e, -, h⟩ := entity_bind_ok h
  obtain ⟨bound, _, hbound, h⟩ := StateT.bind_eq_ok h
  cases h
  exact registerTable_steps hname hbound

/-! ## Whole queries -/

theorem element_advances {e : Element} (hlive : before.resolver.Live)
    (h : (element s e).run before = .ok ((), after)) : before.Advances after := by
  have hstep : InStep _ [] (element s e) (Emission.element s ⟨.ansi, true⟩ true e) :=
    element_inStep e before.resolver.current true
  obtain ⟨q, hq, -⟩ := hstep before after hlive rfl h
  exact hq.advances

theorem joinTarget_advances {t : JoinTarget} (hlive : before.resolver.Live)
    (h : (joinTarget s t).run before = .ok ((), after)) : before.Advances after := by
  have hstep : InStep _ [] (joinTarget s t) (Emission.joinTarget s ⟨.ansi, true⟩ t) :=
    joinTarget_inStep t before.resolver.current
  obtain ⟨q, hq, -⟩ := hstep before after hlive rfl h
  exact hq.advances

/-- The scope is the outermost one, where given aliases are fine. -/
def Free (named : Resolver → Prop) (r : Resolver) : Prop :=
  r.Outermost ∧ ∀ r' : Resolver, r'.Outermost → named r'

theorem free_of_advances (hsteps : Steps named before.resolver after.resolver)
    (hadvances : before.Advances after) (hlive : before.resolver.Live)
    (h : Free named before.resolver) : Free named after.resolver := by
  refine ⟨?_, h.2⟩
  unfold Outermost
  rw [hadvances.current, hsteps.parent? hlive]
  exact h.1

/-- The state in which a part of a query starts. Outside of nested queries it is free. -/
structure Starts (named : Resolver → Prop) (nested : Bool) (before : CompileState) : Prop where
  live : before.resolver.Live
  free : nested = false → Free named before.resolver

namespace Starts

variable {nested : Bool}

theorem inside (hlive : before.resolver.Live) : Starts named true before :=
  ⟨hlive, fun hfalse => nomatch hfalse⟩

/-- What comes next starts just like what came before. -/
theorem next (h : Starts named nested before) (hadvances : before.Advances after)
    (hsteps : Steps named before.resolver after.resolver) : Starts named nested after :=
  ⟨hadvances.live h.live, fun hnested => free_of_advances hsteps hadvances h.live (h.free hnested)⟩

theorem named_of_generates {aliasName : Option String} (h : Starts named nested before)
    (hgenerates : (∀ r, named r) ∨ (!nested || aliasName.isNone) = true) :
    aliasName = none ∨ named before.resolver := by
  rcases hgenerates with hall | hgenerates
  · exact .inr (hall _)
  · cases nested with
    | false =>
      obtain ⟨houtermost, hnamed⟩ := h.free rfl
      exact .inr (hnamed _ houtermost)
    | true => exact .inl (Option.isNone_iff_eq_none.mp hgenerates)

theorem cons {e : Element} {rest : List Element} (hstarts : Starts named nested before)
    (hfirst : ∀ between, (element s e).run before = .ok ((), between) →
      Steps named before.resolver between.resolver)
    (h : (elements s (e :: rest)).run before = .ok ((), after)) :
    ∃ between, (element s e).run before = .ok ((), between) ∧
      Steps named before.resolver between.resolver ∧ Starts named nested between ∧
      (elements s rest).run between = .ok ((), after) := by
  rw [elements] at h
  obtain ⟨_, between, helement, hothers⟩ := StateT.bind_eq_ok h
  have hsteps := hfirst between helement
  have hadvances := element_advances hstarts.live helement
  exact ⟨between, helement, hsteps, hstarts.next hadvances hsteps, hothers⟩

/-- After the steps for the target of a join come those for its table, and then the condition. -/
theorem join {kind : JoinKind} {target : JoinTarget} {aliasName path : Option String}
    {onClause : JoinOn} {auto : Bool} (hstarts : Starts named nested before)
    (htarget : ∀ located, (joinTarget s target).run before = .ok ((), located) →
      Steps named before.resolver located.resolver)
    (hname : (∀ r, named r) ∨ (!nested || aliasName.isNone) = true)
    (h : (Registration.join s ⟨kind, target, aliasName, path, onClause, auto⟩).run before =
      .ok ((), after)) :
    ∃ located bound, (joinTarget s target).run before = .ok ((), located) ∧
      Steps named before.resolver located.resolver ∧ Starts named nested located ∧
      (registerJoined s target.entityName aliasName path onClause).run located = .ok ((), bound) ∧
      Steps named located.resolver bound.resolver ∧ Starts named nested bound ∧
      (joinOn s onClause).run bound = .ok ((), after) := by
  rw [Registration.join] at h
  obtain ⟨_, located, hlocated, h⟩ := StateT.bind_eq_ok h
  obtain ⟨_, bound, hbound, hon⟩ := StateT.bind_eq_ok h
  have hsteps := htarget located hlocated
  have hlocated' := hstarts.next (joinTarget_advances hstarts.live hlocated) hsteps
  have hsteps' := registerJoined_steps (hlocated'.named_of_generates hname) hbound
  obtain ⟨-, p, hp⟩ := registerJoined_registered hbound
  exact ⟨located, bound, hlocated, hsteps, hlocated', hbound, hsteps',
    hlocated'.next hp.advances hsteps', hon⟩

end Starts

theorem inNewScope_steps {correlated : Bool} {body : Compiling Unit}
    (hbody : ∀ walked, body.run (before.opened correlated) = .ok ((), walked) →
      Steps named (before.opened correlated).resolver walked.resolver)
    (h : (inNewScope correlated body).run before = .ok ((), after)) :
    Steps named (before.opened correlated).resolver after.resolver := by
  obtain ⟨walked, hrun, rfl⟩ := inNewScope_ok h
  exact (hbody walked hrun).tail .pop

mutual

theorem element_steps (e : Element) (nested : Bool) {before after : CompileState}
    (hstarts : Starts named nested before)
    (hgenerates : (∀ r, named r) ∨ e.generates nested = true)
    (h : (element s e).run before = .ok ((), after)) :
    Steps named before.resolver after.resolver := by
  have hmodifies (aliasName : Option String) (hgenerates : (∀ r, named r) ∨ (!nested) = true) :
      aliasName = none ∨ named before.resolver := by
    apply hstarts.named_of_generates (hgenerates.imp_right fun hnested => ?_)
    rw [hnested, Bool.true_or]
  cases e with
  | sql _ | select _ _ _ | aliasOf _ | column _ | values _ | set _ | param _ =>
    rw [element] at h
    cases h
    exact .refl
  | fromTable name aliasName autoJoin =>
    rw [element] at h
    obtain ⟨e, -, h⟩ := entity_bind_ok h
    exact registerFrom_steps (hstarts.named_of_generates hgenerates) h
  | table name aliasName path =>
    rw [element] at h
    exact table_steps (hstarts.named_of_generates hgenerates) h
  | insert name | update name aliasName | delete name aliasName =>
    rw [element] at h
    exact table_steps (hmodifies _ hgenerates) h
  | join j =>
    rw [element] at h
    exact join_steps j nested hstarts hgenerates h
  | subquery inner correlated =>
    rw [element] at h
    have hsteps := inNewScope_steps (fun walked hrun =>
      elements_steps inner true (.inside live_push) hgenerates hrun) h
    exact .head (.push correlated) hsteps
  | condition clause =>
    rw [element] at h
    exact condition_steps clause nested hstarts hgenerates h
termination_by structural e

theorem elements_steps (es : List Element) (nested : Bool) {before after : CompileState}
    (hstarts : Starts named nested before)
    (hgenerates : (∀ r, named r) ∨ Element.allGenerate nested es = true)
    (h : (elements s es).run before = .ok ((), after)) :
    Steps named before.resolver after.resolver := by
  cases es with
  | nil =>
    rw [elements] at h
    cases h
    exact .refl
  | cons e rest =>
    rw [Element.allGenerate, Bool.and_eq_true, or_and_left] at hgenerates
    have hfirst (between : CompileState) (hrun : (element s e).run before = .ok ((), between)) :
        Steps named before.resolver between.resolver :=
      element_steps e nested hstarts hgenerates.1 hrun
    obtain ⟨between, -, hsteps, hbetween, hothers⟩ := hstarts.cons hfirst h
    exact hsteps.trans (elements_steps rest nested hbetween hgenerates.2 hothers)
termination_by structural es

theorem join_steps (j : JoinElement) (nested : Bool) {before after : CompileState}
    (hstarts : Starts named nested before)
    (hgenerates : (∀ r, named r) ∨ j.generates nested = true)
    (h : (join s j).run before = .ok ((), after)) :
    Steps named before.resolver after.resolver := by
  obtain ⟨kind, target, aliasName, path, onClause, auto⟩ := j
  rw [JoinElement.generates, Bool.and_eq_true, Bool.and_eq_true, or_and_left, or_and_left]
    at hgenerates
  obtain ⟨⟨hinner, hname⟩, htemplate⟩ := hgenerates
  have htarget (located : CompileState)
      (hrun : (joinTarget s target).run before = .ok ((), located)) :
      Steps named before.resolver located.resolver :=
    joinTarget_steps target hinner hrun
  obtain ⟨located, bound, -, hsteps, -, -, hsteps', hbound, hon⟩ := hstarts.join htarget hname h
  exact (hsteps.trans hsteps').trans (joinOn_steps onClause nested hbound htemplate hon)
termination_by structural j

theorem joinTarget_steps (t : JoinTarget) {before after : CompileState}
    (hgenerates : (∀ r, named r) ∨ t.generates = true)
    (h : (joinTarget s t).run before = .ok ((), after)) :
    Steps named before.resolver after.resolver := by
  cases t with
  | entity entity =>
    rw [joinTarget] at h
    cases h
    exact .refl
  | subquery entity inner correlated =>
    rw [joinTarget] at h
    have hsteps := inNewScope_steps (fun walked hrun =>
      elements_steps inner true (.inside live_push) hgenerates hrun) h
    exact .head (.push correlated) hsteps
termination_by structural t

theorem joinOn_steps (onClause : JoinOn) (nested : Bool) {before after : CompileState}
    (hstarts : Starts named nested before)
    (hgenerates : (∀ r, named r) ∨ onClause.generates nested = true)
    (h : (joinOn s onClause).run before = .ok ((), after)) :
    Steps named before.resolver after.resolver := by
  cases onClause with
  | relation source | none =>
    rw [joinOn] at h
    cases h
    exact .refl
  | template inner =>
    rw [joinOn] at h
    exact elements_steps inner nested hstarts hgenerates h
termination_by structural onClause

theorem condition_steps (clause : WhereClause) (nested : Bool) {before after : CompileState}
    (hstarts : Starts named nested before)
    (hgenerates : (∀ r, named r) ∨ clause.generates nested = true)
    (h : (condition s clause).run before = .ok ((), after)) :
    Steps named before.resolver after.resolver := by
  cases clause with
  | object target operator operands =>
    rw [condition] at h
    cases h
    exact .refl
  | template inner =>
    rw [condition] at h
    exact elements_steps inner nested hstarts hgenerates h
termination_by structural clause

end

/-! ## Parts of a query -/

theorem query_steps {inner : List Element} {correlated : Bool}
    (hgenerates : (∀ r, named r) ∨ Element.allGenerate true inner = true)
    (h : (inNewScope correlated (elements s inner)).run before = .ok ((), after)) :
    Steps named (before.opened correlated).resolver after.resolver :=
  inNewScope_steps (fun _ hrun => elements_steps inner true (.inside live_push) hgenerates hrun) h

/-- What comes before a construct, what comes after it, and what comes after the opening of a scope
for it are steps. -/
structure Around (s : Schema) (named : Resolver → Prop) (before after : CompileState)
    (c : Construct) (reached done : CompileState) : Prop where
  live : reached.resolver.Live
  run : (c.register s).run reached = .ok ((), done)
  first : Steps named before.resolver reached.resolver
  inside : ∀ inner correlated, c.query? = some (inner, correlated) →
    Steps named (reached.opened correlated).resolver done.resolver
  last : Steps named done.resolver after.resolver

theorem Around.within {c : Construct} {start finish reached done : CompileState}
    (h : Around s named before after c reached done)
    (hfirst : Steps named start.resolver before.resolver)
    (hlast : Steps named after.resolver finish.resolver) :
    Around s named start finish c reached done :=
  ⟨h.live, h.run, hfirst.trans h.first, h.inside, h.last.trans hlast⟩

theorem elements_cons_steps {e : Element} {rest : List Element} {nested : Bool}
    (hstarts : Starts named nested before)
    (hgenerates : (∀ r, named r) ∨ Element.allGenerate nested (e :: rest) = true)
    (h : (elements s (e :: rest)).run before = .ok ((), after)) :
    ∃ between, (element s e).run before = .ok ((), between) ∧
      ((∀ r, named r) ∨ e.generates nested = true) ∧
      Steps named before.resolver between.resolver ∧ Starts named nested between ∧
      (elements s rest).run between = .ok ((), after) ∧
      ((∀ r, named r) ∨ Element.allGenerate nested rest = true) ∧
      Steps named between.resolver after.resolver := by
  rw [Element.allGenerate, Bool.and_eq_true, or_and_left] at hgenerates
  obtain ⟨between, hfirst, hsteps, hbetween, hothers⟩ :=
    hstarts.cons (fun _ => element_steps e nested hstarts hgenerates.1) h
  exact ⟨between, hfirst, hgenerates.1, hsteps, hbetween, hothers, hgenerates.2,
    elements_steps rest nested hbetween hgenerates.2 hothers⟩

theorem join_parts_steps {kind : JoinKind} {target : JoinTarget} {aliasName path : Option String}
    {onClause : JoinOn} {auto nested : Bool} (hstarts : Starts named nested before)
    (hgenerates : (∀ r, named r) ∨
      (⟨kind, target, aliasName, path, onClause, auto⟩ : JoinElement).generates nested = true)
    (h : (element s (.join ⟨kind, target, aliasName, path, onClause, auto⟩)).run before =
      .ok ((), after)) :
    ∃ located bound, (joinTarget s target).run before = .ok ((), located) ∧
      ((∀ r, named r) ∨ target.generates = true) ∧
      Steps named before.resolver located.resolver ∧ Starts named nested located ∧
      (registerJoined s target.entityName aliasName path onClause).run located = .ok ((), bound) ∧
      Steps named located.resolver bound.resolver ∧ Starts named nested bound ∧
      (joinOn s onClause).run bound = .ok ((), after) ∧
      ((∀ r, named r) ∨ onClause.generates nested = true) ∧
      Steps named bound.resolver after.resolver := by
  rw [element] at h
  rw [JoinElement.generates, Bool.and_eq_true, Bool.and_eq_true, or_and_left, or_and_left]
    at hgenerates
  obtain ⟨⟨hinner, hname⟩, htemplate⟩ := hgenerates
  obtain ⟨located, bound, htarget, hsteps, hlocated, hjoined, hsteps', hbound, hon⟩ :=
    hstarts.join (fun _ => joinTarget_steps target hinner) hname h
  exact ⟨located, bound, htarget, hinner, hsteps, hlocated, hjoined, hsteps', hbound, hon,
    htemplate, joinOn_steps onClause nested hbound htemplate hon⟩

/-- Registration goes through a construct that it reaches, and the rest of it is steps. -/
theorem around_of_reaches {es : List Element} {address : List Nat} {c : Construct}
    {reached : CompileState} (hreaches : (walk s).Reaches es before address c reached)
    (nested : Bool) (hstarts : Starts named nested before)
    (hgenerates : (∀ r, named r) ∨ Element.allGenerate nested es = true)
    (h : (elements s es).run before = .ok ((), after)) :
    ∃ done, Around s named before after c reached done := by
  induction hreaches generalizing nested after with
  | here e rest before =>
    obtain ⟨between, hfirst, hgenerates, -, -, -, -, hlast⟩ :=
      elements_cons_steps hstarts hgenerates h
    refine ⟨between, hstarts.live, hfirst, .refl, ?_, hlast⟩
    intro inner correlated hquery
    cases e <;> cases hquery
    rw [element] at hfirst
    exact query_steps hgenerates hfirst
  | later helement hrest ih =>
    obtain ⟨between, hfirst, -, hsteps, hbetween, hothers, hgenerates, -⟩ :=
      elements_cons_steps hstarts hgenerates h
    cases hfirst.symm.trans helement
    obtain ⟨done, hdone⟩ := ih nested hbetween hgenerates hothers
    exact ⟨done, hdone.within hsteps .refl⟩
  | subquery henter hinner ih =>
    obtain ⟨between, hfirst, hgenerates, -, -, -, -, hlast⟩ :=
      elements_cons_steps hstarts hgenerates h
    cases henter
    rw [element] at hfirst
    obtain ⟨walked, hbody, rfl⟩ := inNewScope_ok hfirst
    obtain ⟨done, hdone⟩ := ih true (.inside live_push) hgenerates hbody
    exact ⟨done, hdone.within (.single (.push _)) (.head .pop hlast)⟩
  | condition hinner ih =>
    obtain ⟨between, hfirst, hgenerates, -, -, -, -, hlast⟩ :=
      elements_cons_steps hstarts hgenerates h
    rw [element, condition] at hfirst
    obtain ⟨done, hdone⟩ := ih nested hstarts hgenerates hfirst
    exact ⟨done, hdone.within .refl hlast⟩
  | derived kind entity inner rest correlated aliasName path onClause auto before =>
    obtain ⟨between, hfirst, hgenerates, -, -, -, -, hlast⟩ :=
      elements_cons_steps hstarts hgenerates h
    obtain ⟨located, bound, htarget, hgenerates, -, -, -, hsteps, -, -, -, hsteps'⟩ :=
      join_parts_steps hstarts hgenerates hfirst
    rw [joinTarget] at htarget
    refine ⟨located, hstarts.live, htarget, .refl, ?_, (hsteps.trans hsteps').trans hlast⟩
    intro inner correlated hquery
    cases hquery
    exact query_steps hgenerates htarget
  | inDerived henter hinner ih =>
    obtain ⟨between, hfirst, hgenerates, -, -, -, -, hlast⟩ :=
      elements_cons_steps hstarts hgenerates h
    obtain ⟨located, bound, htarget, hgenerates, -, -, -, hsteps, -, -, -, hsteps'⟩ :=
      join_parts_steps hstarts hgenerates hfirst
    cases henter
    rw [joinTarget] at htarget
    obtain ⟨walked, hbody, rfl⟩ := inNewScope_ok htarget
    obtain ⟨done, hdone⟩ := ih true (.inside live_push) hgenerates hbody
    have hrest := (hsteps.trans hsteps').trans hlast
    exact ⟨done, hdone.within (.single (.push _)) (.head .pop hrest)⟩
  | @joined j _ _ _ htarget =>
    obtain ⟨kind, target, aliasName, path, onClause, auto⟩ := j
    obtain ⟨between, hfirst, hgenerates, -, -, -, -, hlast⟩ :=
      elements_cons_steps hstarts hgenerates h
    obtain ⟨located, bound, hrun, -, hsteps, hlocated, hjoined, -, -, -, -, hsteps'⟩ :=
      join_parts_steps hstarts hgenerates hfirst
    cases hrun.symm.trans htarget
    exact ⟨bound, hlocated.live, hjoined, hsteps, (fun _ _ hquery => nomatch hquery),
      hsteps'.trans hlast⟩
  | on htarget hjoined hinner ih =>
    obtain ⟨between, hfirst, hgenerates, -, -, -, -, hlast⟩ :=
      elements_cons_steps hstarts hgenerates h
    obtain ⟨located, bound, hrun, -, hsteps, -, hrun', hsteps', hbound, hon, hgenerates, -⟩ :=
      join_parts_steps hstarts hgenerates hfirst
    cases hrun.symm.trans htarget
    cases hrun'.symm.trans hjoined
    rw [joinOn] at hon
    obtain ⟨done, hdone⟩ := ih nested hbound hgenerates hon
    exact ⟨done, hdone.within (hsteps.trans hsteps') hlast⟩

end Registration

end RelMap
