import RelMap.Proofs.Statement.Bindings
import RelMap.Proofs.Statement.ShownJoins

/-!
# Elements that are shown

Whatever the emission of a query records is shown, provided that automatic joins have no correlated
derived tables, that conditions of membership list something, and that the automatic joins which are
written are confined to their scopes.
-/

namespace RelMap

open Compiling

/-! ## Tidy queries -/

def JoinTarget.isCorrelated : JoinTarget → Bool
  | .entity _ => false
  | .subquery _ _ correlated => correlated

mutual

/-- Whether no derived table of an automatic join is correlated, and no condition asks for
membership in nothing. -/
def Element.isTidy : Element → Bool
  | .join j => j.isTidy
  | .subquery inner _ => Element.allTidy inner
  | .condition clause => clause.isTidy
  | .sql _ | .select _ _ _ | .fromTable _ _ _ | .table _ _ _ | .aliasOf _ | .column _ | .insert _
  | .values _ | .update _ _ | .set _ | .delete _ _ | .param _ => true
termination_by structural e => e

def Element.allTidy : List Element → Bool
  | [] => true
  | e :: rest => e.isTidy && Element.allTidy rest
termination_by structural es => es

def JoinElement.isTidy : JoinElement → Bool
  | ⟨_, target, _, _, onClause, auto⟩ =>
    !(auto && target.isCorrelated) && target.isTidy && onClause.isTidy
termination_by structural j => j

def JoinTarget.isTidy : JoinTarget → Bool
  | .entity _ => true
  | .subquery _ inner _ => Element.allTidy inner
termination_by structural t => t

def JoinOn.isTidy : JoinOn → Bool
  | .template inner => Element.allTidy inner
  | .relation _ | .none => true
termination_by structural onClause => onClause

def WhereClause.isTidy : WhereClause → Bool
  | .template inner => Element.allTidy inner
  | .object _ operator operands =>
    !operands.isEmpty || (operator != .in && operator != .notIn)
termination_by structural clause => clause

end

theorem Condition.compares_of_isTidy {target : ConditionTarget} {operator : Operator}
    {operands : List FieldValue} (h : (WhereClause.object target operator operands).isTidy = true) :
    Compares operator operands := by
  rintro hmembership rfl
  rw [WhereClause.isTidy] at h
  rcases hmembership with rfl | rfl <;> cases h

/-! ## Emission of what is registered -/

/-- In `state`, emission is about to write what registration has gone through from `before` to
`after`. -/
structure Poised (before after : CompileState) (q : Queued) (state : CompileState) : Prop where
  live : before.resolver.Live
  registered : Registered q before after
  ready : Ready after before.resolver.current q state
  stays : after.resolver.Stays state.resolver
  nested : state.resolver.WellNested

theorem Resolver.Grows.length_le {r r' : Resolver} (h : r.Grows r') :
    r.scopes.length ≤ r'.scopes.length :=
  le_of_forall_lt fun _ => h.lt_length

namespace Poised

variable {before between after state state' : CompileState} {q q' : Queued}

theorem current_lt (h : Poised before after q state) :
    state.resolver.current < before.resolver.scopes.length := by
  rw [h.ready.current]
  exact h.live

theorem length_le (h : Poised before after q state) :
    before.resolver.scopes.length ≤ after.resolver.scopes.length :=
  h.registered.advances.grows.length_le

theorem joinEffect_older (h : Poised before after q state) {auto : Bool} {aliasName : String}
    (scope : ScopeId) (hscope : before.resolver.scopes.length ≤ scope) :
    (state.resolver.joinEffect auto aliasName scope).Within .nothing :=
  Resolver.joinEffect_older h.nested (Nat.lt_of_lt_of_le h.current_lt hscope)

theorem nestedEffect_older (h : Poised before after q state) {correlated : Bool} (scope : ScopeId)
    (hscope : before.resolver.scopes.length ≤ scope) :
    (state.resolver.nestedEffect correlated scope).Within .nothing :=
  Resolver.nestedEffect_older h.nested (Nat.lt_of_lt_of_le h.current_lt hscope)

theorem effect_older (h : Poised before after q state) (scope : ScopeId)
    (hscope : before.resolver.scopes.length ≤ scope) :
    (state.resolver.effect scope).Within .nothing :=
  Resolver.effect_older h.nested (Nat.lt_of_lt_of_le h.current_lt hscope)

theorem first (h : Poised before after (q ++ q') state) (hfirst : Registered q before between)
    (hsecond : Registered q' between after) (hstays : between.resolver.Stays after.resolver) :
    Poised before between q state where
  live := h.live
  registered := hfirst
  ready := h.ready.first hsecond
  stays := hstays.trans h.stays
  nested := h.nested

theorem second {around : List ConditionKey} {p : Passage} (h : Poised before after (q ++ q') state)
    (hfirst : Registered q before between) (hsecond : Registered q' between after)
    (hemitted : Emitted around q state state' p) : Poised between after q' state' where
  live := hfirst.advances.live h.live
  registered := hsecond
  ready := by
    rw [hfirst.advances.current]
    exact h.ready.second hemitted
  stays := h.stays.trans (.of_links (hemitted.tables.sameTree hemitted.advances.current).links)
  nested := by
    refine h.nested.of_same hemitted.tables.parent? hemitted.tables.length ?_
    rw [hemitted.advances.current]
    exact h.nested.live

theorem of_quiet {α : Type} {x : Compiling α} {a : α} (h : Poised before after q state)
    (hx : Quiet x) (hrun : x.run state = .ok (a, state')) : Poised before after q state' where
  live := h.live
  registered := h.registered
  ready := h.ready.of_quiet hx hrun
  stays := by
    rw [(hx state a state' hrun).1]
    exact h.stays
  nested := by
    rw [(hx state a state' hrun).1]
    exact h.nested

theorem entered {correlated : Bool} {walked : CompileState} {inner : ScopeId} {rest : List ScopeId}
    (h : Poised before walked.left (.opening before.resolver.scopes.length q) state)
    (hq : Registered q (before.opened correlated) walked)
    (hqueue : state.subqueries = inner :: rest) :
    inner = before.resolver.scopes.length ∧
      state.resolver.parent? inner = some state.resolver.current ∧
      Poised (before.opened correlated) walked q (state.entered inner rest) := by
  obtain ⟨rfl, hparent, hready⟩ := h.ready.entered hq hqueue
  refine ⟨rfl, hparent, Resolver.live_push, hq, hready, h.stays, ?_⟩
  exact h.nested.of_same (fun _ => rfl) rfl (Resolver.lt_length_of_parent? hparent)

end Poised

/-- What is recorded while a part of a query is written is shown there, with the given effects. -/
def Shows (format : SqlFormat) (e : Resolver → ScopeId → Effect) (reg : Compiling Unit)
    (emit : Compiling Passage) : Prop :=
  ∀ before after q state passage state', reg.run before = .ok ((), after) →
    Poised before after q state → emit.run state = .ok (passage, state') → passage.Confined →
    Shown format before.resolver.scopes.length after.resolver.scopes.length (e state.resolver) q
      state.resolver state'.resolver passage

/-! ## References -/

/-- All that is marked is within reach, and used right there. -/
def Cites (format : SqlFormat) (state state' : CompileState) (passage : Passage) : Prop :=
  ∃ ms f, passage = .referring ms f ∧ Refers state.resolver.Reaches ms state state' ∧
    ∀ m ∈ ms, f.Spells format m.occurrence.qualifier

variable {s : Schema} {format : SqlFormat} {state state' : CompileState} {passage : Passage}

theorem Resolver.looksWithin (r : Resolver) (filter : ScopeFilter) :
    r.LooksWithin filter r.Reaches :=
  fun _ => reaches_of_mem_visibleScopes

namespace Cites

theorem of_quiet {α : Type} {x : Compiling α} (hx : Quiet x) {a : α}
    (h : x.run state = .ok (a, state')) (f : Fragment) :
    Cites format state state' (.ofFragment f) :=
  ⟨[], f, rfl, .of_quiet hx h, nofun⟩

theorem of_select {spec : SchemaSpec} (hs : spec.toSchema = .ok s) (hcolumned : s.Columned)
    (hqualify : format.qualifyColumns = true) {entity : EntityName} {mode : SelectMode}
    {path : Option String}
    (h : (Select.emit s format entity mode path).run state = .ok (passage, state')) :
    Cites format state state' passage := by
  unfold Select.emit at h
  obtain ⟨listed, _, hlist, h⟩ := StateT.bind_eq_ok h
  cases h
  refine ⟨_, _, rfl, Select.list_refers hs hcolumned (Resolver.looksWithin _ _) hlist, ?_⟩
  intro m hm
  obtain ⟨c, hc, rfl⟩ := List.mem_map.mp hm
  have hown : c.operand.IsOf c.mention.occurrence.qualifier := ⟨_, rfl⟩
  exact (Select.spells_operandList (List.mem_map_of_mem hc) hown hqualify).append_right

theorem of_column {spec : SchemaSpec} (hs : spec.toSchema = .ok s) (hcolumned : s.Columned)
    (hqualify : format.qualifyColumns = true) {c : ColumnRef}
    (h : (Select.emitColumn s format c).run state = .ok (passage, state')) :
    Cites format state state' passage := by
  unfold Select.emitColumn at h
  obtain ⟨binding, _, hbinding, h⟩ := StateT.bind_eq_ok h
  cases h
  refine ⟨_, _, rfl, resolveColumn_refers (Resolver.looksWithin _ _) hbinding, ?_⟩
  intro m hm
  cases List.mem_singleton.mp hm
  obtain ⟨r, hresolved, -⟩ := onResolver_ok hbinding
  obtain ⟨hne, hown⟩ := Resolver.operands_of_resolveColumn hs hcolumned hresolved
  obtain ⟨x, hx⟩ := List.exists_mem_of_ne_nil _ hne
  exact Select.spells_operandList hx (hown x hx) hqualify

theorem of_aliasOf {t : TableRef}
    (h : (Emission.emitAlias s format t).run state = .ok (passage, state')) :
    Cites format state state' passage := by
  unfold Emission.emitAlias at h
  obtain ⟨e, -, h⟩ := entity_bind_ok h
  obtain ⟨found, located, hfound, h⟩ := StateT.bind_eq_ok h
  obtain ⟨-, hlocated⟩ := findBinding_ok hfound
  obtain ⟨m, _, hm, h⟩ := StateT.bind_eq_ok h
  cases h
  rw [hlocated] at hm
  refine ⟨_, _, rfl, mention_refers (Resolver.looksWithin _ _) hm, ?_⟩
  intro m' hm'
  cases List.mem_singleton.mp hm'
  exact .identifier format _

theorem of_object {spec : SchemaSpec} (hs : spec.toSchema = .ok s) (hcolumned : s.Columned)
    (hqualify : format.qualifyColumns = true) {target : ConditionTarget} {operator : Operator}
    {operands : List FieldValue} (hcompares : Condition.Compares operator operands)
    (h : (do
      let (m, predicate) ← Condition.objectPredicate s target operator operands
      return .referring [m] (predicate.render format) : Compiling Passage).run state =
        .ok (passage, state')) : Cites format state state' passage := by
  obtain ⟨⟨m, predicate⟩, _, hobject, h⟩ := StateT.bind_eq_ok h
  cases h
  have hrefers := Condition.objectPredicate_refers (Resolver.looksWithin _ _) hobject
  have habout := Condition.about_objectPredicate hs hcolumned hcompares hobject
  refine ⟨_, _, rfl, hrefers, ?_⟩
  intro m' hm
  cases List.mem_singleton.mp hm
  exact habout.spells hqualify

theorem of_joinSides {origin joined : ScopeId × Occurrence} {ms : List Mention} {f : Fragment}
    (hleft : f.Spells format origin.2.qualifier) (hright : f.Spells format joined.2.qualifier)
    (h : (Emission.joinSides false origin joined).run state = .ok (ms, state')) :
    Cites format state state' (.referring ms f) := by
  obtain ⟨left, between, hl, h⟩ := StateT.bind_eq_ok h
  obtain ⟨right, _, hr, h⟩ := StateT.bind_eq_ok h
  cases h
  obtain ⟨-, hsource, -⟩ := mention_ok hl
  obtain ⟨-, htarget, -⟩ := mention_ok hr
  have hrefers := mention_refers (Resolver.looksWithin _ _) hl
  have hlooks := (Resolver.looksWithin state.resolver .inner).sameTree hrefers.tree
  refine ⟨_, _, rfl, hrefers.append (mention_refers hlooks hr), ?_⟩
  intro m hm
  rcases List.mem_cons.mp hm with rfl | hm
  · rw [hsource]
    exact hleft
  · cases List.mem_singleton.mp hm
    rw [htarget]
    exact hright

/-- Something is shown where nothing is queued. -/
theorem shown {before after : CompileState} (h : Cites format state state' passage)
    (hpoised : Poised before after .nothing state) :
    Shown format before.resolver.scopes.length after.resolver.scopes.length state.resolver.effect
      .nothing state.resolver state'.resolver passage := by
  obtain ⟨ms, f, rfl, hrefers, hspells⟩ := h
  exact .of_refers hrefers hpoised.length_le hpoised.effect_older (fun _ hreaches => hreaches)
    (fun m hm => .referring hm (hspells m hm)) (Passage.joins_referring ms f) rfl

end Cites

namespace Shows

variable {e : Resolver → ScopeId → Effect} {reg : Compiling Unit} {emit : Compiling Passage}

theorem of_cites
    (hreg : ∀ before after, reg.run before = .ok ((), after) → Registered .nothing before after)
    (hemit : ∀ state passage state', emit.run state = .ok (passage, state') →
      Cites format state state' passage) : Shows format Resolver.effect reg emit := by
  intro before after q state passage state' hrun hpoised hemitted _
  cases hpoised.registered.unique (hreg before after hrun)
  exact (hemit state passage state' hemitted).shown hpoised

theorem of_pure (hemit : ∀ state passage state', emit.run state = .ok (passage, state') →
    Cites format state state' passage) : Shows format Resolver.effect (pure ()) emit :=
  of_cites Registered.of_pure hemit

theorem of_quiet {α : Type} {x : Compiling α} (hx : Quiet x) {render : α → Fragment}
    (hreg : ∀ before after, reg.run before = .ok ((), after) → Registered .nothing before after) :
    Shows format Resolver.effect reg (do return .ofFragment (render (← x))) := by
  apply of_cites hreg
  intro state passage state' hrun
  obtain ⟨a, _, ha, hrun⟩ := StateT.bind_eq_ok hrun
  cases hrun
  exact .of_quiet hx ha _

theorem of_unchanged
    (holder : ∀ before after q state, Poised before after q state →
      ∀ scope, before.resolver.scopes.length ≤ scope → (e state.resolver scope).Within .nothing)
    (hemit : ∀ state passage state', emit.run state = .ok (passage, state') →
      state' = state ∧ passage.joins = []) : Shows format e (pure ()) emit := by
  intro before after q state passage state' hrun hpoised hemitted _
  cases hpoised.registered.unique (Registered.of_pure before after hrun)
  cases hrun
  obtain ⟨rfl, hjoins⟩ := hemit state passage state' hemitted
  exact .of_unchanged (Nat.le_refl _) (holder _ _ _ _ hpoised) hjoins rfl

theorem subquery {correlated : Bool}
    (hstays : ∀ before after, before.resolver.Live → reg.run before = .ok ((), after) →
      before.resolver.Stays after.resolver)
    (hstep : ∀ scope, InStep scope [] reg emit) (h : Shows format Resolver.effect reg emit) :
    Shows format (Resolver.nestedEffect · correlated) (Registration.inNewScope correlated reg)
      (Emission.inSubquery emit) := by
  intro before after q state passage state' hrun hpoised hemitted hconfined
  obtain ⟨walked, hbody, rfl⟩ := Registration.inNewScope_ok hrun
  obtain ⟨q', hq', -⟩ := hstep _ _ walked Resolver.live_push rfl hbody
  cases hpoised.registered.unique (Registration.opened_registered hq')
  obtain ⟨inner, rest, p, written, hqueue, hwritten, rfl, rfl⟩ := Emission.inSubquery_ok hemitted
  obtain ⟨rfl, hparent, hentered⟩ := hpoised.entered hq' hqueue
  have hshown := h _ walked q' _ p written hbody hentered hwritten
    (Passage.confined_parenthesized.mp hconfined)
  have hlength : (before.opened correlated).resolver.scopes.length =
      before.resolver.scopes.length + 1 := List.length_append
  rw [hlength] at hshown
  refine hshown.subquery hpoised.nested hparent ?_
  intro scope hscope
  have hopened := (hstays _ walked Resolver.live_push hbody).trans hpoised.stays
  obtain ⟨scope', hscope', hlink⟩ := hopened before.resolver.scopes.length
    ⟨some before.resolver.current, correlated, [], {}⟩ List.getElem?_concat_length
  cases hscope'.symm.trans hscope
  exact congrArg Prod.snd hlink

theorem fromTable {spec : SchemaSpec} (hs : spec.toSchema = .ok s)
    (hqualify : format.qualifyColumns = true) (entity : EntityName) (aliasName : Option String)
    (autoJoin : Bool) :
    Shows format Resolver.effect (Registration.element s (.fromTable entity aliasName autoJoin))
      (Emission.emitFrom s format entity autoJoin) := by
  intro before after q state passage state' hrun hpoised hemitted _
  rw [Registration.element] at hrun
  obtain ⟨e, he, hrun⟩ := entity_bind_ok hrun
  obtain ⟨joins, hqueued, -, hstarts⟩ :=
    Registration.registerFrom_plots (Schema.allKeyed_of_entity? hs he) hrun
  rw [← hpoised.ready.current] at hstarts
  obtain ⟨joins', hregistered⟩ := Registration.registerFrom_registered hpoised.live hrun
  cases hpoised.registered.unique hregistered
  have hjoins : (if autoJoin then [joins'] else []) = if autoJoin then [joins] else [] :=
    List.append_cancel_left ((congrArg Queued.autoJoins hregistered.queued).symm.trans hqueued)
  unfold Emission.emitFrom at hemitted
  obtain ⟨e, -, hemitted⟩ := entity_bind_ok hemitted
  obtain ⟨table, located, htable, hemitted⟩ := StateT.bind_eq_ok hemitted
  have hlocated := (Modification.quiet_tableAt e "" state table located htable).1
  have hready := hpoised.ready.of_quiet (Modification.quiet_tableAt e "") htable
  cases autoJoin with
  | false =>
    cases hemitted
    rw [hlocated]
    exact .of_unchanged hpoised.length_le hpoised.effect_older rfl rfl
  | true =>
    cases hjoins
    obtain ⟨rest, hrest⟩ := hready.queued
    have hqueue : located.autoJoins = joins :: rest.autoJoins := congrArg Queued.autoJoins hrest
    obtain ⟨next, _, hnext, hemitted⟩ := StateT.bind_eq_ok hemitted
    cases (run_nextAutoJoins hqueue).symm.trans hnext
    cases hemitted
    dsimp only
    rw [hlocated]
    apply Shown.ofFragment_append
    exact .plannedJoins hqualify hstarts hpoised.nested hpoised.length_le hpoised.current_lt

theorem inCondition {auto : Bool} {aliasName : String}
    (hstep : ∀ scope, InStep scope [] reg emit) (h : Shows format Resolver.effect reg emit) :
    Shows format (Resolver.joinEffect · auto aliasName) reg
      (Emission.inCondition auto aliasName emit) := by
  intro before after q state passage state' hrun hpoised hemitted hconfined
  unfold Emission.inCondition at hemitted
  obtain ⟨_, _, hget, hemitted⟩ := StateT.bind_eq_ok hemitted
  cases hget
  obtain ⟨_, _, hcurrent, hemitted⟩ := StateT.bind_eq_ok hemitted
  cases hcurrent
  obtain ⟨p, written, hp, hemitted⟩ := StateT.bind_eq_ok hemitted
  obtain ⟨q', hq', hemit⟩ := hstep _ before after hpoised.live rfl hrun
  cases hpoised.registered.unique hq'
  have hwritten := hemit state p written hpoised.ready hp
  have hinner (hconfined : p.Confined) := h before after q state p written hrun hpoised hp hconfined
  cases auto with
  | false =>
    cases hemitted
    have hshown := hinner (Passage.confined_append.mp hconfined).2
    exact hshown.ofFragment_append _
  | true =>
    obtain ⟨_, _, hdefer, hemitted⟩ := StateT.bind_eq_ok hemitted
    cases hdefer
    cases hemitted
    have hshown := hinner (Passage.confined_append.mp hconfined).2
    have hlive := hwritten.advances.grows.lt_length hpoised.nested.live
    apply Shown.ofFragment_append
    dsimp only
    rw [hwritten.advances.current]
    exact hshown.deferSince hpoised.nested hpoised.current_lt hlive

theorem relation (hqualify : format.qualifyColumns = true) (auto : Bool) (target : Entity)
    (joined : ScopeId × Occurrence) (source : Option TableRef) :
    Shows format (Resolver.joinEffect · auto joined.2.qualifier) (pure ())
      (Emission.emitRelation s format auto target joined source) := by
  intro before after q state passage state' hrun hpoised hemitted _
  cases hpoised.registered.unique (Registered.of_pure before after hrun)
  cases hrun
  unfold Emission.emitRelation at hemitted
  obtain ⟨origin, located, horigin, hemitted⟩ := StateT.bind_eq_ok hemitted
  obtain ⟨entity, -, hemitted⟩ := entity_bind_ok hemitted
  obtain ⟨condition, hcondition, hemitted⟩ := lift_bind_ok
    (x := s.joinCondition entity origin.2.qualifier target joined.2.qualifier) hemitted
  obtain ⟨sides, _, hsides, hemitted⟩ := StateT.bind_eq_ok hemitted
  cases hemitted
  have hpoised := hpoised.of_quiet (quiet_relationSource source) horigin
  have hresolver := (quiet_relationSource source state origin located horigin).1
  obtain ⟨hleft, hright⟩ := Schema.joinCondition_spells hcondition hqualify
  cases auto with
  | false =>
    rw [← hresolver]
    exact (Cites.of_joinSides hleft.append_right hright.append_right hsides).shown hpoised
  | true =>
    obtain ⟨_, _, hnote, hsides⟩ := StateT.bind_eq_ok hsides
    cases hnote
    obtain ⟨_, _, hscope, hsides⟩ := StateT.bind_eq_ok hsides
    cases hscope
    cases hsides
    rw [← hresolver]
    exact .noted hleft.append_right hpoised.nested hpoised.current_lt

end Shows

/-! ## Registration stays -/

namespace Registration

variable {before after : CompileState}

theorem elements_stays {es : List Element} (hlive : before.resolver.Live)
    (h : (elements s es).run before = .ok ((), after)) :
    before.resolver.Stays after.resolver := by
  have hsteps : Resolver.Steps (fun _ => True) before.resolver after.resolver :=
    elements_steps es true (.inside hlive) (.inl fun _ => trivial) h
  exact .steps hsteps

theorem joinOn_stays {onClause : JoinOn} (hlive : before.resolver.Live)
    (h : (joinOn s onClause).run before = .ok ((), after)) :
    before.resolver.Stays after.resolver := by
  have hsteps : Resolver.Steps (fun _ => True) before.resolver after.resolver :=
    joinOn_steps onClause true (.inside hlive) (.inl fun _ => trivial) h
  exact .steps hsteps

theorem registerJoined_stays {entity : EntityName} {aliasName path : Option String}
    {onClause : JoinOn}
    (h : (registerJoined s entity aliasName path onClause).run before = .ok ((), after)) :
    before.resolver.Stays after.resolver := by
  have hsteps : Resolver.Steps (fun _ => True) before.resolver after.resolver :=
    registerJoined_steps (.inr trivial) h
  exact .steps hsteps

end Registration

/-! ## Queries -/

mutual

theorem element_shows {spec : SchemaSpec} (hs : spec.toSchema = .ok s) (hcolumned : s.Columned)
    (hqualify : format.qualifyColumns = true) (e : Element) (separate : Bool)
    (htidy : e.isTidy = true) :
    Shows format Resolver.effect (Registration.element s e)
      (Emission.element s format separate e) := by
  cases e with
  | sql text | param p =>
    rw [Registration.element, Emission.element]
    exact .of_pure fun state passage state' h => by
      cases h
      exact .of_quiet (.pure ()) rfl _
  | select entity mode path =>
    rw [Registration.element, Emission.element]
    exact .of_pure fun _ _ _ h => .of_select hs hcolumned hqualify h
  | fromTable entity aliasName autoJoin =>
    rw [Emission.element]
    exact .fromTable hs hqualify entity aliasName autoJoin
  | table entity aliasName path =>
    rw [Registration.element, Emission.element]
    apply Shows.of_cites fun _ _ h => Registration.table_registered h
    intro state passage state' h
    obtain ⟨e, -, h⟩ := entity_bind_ok h
    obtain ⟨table, _, htable, h⟩ := StateT.bind_eq_ok h
    cases h
    exact .of_quiet (Modification.quiet_tableAt e _) htable _
  | aliasOf t =>
    rw [Registration.element, Emission.element]
    exact .of_pure fun _ _ _ h => .of_aliasOf h
  | column c =>
    rw [Registration.element, Emission.element]
    exact .of_pure fun _ _ _ h => .of_column hs hcolumned hqualify h
  | join j =>
    rw [Registration.element, Emission.element]
    exact join_shows hs hcolumned hqualify j separate htidy
  | insert entity =>
    rw [Registration.element, Emission.element]
    exact .of_quiet (Modification.quiet_emitInsert entity) fun _ _ h =>
      Registration.table_registered h
  | values clause =>
    rw [Registration.element, Emission.element]
    exact .of_quiet (Modification.quiet_emitValues clause) Registered.of_pure
  | update entity aliasName =>
    rw [Registration.element, Emission.element]
    exact .of_quiet (Modification.quiet_emitUpdate entity) fun _ _ h =>
      Registration.table_registered h
  | set clause =>
    rw [Registration.element, Emission.element]
    exact .of_quiet (Modification.quiet_emitSet clause) Registered.of_pure
  | delete entity aliasName =>
    rw [Registration.element, Emission.element]
    exact .of_quiet (Modification.quiet_emitDelete entity) fun _ _ h =>
      Registration.table_registered h
  | condition clause =>
    rw [Registration.element, Emission.element]
    intro before after q state passage state' hrun hpoised hemitted hconfined
    obtain ⟨p, _, hp, hemitted⟩ := StateT.bind_eq_ok hemitted
    cases hemitted
    have hshown := condition_shows hs hcolumned hqualify clause htidy before after q state p _ hrun
      hpoised hp (Passage.confined_append.mp hconfined).2
    exact hshown.ofFragment_append _
  | subquery inner correlated =>
    rw [Registration.element, Emission.element]
    have hquery : Shows format (Resolver.nestedEffect · correlated) _ _ :=
      .subquery (fun _ _ => Registration.elements_stays)
        (fun scope => elements_inStep inner scope true)
        (elements_shows hs hcolumned hqualify inner true htidy)
    intro before after q state passage state' hrun hpoised hemitted hconfined
    have hshown := hquery before after q state passage state' hrun hpoised hemitted hconfined
    exact hshown.mono (fun _ => Resolver.nestedEffect_within) hpoised.effect_older
termination_by structural e

theorem elements_shows {spec : SchemaSpec} (hs : spec.toSchema = .ok s) (hcolumned : s.Columned)
    (hqualify : format.qualifyColumns = true) (es : List Element) (afterSql : Bool)
    (htidy : Element.allTidy es = true) :
    Shows format Resolver.effect (Registration.elements s es)
      (Emission.elements s format afterSql es) := by
  cases es with
  | nil =>
    rw [Registration.elements, Emission.elements]
    apply Shows.of_unchanged fun _ _ _ _ hpoised => hpoised.effect_older
    intro state passage state' h
    cases h
    exact ⟨rfl, rfl⟩
  | cons e rest =>
    rw [Element.allTidy, Bool.and_eq_true] at htidy
    intro before after q state passage state' hrun hpoised hemitted hconfined
    rw [Registration.elements] at hrun
    obtain ⟨_, between, hfirst, hothers⟩ := StateT.bind_eq_ok hrun
    obtain ⟨separate, first, written, others, hwritten, hrest, f, rfl⟩ :=
      Emission.elements_cons_ok hemitted
    obtain ⟨q₁, hq₁, hemit⟩ := element_inStep e _ separate before between hpoised.live rfl hfirst
    have hlive := hq₁.advances.live hpoised.live
    have hstep : InStep between.resolver.current [] (Registration.elements s rest)
        (Emission.elements s format true rest) := elements_inStep rest _ true
    obtain ⟨q₂, hq₂, -⟩ := hstep between after hlive rfl hothers
    cases hpoised.registered.unique (hq₁.append hq₂)
    have hstays := Registration.elements_stays hlive hothers
    have hready := hpoised.first hq₁ hq₂ hstays
    have hwhole := Passage.confined_append.mp hconfined
    have hshown := element_shows hs hcolumned hqualify e _ htidy.1 before between q₁ state first
      written hfirst hready hwritten (Passage.confined_append.mp hwhole.1).2
    have hemitted := hemit state first written hready.ready hwritten
    have hothers := elements_shows hs hcolumned hqualify rest _ htidy.2 between after q₂ written
      others _ hothers (hpoised.second hq₁ hq₂ hemitted) hrest hwhole.2
    have htree := hemitted.tables.sameTree hemitted.advances.current
    have hothers := hothers.mono (fun _ => htree.effect_within) fun scope hscope =>
      hshown.older scope (Nat.le_trans hshown.le hscope)
    exact (hshown.ofFragment_append _).append hothers
termination_by structural es

theorem join_shows {spec : SchemaSpec} (hs : spec.toSchema = .ok s) (hcolumned : s.Columned)
    (hqualify : format.qualifyColumns = true) (j : JoinElement) (separate : Bool)
    (htidy : j.isTidy = true) :
    Shows format Resolver.effect (Registration.join s j)
      (Emission.join s format separate j) := by
  obtain ⟨kind, target, aliasName, path, onClause, auto⟩ := j
  rw [JoinElement.isTidy, Bool.and_eq_true, Bool.and_eq_true, Bool.not_eq_true'] at htidy
  obtain ⟨⟨huncorrelated, htarget⟩, honClause⟩ := htidy
  intro before after q state passage state' hrun hpoised hemitted hconfined
  rw [Registration.join] at hrun
  obtain ⟨_, located, hrun₁, hrun⟩ := StateT.bind_eq_ok hrun
  obtain ⟨_, bound, hrun₂, hrun₃⟩ := StateT.bind_eq_ok hrun
  obtain ⟨table, written, next, taken, htable, hpath, e, joined, on, hon, f, g, hpassage⟩ :=
    Emission.join_ok hemitted
  -- what is registered for the parts is queued in their order
  obtain ⟨q₁, hq₁, hemit₁⟩ := joinTarget_inStep target _ before located hpoised.live rfl hrun₁
  obtain ⟨-, bound', hq₂⟩ := Registration.registerJoined_registered hrun₂
  have hlive₁ := hq₁.advances.live hpoised.live
  have hlive₂ := hq₂.advances.live hlive₁
  obtain ⟨q₃, hq₃, hemit₃⟩ := joinOn_inStep onClause _ auto e joined bound after hlive₂ rfl hrun₃
  cases hpoised.registered.unique (hq₁.append (hq₂.append hq₃))
  have hstays₂ := Registration.registerJoined_stays hrun₂
  have hstays₃ := Registration.joinOn_stays hlive₂ hrun₃
  -- so emission is poised for each of them
  have hpoised₁ := hpoised.first hq₁ (hq₂.append hq₃) (hstays₂.trans hstays₃)
  have hwritten := hemit₁ state table written hpoised₁.ready htable
  have hpoised₂ := hpoised.second hq₁ (hq₂.append hq₃) hwritten
  obtain ⟨left, hqueue, rfl⟩ := nextJoinPath_ok hpath
  obtain ⟨rest, hrest⟩ := hpoised₂.ready.queued
  obtain ⟨rfl, -⟩ := List.cons.inj (hqueue.symm.trans (congrArg Queued.joinPaths hrest))
  have htaken : Emitted [] (.ofPath next) written _ [] := Emission.joinPath_emitted hqueue
  have hpoised₃ := hpoised₂.second hq₂ hq₃ htaken
  have hcurrent := (hemit₃ _ on state' hpoised₃.ready hon).advances.current
  have hshown (hconfined : (.ofFragment f ++ table ++ .ofFragment g ++ on : Passage).Confined) :
      Shown format before.resolver.scopes.length after.resolver.scopes.length
        (state.resolver.joinEffect auto joined.2.qualifier) (q₁ ++ (.ofPath next ++ q₃))
        state.resolver state'.resolver (.ofFragment f ++ table ++ .ofFragment g ++ on) := by
    obtain ⟨hconfined, hconfined₃⟩ := Passage.confined_append.mp hconfined
    have hconfined₁ := Passage.confined_append.mp (Passage.confined_append.mp hconfined).1
    have hshown₁ := joinTarget_shows hs hcolumned hqualify target htarget before located q₁ state
      table written hrun₁ hpoised₁ htable hconfined₁.2
    have hshown₃ := joinOn_shows hs hcolumned hqualify onClause auto e joined honClause bound after
      q₃ _ on state' hrun₃ hpoised₃ hon hconfined₃
    exact hshown₁.joinParts hshown₃ hq₂.advances.grows.length_le
      (hwritten.tables.sameTree hwritten.advances.current) huncorrelated hpoised.nested
      hpoised.current_lt next f g
  cases auto with
  | false =>
    rw [hpassage] at hconfined ⊢
    exact hshown hconfined
  | true =>
    rw [hpassage, if_pos rfl, hcurrent.trans hwritten.advances.current] at hconfined ⊢
    exact (hshown hconfined.inside.1).autoJoin hpoised.nested hpoised.current_lt hconfined
termination_by structural j

theorem joinTarget_shows {spec : SchemaSpec} (hs : spec.toSchema = .ok s) (hcolumned : s.Columned)
    (hqualify : format.qualifyColumns = true) (t : JoinTarget) (htidy : t.isTidy = true) :
    Shows format (Resolver.nestedEffect · t.isCorrelated) (Registration.joinTarget s t)
      (Emission.joinTarget s format t) := by
  cases t with
  | entity entity =>
    rw [Registration.joinTarget, Emission.joinTarget]
    apply Shows.of_unchanged fun _ _ _ _ hpoised => hpoised.nestedEffect_older
    intro state passage state' h
    obtain ⟨e, -, h⟩ := entity_bind_ok h
    cases h
    exact ⟨rfl, rfl⟩
  | subquery entity inner correlated =>
    rw [Registration.joinTarget, Emission.joinTarget]
    exact .subquery (fun _ _ => Registration.elements_stays)
      (fun scope => elements_inStep inner scope true)
      (elements_shows hs hcolumned hqualify inner true htidy)
termination_by structural t

theorem joinOn_shows {spec : SchemaSpec} (hs : spec.toSchema = .ok s) (hcolumned : s.Columned)
    (hqualify : format.qualifyColumns = true) (onClause : JoinOn) (auto : Bool) (target : Entity)
    (joined : ScopeId × Occurrence) (htidy : onClause.isTidy = true) :
    Shows format (Resolver.joinEffect · auto joined.2.qualifier) (Registration.joinOn s onClause)
      (Emission.joinOn s format auto target joined onClause) := by
  cases onClause with
  | relation source =>
    rw [Registration.joinOn, Emission.joinOn]
    exact .relation hqualify auto target joined source
  | template inner =>
    rw [Registration.joinOn, Emission.joinOn]
    exact .inCondition (fun scope => elements_inStep inner scope true)
      (elements_shows hs hcolumned hqualify inner true htidy)
  | none =>
    rw [Registration.joinOn, Emission.joinOn]
    apply Shows.of_unchanged fun _ _ _ _ hpoised => hpoised.joinEffect_older
    intro state passage state' h
    cases h
    exact ⟨rfl, rfl⟩
termination_by structural onClause

theorem condition_shows {spec : SchemaSpec} (hs : spec.toSchema = .ok s) (hcolumned : s.Columned)
    (hqualify : format.qualifyColumns = true) (clause : WhereClause)
    (htidy : clause.isTidy = true) :
    Shows format Resolver.effect (Registration.condition s clause)
      (Emission.condition s format clause) := by
  cases clause with
  | template inner =>
    rw [Registration.condition, Emission.condition]
    exact elements_shows hs hcolumned hqualify inner true htidy
  | object target operator operands =>
    rw [Registration.condition, Emission.condition]
    have hcompares := Condition.compares_of_isTidy htidy
    exact .of_pure fun _ _ _ h => .of_object hs hcolumned hqualify hcompares h
termination_by structural clause

end

end RelMap
