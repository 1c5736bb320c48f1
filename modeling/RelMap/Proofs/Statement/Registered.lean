import RelMap.Proofs.Statement.Queues
import RelMap.Statement.Registration

/-!
# What registration has done

Registration queues scopes and planned joins, and notes for each planned join which other join it
depends on.
-/

namespace RelMap

open Compiling

/-- The scope of the join has noted that it depends on the join for its source. -/
def AutoJoin.Noted (r : Resolver) (j : AutoJoin) : Prop :=
  ∀ o ∈ j.source, (o.qualifier, j.qualifier) ∈ (r.tableUse j.scope).dependencies

theorem AutoJoin.Noted.mono {r r' : Resolver} {j : AutoJoin} (h : j.Noted r) (hr : r.Grows r') :
    j.Noted r' := by
  intro o ho
  exact (hr.tableUse j.scope).2 (h o ho)

structure Registered (q : Queued) (state state' : CompileState) : Prop where
  advances : state.Advances state'
  queued : state'.queued = state.queued ++ q
  noted : ∀ joins ∈ q.autoJoins, ∀ j ∈ joins, j.Noted state'.resolver

namespace Registered

variable {q q' : Queued} {state state' state'' : CompileState}

theorem of_advances (h : state.Advances state') (hqueued : state'.queued = state.queued) :
    Registered .nothing state state' :=
  ⟨h, hqueued.trans Queued.append_nothing.symm, fun _ h => nomatch h⟩

theorem of_pure (state state' : CompileState)
    (h : (pure () : Compiling Unit).run state = .ok ((), state')) :
    Registered .nothing state state' := by
  cases h
  exact of_advances (.of_resolver rfl) rfl

theorem of_quiet {α : Type} {x : Compiling α} (hx : Quiet x) {a : α}
    (h : x.run state = .ok (a, state')) : Registered .nothing state state' :=
  of_advances (hx.advances h) (hx.queued h)

theorem unique (h : Registered q state state') (h' : Registered q' state state') : q = q' :=
  Queued.append_cancel_left (h.queued.symm.trans h'.queued)

theorem append (h : Registered q state state') (h' : Registered q' state' state'') :
    Registered (q ++ q') state state'' where
  advances := h.advances.trans h'.advances
  queued := by rw [h'.queued, h.queued, Queued.append_assoc]
  noted := by
    intro joins hjoins j hj
    rcases List.mem_append.mp hjoins with hjoins | hjoins
    · exact (h.noted joins hjoins j hj).mono h'.advances.grows
    · exact h'.noted joins hjoins j hj

theorem of_same (h : Registered q state state') (hresolver : state''.resolver = state'.resolver)
    (hqueued : state''.queued = state'.queued) : Registered q state state'' where
  advances := h.advances.trans (.of_resolver hresolver)
  queued := hqueued.trans h.queued
  noted := by
    rw [hresolver]
    exact h.noted

end Registered

namespace Registration

variable {s : Schema} {state state' : CompileState}

theorem register_registered {x : Resolving AliasError α} {a : α} {o : Occurrence}
    (hx : ∀ r, x.run.run state.resolver = (.ok a, r) → r = state.resolver.register o)
    (h : (resolving x).run state = .ok (a, state')) : Registered .nothing state state' := by
  obtain ⟨r, hr, rfl⟩ := resolving_ok h
  cases hx r hr
  exact .of_advances ⟨Resolver.grows_register o, rfl⟩ rfl

theorem bindTable_registered {entity : EntityInfo} {path : String} {aliasName : Option String}
    {bound : String} (h : (bindTable s entity path aliasName).run state = .ok (bound, state')) :
    Registered .nothing state state' := by
  cases aliasName with
  | some aliasName =>
    obtain ⟨_, between, hset, h⟩ := StateT.bind_eq_ok h
    cases h
    exact register_registered (fun r hr => (Resolver.setAlias_ok hr).2.2) hset
  | none => exact register_registered (fun r hr => (Resolver.generateAlias_ok hr).2.2.2) h

theorem registerTable_registered {entity : EntityInfo} {aliasName : Option String} {path : String}
    {bound : String} (h : (registerTable s entity aliasName path).run state = .ok (bound, state')) :
    Registered .nothing state state' := by
  unfold registerTable at h
  obtain ⟨_, between, hbind, h⟩ := StateT.bind_eq_ok h
  obtain ⟨_, noted, hroot, h⟩ := StateT.bind_eq_ok h
  cases h
  have hregistered := bindTable_registered hbind
  cases hroot
  dsimp only
  split
  · exact hregistered
  · exact hregistered.of_same rfl rfl

/-! ## Planned joins -/

def Planned (joins : List AutoJoin) (state state' : CompileState) : Prop :=
  Registered .nothing state state' ∧ ∀ j ∈ joins, j.Noted state'.resolver

theorem noteSource_planned {source : PlannedTable} {joined : Occurrence} {holder : Option Occurrence}
    (hlive : state.resolver.Live)
    (h : (noteSource source joined).run state = .ok (holder, state')) :
    Registered .nothing state state' ∧ ∀ o ∈ holder, (o.qualifier, joined.qualifier) ∈
      (state'.resolver.tableUse state'.resolver.current).dependencies := by
  unfold noteSource at h
  split at h
  · obtain ⟨_, noted, hnote, h⟩ := StateT.bind_eq_ok h
    cases h
    cases hnote
    refine ⟨.of_advances ⟨Resolver.grows_addDependency, rfl⟩ rfl, ?_⟩
    intro o ho
    cases ho
    exact Resolver.mem_dependencies_addDependency hlive
  · cases h
    exact ⟨.of_advances (.of_resolver rfl) rfl, fun o ho => nomatch ho⟩

/-- A foreign key binds its target, and notes the join before those that hang on it. -/
theorem planField_foreignKey_ok {source : PlannedTable} {inlinePath : String} {start : Nat}
    {info : FieldInfo} {target : EntityInfo} {key : KeyColumn} {fields : List Field}
    {joins : List AutoJoin} {state state' : CompileState}
    (h : (planField s source inlinePath start (.foreignKey info target key fields)).run state =
      .ok (joins, state')) :
    let relation := (Field.keyPlace inlinePath start info target.name).relationIn
      source.entity.name (s.columns source.entity)
    let path := Path.join source.occurrence.path relation.fieldPath
    ∃ aliasName registered condition holder noted kind others,
      let joined : Occurrence := ⟨target, path, aliasName⟩
      (resolving (Resolver.generateAlias s.naming target path)).run state =
        .ok (aliasName, registered) ∧
      s.relationCondition relation source.entity ⟨target, fields⟩ source.occurrence.qualifier
        joined.qualifier = .ok condition ∧
      (noteSource source joined).run registered = .ok (holder, noted) ∧
      (planFields s ⟨⟨target, fields⟩, joined, some kind⟩ "" 0 fields).run noted =
        .ok (others, state') ∧
      joins = ⟨noted.resolver.current, holder, joined,
        ⟨kind, ⟨target.table, aliasName⟩, condition⟩⟩ :: others := by
  rw [planField] at h
  obtain ⟨relation, hrelation, h⟩ := lift_bind_ok h
  cases hrelation
  obtain ⟨join, noted, hjoin, h⟩ := StateT.bind_eq_ok h
  obtain ⟨_, -, h⟩ := lift_bind_ok h
  obtain ⟨others, _, hothers, h⟩ := StateT.bind_eq_ok h
  cases h
  obtain ⟨aliasName, registered, halias, hjoin⟩ := StateT.bind_eq_ok hjoin
  obtain ⟨condition, hcondition, hjoin⟩ := lift_bind_ok hjoin
  obtain ⟨holder, _, hnote, hjoin⟩ := StateT.bind_eq_ok hjoin
  cases hjoin
  exact ⟨aliasName, registered, condition, holder, noted, _, others, halias, hcondition, hnote,
    hothers, rfl⟩

mutual

theorem planField_planned {source : PlannedTable} {inlinePath : String} {start : Nat}
    {joins : List AutoJoin} {state state' : CompileState} (f : Field) (hlive : state.resolver.Live)
    (h : (planField s source inlinePath start f).run state = .ok (joins, state')) :
    Planned joins state state' := by
  cases f with
  | scalar info typ | ref info target key | converted info converter =>
    cases h
    exact ⟨.of_advances (.of_resolver rfl) rfl, fun j hj => nomatch hj⟩
  | inline info target fields => exact planFields_planned fields hlive h
  | foreignKey info target key fields =>
    obtain ⟨aliasName, registered, condition, holder, noted, kind, others, halias, -, hnote,
      hothers, rfl⟩ := planField_foreignKey_ok h
    have hregistered := register_registered (fun r hr => (Resolver.generateAlias_ok hr).2.2.2) halias
    have hlive := hregistered.advances.live hlive
    obtain ⟨hnoted, hedge⟩ := noteSource_planned hlive hnote
    obtain ⟨hplanned, hrest⟩ := planFields_planned fields (hnoted.advances.live hlive) hothers
    refine ⟨(hregistered.append hnoted).append hplanned, ?_⟩
    intro j hj
    rcases List.mem_cons.mp hj with rfl | hj
    · intro o ho
      have hdependencies := (hplanned.advances.grows.tableUse noted.resolver.current).2
      exact hdependencies (hedge o ho)
    · exact hrest j hj
termination_by structural f

theorem planFields_planned {source : PlannedTable} {inlinePath : String} {start : Nat}
    {joins : List AutoJoin} {state state' : CompileState} (fields : List Field)
    (hlive : state.resolver.Live)
    (h : (planFields s source inlinePath start fields).run state = .ok (joins, state')) :
    Planned joins state state' := by
  cases fields with
  | nil =>
    cases h
    exact ⟨.of_advances (.of_resolver rfl) rfl, fun j hj => nomatch hj⟩
  | cons f rest =>
    rw [planFields] at h
    obtain ⟨first, between, hfirst, h⟩ := StateT.bind_eq_ok h
    obtain ⟨others, between', hothers, h⟩ := StateT.bind_eq_ok h
    cases h
    obtain ⟨hregistered, hnoted⟩ := planField_planned f hlive hfirst
    obtain ⟨hregistered', hnoted'⟩ :=
      planFields_planned rest (hregistered.advances.live hlive) hothers
    refine ⟨hregistered.append hregistered', ?_⟩
    intro j hj
    rcases List.mem_append.mp hj with hj | hj
    · exact (hnoted j hj).mono hregistered'.advances.grows
    · exact hnoted' j hj
termination_by structural fields

end

theorem registerFrom_registered {entity : Entity} {aliasName : Option String} {autoJoin : Bool}
    (hlive : state.resolver.Live)
    (h : (registerFrom s entity aliasName autoJoin).run state = .ok ((), state')) :
    ∃ joins, Registered ⟨[], if autoJoin then [joins] else [], []⟩ state state' := by
  unfold registerFrom at h
  obtain ⟨bound, registered, htable, h⟩ := StateT.bind_eq_ok h
  have hregistered := registerTable_registered htable
  cases autoJoin with
  | false =>
    cases h
    exact ⟨[], hregistered⟩
  | true =>
    obtain ⟨_, -, h⟩ := lift_bind_ok h
    obtain ⟨joins, planned, hplan, h⟩ := StateT.bind_eq_ok h
    cases h
    obtain ⟨hplanned, hnoted⟩ := planFields_planned _ (hregistered.advances.live hlive) hplan
    have hadvances := hregistered.advances.trans hplanned.advances
    refine ⟨joins, ⟨hadvances.grows, hadvances.current⟩, ?_, ?_⟩
    · have hqueued := (hregistered.append hplanned).queued
      rw [Queued.append_nothing, Queued.append_nothing] at hqueued
      rw [← hqueued]
      exact Queued.ext (List.append_nil _).symm rfl (List.append_nil _).symm
    · intro joins' hjoins
      cases List.mem_singleton.mp hjoins
      exact hnoted

theorem quiet_joinedPath (s : Schema) (target : Entity) (aliasName path : Option String)
    (onClause : JoinOn) : Quiet (joinedPath s target aliasName path onClause) := by
  unfold joinedPath
  cases path with
  | some path => exact .pure path
  | none =>
    cases onClause with
    | relation source =>
      apply (quiet_relationSource source).bind
      intro found
      apply (Quiet.lift _).bind
      intro entity
      apply (Quiet.lift _).bind
      intro candidates
      split
      · split <;> exact .pure _
      · exact .pure _
    | template inner => exact .pure _
    | none => exact .pure _

theorem registerJoined_ok {entity : EntityName} {aliasName path : Option String}
    {onClause : JoinOn}
    (h : (registerJoined s entity aliasName path onClause).run state = .ok ((), state')) :
    ∃ e path' located, s.entity? entity = some e ∧
      (joinedPath s e aliasName path onClause).run state = .ok (path', located) ∧
      Registered (.ofPath path') state state' := by
  unfold registerJoined at h
  obtain ⟨e, hentity, h⟩ := entity_bind_ok h
  obtain ⟨path', located, hpath, h⟩ := StateT.bind_eq_ok h
  have hlocated := Registered.of_quiet (quiet_joinedPath s e aliasName path onClause) hpath
  obtain ⟨bound, _, hbound, h⟩ := StateT.bind_eq_ok h
  cases h
  have hregistered := hlocated.append (registerTable_registered hbound)
  have hqueued := hregistered.queued
  rw [Queued.append_nothing, Queued.append_nothing] at hqueued
  refine ⟨e, path', located, hentity, hpath,
    ⟨hregistered.advances.grows, hregistered.advances.current⟩, ?_, fun _ hjoins => nomatch hjoins⟩
  rw [← hqueued]
  exact Queued.ext (List.append_nil _).symm (List.append_nil _).symm rfl

theorem registerJoined_registered {entity : EntityName} {aliasName path : Option String}
    {onClause : JoinOn}
    (h : (registerJoined s entity aliasName path onClause).run state = .ok ((), state')) :
    (∃ e, s.entity? entity = some e) ∧ ∃ path, Registered (.ofPath path) state state' := by
  obtain ⟨e, path', -, hentity, -, hregistered⟩ := registerJoined_ok h
  exact ⟨⟨e, hentity⟩, path', hregistered⟩

end Registration

end RelMap
