import RelMap.Proofs.Statement.JoinedReads

/-!
# Planned joins and full selects

The joins of a table are planned along its foreign keys, and a full select of the table follows the
same keys. So the select finds every occurrence that is joined, and refers to all of them.
-/

namespace RelMap

open Compiling Resolver Select

/-- The join is planned in the scope, on some foreign key, for an entity inside of another that has
the given size. -/
structure AutoJoin.PlannedInside (s : Schema) (scope : ScopeId) (size : Nat) (j : AutoJoin) :
    Prop where
  scope : j.scope = scope
  entity : ∃ fields, s.entity? j.joined.entity.name = some ⟨j.joined.entity, fields⟩ ∧
    sizeOf fields < size
  joins : ∃ host column key, j.Joins host column key j.joined

theorem AutoJoin.PlannedInside.mono {s : Schema} {scope : ScopeId} {size size' : Nat} {j : AutoJoin}
    (h : j.PlannedInside s scope size) (hsize : size ≤ size') : j.PlannedInside s scope size' := by
  obtain ⟨fields, hentity, hfields⟩ := h.entity
  exact ⟨h.scope, ⟨fields, hentity, Nat.lt_of_lt_of_le hfields hsize⟩, h.joins⟩

namespace Registration

variable {s : Schema}

/-- The joins are planned in the current scope. The joined occurrences are bound there in order, but
not referred to, and only joins depend on others. -/
structure Brings (s : Schema) (size : Nat) (joins : List AutoJoin) (before after : CompileState) :
    Prop where
  live : after.resolver.Live
  current : after.resolver.current = before.resolver.current
  bound : after.resolver.occurrences before.resolver.current =
    before.resolver.occurrences before.resolver.current ++ joins.map (·.joined)
  planned : ∀ j ∈ joins, j.PlannedInside s before.resolver.current size
  referenced : (after.resolver.tableUse before.resolver.current).referenced =
    (before.resolver.tableUse before.resolver.current).referenced
  dependents : ∀ d ∈ (after.resolver.tableUse before.resolver.current).dependencies,
    d ∈ (before.resolver.tableUse before.resolver.current).dependencies ∨
      ∃ j ∈ joins, d.2 = j.qualifier

namespace Brings

variable {size size' : Nat} {joins joins' : List AutoJoin} {before between after : CompileState}

theorem nothing {state : CompileState} (hlive : state.resolver.Live) :
    Brings s size [] state state where
  live := hlive
  current := rfl
  bound := (List.append_nil _).symm
  planned := List.forall_mem_nil _
  referenced := rfl
  dependents := fun _ hd => .inl hd

theorem mono (h : Brings s size joins before after) (hsize : size ≤ size') :
    Brings s size' joins before after :=
  { h with planned := fun j hj => (h.planned j hj).mono hsize }

theorem append (h : Brings s size joins before between) (h' : Brings s size joins' between after) :
    Brings s size (joins ++ joins') before after := by
  obtain ⟨hlive, hcurrent, hbound, hplanned, hreferenced, hdependents⟩ := h'
  rw [h.current] at hcurrent hbound hplanned hreferenced hdependents
  refine ⟨hlive, hcurrent, ?_, ?_, hreferenced.trans h.referenced, ?_⟩
  · rw [hbound, h.bound, List.map_append, List.append_assoc]
  · intro j hj
    exact (List.mem_append.mp hj).elim (h.planned j) (hplanned j)
  · intro d hd
    rcases hdependents d hd with hd | ⟨j, hj, hqualifier⟩
    · rcases h.dependents d hd with hd | ⟨j, hj, hqualifier⟩
      · exact .inl hd
      · exact .inr ⟨j, List.mem_append_left _ hj, hqualifier⟩
    · exact .inr ⟨j, List.mem_append_right _ hj, hqualifier⟩

end Brings

/-- The source of a join is not referred to, but may get the join for a dependent. -/
theorem noteSource_tableUse {source : PlannedTable} {joined : Occurrence}
    {holder : Option Occurrence} {before after : CompileState} (hlive : before.resolver.Live)
    (h : (noteSource source joined).run before = .ok (holder, after)) :
    (after.resolver.tableUse before.resolver.current).referenced =
        (before.resolver.tableUse before.resolver.current).referenced ∧
      ∀ d ∈ (after.resolver.tableUse before.resolver.current).dependencies,
        d ∈ (before.resolver.tableUse before.resolver.current).dependencies ∨
          d.2 = joined.qualifier := by
  unfold noteSource at h
  split at h
  · obtain ⟨_, noted, hnote, h⟩ := StateT.bind_eq_ok h
    cases h
    cases hnote
    dsimp only
    rw [tableUse_modifyTableUse hlive]
    refine ⟨rfl, ?_⟩
    intro d hd
    rcases List.mem_append.mp hd with hd | hd
    · exact .inl hd
    · cases List.mem_singleton.mp hd
      exact .inr rfl
  · cases h
    exact ⟨rfl, fun d hd => .inl hd⟩

theorem Brings.join {size : Nat} {j : AutoJoin} {source : PlannedTable}
    {before registered noted : CompileState} (hlive : before.resolver.Live)
    (hregister : registered.resolver = before.resolver.register j.joined)
    (hnote : (noteSource source j.joined).run registered = .ok (j.source, noted))
    (hplanned : j.PlannedInside s noted.resolver.current size) :
    Brings s size [j] before noted := by
  have hcurrent : registered.resolver.current = before.resolver.current := by
    rw [hregister]
    rfl
  have huse : registered.resolver.tableUse = before.resolver.tableUse := by
    funext scope
    rw [hregister, tableUse_register]
  have hlive' : registered.resolver.Live := by
    rw [hregister]
    exact (grows_register j.joined).live rfl hlive
  have hadvances := (noteSource_planned hlive' hnote).1.advances
  obtain ⟨hsame, -⟩ := noteSource_ok hnote
  obtain ⟨hreferenced, hdependents⟩ := noteSource_tableUse hlive' hnote
  rw [hcurrent, huse] at hreferenced hdependents
  rw [hadvances.current, hcurrent] at hplanned
  refine ⟨hadvances.live hlive', hadvances.current.trans hcurrent, ?_, ?_, hreferenced, ?_⟩
  · rw [hsame.occurrences, hregister]
    exact occurrences_register hlive
  · intro j' hj
    cases List.mem_singleton.mp hj
    exact hplanned
  · intro d hd
    exact (hdependents d hd).imp_right fun hqualifier => ⟨j, .head _, hqualifier⟩

/-- The target of a foreign key is bound and joined before the targets of its own keys. -/
theorem exists_join_of_planField {source : PlannedTable} {inlinePath : String} {start : Nat}
    {info : FieldInfo} {target : EntityInfo} {key : KeyColumn} {fields : List Field}
    {joins : List AutoJoin} {before after : CompileState}
    (hkeyed : (⟨target, fields⟩ : Entity).KeyedBy s.naming key)
    (h : (planField s source inlinePath start (.foreignKey info target key fields)).run before =
      .ok (joins, after)) :
    ∃ j others column registered noted kind, joins = j :: others ∧ j.joined.entity = target ∧
      j.joined.path = Path.join source.occurrence.path (Path.join inlinePath info.name) ∧
      registered.resolver = before.resolver.register j.joined ∧
      (noteSource source j.joined).run registered = .ok (j.source, noted) ∧
      j.scope = noted.resolver.current ∧ j.Joins source.occurrence column key j.joined ∧
      (planFields s ⟨⟨target, fields⟩, j.joined, some kind⟩ "" 0 fields).run noted =
        .ok (others, after) := by
  obtain ⟨aliasName, registered, condition, holder, noted, kind, others, halias, hcondition,
    hnote, hothers, rfl⟩ := planField_foreignKey_ok h
  obtain ⟨r, hr, rfl⟩ := resolving_ok halias
  obtain ⟨-, -, -, rfl⟩ := generateAlias_ok hr
  obtain ⟨column, -, rfl⟩ := relationCondition_ok hkeyed rfl hcondition
  exact ⟨_, others, column, _, noted, kind, rfl, rfl, rfl, rfl, hnote, rfl, ⟨rfl, rfl, rfl⟩,
    hothers⟩

mutual

theorem planField_brings {source : PlannedTable} {inlinePath : String} {start : Nat}
    {joins : List AutoJoin} {before after : CompileState} (f : Field) (hcoherent : f.Coherent s)
    (hkeyed : f.Keyed s) (hlive : before.resolver.Live)
    (h : (planField s source inlinePath start f).run before = .ok (joins, after)) :
    Brings s (sizeOf f) joins before after := by
  cases f with
  | scalar info typ | ref info target key | converted info converter =>
    cases h
    exact .nothing hlive
  | inline info target fields =>
    refine (planFields_brings fields hcoherent.2 hkeyed hlive h).mono ?_
    rw [Field.inline.sizeOf_spec]
    exact Nat.le_add_left _ _
  | foreignKey info target key fields =>
    obtain ⟨j, others, column, registered, noted, kind, rfl, rfl, -, hregister, hnote, hscope,
      hjoins, hothers⟩ := exists_join_of_planField hkeyed.1 h
    -- the target's fields are part of the foreign key, so no entity is joined inside of itself
    have hsize : sizeOf fields < sizeOf (Field.foreignKey info j.joined.entity key fields) := by
      rw [Field.foreignKey.sizeOf_spec]
      omega
    have hjoin := Brings.join hlive hregister hnote
      ⟨hscope, ⟨fields, hcoherent.1, hsize⟩, source.occurrence, column, key, hjoins⟩
    have hinner := planFields_brings fields hcoherent.2 hkeyed.2 hjoin.live hothers
    exact hjoin.append (hinner.mono (Nat.le_of_lt hsize))
termination_by structural f

theorem planFields_brings {source : PlannedTable} {inlinePath : String} {start : Nat}
    {joins : List AutoJoin} {before after : CompileState} (fields : List Field)
    (hcoherent : Field.AllCoherent s fields) (hkeyed : Field.AllKeyed s fields)
    (hlive : before.resolver.Live)
    (h : (planFields s source inlinePath start fields).run before = .ok (joins, after)) :
    Brings s (sizeOf fields) joins before after := by
  cases fields with
  | nil =>
    cases h
    exact .nothing hlive
  | cons f rest =>
    rw [planFields] at h
    obtain ⟨first, between, hfirst, h⟩ := StateT.bind_eq_ok h
    obtain ⟨others, _, hothers, h⟩ := StateT.bind_eq_ok h
    cases h
    have hbrings := planField_brings f hcoherent.1 hkeyed.1 hlive hfirst
    have hbrings' := planFields_brings rest hcoherent.2 hkeyed.2 hbrings.live hothers
    have hsize : sizeOf (f :: rest) = 1 + sizeOf f + sizeOf rest := rfl
    exact (hbrings.mono (by omega)).append (hbrings'.mono (by omega))
termination_by structural fields

end

theorem registerFrom_brings {entity : Entity} {aliasName : Option String}
    {before after : CompileState} (hcoherent : Field.AllCoherent s entity.fields)
    (hkeyed : Field.AllKeyed s entity.fields) (hlive : before.resolver.Live)
    (h : (registerFrom s entity aliasName true).run before = .ok ((), after)) :
    ∃ root joins tabled planned, root.entity = entity.toEntityInfo ∧ root.path = "" ∧
      tabled.resolver = before.resolver.register root ∧
      (planFields s ⟨entity, root, none⟩ "" 0 entity.fields).run tabled = .ok (joins, planned) ∧
      Brings s (sizeOf entity.fields) joins tabled planned ∧
      after.resolver = planned.resolver ∧ after.autoJoins = before.autoJoins ++ [joins] := by
  unfold registerFrom at h
  obtain ⟨bound, tabled, htable, h⟩ := StateT.bind_eq_ok h
  obtain ⟨_, -, h⟩ := lift_bind_ok h
  obtain ⟨joins, planned, hplan, h⟩ := StateT.bind_eq_ok h
  cases h
  have htabled := registerTable_registered htable
  have hlive := htabled.advances.live hlive
  have hplanned := (planFields_planned entity.fields hlive hplan).1
  have hqueued := congrArg Queued.autoJoins (htabled.append hplanned).queued
  exact ⟨⟨entity.toEntityInfo, "", bound⟩, joins, tabled, planned, rfl, rfl,
    registerTable_ok htable, hplan, planFields_brings entity.fields hcoherent hkeyed hlive hplan, rfl,
    congrArg (· ++ [joins]) (hqueued.trans (List.append_nil _))⟩

end Registration

/-! ## Full selects -/

theorem Sees.run_mention {r : Resolver} {scope : ScopeId} {state : CompileState} {o : Occurrence}
    (h : Sees r scope state) (ho : o ∈ r.occurrences scope) :
    (Compiling.mention (scope, o) .cascade).run state = .ok (⟨scope, o, scope⟩,
      { state with resolver := state.resolver.modifyTableUse scope (·.mark o.qualifier) }) := by
  rw [← h.tables.occurrences] at ho
  exact Compiling.run_mention (run_useAlias_of_mem h.unshadowed ho)

namespace Select

variable {s : Schema} {r : Resolver} {scope : ScopeId}

def joinedMentions (scope : ScopeId) (joins : List AutoJoin) : List Mention :=
  joins.map fun j => ⟨scope, j.joined, scope⟩

mutual

/-- A full list goes the way of the planner, and refers to all that is joined on it. -/
theorem fullField_of_planField {source : Registration.PlannedTable} {host : Host}
    {inlinePath : String} {start : Nat} {joins : List AutoJoin} {before after state : CompileState}
    (f : Field) (hkeyed : f.Keyed s)
    (hplan : (Registration.planField s source inlinePath start f).run before = .ok (joins, after))
    (hbound : ∀ j ∈ joins, j.joined ∈ r.occurrences scope) (hsees : Sees r scope state)
    (hpath : host.path = source.occurrence.path) :
    ∃ listed state', (fullField s.naming host inlinePath start f).run state = .ok (listed, state') ∧
      Marks (joinedMentions scope joins) state state' := by
  cases f with
  | scalar info typ | ref info target key | converted info converter =>
    cases hplan
    exact ⟨_, state, rfl, .of_quiet (.pure ()) rfl⟩
  | inline info target fields =>
    exact fullFields_of_planFields fields hkeyed hplan hbound hsees hpath
  | foreignKey info target key fields =>
    obtain ⟨j, others, column, registered, noted, kind, rfl, rfl, hjoined, -, -, -, -, hothers⟩ :=
      Registration.exists_join_of_planField hkeyed.1 hplan
    rw [List.forall_mem_cons] at hbound
    -- the list looks its host's path up with the field's behind it, as the planner has bound it
    rw [← hpath] at hjoined
    have hfound := run_findBinding (hsees.findBinding hbound.1)
    have hm := hsees.run_mention hbound.1
    have hmarks := mention_marks hm
    rw [hjoined] at hfound
    let own : Host := ⟨⟨scope, j.joined, scope⟩, Field.columnsOf s.naming {} fields,
      Path.join host.path (Path.join inlinePath info.name)⟩
    have hown : own.path = j.joined.path := hjoined.symm
    obtain ⟨listed, state', hlisted, hmarks'⟩ := fullFields_of_planFields fields hkeyed.2 hothers
      hbound.2 (hsees.of_marks hmarks) hown
    refine ⟨listed, state', ?_, hmarks.append hmarks'⟩
    rw [fullField, StateT.run_bind_of_ok hfound, StateT.run_bind_of_ok hm]
    exact hlisted
termination_by structural f

theorem fullFields_of_planFields {source : Registration.PlannedTable} {host : Host}
    {inlinePath : String} {start : Nat} {joins : List AutoJoin} {before after state : CompileState}
    (fields : List Field) (hkeyed : Field.AllKeyed s fields)
    (hplan : (Registration.planFields s source inlinePath start fields).run before =
      .ok (joins, after))
    (hbound : ∀ j ∈ joins, j.joined ∈ r.occurrences scope) (hsees : Sees r scope state)
    (hpath : host.path = source.occurrence.path) :
    ∃ listed state',
      (fullFields s.naming host inlinePath start fields).run state = .ok (listed, state') ∧
      Marks (joinedMentions scope joins) state state' := by
  cases fields with
  | nil =>
    cases hplan
    exact ⟨_, state, rfl, .of_quiet (.pure ()) rfl⟩
  | cons f rest =>
    rw [Registration.planFields] at hplan
    obtain ⟨joins, between, hfirst, hplan⟩ := StateT.bind_eq_ok hplan
    obtain ⟨others, _, hothers, hplan⟩ := StateT.bind_eq_ok hplan
    cases hplan
    rw [List.forall_mem_append] at hbound
    obtain ⟨first, marked, hrun, hmarks⟩ :=
      fullField_of_planField f hkeyed.1 hfirst hbound.1 hsees hpath
    obtain ⟨listed, state', hrun', hmarks'⟩ := fullFields_of_planFields rest hkeyed.2 hothers
      hbound.2 (hsees.of_marks hmarks) hpath
    have hmentions : joinedMentions scope (joins ++ others) = _ := List.map_append
    refine ⟨first ++ listed, state', ?_, hmentions ▸ hmarks.append hmarks'⟩
    rw [fullFields, StateT.run_bind_of_ok hrun, StateT.run_bind_of_ok hrun']
    rfl
termination_by structural fields

end

end Select

end RelMap
