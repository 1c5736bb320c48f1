import RelMap.Proofs.Statement.Walks

/-!
# Elements of a query

Every kind of element is walked in step by registration and emission, and so is every query.
-/

namespace RelMap

open Compiling

variable {s : Schema} {format : SqlFormat} {state state' : CompileState} {scope : ScopeId}

namespace Emission

/-! ## Root tables -/

theorem covered_plannedJoins {r : Resolver} {joins : List AutoJoin}
    (hnoted : ∀ j ∈ joins, j.Noted r) :
    ∀ m ∈ Passage.mentions (joins.map (plannedJoin format)), m.Covered r := by
  induction joins with
  | nil => exact fun m hm => nomatch hm
  | cons j rest ih =>
    intro m hm
    rw [List.map_cons, Passage.mentions, List.mem_append] at hm
    rcases hm with hm | hm
    · rw [plannedJoin, Passage.partMentions, Passage.mentions_referring] at hm
      obtain ⟨inner, hinner, rfl⟩ := List.mem_map.mp hm
      obtain ⟨mention, hmention, rfl⟩ := List.mem_map.mp hinner
      obtain ⟨o, ho, rfl⟩ := List.mem_map.mp hmention
      refine .inr ⟨⟨j.scope, j.joined.qualifier⟩, .head _, rfl, ?_⟩
      rcases List.mem_append.mp ho with ho | ho
      · exact .inr (hnoted j (.head _) o (Option.mem_toList.mp ho))
      · cases List.mem_singleton.mp ho
        exact .inl rfl
    · exact ih (fun j hj => hnoted j (.tail _ hj)) m hm

theorem hasJoin_plannedJoins {joins : List AutoJoin} {j : AutoJoin} (hj : j ∈ joins) :
    Passage.HasJoin (joins.map (plannedJoin format)) j.scope j.joined := by
  induction hj with
  | head rest => exact ⟨_, .head _, rfl, rfl⟩
  | tail other _ ih => exact Passage.HasJoin.append_right (p := [plannedJoin format other]) ih

theorem plannedJoins_emitted {joins : List AutoJoin} {rest : List (List AutoJoin)}
    (hqueue : state.autoJoins = joins :: rest) (hnoted : ∀ j ∈ joins, j.Noted state.resolver) :
    Emitted [] ⟨[], [joins], []⟩ state { state with autoJoins := rest }
      (joins.map (plannedJoin format)) where
  advances := .of_resolver rfl
  tables := rfl
  queued := Queued.ext rfl hqueue rfl
  covered := covered_plannedJoins hnoted
  planned := by
    intro joins' hjoins j hj
    cases List.mem_singleton.mp hjoins
    exact hasJoin_plannedJoins hj

theorem fromTable_inStep (entity : EntityName) (aliasName : Option String) (autoJoin : Bool) :
    InStep scope [] (Registration.element s (.fromTable entity aliasName autoJoin))
      (emitFrom s format entity autoJoin) := by
  intro before after hlive hscope hrun
  rw [Registration.element] at hrun
  obtain ⟨e, -, hrun⟩ := entity_bind_ok hrun
  obtain ⟨joins, hregistered⟩ := Registration.registerFrom_registered hlive hrun
  refine ⟨_, hregistered, ?_⟩
  intro state passage state' hready hrun
  unfold emitFrom at hrun
  obtain ⟨e, -, hrun⟩ := entity_bind_ok hrun
  obtain ⟨table, located, htable, hrun⟩ := StateT.bind_eq_ok hrun
  have hready := hready.of_quiet (Modification.quiet_tableAt e "") htable
  apply Emitted.quiet_before (Modification.quiet_tableAt e "") htable
  cases autoJoin with
  | false =>
    cases hrun
    exact Emitted.nil.ofFragment_append _
  | true =>
    obtain ⟨rest, hrest⟩ := hready.queued
    have hqueue : located.autoJoins = joins :: rest.autoJoins := congrArg Queued.autoJoins hrest
    obtain ⟨next, _, hnext, hrun⟩ := StateT.bind_eq_ok hrun
    cases (run_nextAutoJoins hqueue).symm.trans hnext
    cases hrun
    have hnoted : ∀ j ∈ joins, j.Noted located.resolver := by
      intro j hj
      exact (hregistered.noted joins (.head _) j hj).mono hready.grows
    exact (plannedJoins_emitted hqueue hnoted).ofFragment_append _

theorem joinPath_emitted {around : List ConditionKey} {path : String} {rest : List String}
    (hqueue : state.joinPaths = path :: rest) :
    Emitted around (.ofPath path) state { state with joinPaths := rest } [] where
  advances := .of_resolver rfl
  tables := rfl
  queued := Queued.ext rfl rfl hqueue
  covered := fun _ hm => nomatch hm
  planned := fun _ h => nomatch h

/-! ## References -/

theorem select_emitted {around : List ConditionKey} {entity : EntityName} {mode : SelectMode}
    {path : Option String} {passage : Passage}
    (h : (Select.emit s format entity mode path).run state = .ok (passage, state')) :
    Emitted around .nothing state state' passage := by
  unfold Select.emit at h
  obtain ⟨listed, _, hlist, h⟩ := StateT.bind_eq_ok h
  cases h
  exact .of_marks (Select.list_marks hlist) _

theorem column_emitted {around : List ConditionKey} {c : ColumnRef} {passage : Passage}
    (h : (Select.emitColumn s format c).run state = .ok (passage, state')) :
    Emitted around .nothing state state' passage := by
  unfold Select.emitColumn at h
  obtain ⟨binding, _, hbinding, h⟩ := StateT.bind_eq_ok h
  cases h
  exact .of_marks (resolveColumn_marks hbinding) _

theorem aliasOf_emitted {around : List ConditionKey} {t : TableRef} {passage : Passage}
    (h : (emitAlias s format t).run state = .ok (passage, state')) :
    Emitted around .nothing state state' passage := by
  unfold emitAlias at h
  obtain ⟨e, -, h⟩ := entity_bind_ok h
  obtain ⟨found, _, hfound, h⟩ := StateT.bind_eq_ok h
  obtain ⟨m, _, hm, h⟩ := StateT.bind_eq_ok h
  cases h
  have hmarks := mention_marks_of_found hfound hm
  exact .of_marks hmarks _

theorem object_emitted {around : List ConditionKey} {target : ConditionTarget}
    {operator : Operator} {operands : List FieldValue} {passage : Passage}
    (h : (do
      let (m, predicate) ← Condition.objectPredicate s target operator operands
      return .referring [m] (predicate.render format) : Compiling Passage).run state =
        .ok (passage, state')) : Emitted around .nothing state state' passage := by
  obtain ⟨⟨m, predicate⟩, _, hobject, h⟩ := StateT.bind_eq_ok h
  cases h
  exact .of_marks (Condition.objectPredicate_marks hobject) _

theorem table_emitted {around : List ConditionKey} {entity : EntityName} {path : String}
    {passage : Passage} (h : (do
      let e ← s.entity entity
      let table ← Modification.tableAt e path
      return .ofFragment (table.render format) : Compiling Passage).run state =
        .ok (passage, state')) : Emitted around .nothing state state' passage := by
  obtain ⟨e, -, h⟩ := entity_bind_ok h
  obtain ⟨table, _, htable, h⟩ := StateT.bind_eq_ok h
  cases h
  exact .of_quiet (Modification.quiet_tableAt e path) htable _

/-- The source of an automatic join is a dependency of it, while any other join marks both sides. -/
theorem joinSides_emitted {auto : Bool} {origin joined : ScopeId × Occurrence} {ms : List Mention}
    (hlive : state.resolver.Live)
    (h : (joinSides auto origin joined).run state = .ok (ms, state')) (f : Fragment) :
    Emitted (if auto then [⟨state.resolver.current, joined.2.qualifier⟩] else []) .nothing state
      state' (.referring ms f) := by
  unfold joinSides at h
  cases auto with
  | false =>
    obtain ⟨left, _, hleft, h⟩ := StateT.bind_eq_ok h
    obtain ⟨right, _, hright, h⟩ := StateT.bind_eq_ok h
    cases h
    have hmarks := (mention_marks hleft).append (mention_marks hright)
    exact .of_marks hmarks f
  | true =>
    obtain ⟨_, _, hnote, h⟩ := StateT.bind_eq_ok h
    cases hnote
    obtain ⟨_, _, hscope, h⟩ := StateT.bind_eq_ok h
    cases hscope
    cases h
    refine ⟨⟨Resolver.grows_addDependency, rfl⟩, .modifyTableUse _ _ _, rfl, ?_, fun _ h => nomatch h⟩
    intro m hm
    rw [Passage.mentions_referring] at hm
    obtain ⟨side, hside, rfl⟩ := List.mem_map.mp hm
    refine .inr ⟨⟨state.resolver.current, joined.2.qualifier⟩, .head _, ?_⟩
    rcases List.mem_cons.mp hside with rfl | hside
    · exact ⟨rfl, .inr (Resolver.mem_dependencies_addDependency hlive)⟩
    · cases List.mem_singleton.mp hside
      exact ⟨rfl, .inl rfl⟩

theorem relation_emitted {auto : Bool} {target : Entity} {joined : ScopeId × Occurrence}
    {source : Option TableRef} {passage : Passage} (hlive : state.resolver.Live)
    (h : (emitRelation s format auto target joined source).run state = .ok (passage, state')) :
    Emitted (if auto then [⟨state.resolver.current, joined.2.qualifier⟩] else []) .nothing state
      state' passage := by
  unfold emitRelation at h
  obtain ⟨origin, located, horigin, h⟩ := StateT.bind_eq_ok h
  obtain ⟨entity, -, h⟩ := entity_bind_ok h
  obtain ⟨condition, -, h⟩ := lift_bind_ok h
  obtain ⟨sides, _, hsides, h⟩ := StateT.bind_eq_ok h
  cases h
  have hlocated := quiet_relationSource source
  have hadvances := hlocated.advances horigin
  rw [← hadvances.current]
  have hemitted := joinSides_emitted (hadvances.live hlive) hsides
  exact .quiet_before hlocated horigin (hemitted _)

end Emission

/-! ## Elements that only bind a table -/

theorem Registration.table_registered {name : EntityName} {aliasName : Option String}
    {path : String} (h : (do
      let e ← s.entity name
      let _ ← registerTable s e.toEntityInfo aliasName path : Compiling Unit).run state =
        .ok ((), state')) : Registered .nothing state state' := by
  obtain ⟨e, -, h⟩ := entity_bind_ok h
  obtain ⟨bound, _, hbound, h⟩ := StateT.bind_eq_ok h
  cases h
  exact registerTable_registered hbound

namespace InStep

variable {around : List ConditionKey} {reg : Compiling Unit} {emit : Compiling Passage}

theorem ofFragment_append (h : InStep scope around reg emit) (f : Fragment) :
    InStep scope around reg (do return .ofFragment f ++ (← emit)) := by
  intro before after hlive hscope hrun
  obtain ⟨q, hregistered, hemit⟩ := h before after hlive hscope hrun
  refine ⟨q, hregistered, ?_⟩
  intro state passage state' hready hrun
  obtain ⟨p, _, hp, hrun⟩ := StateT.bind_eq_ok hrun
  cases hrun
  exact (hemit state p _ hready hp).ofFragment_append f

theorem of_quiet {α : Type} {x : Compiling α} (hx : Quiet x) {render : α → Fragment}
    (hreg : ∀ before after, reg.run before = .ok ((), after) → Registered .nothing before after) :
    InStep scope around reg (do return .ofFragment (render (← x))) := by
  apply of_nothing hreg
  intro state passage state' _ _ hrun
  obtain ⟨a, _, ha, hrun⟩ := StateT.bind_eq_ok hrun
  cases hrun
  exact .of_quiet hx ha _

theorem of_text (f : Fragment) : InStep scope around (pure ()) (pure (.ofFragment f)) := by
  apply of_pure
  intro state passage state' hrun
  cases hrun
  exact .of_quiet (.pure ()) rfl f

theorem append {reg' : Compiling Unit} {emit' : Compiling Passage}
    (h : InStep scope around reg emit) (h' : InStep scope around reg' emit') (f : Fragment) :
    InStep scope around (do reg; reg') (do
      let first ← emit
      let others ← emit'
      return .ofFragment f ++ first ++ others) := by
  intro before after hlive hscope hrun
  obtain ⟨_, between, hfirst, hothers⟩ := StateT.bind_eq_ok hrun
  obtain ⟨q, hq, hemit⟩ := h before between hlive hscope hfirst
  obtain ⟨q', hq', hemit'⟩ := h' between after (hq.advances.live hlive)
    (hq.advances.current.trans hscope) hothers
  refine ⟨q ++ q', hq.append hq', ?_⟩
  intro state passage state' hready hrun
  obtain ⟨first, written, hfirst, hrun⟩ := StateT.bind_eq_ok hrun
  obtain ⟨others, _, hothers, hrun⟩ := StateT.bind_eq_ok hrun
  cases hrun
  have hfirst := hemit state first written (hready.first hq') hfirst
  have hothers := hemit' written others _ (hready.second hfirst) hothers
  exact (hfirst.ofFragment_append f).append hothers

theorem inCondition {auto : Bool} {aliasName : String} (h : InStep scope [] reg emit) :
    InStep scope (if auto then [⟨scope, aliasName⟩] else []) reg
      (Emission.inCondition auto aliasName emit) := by
  intro before after hlive hscope hrun
  obtain ⟨q, hregistered, hemit⟩ := h before after hlive hscope hrun
  refine ⟨q, hregistered, ?_⟩
  intro state passage state' hready hrun
  unfold Emission.inCondition at hrun
  obtain ⟨_, _, hget, hrun⟩ := StateT.bind_eq_ok hrun
  cases hget
  obtain ⟨_, _, hcurrent, hrun⟩ := StateT.bind_eq_ok hrun
  cases hcurrent
  obtain ⟨p, written, hp, hrun⟩ := StateT.bind_eq_ok hrun
  have hwritten := hemit state p written hready hp
  cases auto with
  | false =>
    cases hrun
    exact hwritten.ofFragment_append _
  | true =>
    obtain ⟨_, _, hdefer, hrun⟩ := StateT.bind_eq_ok hrun
    cases hdefer
    cases hrun
    subst hscope
    rw [← hready.current]
    have hlive' := hready.live hregistered hlive
    exact (hwritten.deferSince hlive').ofFragment_append _

end InStep

/-! ## Queries -/

mutual

theorem element_inStep (e : Element) (scope : ScopeId) (separate : Bool) :
    InStep scope [] (Registration.element s e) (Emission.element s format separate e) := by
  cases e with
  | sql text | param p =>
    rw [Registration.element, Emission.element]
    exact .of_text _
  | select entity mode path =>
    rw [Registration.element, Emission.element]
    exact InStep.of_pure fun _ _ _ h => Emission.select_emitted h
  | fromTable entity aliasName autoJoin =>
    rw [Emission.element]
    exact Emission.fromTable_inStep entity aliasName autoJoin
  | table entity aliasName path =>
    rw [Registration.element, Emission.element]
    exact .of_nothing (fun _ _ h => Registration.table_registered h) fun _ _ _ _ _ h =>
      Emission.table_emitted h
  | aliasOf t =>
    rw [Registration.element, Emission.element]
    exact InStep.of_pure fun _ _ _ h => Emission.aliasOf_emitted h
  | column c =>
    rw [Registration.element, Emission.element]
    exact InStep.of_pure fun _ _ _ h => Emission.column_emitted h
  | join j =>
    rw [Registration.element, Emission.element]
    exact join_inStep j scope separate
  | insert entity =>
    rw [Registration.element, Emission.element]
    exact .of_quiet (Modification.quiet_emitInsert entity) fun _ _ h =>
      Registration.table_registered h
  | values clause =>
    rw [Registration.element, Emission.element]
    exact .of_quiet (Modification.quiet_emitValues clause) Registered.of_pure
  | update entity aliasName =>
    rw [Registration.element, Emission.element]
    exact .of_quiet (Modification.quiet_emitUpdate entity) fun _ _ h =>
      Registration.table_registered h
  | set clause =>
    rw [Registration.element, Emission.element]
    exact .of_quiet (Modification.quiet_emitSet clause) Registered.of_pure
  | delete entity aliasName =>
    rw [Registration.element, Emission.element]
    exact .of_quiet (Modification.quiet_emitDelete entity) fun _ _ h =>
      Registration.table_registered h
  | condition clause =>
    rw [Registration.element, Emission.element]
    exact (condition_inStep clause scope).ofFragment_append _
  | subquery inner correlated =>
    rw [Registration.element, Emission.element]
    exact .subquery fun scope => elements_inStep inner scope true
termination_by structural e

theorem elements_inStep (es : List Element) (scope : ScopeId) (afterSql : Bool) :
    InStep scope [] (Registration.elements s es) (Emission.elements s format afterSql es) := by
  cases es with
  | nil =>
    rw [Registration.elements, Emission.elements]
    exact .of_pure fun _ _ _ h => by
      cases h
      exact .nil
  | cons e rest =>
    rw [Registration.elements, Emission.elements]
    exact InStep.append (element_inStep e scope _) (elements_inStep rest scope _) _
termination_by structural es

theorem join_inStep (j : JoinElement) (scope : ScopeId) (separate : Bool) :
    InStep scope [] (Registration.join s j) (Emission.join s format separate j) := by
  obtain ⟨kind, target, aliasName, path, onClause, auto⟩ := j
  have htarget := joinTarget_inStep target scope
  have hcondition (e : Entity) (joined : ScopeId × Occurrence) :=
    joinOn_inStep onClause scope auto e joined
  intro before after hlive hscope hrun
  rw [Registration.join] at hrun
  obtain ⟨_, between, hrun₁, hrun⟩ := StateT.bind_eq_ok hrun
  obtain ⟨q, hq, hemit⟩ := htarget before between hlive hscope hrun₁
  obtain ⟨_, registered, hrun₂, hrun⟩ := StateT.bind_eq_ok hrun
  obtain ⟨⟨e, he⟩, path, hjoined⟩ := Registration.registerJoined_registered hrun₂
  have hlive' := hjoined.advances.live (hq.advances.live hlive)
  have hscope' := hjoined.advances.current.trans (hq.advances.current.trans hscope)
  -- what the condition queues does not depend on the occurrence that is joined
  obtain ⟨q', hq', -⟩ :=
    hcondition e (scope, ⟨e.toEntityInfo, "", ""⟩) registered after hlive' hscope' hrun
  refine ⟨q ++ (.ofPath path ++ q'), hq.append (hjoined.append hq'), ?_⟩
  intro state passage state' hready hemitted
  rw [Emission.join] at hemitted
  obtain ⟨table, written, htable, hemitted⟩ := StateT.bind_eq_ok hemitted
  have hwritten := hemit state table written (hready.first (hjoined.append hq')) htable
  have hready := hready.second hwritten
  obtain ⟨e, -, hemitted⟩ := entity_bind_ok hemitted
  obtain ⟨next, _, hpath, hemitted⟩ := StateT.bind_eq_ok hemitted
  obtain ⟨left, hqueue, rfl⟩ := nextJoinPath_ok hpath
  obtain ⟨rest, hrest⟩ := hready.queued
  obtain ⟨rfl, -⟩ := List.cons.inj (hqueue.symm.trans (congrArg Queued.joinPaths hrest))
  have htaken (around : List ConditionKey) : Emitted around (.ofPath next) written _ [] :=
    Emission.joinPath_emitted hqueue
  have hready := hready.second (htaken [])
  obtain ⟨joined, _, hfound, hemitted⟩ := StateT.bind_eq_ok hemitted
  have hready := hready.of_quiet (quiet_findBinding _ _ _) hfound
  obtain ⟨on, finished, hon, hemitted⟩ := StateT.bind_eq_ok hemitted
  obtain ⟨q'', hq'', hemit'⟩ := hcondition e joined registered after hlive' hscope' hrun
  cases hq'.unique hq''
  have hon := hemit' _ on _ hready hon
  have hcurrent := hon.advances.current.trans hready.current
  have hon := (htaken _).append (hon.quiet_before (quiet_findBinding _ _ _) hfound)
  have hparts (f g : Fragment) :=
    (((hwritten.within _).ofFragment_append f).append_ofFragment g).append hon
  cases auto with
  | false =>
    cases hemitted
    exact hparts _ _
  | true =>
    obtain ⟨_, _, hlast, hemitted⟩ := StateT.bind_eq_ok hemitted
    cases hlast
    cases hemitted
    rw [hcurrent]
    exact (hparts _ _).autoJoin
termination_by structural j

theorem joinTarget_inStep (t : JoinTarget) (scope : ScopeId) :
    InStep scope [] (Registration.joinTarget s t) (Emission.joinTarget s format t) := by
  cases t with
  | entity entity =>
    rw [Registration.joinTarget, Emission.joinTarget]
    exact .of_quiet (.lift _) Registered.of_pure
  | subquery entity inner correlated =>
    rw [Registration.joinTarget, Emission.joinTarget]
    exact .subquery fun scope => elements_inStep inner scope true
termination_by structural t

theorem joinOn_inStep (onClause : JoinOn) (scope : ScopeId) (auto : Bool) (target : Entity)
    (joined : ScopeId × Occurrence) :
    InStep scope (if auto then [⟨scope, joined.2.qualifier⟩] else [])
      (Registration.joinOn s onClause) (Emission.joinOn s format auto target joined onClause) := by
  cases onClause with
  | relation source =>
    rw [Registration.joinOn, Emission.joinOn]
    apply InStep.of_nothing Registered.of_pure
    intro state passage state' hlive hcurrent h
    rw [← hcurrent]
    exact Emission.relation_emitted hlive h
  | template inner =>
    rw [Registration.joinOn, Emission.joinOn]
    exact .inCondition (elements_inStep inner scope true)
  | none =>
    rw [Registration.joinOn, Emission.joinOn]
    exact .of_pure fun _ _ _ h => by
      cases h
      exact .nil
termination_by structural onClause

theorem condition_inStep (clause : WhereClause) (scope : ScopeId) :
    InStep scope [] (Registration.condition s clause) (Emission.condition s format clause) := by
  cases clause with
  | template inner =>
    rw [Registration.condition, Emission.condition]
    exact elements_inStep inner scope true
  | object target operator operands =>
    rw [Registration.condition, Emission.condition]
    exact .of_pure fun _ _ _ h => Emission.object_emitted h
termination_by structural clause

end

end RelMap
