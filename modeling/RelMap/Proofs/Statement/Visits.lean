import RelMap.Proofs.Statement.Failures
import RelMap.Proofs.Statement.Walks

/-!
# Visits of the walks

Both walks go through the same tree. A construct is known by its address in the tree, and a walk
reaches it in the state that all the steps before it have led to.
-/

namespace RelMap

open Compiling

inductive QueueItem where
  | scope (id : ScopeId)
  | joins (planned : List AutoJoin)
  | path (fieldPath : String)

namespace QueueItem

def IsNext : QueueItem → CompileState → Prop
  | scope id, state => ∃ rest, state.subqueries = id :: rest
  | joins planned, state => ∃ rest, state.autoJoins = planned :: rest
  | path fieldPath, state => ∃ rest, state.joinPaths = fieldPath :: rest

/-- The item is the first that is added to its queue from one state to the other. -/
def IsPushed : QueueItem → CompileState → CompileState → Prop
  | scope id, before, after => ∃ others, after.subqueries = before.subqueries ++ id :: others
  | joins planned, before, after =>
    ∃ others, after.autoJoins = before.autoJoins ++ planned :: others
  | path fieldPath, before, after =>
    ∃ others, after.joinPaths = before.joinPaths ++ fieldPath :: others

end QueueItem

/-- A part of a query that both walks go through in one piece. -/
inductive Construct where
  | element (e : Element)
  /-- The query of a derived table. -/
  | derived (inner : List Element) (correlated : Bool)
  /-- The table that a join binds, after the derived table. -/
  | joined (j : JoinElement)

namespace Construct

def register (s : Schema) : Construct → Compiling Unit
  | element e => Registration.element s e
  | derived inner correlated =>
    Registration.inNewScope correlated (Registration.elements s inner)
  | joined j => Registration.registerJoined s j.target.entityName j.aliasName j.path j.onClause

/-- What emission takes first for the construct itself. -/
def take? : Construct → Option (Compiling QueueItem)
  | element (.subquery _ _) | derived _ _ => some (return .scope (← nextSubquery))
  | element (.fromTable _ _ true) => some (return .joins (← nextAutoJoins))
  | joined _ => some (return .path (← nextJoinPath))
  | element _ => none

def query? : Construct → Option (List Element × Bool)
  | element (.subquery inner correlated) | derived inner correlated => some (inner, correlated)
  | element _ | joined _ => none

end Construct

/-- The steps of a walk that succeed, each between two states. -/
structure Walk where
  element : Element → CompileState → CompileState → Prop
  /-- The way into the scope of a query. -/
  enter : Bool → CompileState → CompileState → Prop
  target : JoinTarget → CompileState → CompileState → Prop
  joined : JoinElement → CompileState → CompileState → Prop

/-- The walk through the elements reaches the construct at an address in a state. An address counts
the elements before, then the parts of the element that the construct is in. -/
inductive Walk.Reaches (w : Walk) :
    List Element → CompileState → List Nat → Construct → CompileState → Prop
  | here (e : Element) (rest : List Element) (state : CompileState) :
    Reaches w (e :: rest) state [0] (.element e) state
  | later {e : Element} {rest : List Element} {state between reached : CompileState} {i : Nat}
    {address : List Nat} {c : Construct} (helement : w.element e state between)
    (hrest : Reaches w rest between (i :: address) c reached) :
    Reaches w (e :: rest) state ((i + 1) :: address) c reached
  | subquery {inner rest : List Element} {correlated : Bool} {state entered reached : CompileState}
    {address : List Nat} {c : Construct} (henter : w.enter correlated state entered)
    (hinner : Reaches w inner entered address c reached) :
    Reaches w (.subquery inner correlated :: rest) state (0 :: address) c reached
  | condition {inner rest : List Element} {state reached : CompileState} {address : List Nat}
    {c : Construct} (hinner : Reaches w inner state address c reached) :
    Reaches w (.condition (.template inner) :: rest) state (0 :: address) c reached
  | derived (kind : JoinKind) (entity : EntityName) (inner rest : List Element) (correlated : Bool)
    (aliasName path : Option String) (onClause : JoinOn) (auto : Bool) (state : CompileState) :
    Reaches w (.join ⟨kind, .subquery entity inner correlated, aliasName, path, onClause, auto⟩ ::
      rest) state [0, 0] (.derived inner correlated) state
  | inDerived {kind : JoinKind} {entity : EntityName} {inner rest : List Element}
    {correlated : Bool} {aliasName path : Option String} {onClause : JoinOn} {auto : Bool}
    {state entered reached : CompileState} {address : List Nat} {c : Construct}
    (henter : w.enter correlated state entered)
    (hinner : Reaches w inner entered address c reached) :
    Reaches w (.join ⟨kind, .subquery entity inner correlated, aliasName, path, onClause, auto⟩ ::
      rest) state (0 :: 0 :: address) c reached
  | joined {j : JoinElement} {rest : List Element} {state between : CompileState}
    (htarget : w.target j.target state between) :
    Reaches w (.join j :: rest) state [0, 1] (.joined j) between
  | on {kind : JoinKind} {target : JoinTarget} {inner rest : List Element}
    {aliasName path : Option String} {auto : Bool} {state between bound reached : CompileState}
    {address : List Nat} {c : Construct} (htarget : w.target target state between)
    (hjoined : w.joined ⟨kind, target, aliasName, path, .template inner, auto⟩ between bound)
    (hinner : Reaches w inner bound address c reached) :
    Reaches w (.join ⟨kind, target, aliasName, path, .template inner, auto⟩ :: rest) state
      (0 :: 2 :: address) c reached

/-- An address starts with the number of an element. -/
theorem Walk.Reaches.address_eq_cons {w : Walk} {es : List Element} {state reached : CompileState}
    {address : List Nat} {c : Construct} (h : w.Reaches es state address c reached) :
    ∃ i rest, address = i :: rest := by
  cases h <;> exact ⟨_, _, rfl⟩

def Registration.walk (s : Schema) : Walk where
  element e state state' := (element s e).run state = .ok ((), state')
  enter correlated state state' := state' = state.opened correlated
  target t state state' := (joinTarget s t).run state = .ok ((), state')
  joined j state state' := ((Construct.joined j).register s).run state = .ok ((), state')

/-- The walk that emits. A space before an element makes no difference to the state. -/
def Emission.walk (s : Schema) (format : SqlFormat) : Walk where
  element e state state' := ∃ separate passage,
    (element s format separate e).run state = .ok (passage, state')
  enter _ state state' := ∃ scope rest, state.subqueries = scope :: rest ∧
    state' = state.entered scope rest
  target t state state' := ∃ passage, (joinTarget s format t).run state = .ok (passage, state')
  joined _ state state' := ∃ path, nextJoinPath.run state = .ok (path, state')

namespace Emission

variable {s : Schema} {format : SqlFormat} {state : CompileState} {err : Error}

/-! ## Failures -/

theorem inCondition_error {auto : Bool} {aliasName : String} {emit : Compiling Passage}
    (h : (inCondition auto aliasName emit).run state = .error err) :
    emit.run state = .error err := by
  unfold inCondition at h
  obtain h | ⟨_, _, hget, h⟩ := StateT.bind_eq_error h
  · cases h
  cases hget
  obtain h | ⟨_, _, hscope, h⟩ := StateT.bind_eq_error h
  · cases h
  cases hscope
  obtain h | ⟨_, _, -, h⟩ := StateT.bind_eq_error h
  · exact h
  · cases auto with
    | false => cases h
    | true => cases h

theorem inSubquery_error {emit : Compiling Passage} (h : (inSubquery emit).run state = .error err) :
    nextSubquery.run state = .error err ∨ ∃ scope rest, state.subqueries = scope :: rest ∧
      emit.run (state.entered scope rest) = .error err := by
  unfold inSubquery at h
  rcases StateT.bind_eq_error h with h | ⟨scope, _, hnext, h⟩
  · exact .inl h
  right
  obtain ⟨rest, hqueue, rfl⟩ := nextSubquery_ok hnext
  obtain h | ⟨_, _, henter, h⟩ := StateT.bind_eq_error h
  · cases h
  cases henter
  obtain h | ⟨_, _, -, h⟩ := StateT.bind_eq_error h
  · exact ⟨scope, rest, hqueue, h⟩
  · cases h

/-- Some construct that the emission reaches fails to take its item. -/
def FailsToTake (s : Schema) (format : SqlFormat) (es : List Element) (state : CompileState)
    (err : Error) : Prop :=
  ∃ address c reached, (walk s format).Reaches es state address c reached ∧
    ∃ take ∈ c.take?, take.run reached = .error err

mutual

theorem element_error (e : Element) (rest : List Element) {separate : Bool} {state : CompileState}
    (herr : err.IsOutOfStep) (h : (element s format separate e).run state = .error err) :
    FailsToTake s format (e :: rest) state err := by
  have hleaf {emit : Compiling Passage} (hkeeps : StateT.KeepsStep emit)
      (h : emit.run state = .error err) : FailsToTake s format (e :: rest) state err :=
    absurd herr (hkeeps state err h)
  cases e with
  | sql text | param p =>
    rw [element] at h
    cases h
  | select entity mode path =>
    rw [element] at h
    exact hleaf (Select.emit_keepsStep entity mode path) h
  | fromTable entity aliasName autoJoin =>
    rw [element] at h
    exact hleaf (emitFrom_keepsStep entity autoJoin) h
  | table entity aliasName path =>
    rw [element] at h
    refine hleaf ?_ h
    apply (StateT.KeepsStep.of_schema _).bind
    intro e
    exact (Modification.tableAt_keepsStep e _).bind fun _ => .pure _
  | aliasOf t =>
    rw [element] at h
    exact hleaf (emitAlias_keepsStep t) h
  | column c =>
    rw [element] at h
    exact hleaf (Select.emitColumn_keepsStep c) h
  | join j =>
    rw [element] at h
    exact join_error j rest herr h
  | insert entity =>
    rw [element] at h
    exact hleaf ((Modification.emitInsert_keepsStep entity).bind fun _ => .pure _) h
  | values clause =>
    rw [element] at h
    exact hleaf ((Modification.emitValues_keepsStep clause).bind fun _ => .pure _) h
  | update entity aliasName =>
    rw [element] at h
    exact hleaf ((Modification.emitUpdate_keepsStep entity).bind fun _ => .pure _) h
  | set clause =>
    rw [element] at h
    exact hleaf ((Modification.emitSet_keepsStep clause).bind fun _ => .pure _) h
  | delete entity aliasName =>
    rw [element] at h
    exact hleaf ((Modification.emitDelete_keepsStep entity).bind fun _ => .pure _) h
  | condition clause =>
    rw [element] at h
    rcases StateT.bind_eq_error h with h | ⟨_, _, -, h⟩
    · exact condition_error clause rest herr h
    · cases h
  | subquery inner correlated =>
    rw [element] at h
    rcases inSubquery_error h with h | ⟨scope, queue, hqueue, h⟩
    · refine ⟨_, _, _, .here _ rest state, _, rfl, ?_⟩
      rw [StateT.run_bind, h]
      rfl
    · obtain ⟨address, c, reached, hreaches, hfails⟩ := elements_error inner herr h
      exact ⟨_, c, reached, .subquery ⟨scope, queue, hqueue, rfl⟩ hreaches, hfails⟩
termination_by structural e

theorem elements_error (es : List Element) {afterSql : Bool} {state : CompileState}
    (herr : err.IsOutOfStep) (h : (elements s format afterSql es).run state = .error err) :
    FailsToTake s format es state err := by
  cases es with
  | nil =>
    rw [elements] at h
    cases h
  | cons e rest =>
    rw [elements] at h
    rcases StateT.bind_eq_error h with h | ⟨passage, between, helement, h⟩
    · exact element_error e rest herr h
    rcases StateT.bind_eq_error h with h | ⟨_, _, -, h⟩
    · obtain ⟨address, c, reached, hreaches, hfails⟩ := elements_error rest herr h
      obtain ⟨i, address, rfl⟩ := hreaches.address_eq_cons
      exact ⟨_, c, reached, .later ⟨_, passage, helement⟩ hreaches, hfails⟩
    · cases h
termination_by structural es

theorem join_error (j : JoinElement) (rest : List Element) {separate : Bool} {state : CompileState}
    (herr : err.IsOutOfStep) (h : (join s format separate j).run state = .error err) :
    FailsToTake s format (.join j :: rest) state err := by
  obtain ⟨kind, target, aliasName, path, onClause, auto⟩ := j
  rw [join] at h
  rcases StateT.bind_eq_error h with h | ⟨table, between, htarget, h⟩
  · exact joinTarget_error target rest herr h
  obtain ⟨e, _, hentity, h⟩ := (StateT.KeepsStep.of_schema _).bind_error herr h
  rw [(StateT.lift_eq_ok hentity).2] at h
  obtain h | ⟨next, bound, hpath, h⟩ := StateT.bind_eq_error h
  · refine ⟨_, _, _, .joined ⟨table, htarget⟩, _, rfl, ?_⟩
    rw [StateT.run_bind, h]
    rfl
  obtain ⟨found, _, hfound, h⟩ := (findBinding_keepsStep _ _ _).bind_error herr h
  rw [(findBinding_ok hfound).2] at h
  obtain h | ⟨condition, _, hon, h⟩ := StateT.bind_eq_error h
  · exact joinOn_error onClause rest ⟨table, htarget⟩ ⟨next, hpath⟩ herr h
  · cases auto <;> cases h
termination_by structural j

theorem joinTarget_error (t : JoinTarget) (rest : List Element) {kind : JoinKind}
    {aliasName path : Option String} {onClause : JoinOn} {auto : Bool} {state : CompileState}
    (herr : err.IsOutOfStep) (h : (joinTarget s format t).run state = .error err) :
    FailsToTake s format (.join ⟨kind, t, aliasName, path, onClause, auto⟩ :: rest) state err := by
  cases t with
  | entity entity =>
    rw [joinTarget] at h
    have hkeeps : StateT.KeepsStep (do
        return .ofFragment (format.identifier (← s.entity entity).table) : Compiling Passage) :=
      (StateT.KeepsStep.of_schema _).bind fun _ => .pure _
    exact absurd herr (hkeeps state err h)
  | subquery entity inner correlated =>
    rw [joinTarget] at h
    rcases inSubquery_error h with h | ⟨scope, queue, hqueue, h⟩
    · refine ⟨_, _, _, .derived kind entity inner rest correlated aliasName path onClause auto state,
        _, rfl, ?_⟩
      rw [StateT.run_bind, h]
      rfl
    · obtain ⟨address, c, reached, hreaches, hfails⟩ := elements_error inner herr h
      exact ⟨_, c, reached, .inDerived ⟨scope, queue, hqueue, rfl⟩ hreaches, hfails⟩
termination_by structural t

theorem joinOn_error (onClause : JoinOn) (rest : List Element) {kind : JoinKind}
    {target : JoinTarget} {aliasName path : Option String} {auto : Bool} {e : Entity}
    {found : ScopeId × Occurrence} {state between bound : CompileState}
    (htarget : (walk s format).target target state between)
    (hjoined : (walk s format).joined ⟨kind, target, aliasName, path, onClause, auto⟩ between bound)
    (herr : err.IsOutOfStep) (h : (joinOn s format auto e found onClause).run bound = .error err) :
    FailsToTake s format (.join ⟨kind, target, aliasName, path, onClause, auto⟩ :: rest) state
      err := by
  cases onClause with
  | relation source =>
    rw [joinOn] at h
    exact absurd herr (emitRelation_keepsStep auto e found source _ err h)
  | none =>
    rw [joinOn] at h
    cases h
  | template inner =>
    rw [joinOn] at h
    obtain ⟨address, c, reached, hreaches, hfails⟩ := elements_error inner herr (inCondition_error h)
    exact ⟨_, c, reached, .on htarget hjoined hreaches, hfails⟩
termination_by structural onClause

theorem condition_error (clause : WhereClause) (rest : List Element) {state : CompileState}
    (herr : err.IsOutOfStep) (h : (condition s format clause).run state = .error err) :
    FailsToTake s format (.condition clause :: rest) state err := by
  cases clause with
  | template inner =>
    rw [condition] at h
    obtain ⟨address, c, reached, hreaches, hfails⟩ := elements_error inner herr h
    exact ⟨_, c, reached, .condition hreaches, hfails⟩
  | object target operator operands =>
    rw [condition] at h
    obtain ⟨found, _, -, h⟩ :=
      (Condition.objectPredicate_keepsStep target operator operands).bind_error herr h
    cases h
termination_by structural clause

end

/-! ## Success -/

variable {passage : Passage} {state' : CompileState}

theorem elements_cons_ok {e : Element} {rest : List Element} {afterSql : Bool}
    (h : (elements s format afterSql (e :: rest)).run state = .ok (passage, state')) :
    ∃ separate first between others, (element s format separate e).run state = .ok (first, between) ∧
      (elements s format e.isSql rest).run between = .ok (others, state') ∧
      ∃ f, passage = .ofFragment f ++ first ++ others := by
  rw [elements] at h
  obtain ⟨first, between, hfirst, h⟩ := StateT.bind_eq_ok h
  obtain ⟨others, _, hothers, h⟩ := StateT.bind_eq_ok h
  cases h
  exact ⟨_, first, between, others, hfirst, hothers, _, rfl⟩

theorem inCondition_ok {auto : Bool} {aliasName : String} {emit : Compiling Passage}
    (h : (inCondition auto aliasName emit).run state = .ok (passage, state')) :
    ∃ inner written, emit.run state = .ok (inner, written) := by
  unfold inCondition at h
  obtain ⟨_, _, hget, h⟩ := StateT.bind_eq_ok h
  cases hget
  obtain ⟨_, _, hscope, h⟩ := StateT.bind_eq_ok h
  cases hscope
  obtain ⟨inner, written, hinner, -⟩ := StateT.bind_eq_ok h
  exact ⟨inner, written, hinner⟩

theorem join_ok {kind : JoinKind} {target : JoinTarget} {aliasName path : Option String}
    {onClause : JoinOn} {auto separate : Bool}
    (h : (join s format separate ⟨kind, target, aliasName, path, onClause, auto⟩).run state =
      .ok (passage, state')) :
    ∃ table between next bound, (joinTarget s format target).run state = .ok (table, between) ∧
      nextJoinPath.run between = .ok (next, bound) ∧
      ∃ e found condition, (joinOn s format auto e found onClause).run bound =
        .ok (condition, state') ∧
      ∃ f g, let parts := .ofFragment f ++ table ++ .ofFragment g ++ condition
        passage = if auto then [.autoJoin state'.resolver.current found.2 parts] else parts := by
  rw [join] at h
  obtain ⟨table, between, htable, h⟩ := StateT.bind_eq_ok h
  obtain ⟨e, -, h⟩ := entity_bind_ok h
  obtain ⟨next, bound, hpath, h⟩ := StateT.bind_eq_ok h
  obtain ⟨found, _, hfound, h⟩ := StateT.bind_eq_ok h
  rw [(findBinding_ok hfound).2] at h
  obtain ⟨condition, written, hon, h⟩ := StateT.bind_eq_ok h
  refine ⟨table, between, next, bound, htable, hpath, e, found, condition, ?_⟩
  cases auto with
  | false =>
    cases h
    exact ⟨hon, _, _, rfl⟩
  | true =>
    obtain ⟨_, _, hcurrent, h⟩ := StateT.bind_eq_ok h
    cases hcurrent
    cases h
    exact ⟨hon, _, _, rfl⟩

/-- Emission that succeeds has reached whatever registration has reached. -/
theorem reaches_of_ok {es : List Element} {afterSql : Bool} {before reached : CompileState}
    {address : List Nat} {c : Construct}
    (hreaches : (Registration.walk s).Reaches es before address c reached)
    (h : (elements s format afterSql es).run state = .ok (passage, state')) :
    ∃ visited, (walk s format).Reaches es state address c visited := by
  induction hreaches generalizing afterSql passage state state' with
  | here e rest => exact ⟨state, .here e rest state⟩
  | later helement hrest ih =>
    obtain ⟨separate, first, between, others, hfirst, hothers, -⟩ := elements_cons_ok h
    obtain ⟨visited, hvisited⟩ := ih hothers
    exact ⟨visited, .later ⟨separate, first, hfirst⟩ hvisited⟩
  | subquery henter hinner ih =>
    obtain ⟨_, _, _, _, helement, -⟩ := elements_cons_ok h
    rw [element] at helement
    obtain ⟨scope, queue, inner, written, hqueue, hrun, -, -⟩ := inSubquery_ok helement
    obtain ⟨visited, hvisited⟩ := ih hrun
    exact ⟨visited, .subquery ⟨scope, queue, hqueue, rfl⟩ hvisited⟩
  | condition hinner ih =>
    obtain ⟨_, _, _, _, helement, -⟩ := elements_cons_ok h
    rw [element] at helement
    obtain ⟨inner, written, hrun, -⟩ := StateT.bind_eq_ok helement
    rw [condition] at hrun
    obtain ⟨visited, hvisited⟩ := ih hrun
    exact ⟨visited, .condition hvisited⟩
  | derived kind entity inner rest correlated aliasName path onClause auto =>
    exact ⟨state, .derived kind entity inner rest correlated aliasName path onClause auto state⟩
  | inDerived henter hinner ih =>
    obtain ⟨_, _, _, _, helement, -⟩ := elements_cons_ok h
    rw [element] at helement
    obtain ⟨_, _, _, _, htarget, -, -⟩ := join_ok helement
    rw [joinTarget] at htarget
    obtain ⟨scope, queue, inner, written, hqueue, hrun, -, -⟩ := inSubquery_ok htarget
    obtain ⟨visited, hvisited⟩ := ih hrun
    exact ⟨visited, .inDerived ⟨scope, queue, hqueue, rfl⟩ hvisited⟩
  | @joined j =>
    obtain ⟨_, _, _, _, helement, -⟩ := elements_cons_ok h
    obtain ⟨kind, target, aliasName, path, onClause, auto⟩ := j
    rw [element] at helement
    obtain ⟨table, between, _, _, htable, -, -⟩ := join_ok helement
    exact ⟨between, .joined ⟨table, htable⟩⟩
  | on htarget hjoined hinner ih =>
    obtain ⟨_, _, _, _, helement, -⟩ := elements_cons_ok h
    rw [element] at helement
    obtain ⟨table, between, next, bound, htable, hpath, e, found, _, hon, -⟩ := join_ok helement
    rw [joinOn] at hon
    obtain ⟨inner, written, hrun⟩ := inCondition_ok hon
    obtain ⟨visited, hvisited⟩ := ih hrun
    exact ⟨visited, .on ⟨table, htable⟩ ⟨next, hpath⟩ hvisited⟩

end Emission

end RelMap
