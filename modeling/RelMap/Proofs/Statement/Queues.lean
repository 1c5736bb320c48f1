import RelMap.Proofs.Scope.Nesting
import RelMap.Proofs.Statement.Operations

/-!
# The queues between the walks

Registration appends to the queues of a compilation what emission takes from their front. Most
operations of both walks leave the queues alone.
-/

namespace RelMap

/-- What registration queues for emission. -/
@[ext]
structure Queued where
  subqueries : List ScopeId
  autoJoins : List (List AutoJoin)
  joinPaths : List String

namespace Queued

def nothing : Queued := ⟨[], [], []⟩

def ofPath (path : String) : Queued := ⟨[], [], [path]⟩

instance : Append Queued where
  append q q' :=
    ⟨q.subqueries ++ q'.subqueries, q.autoJoins ++ q'.autoJoins, q.joinPaths ++ q'.joinPaths⟩

variable {q q' q'' : Queued}

theorem append_nothing : q ++ nothing = q :=
  Queued.ext (List.append_nil _) (List.append_nil _) (List.append_nil _)

theorem append_assoc : q ++ q' ++ q'' = q ++ (q' ++ q'') :=
  Queued.ext (List.append_assoc _ _ _) (List.append_assoc _ _ _) (List.append_assoc _ _ _)

theorem append_cancel_left (h : q ++ q' = q ++ q'') : q' = q'' := by
  have hsubqueries := List.append_cancel_left (congrArg Queued.subqueries h)
  have hautoJoins := List.append_cancel_left (congrArg Queued.autoJoins h)
  have hjoinPaths := List.append_cancel_left (congrArg Queued.joinPaths h)
  exact Queued.ext hsubqueries hautoJoins hjoinPaths

/-- Nothing is left of a queue that has been taken back as a whole. -/
theorem eq_nothing_of_append_eq_left (h : q ++ q' = q) : q' = nothing :=
  append_cancel_left (h.trans append_nothing.symm)

end Queued

namespace CompileState

def queued (state : CompileState) : Queued :=
  ⟨state.subqueries, state.autoJoins, state.joinPaths⟩

/-- The scopes grow, and the current one is the same again. -/
structure Advances (state state' : CompileState) : Prop where
  grows : state.resolver.Grows state'.resolver
  current : state'.resolver.current = state.resolver.current

namespace Advances

variable {state state' state'' : CompileState}

theorem of_resolver (h : state'.resolver = state.resolver) : state.Advances state' :=
  ⟨.of_scopes (congrArg _ h), congrArg _ h⟩

theorem trans (h : state.Advances state') (h' : state'.Advances state'') :
    state.Advances state'' :=
  ⟨h.grows.trans h'.grows, h'.current.trans h.current⟩

theorem live (h : state.Advances state') (hlive : state.resolver.Live) : state'.resolver.Live :=
  h.grows.live h.current hlive

end Advances

end CompileState

namespace Compiling

variable {α β : Type} {state state' : CompileState}

theorem nextSubquery_ok {scope : ScopeId} (h : nextSubquery.run state = .ok (scope, state')) :
    ∃ rest, state.subqueries = scope :: rest ∧ state' = { state with subqueries := rest } := by
  unfold nextSubquery at h
  obtain ⟨_, _, h0, h⟩ := StateT.bind_eq_ok h
  cases h0
  split at h
  · next hqueue =>
    cases h
    exact ⟨_, hqueue, rfl⟩
  · cases h

theorem nextJoinPath_ok {path : String} (h : nextJoinPath.run state = .ok (path, state')) :
    ∃ rest, state.joinPaths = path :: rest ∧ state' = { state with joinPaths := rest } := by
  unfold nextJoinPath at h
  obtain ⟨_, _, h0, h⟩ := StateT.bind_eq_ok h
  cases h0
  split at h
  · next hqueue =>
    cases h
    exact ⟨_, hqueue, rfl⟩
  · cases h

/-! ## Items at the front -/

theorem run_nextSubquery {scope : ScopeId} {rest : List ScopeId}
    (hqueue : state.subqueries = scope :: rest) :
    nextSubquery.run state = .ok (scope, { state with subqueries := rest }) := by
  obtain ⟨resolver, roots, subqueries, autoJoins, joinPaths, bindEntity⟩ := state
  cases hqueue
  rfl

theorem run_nextAutoJoins {joins : List AutoJoin} {rest : List (List AutoJoin)}
    (hqueue : state.autoJoins = joins :: rest) :
    nextAutoJoins.run state = .ok (joins, { state with autoJoins := rest }) := by
  obtain ⟨resolver, roots, subqueries, autoJoins, joinPaths, bindEntity⟩ := state
  cases hqueue
  rfl

theorem run_nextJoinPath {path : String} {rest : List String}
    (hqueue : state.joinPaths = path :: rest) :
    nextJoinPath.run state = .ok (path, { state with joinPaths := rest }) := by
  obtain ⟨resolver, roots, subqueries, autoJoins, joinPaths, bindEntity⟩ := state
  cases hqueue
  rfl

/-! ## Operations that leave the queues and the scopes alone -/

def Quiet (x : Compiling α) : Prop :=
  ∀ state a state', x.run state = .ok (a, state') →
    state'.resolver = state.resolver ∧ state'.queued = state.queued

namespace Quiet

theorem pure (a : α) : Quiet (pure a : Compiling α) := by
  intro state b state' h
  cases h
  exact ⟨rfl, rfl⟩

theorem throw (e : Error) : Quiet (throw e : Compiling α) := by
  intro state b state' h
  cases h

theorem lift (x : Except Error α) : Quiet (StateT.lift x : Compiling α) := by
  intro state b state' h
  obtain ⟨-, rfl⟩ := StateT.lift_eq_ok h
  exact ⟨rfl, rfl⟩

theorem get : Quiet (get : Compiling CompileState) := by
  intro state b state' h
  cases h
  exact ⟨rfl, rfl⟩

theorem bind {x : Compiling α} {f : α → Compiling β} (hx : Quiet x) (hf : ∀ a, Quiet (f a)) :
    Quiet (x >>= f) := by
  intro state b state' h
  obtain ⟨a, between, hrun, h⟩ := StateT.bind_eq_ok h
  obtain ⟨hresolver, hqueued⟩ := hx state a between hrun
  obtain ⟨hresolver', hqueued'⟩ := hf a between b state' h
  exact ⟨hresolver'.trans hresolver, hqueued'.trans hqueued⟩

theorem throw_bind (e : Error) (f : α → Compiling β) : Quiet (MonadExcept.throw e >>= f) := by
  intro state b state' h
  obtain ⟨_, _, h0, -⟩ := StateT.bind_eq_ok h
  cases h0

theorem mapM {f : α → Compiling β} (hf : ∀ a, Quiet (f a)) (items : List α) :
    Quiet (items.mapM f) := by
  induction items with
  | nil =>
    rw [List.mapM_nil]
    exact pure []
  | cons a rest ih =>
    rw [List.mapM_cons]
    apply (hf a).bind
    intro b
    apply ih.bind
    intro bs
    exact pure (b :: bs)

theorem advances {x : Compiling α} (hx : Quiet x) {a : α}
    (h : x.run state = .ok (a, state')) : state.Advances state' :=
  .of_resolver (hx state a state' h).1

theorem tables {x : Compiling α} (hx : Quiet x) {a : α}
    (h : x.run state = .ok (a, state')) : state.resolver.SameTables state'.resolver :=
  .of_scopes (congrArg Resolver.scopes (hx state a state' h).1)

theorem queued {x : Compiling α} (hx : Quiet x) {a : α}
    (h : x.run state = .ok (a, state')) : state'.queued = state.queued :=
  (hx state a state' h).2

end Quiet

theorem quiet_findBinding (entity : EntityName) (path : Option String) (filter : ScopeFilter) :
    Quiet (findBinding entity path filter) := by
  apply Quiet.get.bind
  intro state
  exact Quiet.lift _

theorem quiet_relationSource (source : Option TableRef) : Quiet (relationSource source) := by
  unfold relationSource
  cases source with
  | some t => exact quiet_findBinding _ _ _
  | none =>
    apply Quiet.get.bind
    intro state
    split
    · exact quiet_findBinding _ _ _
    · exact .throw _

end Compiling

end RelMap
