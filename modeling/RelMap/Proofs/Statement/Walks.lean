import RelMap.Proofs.Statement.Clauses
import RelMap.Proofs.Statement.Registered

/-!
# The two walks in step

Emission visits the scopes in the order in which registration opened them, takes back all that
registration has queued, and covers what it mentions.
-/

namespace RelMap

open Compiling

/-- The queue of a query in a scope of its own. -/
def Queued.opening (scope : ScopeId) (q : Queued) : Queued :=
  { q with subqueries := scope :: q.subqueries }

/-- In a scope, emission is about to take `q` from the queues, and has all that was known after
registration. -/
structure Ready (after : CompileState) (scope : ScopeId) (q : Queued) (state : CompileState) :
    Prop where
  grows : after.resolver.Grows state.resolver
  current : state.resolver.current = scope
  queued : ∃ rest, state.queued = q ++ rest

namespace Ready

variable {between after state state' : CompileState} {scope : ScopeId} {q q' : Queued}

theorem first (h : Ready after scope (q ++ q') state) (hreg : Registered q' between after) :
    Ready between scope q state := by
  obtain ⟨rest, hrest⟩ := h.queued
  rw [Queued.append_assoc] at hrest
  exact ⟨hreg.advances.grows.trans h.grows, h.current, q' ++ rest, hrest⟩

theorem second {around : List ConditionKey} {p : Passage}
    (h : Ready after scope (q ++ q') state) (hemit : Emitted around q state state' p) :
    Ready after scope q' state' := by
  obtain ⟨rest, hrest⟩ := h.queued
  rw [Queued.append_assoc, hemit.queued] at hrest
  exact ⟨h.grows.trans hemit.advances.grows, hemit.advances.current.trans h.current, rest,
    Queued.append_cancel_left hrest⟩

theorem of_quiet {α : Type} {x : Compiling α} (h : Ready after scope q state) (hx : Quiet x) {a : α}
    (hrun : x.run state = .ok (a, state')) : Ready after scope q state' := by
  have hadvances := hx.advances hrun
  refine ⟨h.grows.trans hadvances.grows, hadvances.current.trans h.current, ?_⟩
  rw [hx.queued hrun]
  exact h.queued

theorem live {before : CompileState} (h : Ready after before.resolver.current q state)
    (hreg : Registered q' before after) (hlive : before.resolver.Live) : state.resolver.Live := by
  have hcurrent : state.resolver.current = after.resolver.current := by
    rw [h.current, hreg.advances.current]
  exact h.grows.live hcurrent (hreg.advances.live hlive)

end Ready

/-! ## Queries in scopes of their own -/

namespace CompileState

def opened (state : CompileState) (correlated : Bool) : CompileState :=
  { state with
    resolver := state.resolver.push correlated
    subqueries := state.subqueries ++ [state.resolver.scopes.length] }

def entered (state : CompileState) (scope : ScopeId) (rest : List ScopeId) : CompileState :=
  { state with resolver := state.resolver.enter scope, subqueries := rest }

def left (state : CompileState) : CompileState := { state with resolver := state.resolver.pop }

/-- The state in which emission starts. -/
def emitting (registered : CompileState) : CompileState :=
  { registered with resolver := registered.resolver.enter 0 }

end CompileState

namespace Registration

variable {correlated : Bool} {reg : Compiling Unit} {before after walked : CompileState} {q : Queued}

theorem inNewScope_ok (h : (inNewScope correlated reg).run before = .ok ((), after)) :
    ∃ walked, reg.run (before.opened correlated) = .ok ((), walked) ∧ after = walked.left := by
  unfold inNewScope at h
  obtain ⟨_, _, hpush, h⟩ := StateT.bind_eq_ok h
  cases hpush
  obtain ⟨_, _, hscope, h⟩ := StateT.bind_eq_ok h
  cases hscope
  obtain ⟨_, _, hqueue, h⟩ := StateT.bind_eq_ok h
  cases hqueue
  obtain ⟨_, walked, hbody, h⟩ := StateT.bind_eq_ok h
  cases h
  exact ⟨walked, hbody, rfl⟩

theorem parent?_opened (hq : Registered q (before.opened correlated) walked) :
    walked.resolver.parent? before.resolver.scopes.length = some before.resolver.current :=
  hq.advances.grows.parent? Resolver.parent?_push

/-- A walk inside a new scope queues the scope before all that it queues itself. -/
theorem opened_registered (hq : Registered q (before.opened correlated) walked) :
    Registered (.opening before.resolver.scopes.length q) before walked.left := by
  have hcurrent : walked.resolver.current = before.resolver.scopes.length := hq.advances.current
  refine ⟨⟨?_, ?_⟩, ?_, ?_⟩
  · exact (Resolver.grows_push.trans hq.advances.grows).trans Resolver.grows_pop
  · apply Resolver.current_pop_of_parent?
    rw [hcurrent]
    exact parent?_opened hq
  · exact hq.queued.trans (Queued.ext (List.append_assoc _ _ _) rfl rfl)
  · intro joins hjoins j hj
    exact (hq.noted joins hjoins j hj).mono Resolver.grows_pop

end Registration

namespace Emission

variable {emit : Compiling Passage} {state state' written : CompileState} {scope : ScopeId}
  {rest : List ScopeId} {passage inner : Passage} {q : Queued}

theorem inSubquery_ok (h : (inSubquery emit).run state = .ok (passage, state')) :
    ∃ scope rest inner written, state.subqueries = scope :: rest ∧
      emit.run (state.entered scope rest) = .ok (inner, written) ∧
      passage = inner.parenthesized ∧ state' = written.left := by
  unfold inSubquery at h
  obtain ⟨scope, _, hnext, h⟩ := StateT.bind_eq_ok h
  obtain ⟨rest, hqueue, rfl⟩ := nextSubquery_ok hnext
  obtain ⟨_, _, henter, h⟩ := StateT.bind_eq_ok h
  cases henter
  obtain ⟨inner, written, hinner, h⟩ := StateT.bind_eq_ok h
  obtain ⟨_, _, hleave, h⟩ := StateT.bind_eq_ok h
  cases hleave
  cases h
  exact ⟨scope, rest, inner, written, hqueue, hinner, rfl, rfl⟩

/-- The scope is entered for the query and left again. -/
theorem entered_emitted (hqueue : state.subqueries = scope :: rest)
    (hparent : state.resolver.parent? scope = some state.resolver.current)
    (h : Emitted [] q (state.entered scope rest) written inner) :
    Emitted [] (.opening scope q) state written.left inner.parenthesized := by
  have hcurrent : written.resolver.current = scope := h.advances.current
  have hgrows : state.resolver.Grows written.resolver :=
    Resolver.grows_enter.trans h.advances.grows
  refine ⟨⟨hgrows.trans Resolver.grows_pop, ?_⟩, h.tables, ?_, ?_, ?_⟩
  · apply Resolver.current_pop_of_parent?
    rw [hcurrent]
    exact hgrows.parent? hparent
  · have hsubqueries := congrArg Queued.subqueries h.queued
    have hautoJoins := congrArg Queued.autoJoins h.queued
    have hjoinPaths := congrArg Queued.joinPaths h.queued
    refine Queued.ext ?_ hautoJoins hjoinPaths
    exact hqueue.trans (congrArg (scope :: ·) hsubqueries)
  · intro m hm
    rw [Passage.mentions_parenthesized] at hm
    exact (h.covered m hm).mono Resolver.grows_pop
  · intro joins hjoins j hj
    unfold Passage.HasJoin
    rw [Passage.joins_parenthesized]
    exact h.planned joins hjoins j hj

end Emission

/-- Emission enters the scope that registration has opened, ready for what is queued there. -/
theorem Ready.entered {correlated : Bool} {before walked state : CompileState} {q : Queued}
    {scope : ScopeId} {rest : List ScopeId} (hq : Registered q (before.opened correlated) walked)
    (h : Ready walked.left before.resolver.current (.opening before.resolver.scopes.length q) state)
    (hqueue : state.subqueries = scope :: rest) :
    scope = before.resolver.scopes.length ∧
      state.resolver.parent? scope = some state.resolver.current ∧
      Ready walked scope q (state.entered scope rest) := by
  obtain ⟨others, hothers⟩ := h.queued
  have hsubqueries := congrArg Queued.subqueries hothers
  have hautoJoins := congrArg Queued.autoJoins hothers
  have hjoinPaths := congrArg Queued.joinPaths hothers
  obtain ⟨rfl, hrest⟩ := List.cons.inj (hqueue.symm.trans hsubqueries)
  have hgrows : walked.resolver.Grows state.resolver := Resolver.grows_pop.trans h.grows
  refine ⟨rfl, ?_, hgrows.trans Resolver.grows_enter, rfl, others, ?_⟩
  · rw [h.current]
    exact hgrows.parent? (Registration.parent?_opened hq)
  · exact Queued.ext hrest hautoJoins hjoinPaths

/-! ## Whole queries -/

theorem live_initial : ({} : CompileState).resolver.Live := Nat.zero_lt_one

theorem ready_emitting {registered : CompileState} {q : Queued} (hq : Registered q {} registered) :
    Ready registered 0 q registered.emitting := by
  have hqueued : registered.queued = q := hq.queued
  exact ⟨Resolver.grows_enter, rfl, .nothing, hqueued.trans Queued.append_nothing.symm⟩

/-! ## Walks in step -/

/-- What the one walk registers in a scope is what the other takes back. -/
def InStep (scope : ScopeId) (around : List ConditionKey) (reg : Compiling Unit)
    (emit : Compiling Passage) : Prop :=
  ∀ before after, before.resolver.Live → before.resolver.current = scope →
    reg.run before = .ok ((), after) →
    ∃ q, Registered q before after ∧
      ∀ state passage state', Ready after scope q state →
        emit.run state = .ok (passage, state') → Emitted around q state state' passage

namespace InStep

variable {scope : ScopeId} {around : List ConditionKey} {reg : Compiling Unit}
  {emit : Compiling Passage}

theorem of_nothing
    (hreg : ∀ before after, reg.run before = .ok ((), after) → Registered .nothing before after)
    (hemit : ∀ state passage state', state.resolver.Live → state.resolver.current = scope →
      emit.run state = .ok (passage, state') → Emitted around .nothing state state' passage) :
    InStep scope around reg emit := by
  intro before after hlive hscope hrun
  subst hscope
  have hregistered := hreg before after hrun
  refine ⟨.nothing, hregistered, ?_⟩
  intro state passage state' hready hrun'
  exact hemit state passage state' (hready.live hregistered hlive) hready.current hrun'

theorem of_pure (hemit : ∀ state passage state', emit.run state = .ok (passage, state') →
      Emitted around .nothing state state' passage) : InStep scope around (pure ()) emit :=
  of_nothing Registered.of_pure fun state passage state' _ _ h => hemit state passage state' h

theorem subquery {correlated : Bool} (h : ∀ scope, InStep scope [] reg emit) :
    InStep scope [] (Registration.inNewScope correlated reg) (Emission.inSubquery emit) := by
  intro before after hlive hscope hrun
  subst hscope
  obtain ⟨walked, hbody, rfl⟩ := Registration.inNewScope_ok hrun
  obtain ⟨q, hq, hemit⟩ := h _ (before.opened correlated) walked Resolver.live_push rfl hbody
  refine ⟨_, Registration.opened_registered hq, ?_⟩
  intro state passage state' hready hrun
  obtain ⟨scope, rest, inner, written, hqueue, hinner, rfl, rfl⟩ := Emission.inSubquery_ok hrun
  obtain ⟨rfl, hparent, hentered⟩ := hready.entered hq hqueue
  exact Emission.entered_emitted hqueue hparent (hemit _ inner written hentered hinner)

end InStep

end RelMap
