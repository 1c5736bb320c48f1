import Mathlib.Data.List.Basic
import RelMap.Reference.Store

/-!
# Loading at most once

Copies of a reference share a cell, which the first fetch that succeeds fills. Main statement: in
every sequence of fetches the fetcher is called once for each of them up to the first success, every
failure is handed on, and from then on all get the instance that is in the cell. What a reference is
compared and hashed by stays out of it.
-/

namespace RelMap

variable {σ : Type}

/-! ## Logged fetches -/

structure FetcherCall where
  entity : EntityName
  key : List SqlValue
  answer : Except Error Record

def Fetcher.logged (fetcher : Fetcher σ) : Fetcher (σ × List FetcherCall) where
  fetch entity key := fun (state, log) =>
    let (answer, state) := fetcher.fetch entity key state
    (answer, state, log ++ [⟨entity, key, answer⟩])

structure LoadStep where
  target : Reference
  /-- The calls of the fetcher that it took. -/
  calls : List FetcherCall
  answer : Except Error (Option SharedRecord)
  /-- Whether the reference is loaded after it. -/
  loaded : Bool

namespace LoadStep

variable (r : Reference) (key : List SqlValue) (cell : Nat)

def failure (error : Error) : LoadStep :=
  ⟨r, [⟨r.entity, key, .error error⟩], .error error, false⟩

/-- The fetcher is asked once, and its record is the instance of the cell from now on. -/
def success (content : Record) : LoadStep :=
  ⟨r, [⟨r.entity, key, .ok content⟩], .ok (some ⟨.fetched cell, content⟩), true⟩

def repeated (content : Record) : LoadStep := ⟨r, [], .ok (some ⟨.fetched cell, content⟩), true⟩

end LoadStep

/-- The reference waits for its record to be put into the cell. -/
def Reference.waitsFor (cell : Nat) (r : Reference) : Bool :=
  match r.source with
  | .pending c => c == cell
  | _ => false

def Reference.settled? (r : Reference) : Option (Except Error (Option SharedRecord)) :=
  match r.key, r.source with
  | none, _ => some (.ok none)
  | some _, .loaded handle content => some (.ok (some ⟨handle, content⟩))
  | some _, .unavailable => some (.error (.usage .noFetcher))
  | some _, .pending _ => none

theorem Reference.exists_cell_of_settled?_eq_none {r : Reference} (h : r.settled? = none) :
    ∃ key cell, r.key = some key ∧ r.source = .pending cell := by
  obtain ⟨entity, key, source⟩ := r
  cases key with
  | none => cases h
  | some key =>
    cases source with
    | pending cell => exact ⟨key, cell, rfl, rfl⟩
    | unavailable | loaded => cases h

/-- What references are compared and hashed by. -/
def Reference.identity (r : Reference) : EntityName × Option (List SqlValue) := (r.entity, r.key)

theorem Reference.same_iff {a b : Reference} : a.same b = true ↔ a.identity = b.identity := by
  simp [same, identity]

namespace ReferenceStore

variable {store : ReferenceStore σ} {r : Reference} {key : List SqlValue} {cell : Nat}
  {content : Record}

def step (store : ReferenceStore σ) (r : Reference) : LoadStep × ReferenceStore σ :=
  let (answer, after) :=
    (fetch r).run.run ⟨store.fetcher.logged, (store.state, []), store.cells⟩
  let store' := { store with state := after.state.1, cells := after.cells }
  (⟨r, after.state.2, answer, store'.isLoaded r⟩, store')

def steps (store : ReferenceStore σ) : List Reference → List LoadStep × ReferenceStore σ
  | [] => ([], store)
  | r :: rest =>
    let (first, store) := store.step r
    (store.steps rest).map (first :: ·) id

/-- The reference as it is found in the store, with its record if that has been fetched. -/
def view (store : ReferenceStore σ) (r : Reference) : Reference :=
  match r.source with
  | .pending cell =>
    match store.cells.lookup cell with
    | some content => { r with source := .loaded (.fetched cell) content }
    | none => r
  | _ => r

theorem identity_view (store : ReferenceStore σ) (r : Reference) :
    (store.view r).identity = r.identity := by
  obtain ⟨entity, key, source⟩ := r
  cases source with
  | unavailable | loaded => rfl
  | pending cell =>
    simp only [view]
    cases store.cells.lookup cell <;> rfl

/-! ## One fetch -/

theorem run_fetch_settled {answer : Except Error (Option SharedRecord)}
    (h : r.settled? = some answer) (store : ReferenceStore σ) :
    (fetch r).run.run store = (answer, store) := by
  obtain ⟨entity, key, source⟩ := r
  cases key with
  | none =>
    cases h
    rfl
  | some key =>
    cases source with
    | unavailable | loaded =>
      cases h
      rfl
    | pending => cases h

theorem run_fetch_pending (hkey : r.key = some key) (hsource : r.source = .pending cell) :
    (fetch r).run.run store =
      match store.cells.lookup cell with
      | some content => (.ok (some ⟨.fetched cell, content⟩), store)
      | none =>
        match store.fetcher.fetch r.entity key store.state with
        | (.error error, state) => (.error error, { store with state })
        | (.ok content, state) => (.ok (some ⟨.fetched cell, content⟩),
          { store with state, cells := (cell, content) :: store.cells }) := by
  obtain ⟨⟨load⟩, state, cells⟩ := store
  unfold fetch
  rw [hkey, hsource]
  change (match cells.lookup cell with | some content => _ | none => _ :
    ExceptT Error (StateM (ReferenceStore σ)) (Option SharedRecord)).run.run _ = _
  cases cells.lookup cell with
  | some content => rfl
  | none =>
    dsimp only
    generalize load r.entity key state = result
    obtain ⟨error | content, state'⟩ := result <;> rfl

theorem step_settled {answer : Except Error (Option SharedRecord)} (h : r.settled? = some answer) :
    store.step r = (⟨r, [], answer, store.isLoaded r⟩, store) := by
  rw [step, run_fetch_settled h]

theorem step_pending (hkey : r.key = some key) (hsource : r.source = .pending cell) :
    store.step r =
      match store.cells.lookup cell with
      | some content => (⟨r, [], .ok (some ⟨.fetched cell, content⟩), true⟩, store)
      | none =>
        match store.fetcher.fetch r.entity key store.state with
        | (.error error, state) =>
          (⟨r, [⟨r.entity, key, .error error⟩], .error error, false⟩, { store with state })
        | (.ok content, state) =>
          (⟨r, [⟨r.entity, key, .ok content⟩], .ok (some ⟨.fetched cell, content⟩), true⟩,
            { store with state, cells := (cell, content) :: store.cells }) := by
  obtain ⟨⟨load⟩, state, cells⟩ := store
  rw [step, run_fetch_pending hkey hsource]
  cases hcell : cells.lookup cell with
  | some content => simp [isLoaded, hsource, hcell]
  | none =>
    dsimp only [Fetcher.logged]
    generalize load r.entity key state = result
    obtain ⟨error | content, state'⟩ := result <;> simp [isLoaded, hsource, hcell]

/-- The log changes nothing of what a fetch answers, nor of the store after it. -/
theorem run_fetch_eq_step (store : ReferenceStore σ) (r : Reference) :
    (fetch r).run.run store = ((store.step r).1.answer, (store.step r).2) := by
  cases hsettled : r.settled? with
  | some answer => rw [run_fetch_settled hsettled, step_settled hsettled]
  | none =>
    obtain ⟨key, cell, hkey, hsource⟩ := Reference.exists_cell_of_settled?_eq_none hsettled
    rw [run_fetch_pending hkey hsource, step_pending hkey hsource]
    cases store.cells.lookup cell with
    | some content => rfl
    | none =>
      generalize store.fetcher.fetch r.entity key store.state = result
      obtain ⟨error | content, state'⟩ := result <;> rfl

/-! ## Steps on one cell -/

theorem step_of_filled (hkey : r.key = some key) (hsource : r.source = .pending cell)
    (hcell : store.cells.lookup cell = some content) :
    store.step r = (.repeated r cell content, store) := by
  rw [step_pending hkey hsource, hcell]
  rfl

/-- On an empty cell a fetch calls the fetcher once, and fills the cell if that succeeds. -/
theorem step_of_empty (hkey : r.key = some key) (hsource : r.source = .pending cell)
    (hcell : store.cells.lookup cell = none) :
    (∃ error state, store.step r = (.failure r key error, { store with state })) ∨
    ∃ content state, store.step r = (.success r key cell content,
      { store with state, cells := (cell, content) :: store.cells }) := by
  rw [step_pending hkey hsource, hcell]
  cases store.fetcher.fetch r.entity key store.state with
  | mk answer state =>
    cases answer with
    | error error => exact .inl ⟨error, state, rfl⟩
    | ok content => exact .inr ⟨content, state, rfl⟩

theorem lookup_step (h : r.waitsFor cell = false) :
    (store.step r).2.cells.lookup cell = store.cells.lookup cell := by
  cases hsettled : r.settled? with
  | some answer => rw [step_settled hsettled]
  | none =>
    obtain ⟨key, other, hkey, hsource⟩ := Reference.exists_cell_of_settled?_eq_none hsettled
    have hne : cell ≠ other := by
      rintro rfl
      simp [Reference.waitsFor, hsource] at h
    cases hcell : store.cells.lookup other with
    | some content => rw [step_of_filled hkey hsource hcell]
    | none =>
      obtain ⟨error, state, hstep⟩ | ⟨content, state, hstep⟩ := step_of_empty hkey hsource hcell
      · rw [hstep]
      · simp [hstep, List.lookup_cons, beq_false_of_ne hne]

theorem target_step (store : ReferenceStore σ) (r : Reference) : (store.step r).1.target = r := rfl

/-! ## Runs -/

theorem steps_cons (store : ReferenceStore σ) (r : Reference) (rest : List Reference) :
    store.steps (r :: rest) =
      ((store.step r).1 :: ((store.step r).2.steps rest).1, ((store.step r).2.steps rest).2) := rfl

theorem map_target_steps (store : ReferenceStore σ) (calls : List Reference) :
    (store.steps calls).1.map (·.target) = calls := by
  induction calls generalizing store with
  | nil => rfl
  | cons r rest ih => rw [steps_cons, List.map_cons, ih, target_step]

/-- Fetches through a reference without a cell all answer alike, and none asks the fetcher. -/
theorem steps_of_settled {answer : Except Error (Option SharedRecord)}
    (h : r.settled? = some answer) (store : ReferenceStore σ) (calls : List Reference) :
    ∀ s ∈ (store.steps calls).1, s.target = r → s.calls = [] ∧ s.answer = answer := by
  induction calls generalizing store with
  | nil => simp [steps]
  | cons first rest ih =>
    intro s hs htarget
    rw [steps_cons, List.mem_cons] at hs
    cases hs with
    | inl hfirst =>
      rw [hfirst, target_step] at htarget
      rw [hfirst, htarget, step_settled h]
      exact ⟨rfl, rfl⟩
    | inr hrest => exact ih _ s hrest htarget

section Cell

variable {calls : List Reference} (hkey : r.key = some key) (hsource : r.source = .pending cell)
  (hcopies : ∀ other ∈ calls, other.waitsFor cell → other = r)

include hkey hsource hcopies

theorem steps_of_filled (hcell : store.cells.lookup cell = some content) :
    ∃ later, (store.steps calls).1.filter (·.target.waitsFor cell) =
      List.replicate later (.repeated r cell content) := by
  induction calls generalizing store with
  | nil => exact ⟨0, rfl⟩
  | cons first rest ih =>
    rw [List.forall_mem_cons] at hcopies
    rw [steps_cons, List.filter_cons, target_step]
    by_cases hwaits : first.waitsFor cell
    · rw [if_pos hwaits]
      obtain rfl := hcopies.1 hwaits
      rw [step_of_filled hkey hsource hcell]
      obtain ⟨later, hlater⟩ := ih hcopies.2 hcell
      exact ⟨later + 1, by rw [hlater, List.replicate_succ]⟩
    · rw [if_neg hwaits]
      exact ih hcopies.2 ((lookup_step (by simpa using hwaits)).trans hcell)

/-- From an empty cell on: failures, then perhaps the one success and what follows a filled
cell. -/
theorem steps_of_empty (hcell : store.cells.lookup cell = none) :
    ∃ errors : List Error,
      (store.steps calls).1.filter (·.target.waitsFor cell) = errors.map (.failure r key) ∨
      ∃ content later, (store.steps calls).1.filter (·.target.waitsFor cell) =
        errors.map (.failure r key) ++ .success r key cell content ::
          List.replicate later (.repeated r cell content) := by
  induction calls generalizing store with
  | nil => exact ⟨[], .inl rfl⟩
  | cons first rest ih =>
    rw [List.forall_mem_cons] at hcopies
    rw [steps_cons, List.filter_cons, target_step]
    by_cases hwaits : first.waitsFor cell
    · rw [if_pos hwaits]
      obtain rfl := hcopies.1 hwaits
      obtain ⟨error, state, hstep⟩ | ⟨content, state, hstep⟩ := step_of_empty hkey hsource hcell
      · have hstill : ({ store with state } : ReferenceStore σ).cells.lookup cell = none := hcell
        obtain ⟨errors, hfailures | ⟨content, later, hrun⟩⟩ := ih hcopies.2 hstill
        · exact ⟨error :: errors, .inl (by rw [hstep, hfailures, List.map_cons])⟩
        · refine ⟨error :: errors, .inr ⟨content, later, ?_⟩⟩
          rw [hstep, hrun, List.map_cons, List.cons_append]
      · have hfilled : (store.step first).2.cells.lookup cell = some content := by
          rw [hstep, List.lookup_cons_self]
        obtain ⟨later, hlater⟩ := steps_of_filled hkey hsource hcopies.2 hfilled
        exact ⟨[], .inr ⟨content, later, by rw [hlater, hstep, List.map_nil, List.nil_append]⟩⟩
    · rw [if_neg hwaits]
      exact ih hcopies.2 ((lookup_step (by simpa using hwaits)).trans hcell)

end Cell

/-! ## Main statement -/

/-- A reference among the fetches of a sequence, which start from the given store. -/
structure LoadsOnce (store : ReferenceStore σ) (r : Reference) (calls : List Reference) : Prop where
  /-- Every fetch has its step. -/
  targets : (store.steps calls).1.map (·.target) = calls
  /-- A null reference has no record, and the fetcher is not asked for one. -/
  null : r.key = none →
    ∀ s ∈ (store.steps calls).1, s.target = r → s.calls = [] ∧ s.answer = .ok none
  /-- A reference that was built with its record keeps to that instance. -/
  given : ∀ key handle content, r.key = some key → r.source = .loaded handle content →
    ∀ s ∈ (store.steps calls).1, s.target = r →
      s.calls = [] ∧ s.answer = .ok (some ⟨handle, content⟩)
  /-- A reference with neither a record nor a fetcher reports that. -/
  unavailable : ∀ key, r.key = some key → r.source = .unavailable →
    ∀ s ∈ (store.steps calls).1, s.target = r →
      s.calls = [] ∧ s.answer = .error (.usage .noFetcher)
  /-- One call for each fetch up to the first success, none after it. -/
  unloaded : ∀ key cell, r.key = some key → r.source = .pending cell → store.isLoaded r = false →
    ∃ errors : List Error,
      (store.steps calls).1.filter (·.target.waitsFor cell) = errors.map (.failure r key) ∨
      ∃ content later, (store.steps calls).1.filter (·.target.waitsFor cell) =
        errors.map (.failure r key) ++ .success r key cell content ::
          List.replicate later (.repeated r cell content)
  /-- A reference loaded earlier needs no call. -/
  loaded : ∀ key cell content, r.key = some key → r.source = .pending cell →
    store.cells.lookup cell = some content →
    ∃ later, (store.steps calls).1.filter (·.target.waitsFor cell) =
      List.replicate later (.repeated r cell content)
  /-- Whatever was loaded on the way, the reference is the same to `same` and to hashing. -/
  same : ∀ other, ((store.steps calls).2.view r).same other = r.same other
  identity : ((store.steps calls).2.view r).identity = r.identity

/-- A reference loads at most once, the other references of a sequence being copies of it or of
references with cells of their own. -/
theorem loads_at_most_once (store : ReferenceStore σ) (r : Reference) (calls : List Reference)
    (hcopies : ∀ cell, r.waitsFor cell → ∀ other ∈ calls, other.waitsFor cell → other = r) :
    LoadsOnce store r calls where
  targets := map_target_steps store calls
  null := fun hkey => steps_of_settled (by simp [Reference.settled?, hkey]) store calls
  given := fun key handle content hkey hsource =>
    steps_of_settled (by simp [Reference.settled?, hkey, hsource]) store calls
  unavailable := fun key hkey hsource =>
    steps_of_settled (by simp [Reference.settled?, hkey, hsource]) store calls
  unloaded := by
    intro key cell hkey hsource hunloaded
    have hcell : store.cells.lookup cell = none := by simpa [isLoaded, hsource] using hunloaded
    exact steps_of_empty hkey hsource (hcopies cell (by simp [Reference.waitsFor, hsource])) hcell
  loaded := fun key cell content hkey hsource hcell =>
    steps_of_filled hkey hsource (hcopies cell (by simp [Reference.waitsFor, hsource])) hcell
  same := fun other => by
    rw [Bool.eq_iff_iff, Reference.same_iff, Reference.same_iff, identity_view]
  identity := identity_view _ r

/-- Fails as often as its state says, then finds a record that holds the key. -/
def flaky : Fetcher Nat where
  fetch entity key
    | 0 => (.ok ⟨entity, key.map .scalar⟩, 0)
    | failures + 1 => (.error (.usage .noFetcher), failures)

/-- Two failures, one of them met by a reference of its own cell, then a success that the last fetch
repeats. -/
theorem loads_at_most_once_flaky :
    let store : ReferenceStore Nat := { fetcher := flaky, state := 2 }
    let oslo : Reference := ⟨"City", some [.int 7], .pending 0⟩
    let rome : Reference := ⟨"City", some [.int 8], .pending 1⟩
    let record : Record := ⟨"City", [.scalar (.int 7)]⟩
    store.LoadsOnce oslo [oslo, rome, oslo, oslo] ∧
    (store.steps [oslo, rome, oslo, oslo]).1 =
      [.failure oslo [.int 7] (.usage .noFetcher), .failure rome [.int 8] (.usage .noFetcher),
        .success oslo [.int 7] 0 record, .repeated oslo 0 record] := by
  refine ⟨loads_at_most_once _ _ _ ?_, rfl⟩
  intro cell hcell other hother hwaits
  simp only [Reference.waitsFor, beq_iff_eq] at hcell
  subst hcell
  simp only [List.mem_cons, List.not_mem_nil, or_false] at hother
  obtain rfl | rfl | rfl | rfl := hother
  all_goals first | rfl | cases hwaits

end ReferenceStore

end RelMap
