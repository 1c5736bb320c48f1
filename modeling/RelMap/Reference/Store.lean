import RelMap.Value.Record

/-!
# Loading references

References to be fetched share cells with their copies. A store holds the records that were
fetched, by cell, and the fetcher; a cell is filled by the first fetch that succeeds and never
again.
-/

namespace RelMap

/-- Loads the record that a reference points to. A fetcher may keep a state of its own. -/
structure Fetcher (σ : Type) where
  fetch : EntityName → List SqlValue → σ → Except Error Record × σ

structure ReferenceStore (σ : Type) where
  fetcher : Fetcher σ
  state : σ
  /-- The records fetched so far, by cell. -/
  cells : List (Nat × Record) := []

abbrev Loading (σ : Type) := ExceptT Error (StateM (ReferenceStore σ))

namespace ReferenceStore

variable {σ : Type}

def isLoaded (store : ReferenceStore σ) (r : Reference) : Bool :=
  match r.source with
  | .pending cell => (store.cells.lookup cell).isSome
  | _ => r.isLoaded

/-- The record of a reference, none for a null reference. A failed fetch leaves the cell empty, so a
later call tries again. -/
def fetch (r : Reference) : Loading σ (Option SharedRecord) := do
  match r.key with
  | none => return none
  | some key =>
    match r.source with
    | .loaded handle content => return some ⟨handle, content⟩
    | .unavailable => throw (.usage .noFetcher)
    | .pending cell =>
      let store ← get
      match store.cells.lookup cell with
      | some content => return some ⟨.fetched cell, content⟩
      | none =>
        let (result, state) := store.fetcher.fetch r.entity key store.state
        match result with
        | .error e =>
          set { store with state := state }
          throw e
        | .ok content =>
          set { store with state := state, cells := (cell, content) :: store.cells }
          return some ⟨.fetched cell, content⟩

end ReferenceStore

end RelMap
