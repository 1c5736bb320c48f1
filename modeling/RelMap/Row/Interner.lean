import RelMap.Value.Record

/-!
# Intern tables

An intern table keeps one shared instance of each record, up to equality of contents, in the order
of first sight.
-/

namespace RelMap

structure Interner where
  records : List SharedRecord := []
  /-- The number of the next instance; instances keep their numbers when the table is cleared. -/
  next : Nat := 0

namespace Interner

def find? (table : Interner) (r : Record) : Option SharedRecord :=
  table.records.find? (·.content.same r)

/-- The shared instance of a record, which is the record itself if it is new. -/
def intern (table : Interner) (r : Record) : SharedRecord × Interner :=
  match table.find? r with
  | some shared => (shared, table)
  | none =>
    let shared : SharedRecord := ⟨.interned table.next, r⟩
    (shared, ⟨table.records ++ [shared], table.next + 1⟩)

def indexOf? (table : Interner) (r : Record) : Option Nat :=
  table.records.findIdx? (·.content.same r)

def get? (table : Interner) (index : Nat) : Option SharedRecord := table.records[index]?

def size (table : Interner) : Nat := table.records.length

def isEmpty (table : Interner) : Bool := table.records.isEmpty

def clear (table : Interner) : Interner := { table with records := [] }

end Interner

end RelMap
