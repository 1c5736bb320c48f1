import RelMap.Error
import RelMap.Value.SqlValue

/-!
# Records and references

A record holds one value per field of its entity. Records inside other records are shared, so each
of them carries the handle of its instance; a reference carries where its record comes from. Neither
counts in `same`, the equality of contents: two references are the same when they point to the same
entity and key.
-/

namespace RelMap

/-- Which instance of a record a shared record is. The intern table numbers the records it holds, a
fetched record belongs to the cell of its reference, and callers number the records they make. -/
inductive Handle where
  | given (number : Nat)
  | interned (number : Nat)
  | fetched (cell : Nat)
deriving DecidableEq, Repr

mutual

inductive FieldValue where
  | null
  | scalar (value : SqlValue)
  /-- A variant, by name however it is stored. -/
  | enum (variant : String)
  | record (handle : Handle) (content : Record)
  | reference (target : Reference)

structure Record where
  entity : EntityName
  values : List FieldValue

/-- A deferred reference to a record by its key; a null reference has no key. -/
structure Reference where
  entity : EntityName
  key : Option (List SqlValue)
  source : Source

/-- Where the record of a reference comes from: nowhere, a fetcher that fills the given cell on
first use, or a record that came along with the reference. -/
inductive Source where
  | unavailable
  | pending (cell : Nat)
  | loaded (handle : Handle) (content : Record)

end

structure SharedRecord where
  handle : Handle
  content : Record

namespace Reference

def isNull (r : Reference) : Bool := r.key.isNone

/-- Equality of references: the same entity and the same key. -/
def same (a b : Reference) : Bool := a.entity == b.entity && a.key == b.key

def isLoaded (r : Reference) : Bool :=
  match r.source with
  | .loaded _ _ => true
  | _ => false

def null (entity : EntityName) : Reference := ⟨entity, none, .unavailable⟩

end Reference

mutual

def FieldValue.same : FieldValue → FieldValue → Bool
  | .null, .null => true
  | .scalar a, .scalar b => a == b
  | .enum a, .enum b => a == b
  | .record _ a, .record _ b => a.same b
  | .reference a, .reference b => a.same b
  | _, _ => false
termination_by structural a => a

def Record.same : Record → Record → Bool
  | ⟨entity, values⟩, ⟨entity', values'⟩ => entity == entity' && sameValues values values'
termination_by structural a => a

def sameValues : List FieldValue → List FieldValue → Bool
  | [], [] => true
  | a :: as, b :: bs => a.same b && sameValues as bs
  | _, _ => false
termination_by structural a => a

end

namespace FieldValue

def ofScalar : SqlValue → FieldValue
  | .null => null
  | value => scalar value

def isNull : FieldValue → Bool
  | null => true
  | _ => false

def scalar? : FieldValue → Option SqlValue
  | scalar value => some value
  | _ => none

def record? : FieldValue → Option SharedRecord
  | record handle content => some ⟨handle, content⟩
  | _ => none

def reference? : FieldValue → Option Reference
  | reference target => some target
  | _ => none

end FieldValue

end RelMap
