import RelMap.Error

/-!
# Access within bounds

The program takes parts of lists, and comes to a sudden end where one is out of bounds. Binding a
record may come to that, which `Bounded` tells from an error. Nothing else does: there an access out
of bounds gives what the list has, or an error that `Bounds` chooses.
-/

namespace RelMap

/-- Runs that end for good at an access out of bounds. -/
abbrev Bounded (m : Type → Type) := OptionT m

namespace Bounded

variable {m : Type → Type} [Monad m] {α : Type}

def free (x : m α) : Bounded m α := OptionT.lift x

/-- What an access finds; nothing if it is out of bounds. -/
def access (found : Option α) : Bounded m α := OptionT.mk (pure found)

end Bounded

/-- What an access out of bounds fails with, for each kind of error. By default it does not fail. -/
class Bounds where
  schema : Option SchemaError := none
  join : Option JoinError := none
  usage : Option UsageError := none
  mapping : Option MappingError := none

namespace Bounds

instance ignored : Bounds := {}

variable {ε α : Type}

/-- What an access gives, if `breach` does not make it fail out of bounds. -/
def access (breach : Option ε) (inBounds : Prop) [Decidable inBounds] (part : α) : Except ε α :=
  match breach with
  | none => .ok part
  | some error => if inBounds then .ok part else .error error

def front (breach : Option ε) (items : List α) (count : Nat) : Except ε (List α) :=
  access breach (count ≤ items.length) (items.take count)

def item (breach : Option ε) (items : List α) (index : Nat) (default : α) : Except ε α :=
  access breach (index < items.length) (items.getD index default)

end Bounds

end RelMap
