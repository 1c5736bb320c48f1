/-!
# Operators of object conditions

A condition compares a column, or an entity by its key, with a list of operands.
-/

namespace RelMap

inductive Operator where
  | eq
  | neq
  | lt
  | lte
  | gt
  | gte
  | like
  | in
  | notIn
  | between
  | isNull
  | isNotNull
deriving DecidableEq, Repr

namespace Operator

/-- The number of operands the operator takes, or `none` for any number. -/
def arity : Operator → Option Nat
  | .in | notIn => none
  | between => some 2
  | isNull | isNotNull => some 0
  | _ => some 1

/-- The operators whose answer rests on an order of values, which NULL has no place in. -/
def ordersValues : Operator → Bool
  | lt | lte | gt | gte | like | between => true
  | _ => false

def name : Operator → String
  | eq => "Eq"
  | neq => "Neq"
  | lt => "Lt"
  | lte => "Lte"
  | gt => "Gt"
  | gte => "Gte"
  | like => "Like"
  | .in => "In"
  | notIn => "NotIn"
  | between => "Between"
  | isNull => "IsNull"
  | isNotNull => "IsNotNull"

end Operator

end RelMap
