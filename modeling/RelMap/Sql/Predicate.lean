import RelMap.Sql.Fragment

/-!
# Predicates

Boolean expressions over operands. The lower-case connectives simplify as far as constants and equal
operands allow; the constructors leave everything as it is.
-/

namespace RelMap

inductive Operand where
  /-- A physical column under the qualifier of its table. -/
  | column (qualifier name : String)
  | param (slot : ParamSlot)
  | null
deriving DecidableEq, Repr

inductive CompareOp where
  | eq
  | neq
  | lt
  | lte
  | gt
  | gte
  | like
deriving DecidableEq, Repr

def CompareOp.sql : CompareOp → String
  | eq => "="
  | neq => "<>"
  | lt => "<"
  | lte => "<="
  | gt => ">"
  | gte => ">="
  | like => "LIKE"

inductive Predicate where
  | true
  | false
  | compare (left : Operand) (op : CompareOp) (right : Operand)
  | in (operand : Operand) (items : List Operand)
  | notIn (operand : Operand) (items : List Operand)
  | between (operand low high : Operand)
  | isNull (operand : Operand)
  | isNotNull (operand : Operand)
  | and (left right : Predicate)
  | or (left right : Predicate)
  | not (inner : Predicate)
deriving DecidableEq, Repr, Inhabited

/-! ## Simplifying constructors -/

namespace Predicate

def differentLiterals : Operand → Operand → Bool
  | .param (.anonymous a), .param (.anonymous b) => a != b
  | _, _ => Bool.false

/-- Equality, decided where both sides are the same operand or different literals. -/
def equal (left right : Operand) : Predicate :=
  if left = right then true
  else if differentLiterals left right then false
  else compare left .eq right

def comparison (left : Operand) (op : CompareOp) (right : Operand) : Predicate :=
  match op with
  | .eq => equal left right
  | op => compare left op right

/-- Membership in a list; nothing is in the empty list. -/
def inList (operand : Operand) (items : List Operand) : Predicate :=
  if items.isEmpty then false else .in operand items

def notInList (operand : Operand) (items : List Operand) : Predicate :=
  if items.isEmpty then true else notIn operand items

def conj : Predicate → Predicate → Predicate
  | false, _ => false
  | _, false => false
  | true, right => right
  | left, true => left
  | left, right => if left = right then left else and left right

def disj : Predicate → Predicate → Predicate
  | true, _ => true
  | _, true => true
  | false, right => right
  | left, false => left
  | left, right => if left = right then left else or left right

def conjAll (predicates : List Predicate) : Predicate := predicates.foldl conj true

def disjAll (predicates : List Predicate) : Predicate := predicates.foldl disj false

def negate : Predicate → Predicate
  | true => false
  | false => true
  | isNull operand => isNotNull operand
  | isNotNull operand => isNull operand
  | .in operand items => notIn operand items
  | notIn operand items => .in operand items
  | predicate => not predicate

end Predicate

/-! ## Writing -/

def Operand.render (format : SqlFormat) : Operand → Fragment
  | column qualifier name => format.column qualifier name
  | param slot => .ofParam slot
  | null => .ofText "NULL"

namespace Predicate

def binary (left : Fragment) (op : String) (right : Fragment) : Fragment :=
  left ++ .ofText " " ++ .ofText op ++ .ofText " " ++ right

def list (format : SqlFormat) (operand : Operand) (op : String) (items : List Operand) : Fragment :=
  binary (operand.render format) op
    (Fragment.parenthesized (.join ", " (items.map (Operand.render format))))

/-- Connectives are parenthesized; an equality with NULL is written as a test for NULL. -/
def render (format : SqlFormat) : Predicate → Fragment
  | true => .ofText "TRUE"
  | false => .ofText "FALSE"
  | compare left .eq .null => left.render format ++ .ofText " IS NULL"
  | compare left .neq .null => left.render format ++ .ofText " IS NOT NULL"
  | compare left op right => binary (left.render format) op.sql (right.render format)
  | .in operand items => list format operand "IN" items
  | notIn operand items => list format operand "NOT IN" items
  | between operand low high =>
    binary (operand.render format) "BETWEEN"
      (binary (low.render format) "AND" (high.render format))
  | isNull operand => operand.render format ++ .ofText " IS NULL"
  | isNotNull operand => operand.render format ++ .ofText " IS NOT NULL"
  | and left right => .parenthesized (binary (left.render format) "AND" (right.render format))
  | or left right => .parenthesized (binary (left.render format) "OR" (right.render format))
  | not inner => .ofText "NOT" ++ .parenthesized (inner.render format)

end Predicate

end RelMap
