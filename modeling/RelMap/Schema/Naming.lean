import RelMap.Error
import RelMap.Text.SnakeCase

/-!
# Naming strategies

Table names come from entity names, column names from the segments that lead to a column, and
aliases from an entity, the path of its occurrence and the number of rejected proposals before.
-/

namespace RelMap

open Text

/-- The initials of an alias: the capitals of the name in lower case, else its first letter or
number, else `t`. -/
def aliasInitials (entity : EntityName) : String :=
  match (entity.toList.filter isUppercase).flatMap lowercaseChar with
  | [] =>
    match entity.toList.find? isAlphanumeric with
    | some c => String.ofList (lowercaseChar c)
    | none => "t"
  | initials => String.ofList initials

/-- `_ol` for `OrderLine`, then `_ol1`, `_ol2` and so on. -/
def defaultAlias (entity : EntityName) (attempt : Nat) : String :=
  "_" ++ aliasInitials entity ++ (if attempt = 0 then "" else natText attempt)

/-- Table and column names of the default strategy: words in snake case, joined by underscores. -/
def snakeCaseColumn (segments : List String) : String :=
  "_".intercalate (segments.map snakeCase)

structure NamingStrategy where
  table : EntityName → String := snakeCase
  column : List String → String := snakeCaseColumn
  /-- Proposes an alias for an entity at a path; without it aliases come from `defaultAlias`. -/
  aliasName : Option (EntityName → String → Nat → String) := none

end RelMap
