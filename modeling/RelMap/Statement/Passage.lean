import RelMap.Scope.Resolver
import RelMap.Sql.Fragment

/-!
# Passages

Emission writes passages: fragments of the statement, the occurrences that they refer to, and
automatic joins. References leave no trace of their own in the statement.
-/

namespace RelMap

inductive Part where
  | fragment (f : Fragment)
  /-- What is written next refers to an occurrence. -/
  | mention (m : Mention)
  /-- A join that is written only if the joined occurrence is needed in its scope. -/
  | autoJoin (scope : ScopeId) (joined : Occurrence) (parts : List Part)

abbrev Passage := List Part

namespace Passage

mutual

def partFragment : Part → Fragment
  | .fragment f => f
  | .mention _ => []
  | .autoJoin scope joined parts => [.conditional ⟨scope, joined.qualifier⟩ (fragment parts)]
termination_by structural p => p

def fragment : Passage → Fragment
  | [] => []
  | p :: rest => partFragment p ++ fragment rest
termination_by structural ps => ps

end

def ofFragment (f : Fragment) : Passage := [.fragment f]

def ofText (text : String) : Passage := ofFragment (.ofText text)

def referring (mentions : List Mention) (f : Fragment) : Passage :=
  mentions.map .mention ++ ofFragment f

def parenthesized (p : Passage) : Passage := ofText "(" ++ p ++ ofText ")"

end Passage

end RelMap
