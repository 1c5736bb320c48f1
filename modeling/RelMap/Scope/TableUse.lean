/-!
# Use of tables

Which occurrences in a scope are referenced, and which automatic joins hang on which others. A join
is required if a referenced alias can be reached from its own along the dependencies.
-/

namespace RelMap

/-- Occurrences are known by their qualifiers. -/
structure TableUse where
  /-- Without repetitions, in the order of first reference. -/
  referenced : List String := []
  /-- Pairs of an automatic join and one that depends on it. -/
  dependencies : List (String × String) := []
deriving DecidableEq, Repr

namespace TableUse

def mark (u : TableUse) (aliasName : String) : TableUse :=
  if aliasName ∈ u.referenced then u else { u with referenced := u.referenced ++ [aliasName] }

def isReferenced (u : TableUse) (aliasName : String) : Bool := aliasName ∈ u.referenced

/-- The join for `aliasName` has to come along whenever the one for `dependent` does. -/
def addDependency (u : TableUse) (aliasName dependent : String) : TableUse :=
  { u with dependencies := u.dependencies ++ [(aliasName, dependent)] }

def deferOne (aliasName : String) (u : TableUse) (reference : String) : TableUse :=
  let u := { u with referenced := u.referenced.filter (· != reference) }
  if reference = aliasName then u else u.addDependency reference aliasName

/-- Turns the references made since `before` into dependencies of the join for `aliasName`: what its
own condition mentions is needed only if the join is. -/
def deferSince (u : TableUse) (before : List String) (aliasName : String) : TableUse :=
  (u.referenced.filter (!before.contains ·)).foldl (deferOne aliasName) u

def dependents (u : TableUse) (aliasName : String) : List String :=
  (u.dependencies.filter (·.1 == aliasName)).map (·.2)

/-- Whether a referenced alias can be reached from the pending ones, none of the visited ones being
entered again. Each step takes one pending alias. -/
def reaches (u : TableUse) : Nat → List String → List String → Bool
  | 0, _, _ => false
  | _ + 1, _, [] => false
  | steps + 1, visited, aliasName :: pending =>
    if aliasName ∈ visited then u.reaches steps visited pending
    else u.isReferenced aliasName ||
      u.reaches steps (aliasName :: visited) (u.dependents aliasName ++ pending)

/-- The search enters each alias once, so it takes one step per dependency and one to start. -/
def isRequired (u : TableUse) (aliasName : String) : Bool :=
  u.reaches (u.dependencies.length + 1) [] [aliasName]

end TableUse

end RelMap
