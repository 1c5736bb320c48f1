/-!
# Paths

A path is a list of field names with points between them; the empty path stands for the root of a
query.
-/

namespace RelMap.Path

/-- Two paths one behind the other; the empty path changes nothing. -/
def join (path segment : String) : String :=
  if path = "" then segment else if segment = "" then path else path ++ "." ++ segment

def splitChars (mark : Char) : List Char → List (List Char)
  | [] => [[]]
  | c :: rest =>
    if c = mark then [] :: splitChars mark rest
    else match splitChars mark rest with
      | piece :: pieces => (c :: piece) :: pieces
      | [] => [[c]]

/-- The names between the points, one empty name for the empty path. -/
def segments (path : String) : List String := (splitChars '.' path.toList).map String.ofList

def depth (path : String) : Nat := if path = "" then 0 else (segments path).length

/-- Shorter paths come first, paths of one depth in the order of their text. -/
def precedes (a b : String) : Bool :=
  depth a < depth b || (depth a == depth b && !decide (b < a))

def sorted (paths : List String) : List String := (paths.mergeSort precedes).eraseReps

end RelMap.Path
