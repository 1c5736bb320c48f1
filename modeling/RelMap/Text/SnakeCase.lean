import RelMap.Text.Alphanumeric
import RelMap.Text.Case

/-!
# Snake case

A name is cut into words at every character that is neither a letter nor a number, and inside the
remaining pieces where the case changes: after a small letter before a capital, and before the last
capital of a run that a small letter follows. The words are lowered and joined by underscores.
-/

namespace RelMap.Text

/-- The case of the current word so far; characters without case leave it unchanged. -/
inductive CaseMode where
  | boundary
  | lower
  | upper
deriving DecidableEq, Repr

def CaseMode.after (mode : CaseMode) (c : Char) : CaseMode :=
  if isLowercase c then .lower else if isUppercase c then .upper else mode

def alphanumericPieces : List Char → List (List Char)
  | [] => [[]]
  | c :: rest =>
    if isAlphanumeric c then
      match alphanumericPieces rest with
      | piece :: pieces => (c :: piece) :: pieces
      | [] => [[c]]
    else [] :: alphanumericPieces rest

/-- The words of one piece, where `word` holds the characters of the current word so far. -/
def wordsOfPiece (mode : CaseMode) (word : List Char) : List Char → List (List Char)
  | [] => []
  | [c] => [word ++ [c]]
  | c :: next :: rest =>
    if mode.after c = .lower && isUppercase next then
      (word ++ [c]) :: wordsOfPiece .boundary [] (next :: rest)
    else if mode = .upper && isUppercase c && isLowercase next then
      word :: wordsOfPiece .boundary [c] (next :: rest)
    else wordsOfPiece (mode.after c) (word ++ [c]) (next :: rest)

def words (name : List Char) : List (List Char) :=
  (alphanumericPieces name).flatMap (wordsOfPiece .boundary [])

/-- A word in lower case; a capital sigma that ends it becomes the final small sigma. -/
def lowercaseWord : List Char → List Char
  | [] => []
  | ['Σ'] => ['ς']
  | c :: rest => lowercaseChar c ++ lowercaseWord rest

def snakeCase (name : String) : String :=
  "_".intercalate ((words name.toList).map fun word => String.ofList (lowercaseWord word))

end RelMap.Text
