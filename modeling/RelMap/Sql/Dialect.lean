import RelMap.Value.SqlValue

/-!
# Dialects

What differs between databases here: the quote around identifiers, and the values that their drivers
accept as parameters.
-/

namespace RelMap

inductive Dialect where
  | ansi
  | postgres
  | mySql
deriving DecidableEq, Repr

namespace Dialect

def quoteChar : Dialect → Char
  | ansi | postgres => '"'
  | mySql => '\x60'

def doubleQuotes (quote : Char) : List Char → List Char
  | [] => []
  | c :: rest => if c = quote then quote :: quote :: doubleQuotes quote rest
    else c :: doubleQuotes quote rest

/-- An identifier between quotes, those inside of it doubled. -/
def quoteChars (d : Dialect) (identifier : List Char) : List Char :=
  d.quoteChar :: (doubleQuotes d.quoteChar identifier ++ [d.quoteChar])

def quote (d : Dialect) (identifier : String) : String :=
  String.ofList (d.quoteChars identifier.toList)

def coerce (d : Dialect) (value : SqlValue) : SqlValue :=
  match d, value with
  | mySql, .boolean b => .int (if b then 1 else 0)
  | mySql, .uuid u => .text u.text
  | _, value => value

theorem coerce_eq_self_iff (d : Dialect) (value : SqlValue) :
    d.coerce value = value ↔
      (d = mySql → (∀ b, value ≠ .boolean b) ∧ ∀ u, value ≠ .uuid u) := by
  cases d <;> cases value <;> simp [coerce]

end Dialect

/-- How statements are written: the dialect, and whether columns carry their qualifier. -/
structure SqlFormat where
  dialect : Dialect
  qualifyColumns : Bool := true
deriving DecidableEq, Repr

end RelMap
