import RelMap.Number.Double

/-!
# Documents

The data model of structured text: what descriptions are written to and read from. A structure is
an object with a member per field, or the array of its fields in order; members that are not asked
for are ignored, and a missing member takes its default if it has one.
-/

namespace RelMap

inductive Document where
  | null
  | bool (value : Bool)
  | integer (value : Int)
  | decimal (value : Double)
  | string (value : String)
  | array (items : List Document)
  | object (members : List (String × Document))
deriving Inhabited

/-- A type with finitely many values, each written as a word of its own. -/
class Enumeration (α : Type) where
  values : List α
  word : α → String

namespace Document

def string? : Document → Option String
  | string value => some value
  | _ => none

def bool? : Document → Option Bool
  | bool value => some value
  | _ => none

def strings? : Document → Option (List String)
  | array items => items.mapM string?
  | _ => none

def optionalString? : Document → Option (Option String)
  | null => some none
  | string value => some (some value)
  | _ => none

def members? (keys : List String) : Document → Option (List (Option Document))
  | object members => some (keys.map fun key => members.lookup key)
  | array items =>
    if items.length ≤ keys.length then
      some (items.map some ++ List.replicate (keys.length - items.length) none)
    else none
  | _ => none

/-- A tagged value: a word alone, or an object whose one key is the tag. A word alone is the same
as a tag with null. -/
def tagged? : Document → Option (String × Option Document)
  | string tag => some (tag, none)
  | object [(tag, null)] => some (tag, none)
  | object [(tag, body)] => some (tag, some body)
  | _ => none

def tagged (tag : String) (body : Document) : Document := object [(tag, body)]

def ofStrings (items : List String) : Document := array (items.map string)

def word {α : Type} [Enumeration α] (value : α) : Document := string (Enumeration.word value)

def enumerated? {α : Type} [Enumeration α] (d : Document) : Option α :=
  match d.tagged? with
  | some (tag, none) => Enumeration.values.find? (Enumeration.word · == tag)
  | _ => none

end Document

def required {α : Type} (read : Document → Option α) (member : Option Document) : Option α :=
  member.bind read

def optional {α : Type} (read : Document → Option α) (default : α) :
    Option Document → Option α
  | none => some default
  | some d => read d

end RelMap
