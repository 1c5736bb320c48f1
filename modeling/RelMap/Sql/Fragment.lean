import RelMap.Error
import RelMap.Sql.Dialect

/-!
# Statement fragments

A fragment is a statement under construction: text, parameters, and conditional parts whose fate is
decided when the whole statement is known. Once the conditional parts are chosen it is a plain list
of tokens, which is written with the placeholders of one style.
-/

namespace RelMap

/-- Scopes are numbered in order of creation, the outermost being 0. -/
abbrev ScopeId := Nat

/-- A parameter before placeholders are written. -/
inductive ParamSlot where
  | anonymous (value : SqlValue)
  /-- A position counted from 1. -/
  | positional (index : Nat) (value : SqlValue)
  | named (name : String) (value : SqlValue)
  /-- A named placeholder whose value is supplied later, one record at a time. -/
  | bindVar (name : String)
deriving DecidableEq, Repr

namespace ParamSlot

def value? : ParamSlot → Option SqlValue
  | anonymous value | positional _ value | named _ value => some value
  | bindVar _ => none

def name? : ParamSlot → Option String
  | named name _ | bindVar name => some name
  | anonymous _ | positional _ _ => none

def isPositional : ParamSlot → Bool
  | positional _ _ => true
  | _ => false

end ParamSlot

inductive ParamStyle where
  /-- Placeholders are question marks. -/
  | positional
  /-- Placeholders are names behind a colon. -/
  | named
deriving DecidableEq, Repr

/-- What a conditional part hangs on: the use of an alias in a scope. -/
structure ConditionKey where
  scope : ScopeId
  aliasName : String
deriving DecidableEq, Repr

inductive Piece where
  | text (text : String)
  | param (slot : ParamSlot)
  | conditional (key : ConditionKey) (pieces : List Piece)

abbrev Fragment := List Piece

/-- A piece of a statement without conditional parts. -/
inductive Token where
  | text (text : String)
  | param (slot : ParamSlot)
deriving DecidableEq, Repr

namespace Fragment

def ofText (text : String) : Fragment := [.text text]

def ofParam (slot : ParamSlot) : Fragment := [.param slot]

def join (separator : String) : List Fragment → Fragment
  | [] => []
  | [f] => f
  | f :: rest => f ++ ofText separator ++ join separator rest

def parenthesized (f : Fragment) : Fragment := ofText "(" ++ f ++ ofText ")"

mutual

def pieceTokens (keep : ConditionKey → Bool) : Piece → List Token
  | .text content => [.text content]
  | .param slot => [.param slot]
  | .conditional key pieces => if keep key then tokens keep pieces else []
termination_by structural p => p

def tokens (keep : ConditionKey → Bool) : List Piece → List Token
  | [] => []
  | p :: rest => pieceTokens keep p ++ tokens keep rest
termination_by structural ps => ps

end

def slots (f : Fragment) : List ParamSlot :=
  (tokens (fun _ => true) f).filterMap fun
    | .param slot => some slot
    | .text _ => none

/-- Named as soon as one parameter has a name, else positional. -/
def paramStyle (f : Fragment) : Except ParameterError ParamStyle :=
  match f.slots.any (·.isPositional), f.slots.any (·.name?.isSome) with
  | true, true => .error .mixedStyles
  | false, true => .ok .named
  | _, false => .ok .positional

end Fragment

namespace Token

/-- Gives the anonymous parameters the names `_p1`, `_p2` and so on, after `count` earlier ones. -/
def nameAnonymous (count : Nat) : List Token → List Token
  | [] => []
  | .param (.anonymous value) :: rest =>
    .param (.named ("_p" ++ natText (count + 1)) value) :: nameAnonymous (count + 1) rest
  | token :: rest => token :: nameAnonymous count rest

def sql (style : ParamStyle) : Token → String
  | .text content => content
  | .param slot =>
    match style with
    | .positional => "?"
    | .named => ":" ++ slot.name?.getD ""

def slot? : Token → Option ParamSlot
  | .param slot => some slot
  | .text _ => none

end Token

structure Rendered where
  sql : String
  slots : List ParamSlot
deriving DecidableEq, Repr

namespace Fragment

def styledTokens (f : Fragment) (style : ParamStyle) (keep : ConditionKey → Bool) : List Token :=
  match style with
  | .positional => tokens keep f
  | .named => Token.nameAnonymous 0 (tokens keep f)

def render (f : Fragment) (style : ParamStyle) (keep : ConditionKey → Bool) : Rendered :=
  let tokens := f.styledTokens style keep
  ⟨String.join (tokens.map (·.sql style)), tokens.filterMap Token.slot?⟩

def toSql (f : Fragment) : String × List SqlValue :=
  let rendered := f.render .positional fun _ => true
  (rendered.sql, rendered.slots.filterMap ParamSlot.value?)

end Fragment

namespace SqlFormat

def identifier (format : SqlFormat) (name : String) : Fragment :=
  .ofText (format.dialect.quote name)

def column (format : SqlFormat) (qualifier name : String) : Fragment :=
  if format.qualifyColumns then
    format.identifier qualifier ++ .ofText "." ++ format.identifier name
  else format.identifier name

end SqlFormat

end RelMap
