import RelMap.Sql.Fragment

/-!
# Parameter values

The parameters of a statement are checked and their values collected. Positional parameters must
number 1 to n and agree where they repeat; a name must stand for one value, or for one bind
variable.
-/

namespace RelMap

/-- The values of a statement's parameters, as the dialect's drivers accept them. -/
inductive Parameters where
  /-- One value per placeholder, in order of appearance. -/
  | positional (values : List SqlValue)
  /-- One value per distinct name, in order of first appearance, without bind variables. -/
  | named (values : List (String × SqlValue))
deriving DecidableEq, Repr

namespace Parameters

def size : Parameters → Nat
  | positional values => values.length
  | named values => values.length

def addPositional (state : List (Nat × SqlValue) × List SqlValue) (slot : ParamSlot) :
    Except ParameterError (List (Nat × SqlValue) × List SqlValue) :=
  let (indexed, values) := state
  match slot with
  | .anonymous value => .ok (indexed, values ++ [value])
  | .positional index value =>
    match indexed.lookup index with
    | some known =>
      if known = value then .ok (indexed, values ++ [value])
      else .error (.conflictingPositional index)
    | none => .ok (indexed ++ [(index, value)], values ++ [value])
  | .named _ _ | .bindVar _ => .error .mixedStyles

def isIndex (indices : List Nat) (candidate : Nat) : Id Bool := decide (candidate ∈ indices)

/-- The first candidate that is not an index, out of the given one and as many as remain after it. -/
def firstGap {m : Type → Type} [Monad m] (isIndex : Nat → m Bool) :
    (remaining candidate : Nat) → m (Option Nat)
  | 0, candidate => do
    if ← isIndex candidate then return none
    return some candidate
  | remaining + 1, candidate => do
    if ← isIndex candidate then firstGap isIndex remaining (candidate + 1)
    else return some candidate

/-- The least index must be 1, and every number up to the greatest one must be an index. -/
def checkRange {m : Type → Type} [Monad m] (isIndex : Nat → m Bool) (indices : List Nat) :
    m (Except ParameterError Unit) := do
  match indices.min?, indices.max? with
  | some lowest, some highest =>
    if lowest ≠ 1 then return .error (.positionalStart lowest)
    match ← firstGap isIndex (highest - 1) 1 with
    | some missing => return .error (.positionalGap missing)
    | none => return .ok ()
  | _, _ => return .ok ()

def checkIndices (indices : List Nat) : Except ParameterError Unit :=
  checkRange (isIndex indices) indices

def addNamed (dialect : Dialect) (state : List (String × SqlValue) × List String)
    (slot : ParamSlot) : Except ParameterError (List (String × SqlValue) × List String) :=
  let (values, bindVars) := state
  match slot with
  | .named name value =>
    if name ∈ bindVars then .error (.conflictingNamed name)
    else match values.lookup name with
      | some known =>
        if known = dialect.coerce value then .ok (values, bindVars)
        else .error (.conflictingNamed name)
      | none => .ok (values ++ [(name, dialect.coerce value)], bindVars)
  | .bindVar name =>
    if (values.lookup name).isSome then .error (.conflictingNamed name)
    else if name ∈ bindVars then .ok (values, bindVars)
    else .ok (values, bindVars ++ [name])
  | .anonymous _ | .positional _ _ => .error .mixedStyles

/-- The values of the slots and the names of the bind variables, in order of first appearance. -/
def collect (slots : List ParamSlot) (style : ParamStyle) (dialect : Dialect) :
    Except ParameterError (Parameters × List String) :=
  match style with
  | .positional => do
    let (indexed, values) ← slots.foldlM addPositional ([], [])
    checkIndices (indexed.map (·.1))
    return (positional (values.map dialect.coerce), [])
  | .named => do
    let (values, bindVars) ← slots.foldlM (addNamed dialect) ([], [])
    return (named values, bindVars)

end Parameters

end RelMap
