import RelMap.Query.Element
import RelMap.Schema.Entity
import RelMap.Scope.Path
import RelMap.Scope.TableUse

/-!
# Alias scopes

Every query and subquery has a scope that binds occurrences of tables, each an entity at a path, to
aliases. Look-ups go from the current scope outwards as far as scopes are correlated, and the
nearest scope with a match decides. Using an alias marks the occurrence in the scope that owns it.
-/

namespace RelMap

/-- What qualifies the columns of an occurrence: its alias, or the table's name without one. -/
def EntityInfo.qualifier (e : EntityInfo) (aliasName : String) : String :=
  if aliasName = "" then e.table else aliasName

structure Occurrence where
  entity : EntityInfo
  /-- The field path from the root of the query, empty for the root itself. -/
  path : String
  /-- Empty when the occurrence goes by the name of its table. -/
  aliasName : String
deriving DecidableEq, Repr

def Occurrence.qualifier (o : Occurrence) : String := o.entity.qualifier o.aliasName

/-- How a statement refers to an occurrence. -/
structure Mention where
  /-- The scope in which the look-up found the occurrence. -/
  owner : ScopeId
  occurrence : Occurrence
  /-- The scope whose table use records the reference. -/
  recorded : ScopeId
deriving DecidableEq, Repr

structure Scope where
  parent : Option ScopeId
  /-- Whether look-ups may go on into the parent. -/
  correlated : Bool
  occurrences : List Occurrence := []
  tableUse : TableUse := {}
deriving DecidableEq, Repr

structure Resolver where
  scopes : List Scope := [⟨none, false, [], {}⟩]
  current : ScopeId := 0
deriving DecidableEq, Repr

/-- Steps on a resolver. What a step has changed before it fails stays changed. -/
abbrev Resolving (ε : Type) := ExceptT ε (StateM Resolver)

namespace Resolver

/-! ## Scopes -/

def push (r : Resolver) (correlated : Bool) : Resolver :=
  ⟨r.scopes ++ [⟨some r.current, correlated, [], {}⟩], r.scopes.length⟩

def enter (r : Resolver) (scope : ScopeId) : Resolver := { r with current := scope }

/-- Back to the parent of the current scope; the root stays. -/
def pop (r : Resolver) : Resolver :=
  { r with current := ((r.scopes[r.current]?).bind (·.parent)).getD r.current }

def occurrences (r : Resolver) (scope : ScopeId) : List Occurrence :=
  ((r.scopes[scope]?).map (·.occurrences)).getD []

def tableUse (r : Resolver) (scope : ScopeId) : TableUse :=
  ((r.scopes[scope]?).map (·.tableUse)).getD {}

def modifyScope (r : Resolver) (scope : ScopeId) (f : Scope → Scope) : Resolver :=
  { r with scopes := r.scopes.modify scope f }

def modifyTableUse (r : Resolver) (scope : ScopeId) (f : TableUse → TableUse) : Resolver :=
  r.modifyScope scope fun s => { s with tableUse := f s.tableUse }

/-- The scopes from `scope` outwards while `goesOn` holds of them. A parent is older than its child,
so there are no more of them than scopes in all. -/
def chain (r : Resolver) (goesOn : Scope → Bool) : Nat → ScopeId → List ScopeId
  | 0, _ => []
  | fuel + 1, scope =>
    match r.scopes[scope]? with
    | none => []
    | some s =>
      scope :: match s.parent with
        | some parent => if goesOn s then r.chain goesOn fuel parent else []
        | none => []

/-- The scopes that a look-up consults, nearest first. -/
def visibleScopes (r : Resolver) : ScopeFilter → List ScopeId
  | .inner => [r.current]
  | .outer => (r.chain (·.correlated) r.scopes.length r.current).tail
  | .cascade => r.chain (·.correlated) r.scopes.length r.current

def visibleOccurrences (r : Resolver) (filter : ScopeFilter) : List (ScopeId × Occurrence) :=
  (r.visibleScopes filter).flatMap fun scope => (r.occurrences scope).map fun o => (scope, o)

/-- The qualifiers bound in the current scope and all scopes around it, correlated or not. -/
def liveQualifiers (r : Resolver) : List String :=
  (r.chain (fun _ => true) r.scopes.length r.current).flatMap fun scope =>
    (r.occurrences scope).map Occurrence.qualifier

/-! ## Look-ups -/

def isAt (entity : EntityName) (path : Option String) (o : Occurrence) : Bool :=
  o.entity.name == entity && path.all (· == o.path)

def bindingIn (r : Resolver) (entity : EntityName) (path : Option String) :
    List ScopeId → Except AliasError (ScopeId × Occurrence)
  | [] => .error (.notFound entity path)
  | scope :: rest =>
    match (r.occurrences scope).filter (isAt entity path) with
    | [] => r.bindingIn entity path rest
    | [o] => .ok (scope, o)
    | many => .error (.ambiguous entity (Path.sorted (many.map (·.path))))

def findBinding (r : Resolver) (entity : EntityName) (path : Option String)
    (filter : ScopeFilter) : Except AliasError (ScopeId × Occurrence) :=
  r.bindingIn entity path (r.visibleScopes filter)

def owns (r : Resolver) (entity : EntityInfo) (aliasName : String) (scope : ScopeId) : Bool :=
  (r.occurrences scope).any fun o =>
    o.entity.name == entity.name && o.qualifier == entity.qualifier aliasName

/-- Marks the occurrence of `entity` under an alias, in the nearest scope that has one. -/
def useAlias (entity : EntityInfo) (aliasName : String) (filter : ScopeFilter) :
    Resolving AliasError ScopeId := do
  let r ← get
  match (r.visibleScopes filter).find? (r.owns entity aliasName) with
  | some scope =>
    set (r.modifyTableUse scope (·.mark (entity.qualifier aliasName)))
    return scope
  | none => throw (.unknownAlias entity.name aliasName)

/-! ## Registration -/

def isRegistered (r : Resolver) (entity : EntityName) (path : String) : Bool :=
  (r.occurrences r.current).any (isAt entity (some path))

def register (r : Resolver) (o : Occurrence) : Resolver :=
  r.modifyScope r.current fun s => { s with occurrences := s.occurrences ++ [o] }

/-- Binds an occurrence to a given alias. Two entities cannot share a qualifier in one scope. -/
def setAlias (entity : EntityInfo) (aliasName path : String) : Resolving AliasError Unit := do
  let r ← get
  if r.isRegistered entity.name path then throw (.duplicatePath entity.name path)
  let clashes (o : Occurrence) : Bool :=
    o.qualifier == entity.qualifier aliasName && o.entity.name != entity.name
  match (r.occurrences r.current).find? clashes with
  | some other => throw (.aliasInUse (entity.qualifier aliasName) other.entity.name)
  | none => set (r.register ⟨entity, path, aliasName⟩)

/-- The first proposal that is not live. Proposals differ from each other and may be as many as
there are live qualifiers and one more. -/
def freshAlias (entity : EntityName) (propose : Nat → String) (live : List String) :
    Nat → Nat → List String → Except AliasError String
  | 0, attempt, _ => .error (.repeatedProposal entity (propose attempt))
  | fuel + 1, attempt, proposed =>
    let candidate := propose attempt
    if candidate = "" then .error (.emptyProposal entity)
    else if candidate ∈ proposed then .error (.repeatedProposal entity candidate)
    else if candidate ∉ live then .ok candidate
    else freshAlias entity propose live fuel (attempt + 1) (candidate :: proposed)

/-- Binds an occurrence to an alias that differs from all live qualifiers. -/
def generateAlias (naming : NamingStrategy) (entity : EntityInfo) (path : String) :
    Resolving AliasError String := do
  let r ← get
  if r.isRegistered entity.name path then throw (.duplicatePath entity.name path)
  let propose := match naming.aliasName with
    | some strategy => strategy entity.name path
    | none => defaultAlias entity.name
  let live := r.liveQualifiers
  let aliasName ← freshAlias entity.name propose live (live.length + 1) 0 []
  set (r.register ⟨entity, path, aliasName⟩)
  return aliasName

end Resolver

end RelMap
