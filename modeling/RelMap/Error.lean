import RelMap.Query.Operator

/-!
# Errors

Every failure is a cause of one category. `message` gives its wording and `kind` a short name for
its cause; a wrapped error adds context in front of the text of the error inside.
-/

namespace RelMap

/-- Entities are known by their names, which are unique in a schema. -/
abbrev EntityName := String

def natText (n : Nat) : String := String.ofList (Nat.toDigits 10 n)

def commaSeparated (items : List String) : String := ", ".intercalate items

inductive AliasError where
  | ambiguous (entity : EntityName) (paths : List String)
  | notFound (entity : EntityName) (path : Option String)
  | duplicatePath (entity : EntityName) (path : String)
  | aliasInUse (aliasName : String) (entity : EntityName)
  | unknownAlias (entity : EntityName) (aliasName : String)
  | emptyProposal (entity : EntityName)
  | repeatedProposal (entity : EntityName) (aliasName : String)
deriving DecidableEq, Repr

def AliasError.message : AliasError → String
  | ambiguous entity paths =>
    s!"Ambiguous reference to `{entity}`; specify one of the paths: " ++ commaSeparated paths
  | notFound entity none => s!"No alias found for `{entity}`"
  | notFound entity (some path) => s!"No alias found for `{entity}` at path `{path}`"
  | duplicatePath entity path =>
    s!"`{entity}` is already registered at path `{path}` in this scope"
  | aliasInUse aliasName entity =>
    s!"Alias `{aliasName}` is already in use in this scope (requested for `{entity}`)"
  | unknownAlias entity aliasName => s!"`{aliasName}` is not a live alias of `{entity}`"
  | emptyProposal entity => s!"Alias naming strategy failed for `{entity}`: empty alias"
  | repeatedProposal entity aliasName =>
    s!"Alias naming strategy failed for `{entity}`: alias `{aliasName}` proposed twice"

def AliasError.kind : AliasError → String
  | ambiguous .. => "Ambiguous"
  | notFound .. => "NotFound"
  | duplicatePath .. => "DuplicatePath"
  | aliasInUse .. => "AliasInUse"
  | unknownAlias .. => "UnknownAlias"
  | emptyProposal .. | repeatedProposal .. => "InvalidStrategyAlias"

inductive JoinError where
  | noRelation (left right : EntityName)
  | ambiguousRelation (left right : EntityName) (fields : List String)
  | columnCountMismatch (field : String) (foreignKeyColumns keyColumns : Nat)
deriving DecidableEq, Repr

def JoinError.message : JoinError → String
  | noRelation left right => s!"No matching foreign key between `{left}` and `{right}`"
  | ambiguousRelation left right fields =>
    s!"Ambiguous relation between `{left}` and `{right}`: " ++ commaSeparated fields
  | columnCountMismatch field foreignKeyColumns keyColumns =>
    s!"PK/FK column count mismatch for `{field}`: " ++ natText foreignKeyColumns ++
      " foreign key column(s), " ++ natText keyColumns ++ " primary key column(s)"

def JoinError.kind : JoinError → String
  | noRelation .. => "NoRelation"
  | ambiguousRelation .. => "AmbiguousRelation"
  | columnCountMismatch .. => "ColumnCountMismatch"

inductive ForeignKeyFault where
  | scalarField
  | inlineTarget (target : EntityName)
  | referenceToInline (target : EntityName)
  | primaryKey
  | keylessTarget (target : EntityName)
deriving DecidableEq, Repr

def ForeignKeyFault.message : ForeignKeyFault → String
  | scalarField => "a scalar field cannot be a foreign key"
  | inlineTarget target => s!"inline type `{target}` has no key to refer to"
  | referenceToInline target => s!"inline type `{target}` cannot be referenced"
  | primaryKey => "a primary key cannot refer to another entity"
  | keylessTarget target => s!"`{target}` has no primary key"

/-- In these errors a field is named with its entity, as `Entity.field`, unless the entity stands
beside it. -/
inductive SchemaError where
  | duplicateEntity (entity : EntityName)
  | unknownEntity (entity : EntityName)
  | unknownConverter (field converter : String)
  | cycle (path : List EntityName)
  | multiplePrimaryKeys (entity : EntityName) (fields : List String)
  | missingPrimaryKey (entity : EntityName)
  | compoundForeignKey (field : String) (target : EntityName)
  | converterKey (field : String)
  | invalidForeignKey (field : String) (fault : ForeignKeyFault)
  | foreignKeyColumnCount (field : String) (foreignKeyColumns keyColumns : Nat)
  | inlinePrimaryKey (entity : EntityName) (field : String)
  | unknownField (entity : EntityName) (field : String)
deriving DecidableEq, Repr

def SchemaError.message : SchemaError → String
  | duplicateEntity entity => s!"Entity `{entity}` is defined more than once"
  | unknownEntity entity => s!"Unknown entity `{entity}`"
  | unknownConverter field converter => s!"Unknown converter `{converter}` used by `{field}`"
  | cycle path => "Cyclic composition: " ++ " -> ".intercalate path
  | multiplePrimaryKeys entity fields =>
    s!"`{entity}` declares more than one primary key: " ++ commaSeparated fields
  | missingPrimaryKey entity => s!"`{entity}` has no primary key"
  | compoundForeignKey field target =>
    s!"`{field}` refers to `{target}`, whose primary key is compound"
  | converterKey field =>
    s!"Converter-backed field `{field}` cannot be a primary or foreign key"
  | invalidForeignKey field fault => s!"Invalid foreign key `{field}`: " ++ fault.message
  | foreignKeyColumnCount field foreignKeyColumns keyColumns =>
    s!"Foreign key `{field}` declares " ++ natText foreignKeyColumns ++
      " column(s) for a key of " ++ natText keyColumns ++ " column(s)"
  | inlinePrimaryKey entity field =>
    s!"Inline type `{entity}` cannot declare a primary key (`{field}`)"
  | unknownField entity field => s!"Unknown field `{field}` in `{entity}`"

def SchemaError.kind : SchemaError → String
  | duplicateEntity .. => "DuplicateEntity"
  | unknownEntity .. => "UnknownEntity"
  | unknownConverter .. => "UnknownConverter"
  | cycle .. => "Cycle"
  | multiplePrimaryKeys .. => "MultiplePrimaryKeys"
  | missingPrimaryKey .. => "MissingPrimaryKey"
  | compoundForeignKey .. => "CompoundForeignKey"
  | converterKey .. => "ConverterKey"
  | invalidForeignKey .. => "InvalidForeignKey"
  | foreignKeyColumnCount .. => "ForeignKeyColumnCount"
  | inlinePrimaryKey .. => "InlinePrimaryKey"
  | unknownField .. => "UnknownField"

inductive MappingError where
  | columnCount (entity : EntityName) (expected actual : Nat)
  | nullValue (path : String)
  | invalidEnum (path enumName value : String)
  | typeMismatch (path expected actual : String)
  | converter (path reason : String)
deriving DecidableEq, Repr

def MappingError.message : MappingError → String
  | columnCount entity expected actual =>
    s!"Row for `{entity}` has " ++ natText actual ++ " column(s), expected " ++ natText expected
  | nullValue path => s!"Null value for non-nullable `{path}`"
  | invalidEnum path enumName value =>
    s!"Invalid value `{value}` for enum `{enumName}` at `{path}`"
  | typeMismatch path expected actual => s!"Cannot convert {actual} to {expected} at `{path}`"
  | converter path reason => s!"Converter failed at `{path}`: {reason}"

def MappingError.kind : MappingError → String
  | columnCount .. => "ColumnCount"
  | nullValue .. => "NullValue"
  | invalidEnum .. => "InvalidEnum"
  | typeMismatch .. => "TypeMismatch"
  | converter .. => "Converter"

inductive ParameterError where
  | positionalStart (lowest : Nat)
  | positionalGap (missing : Nat)
  | conflictingNamed (name : String)
  | conflictingPositional (index : Nat)
  | mixedStyles
  | unboundVariable (name : String)
deriving DecidableEq, Repr

def ParameterError.message : ParameterError → String
  | positionalStart lowest =>
    "Positional parameters must start at 1 (lowest index is " ++ natText lowest ++ ")"
  | positionalGap missing => "Positional parameter " ++ natText missing ++ " is missing"
  | conflictingNamed name => s!"Named parameter `{name}` is bound to two different values"
  | conflictingPositional index =>
    "Positional parameter " ++ natText index ++ " is bound to two different values"
  | mixedStyles => "Positional and named parameters cannot be mixed in one statement"
  | unboundVariable name => s!"No value for bind variable `{name}`"

def ParameterError.kind : ParameterError → String
  | positionalStart .. => "PositionalStart"
  | positionalGap .. => "PositionalGap"
  | conflictingNamed .. => "ConflictingNamed"
  | conflictingPositional .. => "ConflictingPositional"
  | mixedStyles => "MixedStyles"
  | unboundVariable .. => "UnboundVariable"

/-- Calls that the library cannot serve. Callers report their own with `custom`. -/
inductive UsageError where
  | noFetcher
  | nullReference (path : String)
  | noPrecedingTable
  | joinNotRegistered
  | subqueryNotRegistered
  | noRecords
  | noUpdatableColumns (entity : EntityName)
  | operandCount (operator : Operator) (expected actual : Nat)
  | operandWidth (actual columns : Nat)
  | nullOperand (operator : Operator)
  | compoundOperand (operator : Operator)
  | unsafeStatement
  | notBindable
  | bindEntity (expected actual : EntityName)
  | recordWidth (entity : EntityName) (actual expected : Nat)
  | keyRow
  | streamClosed
  | custom (reason : String)
deriving DecidableEq, Repr

def UsageError.message : UsageError → String
  | noFetcher => "Reference has no fetcher and was not loaded"
  | nullReference path => s!"`{path}` holds a null reference"
  | noPrecedingTable => "A relation join needs a preceding table"
  | joinNotRegistered => "Join was not registered"
  | subqueryNotRegistered => "Subquery was not registered"
  | noRecords => "VALUES needs at least one record"
  | noUpdatableColumns entity => s!"`{entity}` has no updatable columns"
  | operandCount operator expected actual =>
    operator.name ++ " takes " ++ natText expected ++ " operand(s), got " ++ natText actual
  | operandWidth actual columns =>
    "Operand has " ++ natText actual ++ " value(s) for " ++ natText columns ++ " column(s)"
  | nullOperand operator => operator.name ++ " cannot compare with NULL"
  | compoundOperand operator => operator.name ++ " is not supported on a compound key"
  | unsafeStatement => "UPDATE or DELETE without a WHERE clause affects every row"
  | notBindable => "Only statements with named parameters can be bound to records"
  | bindEntity expected actual => s!"Statement binds `{expected}` records, got `{actual}`"
  | recordWidth entity actual expected =>
    s!"Record for `{entity}` has " ++ natText actual ++ " value(s) for " ++ natText expected ++
      " field(s)"
  | keyRow => "Rows of primary key selects map to references; use map_ref"
  | streamClosed => "Result stream is closed"
  | custom reason => reason

inductive Error where
  | aliasing (error : AliasError)
  | join (error : JoinError)
  | schema (error : SchemaError)
  | mapping (error : MappingError)
  | parameter (error : ParameterError)
  | usage (error : UsageError)
  | persistence (reason : String)
  | context (text : String) (error : Error)
deriving DecidableEq, Repr

namespace Error

def message : Error → String
  | aliasing error => "Alias: " ++ error.message
  | join error => "Join: " ++ error.message
  | schema error => "Schema: " ++ error.message
  | mapping error => "Mapping: " ++ error.message
  | parameter error => "Parameter: " ++ error.message
  | usage error => "Usage: " ++ error.message
  | persistence reason => "Persistence: " ++ reason
  | context text error => text ++ " " ++ error.message

/-- The category of the innermost error and the kind of its cause; it stays the same when the
wording of a message changes. -/
def kind : Error → String
  | aliasing error => "Alias." ++ error.kind
  | join error => "Join." ++ error.kind
  | schema error => "Schema." ++ error.kind
  | mapping error => "Mapping." ++ error.kind
  | parameter error => "Parameter." ++ error.kind
  | usage _ => "Usage"
  | persistence _ => "Persistence"
  | context _ error => error.kind

end Error

instance : MonadLift (Except AliasError) (Except Error) := ⟨fun x => x.mapError .aliasing⟩
instance : MonadLift (Except JoinError) (Except Error) := ⟨fun x => x.mapError .join⟩
instance : MonadLift (Except SchemaError) (Except Error) := ⟨fun x => x.mapError .schema⟩
instance : MonadLift (Except MappingError) (Except Error) := ⟨fun x => x.mapError .mapping⟩
instance : MonadLift (Except ParameterError) (Except Error) := ⟨fun x => x.mapError .parameter⟩

end RelMap
