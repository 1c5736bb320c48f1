import RelMap.Schema.Entity
import RelMap.Scope.Path

/-!
# Field paths

A dotted path leads from an entity through inline composites to a field. One walk goes along it for
the columns of the field in the table of that entity, another one for the field itself.
-/

namespace RelMap

namespace Field

/-- The columns that the names lead to, where the fields have `offset` columns before them. Each
name but the last has to be that of an inline composite; of several fields of one name the first
counts. -/
def spanAt? (offset : Nat) (fields : List Field) : List String → Option Span
  | [] => none
  | [name] => ((spansFrom 0 fields).find? (·.1.name == name)).map (·.2.shift offset)
  | name :: rest =>
    match (spansFrom 0 fields).find? (·.1.name == name) with
    | some (.inline _ _ inner, host) => spanAt? (offset + host.start) inner rest
    | _ => none

/-- The field that the names lead to in this way. -/
def fieldAt? (fields : List Field) : List String → Option Field
  | [] => none
  | [name] => fields.find? (·.name == name)
  | name :: rest =>
    match fields.find? (·.name == name) with
    | some (.inline _ _ inner) => fieldAt? inner rest
    | _ => none

mutual

/-- The paths at which the inline entity `wanted` is embedded in a field, outer ones first. -/
def occurrences (wanted : EntityName) (path : String) : Field → List String
  | .inline info target fields =>
    let here := Path.join path info.name
    (if target.name = wanted then [here] else []) ++ occurrencesIn wanted here fields
  | _ => []
termination_by structural f => f

def occurrencesIn (wanted : EntityName) (path : String) : List Field → List String
  | [] => []
  | f :: rest => occurrences wanted path f ++ occurrencesIn wanted path rest
termination_by structural fs => fs

end

end Field

namespace Entity

def fieldSpan (e : Entity) (path : String) : Except SchemaError Span :=
  match Field.spanAt? 0 e.fields (Path.segments path) with
  | some span => .ok span
  | none => .error (.unknownField e.name path)

def fieldAt (e : Entity) (path : String) : Except SchemaError Field :=
  match Field.fieldAt? e.fields (Path.segments path) with
  | some f => .ok f
  | none => .error (.unknownField e.name path)

def inlineOccurrences (e : Entity) (inline : EntityName) : List String :=
  Field.occurrencesIn inline "" e.fields

end Entity

end RelMap
