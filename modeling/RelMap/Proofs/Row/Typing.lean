import RelMap.Proofs.Row.KeyFields
import RelMap.Proofs.Schema.Keys

/-!
# Types of decoded records

Whatever a row holds, the record it is mapped to is well typed: NULL stands only where it is
allowed, a scalar is of exactly its type, and composites and references are those that the fields
name. A row of the wrong width is refused before anything is interned.
-/

namespace RelMap

/-! ## Well-typed values -/

/-- The value refers to the entity: by one value for each of its key columns, none of them NULL, or,
if that is allowed, to nothing. -/
def FieldValue.RefersTo (s : Schema) (target : EntityName) (nullable : Bool) (v : FieldValue) :
    Prop :=
  ∃ key source, v = .reference ⟨target, key, source⟩ ∧
    (key = none ∧ nullable = true ∨ ∃ e parts, s.entity? target = some e ∧ key = some parts ∧
      parts.length = (e.keyColumns s.naming).length ∧ .null ∉ parts)

namespace Field

mutual

/-- The value is of the field's type. What a converter makes of its columns is its own affair,
except for NULL. -/
def WellTyped (s : Schema) (mode : SelectMode) : Field → FieldValue → Prop
  | .scalar info typ, v => v = .null ∧ info.nullable = true ∨ typ.Decodes v
  | .converted info _, v => v = .null → info.nullable = true
  | .inline info target fields, v =>
    v = .null ∧ info.nullable = true ∨
      ∃ handle values, v = .record handle ⟨target.name, values⟩ ∧ AllWellTyped s mode fields values
  | .foreignKey info target _ fields, v =>
    if mode = .full then
      v = .null ∧ info.nullable = true ∨
        ∃ handle values, v = .record handle ⟨target.name, values⟩ ∧
          AllWellTyped s mode fields values
    else v.RefersTo s target.name info.nullable
  | .ref info target _, v => v.RefersTo s target info.nullable
termination_by structural f => f

def AllWellTyped (s : Schema) (mode : SelectMode) : List Field → List FieldValue → Prop
  | [], [] => True
  | f :: fields, v :: values => WellTyped s mode f v ∧ AllWellTyped s mode fields values
  | _, _ => False
termination_by structural fields => fields

end

/-! ## Equal values -/

variable {s : Schema} {mode : SelectMode} {v w : FieldValue}

theorem refersTo_of_contents {target : EntityName} {nullable : Bool}
    (h : v.RefersTo s target nullable) (hw : w.contents = v.contents) :
    w.RefersTo s target nullable := by
  obtain ⟨key, source, rfl, hkey⟩ := h
  obtain ⟨source', rfl⟩ := eq_reference_of_contents hw
  exact ⟨key, source', rfl, hkey⟩

mutual

theorem WellTyped.of_contents {f : Field} {v w : FieldValue} (h : WellTyped s mode f v)
    (hw : w.contents = v.contents) : WellTyped s mode f w := by
  cases f with
  | scalar info typ =>
    rcases h with ⟨rfl, hnullable⟩ | h
    · exact .inl ⟨eq_null_of_contents hw, hnullable⟩
    · right
      cases v with
      | scalar value => rwa [eq_scalar_of_contents hw]
      | enum variant => rwa [eq_enum_of_contents hw]
      | _ => cases typ <;> exact h.elim
  | converted info converter =>
    rintro rfl
    exact h (eq_null_of_contents hw.symm)
  | ref info target key => exact refersTo_of_contents h hw
  | inline info target fields =>
    rcases h with ⟨rfl, hnullable⟩ | ⟨handle, values, rfl, hvalues⟩
    · exact .inl ⟨eq_null_of_contents hw, hnullable⟩
    · obtain ⟨handle', values', rfl, hcontents⟩ := eq_record_of_contents hw
      exact .inr ⟨handle', values', rfl, AllWellTyped.of_contents hvalues hcontents⟩
  | foreignKey info target key fields =>
    rw [WellTyped] at h ⊢
    split at h
    · next hfull =>
      rw [if_pos hfull]
      rcases h with ⟨rfl, hnullable⟩ | ⟨handle, values, rfl, hvalues⟩
      · exact .inl ⟨eq_null_of_contents hw, hnullable⟩
      · obtain ⟨handle', values', rfl, hcontents⟩ := eq_record_of_contents hw
        exact .inr ⟨handle', values', rfl, AllWellTyped.of_contents hvalues hcontents⟩
    · next hfull =>
      rw [if_neg hfull]
      exact refersTo_of_contents h hw
termination_by structural f

theorem AllWellTyped.of_contents {fields : List Field} {values ws : List FieldValue}
    (h : AllWellTyped s mode fields values) (hws : contentsOf ws = contentsOf values) :
    AllWellTyped s mode fields ws := by
  cases fields with
  | nil =>
    cases values with
    | nil =>
      cases ws with
      | nil => trivial
      | cons w ws => cases hws
    | cons v values => exact h.elim
  | cons f fields =>
    cases values with
    | nil => exact h.elim
    | cons v values =>
      cases ws with
      | nil => cases hws
      | cons w ws =>
        rw [contentsOf, contentsOf, List.cons.injEq] at hws
        exact ⟨WellTyped.of_contents h.1 hws.1, AllWellTyped.of_contents h.2 hws.2⟩
termination_by structural fields

end

/-! ## Decoded fields -/

variable {slots : List SqlValue} {path : String} {state state' : DecodeState}

theorem refersTo_of_decode {e : Entity} {key : KeyColumn} {nullable : Bool} {r : Reference}
    (he : s.entity? e.name = some e) (hkeyed : e.KeyedBy s.naming key) (hlength : slots.length = 1)
    (h : (Decode.reference slots e.name [key.typ] nullable path).run.run state = (.ok r, state')) :
    (FieldValue.reference r).RefersTo s e.name nullable := by
  obtain ⟨entity, parts, source⟩ := r
  obtain ⟨rfl, hparts⟩ := Decode.reference_ok h
  refine ⟨parts, source, rfl, ?_⟩
  rcases hparts with ⟨-, hnullable, hnone⟩ | ⟨-, key', hread, hsome⟩
  · exact .inl ⟨hnone, hnullable⟩
  · right
    obtain ⟨slot, rfl⟩ := List.length_eq_one_iff.mp hlength
    obtain ⟨part, rfl, hpart⟩ := Decode.keyValues_single_ok hread
    obtain ⟨column, hcolumns, -⟩ := hkeyed.keyColumns
    refine ⟨e, [part], he, hsome, ?_, ?_⟩
    · rw [hcolumns]
      rfl
    · rw [List.mem_singleton]
      exact (Decode.keyValue_ne_null hpart).2.symm

mutual

theorem wellTyped_of_decode {f : Field} {slots : List SqlValue} {path : String}
    {state state' : DecodeState} {v : FieldValue} (hcoherent : f.Coherent s) (hkeyed : f.Keyed s)
    (hmode : mode ≠ .pk) (hlength : slots.length = (FieldPlan.ofField mode f).width)
    (h : (Decode.field slots path (FieldPlan.ofField mode f)).run.run state = (.ok v, state')) :
    WellTyped s mode f v := by
  cases f with
  | scalar info typ =>
    obtain ⟨hscalar, -⟩ := ExceptT.mk_pure_eq_ok h
    rcases Decode.scalar_ok hscalar with ⟨-, rfl, hnullable⟩ | ⟨-, hcoerce⟩
    · exact .inl ⟨rfl, hnullable⟩
    · exact .inr (decodes_of_coerce hcoerce)
  | converted info converter =>
    obtain ⟨hconverted, -⟩ := ExceptT.mk_pure_eq_ok h
    exact (Decode.converted_ok hconverted).2
  | ref info target key =>
    obtain ⟨r, between, hr, h⟩ := ExceptT.bind_eq_ok h
    cases h
    obtain ⟨e, he, hkey⟩ := hkeyed
    cases Schema.name_of_entity? he
    exact refersTo_of_decode he hkey hlength hr
  | inline info target fields =>
    rw [FieldPlan.ofField, if_neg hmode] at h hlength
    rcases Decode.composite_ok h with
      ⟨rfl, hnullable, -⟩ | ⟨-, handle, values, ws, between, hvalues, rfl, hws⟩
    · exact .inl ⟨rfl, hnullable⟩
    · have htyped := allWellTyped_of_decode hcoherent.2 hkeyed hmode hlength hvalues
      exact .inr ⟨handle, ws, rfl, htyped.of_contents hws⟩
  | foreignKey info target key fields =>
    rw [WellTyped]
    rw [FieldPlan.ofField] at h hlength
    split
    · next hfull =>
      rw [if_pos hfull] at h hlength
      rcases Decode.composite_ok h with
        ⟨rfl, hnullable, -⟩ | ⟨-, handle, values, ws, between, hvalues, rfl, hws⟩
      · exact .inl ⟨rfl, hnullable⟩
      · have htyped := allWellTyped_of_decode hcoherent.2 hkeyed.2 hmode hlength hvalues
        exact .inr ⟨handle, ws, rfl, htyped.of_contents hws⟩
    · next hfull =>
      rw [if_neg hfull] at h hlength
      obtain ⟨r, between, hr, h⟩ := ExceptT.bind_eq_ok h
      cases h
      exact refersTo_of_decode (e := ⟨target, fields⟩) hcoherent.1 hkeyed.1 hlength hr
termination_by structural f

theorem allWellTyped_of_decode {fields : List Field} {slots : List SqlValue} {path : String}
    {state state' : DecodeState} {values : List FieldValue} (hcoherent : AllCoherent s fields)
    (hkeyed : AllKeyed s fields) (hmode : mode ≠ .pk)
    (hlength : slots.length = FieldPlan.widths (FieldPlan.ofFields mode fields))
    (h : (Decode.fields slots path (FieldPlan.ofFields mode fields)).run.run state =
      (.ok values, state')) : AllWellTyped s mode fields values := by
  cases fields with
  | nil =>
    cases h
    trivial
  | cons f fields =>
    obtain ⟨v, values, between, hv, hvalues, rfl⟩ := Decode.fields_cons_ok h
    rw [FieldPlan.ofFields, FieldPlan.widths] at hlength
    refine ⟨wellTyped_of_decode hcoherent.1 hkeyed.1 hmode ?_ hv,
      allWellTyped_of_decode hcoherent.2 hkeyed.2 hmode ?_ hvalues⟩
    · rw [List.length_take]
      omega
    · rw [List.length_drop]
      omega
termination_by structural fields

end

end Field

/-! ## Rows -/

namespace Schema

variable {spec : SchemaSpec} {s : Schema} {name : EntityName} {e : Entity} {mode : SelectMode}

/-- The record that a row is mapped to is one of the entity with a well-typed value for each field.
A row of another width than that of the plan is refused, and nothing is interned. -/
theorem mapRow_wellTyped (hs : spec.toSchema = .ok s) (he : s.entity? name = some e)
    (hmode : mode ≠ .pk) (row : List SqlValue) (state : DecodeState) :
    (∀ r state', (s.mapRow row name mode).run.run state = (.ok r, state') →
      r.entity = name ∧ Field.AllWellTyped s mode e.fields r.values) ∧
    ∃ plan, RowPlan.ofEntity e mode = .ok plan ∧ (row.length ≠ plan.width →
      (s.mapRow row name mode).run.run state =
        (.error (.mapping (.columnCount name plan.width row.length)), state)) := by
  cases name_of_entity? he
  refine ⟨?_, _, RowPlan.ofEntity_of_ne_pk hmode, ?_⟩
  · intro r state' h
    obtain ⟨e', values, he', -, hlength, hvalues, rfl⟩ := mapRow_ok h
    cases he.symm.trans he'
    exact ⟨rfl, Field.allWellTyped_of_decode (allCoherent_of_entity? hs he)
      (allKeyed_of_entity? hs he) hmode hlength hvalues⟩
  · intro hlength
    exact mapRow_eq_error hmode he hlength state

/-- A person at an address in a city without a name, and a row that ends too early. -/
theorem mapRow_wellTyped_person :
    Sample.spec.toSchema = .ok Sample.schema ∧
    Sample.schema.entity? "Person" = some Sample.person ∧ SelectMode.full ≠ .pk ∧
    (∃ r state', (Sample.schema.mapRow [.int 7, .int 1, .bigInt 3, .null, .text "Main Street",
        .null, .null, .int 8] "Person" .full).run.run {} = (.ok r, state') ∧
      r.entity = "Person" ∧
      Field.AllWellTyped Sample.schema .full Sample.person.fields r.values) ∧
    ([.int 7] : List SqlValue).length ≠ 8 ∧
    (Sample.schema.mapRow [.int 7] "Person" .full).run.run {} =
      (.error (.mapping (.columnCount "Person" 8 1)), {}) := by
  have he : Sample.schema.entity? "Person" = some Sample.person := rfl
  have hmode : SelectMode.full ≠ .pk := by decide
  have hall := mapRow_wellTyped Sample.toSchema_spec he hmode
  obtain ⟨r, state', hrow⟩ : ∃ r state', (Sample.schema.mapRow [.int 7, .int 1, .bigInt 3, .null,
      .text "Main Street", .null, .null, .int 8] "Person" .full).run.run {} = (.ok r, state') :=
    ⟨_, _, rfl⟩
  have hshort : ([.int 7] : List SqlValue).length ≠ 8 := by decide
  obtain ⟨plan, hplan, hrefused⟩ := (hall [.int 7] {}).2
  cases hplan
  exact ⟨Sample.toSchema_spec, he, hmode, ⟨r, state', hrow, (hall _ _).1 r state' hrow⟩, hshort,
    hrefused hshort⟩

end Schema

end RelMap
