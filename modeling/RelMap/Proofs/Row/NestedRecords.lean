import RelMap.Proofs.Row.Mapping
import RelMap.Proofs.Schema.Converters

/-!
# Nested records

The records that composites put inside a record, down to any depth. Unless a converter makes records
as well, a decoded record has no others inside.
-/

namespace RelMap

/-! ## Nested records -/

namespace Field

mutual

/-- The nested records that composites make of the value of a field. -/
def nested : Field → FieldValue → List SharedRecord
  | .inline _ _ fields, .record handle content | .foreignKey _ _ _ fields, .record handle content =>
    ⟨handle, content⟩ :: nestedAll fields content.values
  | _, _ => []
termination_by structural f => f

def nestedAll : List Field → List FieldValue → List SharedRecord
  | f :: fields, v :: values => nested f v ++ nestedAll fields values
  | _, _ => []
termination_by structural fields => fields

end

end Field

/-- The nested records of a record, down to any depth. -/
def Schema.nestedRecords (s : Schema) (r : Record) : List SharedRecord :=
  match s.entity? r.entity with
  | some e => Field.nestedAll e.fields r.values
  | none => []

/-! ## All nested records -/

mutual

def FieldValue.within : FieldValue → List SharedRecord
  | .record handle content => ⟨handle, content⟩ :: content.within
  | .null | .scalar _ | .enum _ | .reference _ => []
termination_by structural v => v

def Record.within : Record → List SharedRecord
  | ⟨_, values⟩ => withinAll values
termination_by structural r => r

def withinAll : List FieldValue → List SharedRecord
  | [] => []
  | v :: rest => v.within ++ withinAll rest
termination_by structural vs => vs

end

def Converter.Flat (c : Converter) : Prop :=
  ∀ slots v, c.fromColumns slots = .ok v → v.record? = none

namespace Field

mutual

/-- Only composites have records for values. -/
def Composed : Field → FieldValue → Prop
  | .inline _ _ fields, .record _ content | .foreignKey _ _ _ fields, .record _ content =>
    AllComposed fields content.values
  | _, v => v.record? = none
termination_by structural f => f

def AllComposed : List Field → List FieldValue → Prop
  | [], [] => True
  | f :: fields, v :: values => Composed f v ∧ AllComposed fields values
  | _, _ => False
termination_by structural fields => fields

end

mutual

theorem Composed.within_eq {f : Field} {v : FieldValue} (h : f.Composed v) :
    v.within = f.nested v := by
  cases v with
  | record handle content =>
    obtain ⟨entity, values⟩ := content
    cases f with
    | inline info target fields | foreignKey info target key fields =>
      exact congrArg (_ :: ·) (AllComposed.within_eq h)
    | _ => cases h
  | _ => cases f <;> rfl
termination_by structural f

/-- Where only composites have records for values, the nested records are all there are. -/
theorem AllComposed.within_eq {fields : List Field} {values : List FieldValue}
    (h : AllComposed fields values) : withinAll values = nestedAll fields values := by
  cases fields with
  | nil =>
    cases values with
    | nil => rfl
    | cons v values => exact h.elim
  | cons f fields =>
    cases values with
    | nil => exact h.elim
    | cons v values =>
      rw [withinAll, nestedAll, Composed.within_eq h.1, AllComposed.within_eq h.2]
termination_by structural fields

end

mutual

theorem Composed.of_contents {f : Field} {v w : FieldValue} (h : f.Composed v)
    (hw : w.contents = v.contents) : f.Composed w := by
  cases v with
  | record handle content =>
    obtain ⟨entity, values⟩ := content
    obtain ⟨handle', values', rfl, hvalues⟩ := eq_record_of_contents hw
    cases f with
    | inline info target fields | foreignKey info target key fields =>
      exact AllComposed.of_contents h hvalues
    | _ => cases h
  | _ =>
    cases w with
    | record => cases hw
    | _ => cases f <;> rfl
termination_by structural f

theorem AllComposed.of_contents {fields : List Field} {values ws : List FieldValue}
    (h : AllComposed fields values) (hws : contentsOf ws = contentsOf values) :
    AllComposed fields ws := by
  cases fields with
  | nil =>
    cases values with
    | nil =>
      cases ws with
      | nil => trivial
      | cons w ws => cases hws
    | cons v values => exact h.elim
  | cons f fields =>
    cases values with
    | nil => exact h.elim
    | cons v values =>
      cases ws with
      | nil => cases hws
      | cons w ws =>
        rw [contentsOf, contentsOf, List.cons.injEq] at hws
        exact ⟨Composed.of_contents h.1 hws.1, AllComposed.of_contents h.2 hws.2⟩
termination_by structural fields

end

/-! ## Decoded values -/

theorem record?_of_coerce {value : SqlValue} {typ : ScalarType} {path : String} {v : FieldValue}
    (h : coerce value typ path = .ok v) : v.record? = none := by
  unfold coerce at h
  split at h
  · next type =>
    cases hdecode : type.decode value path <;> rw [hdecode] at h <;> cases h
    rfl
  · split at h <;> cases h
    rfl

mutual

theorem composed_of_decode {f : Field} {mode : SelectMode} {slots : List SqlValue} {path : String}
    {state state' : DecodeState} {v : FieldValue} (hflat : f.ForConverters Converter.Flat)
    (h : (Decode.field slots path (FieldPlan.ofField mode f)).run.run state = (.ok v, state')) :
    f.Composed v := by
  cases f with
  | scalar info typ =>
    obtain ⟨hv, -⟩ := ExceptT.mk_pure_eq_ok h
    obtain ⟨-, rfl, -⟩ | ⟨-, hcoerce⟩ := Decode.scalar_ok hv
    · rfl
    · exact record?_of_coerce hcoerce
  | converted info converter =>
    obtain ⟨hv, -⟩ := ExceptT.mk_pure_eq_ok h
    exact hflat _ _ (Decode.converted_ok hv).1
  | ref info target key =>
    obtain ⟨r, between, -, h⟩ := ExceptT.bind_eq_ok h
    cases h
    rfl
  | inline info target fields =>
    obtain ⟨rfl, -⟩ | ⟨-, handle, values, ws, between, hvalues, rfl, hws⟩ := Decode.composite_ok h
    · rfl
    · exact (allComposed_of_decode hflat hvalues).of_contents hws
  | foreignKey info target key fields =>
    rw [FieldPlan.ofField] at h
    split at h
    · obtain ⟨rfl, -⟩ | ⟨-, handle, values, ws, between, hvalues, rfl, hws⟩ := Decode.composite_ok h
      · rfl
      · exact (allComposed_of_decode hflat hvalues).of_contents hws
    · obtain ⟨r, between, -, h⟩ := ExceptT.bind_eq_ok h
      cases h
      rfl
termination_by structural f

theorem allComposed_of_decode {fields : List Field} {mode : SelectMode} {slots : List SqlValue}
    {path : String} {state state' : DecodeState} {values : List FieldValue}
    (hflat : AllForConverters Converter.Flat fields)
    (h : (Decode.fields slots path (FieldPlan.ofFields mode fields)).run.run state =
      (.ok values, state')) : AllComposed fields values := by
  cases fields with
  | nil =>
    cases h
    trivial
  | cons f fields =>
    obtain ⟨v, values, between, hv, hvalues, rfl⟩ := Decode.fields_cons_ok h
    exact ⟨composed_of_decode hflat.1 hv, allComposed_of_decode hflat.2 hvalues⟩
termination_by structural fields

end

end Field

/-- Unless converters make records, the nested records of a mapped row are all the records inside
its record. -/
theorem Schema.within_mapRow {spec : SchemaSpec} {s : Schema} (h : spec.toSchema = .ok s)
    (hflat : ∀ c ∈ spec.converters, c.2.Flat) {row : List SqlValue} {name : EntityName}
    {mode : SelectMode} {r : Record} {state state' : DecodeState}
    (hmap : (s.mapRow row name mode).run.run state = (.ok r, state')) :
    r.within = s.nestedRecords r := by
  obtain ⟨e, values, he, -, -, hvalues, rfl⟩ := mapRow_ok hmap
  have hcomposed := Field.allComposed_of_decode (allForConverters_of_entity? h hflat he) hvalues
  cases name_of_entity? he
  rw [nestedRecords, he]
  exact hcomposed.within_eq

end RelMap
