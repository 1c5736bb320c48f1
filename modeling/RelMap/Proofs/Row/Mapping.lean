import RelMap.Proofs.Row.Contents
import RelMap.Proofs.Schema.Expansion
import RelMap.Row.Decode

/-!
# Mapping rows

A row whose length is that of the plan is mapped by decoding the planned fields, in every mode that
has a record to give.
-/

namespace RelMap

/-! ## Decoding steps -/

namespace Decode

theorem intern_succeeds (r : Record) :
    ExceptT.Succeeds (intern r) (·.content.contents = r.contents) := by
  intro state
  exact ⟨_, _, rfl, state.interner.contents_intern r⟩

theorem newReference_succeeds (target : EntityName) (key : List SqlValue) :
    ExceptT.Succeeds (newReference target key) (fun r => r.entity = target ∧ r.key = some key) := by
  intro state
  refine ⟨_, _, rfl, ?_⟩
  cases hcell : state.nextCell with
  | none => exact ⟨rfl, rfl⟩
  | some cell => exact ⟨rfl, rfl⟩

theorem reference_succeeds {slots key : List SqlValue} {types : List ScalarType} {path : String}
    (target : EntityName) (nullable : Bool) (hslots : slots.all (·.isNull) = false)
    (hkey : keyValues path slots types = .ok key) :
    ExceptT.Succeeds (reference slots target types nullable path)
      (fun r => r.entity = target ∧ r.key = some key) := by
  rw [reference, hslots, hkey]
  exact newReference_succeeds target key

variable {slots : List SqlValue} {path : String} {state state' : DecodeState} {v : FieldValue}

/-- A composite is NULL where that is allowed and no slot has a value, and otherwise a record with
values equal to the decoded ones. -/
theorem composite_ok {name : String} {entity : EntityName} {inner : List FieldPlan}
    {nullable : Bool}
    (h : (field slots path (.composite name entity inner nullable)).run.run state =
      (.ok v, state')) :
    (v = .null ∧ nullable = true ∧ slots.all (·.isNull) = true) ∨
      (nullable && slots.all (·.isNull)) = false ∧ ∃ handle values ws between,
        (fields slots path inner).run.run state = (.ok values, between) ∧
        v = .record handle ⟨entity, ws⟩ ∧ contentsOf ws = contentsOf values := by
  rw [field] at h
  split at h
  · next hnull =>
    cases h
    exact .inl ⟨rfl, Bool.and_eq_true_iff.mp hnull⟩
  · next hnull =>
    obtain ⟨values, between, hvalues, h⟩ := ExceptT.bind_eq_ok h
    obtain ⟨shared, between', hshared, h⟩ := ExceptT.bind_eq_ok h
    cases h
    have hcontents := (intern_succeeds _).of_ok hshared
    obtain ⟨handle, entity', ws⟩ := shared
    rw [Record.contents, Record.contents, Record.mk.injEq] at hcontents
    obtain ⟨rfl, hws⟩ := hcontents
    exact .inr ⟨Bool.eq_false_iff.mpr hnull, handle, values, ws, between, hvalues, rfl, hws⟩

theorem field_scalar (slots : List SqlValue) (path name : String) (typ : ScalarType)
    (nullable : Bool) :
    field slots path (.scalar name typ nullable) =
      ExceptT.mk (pure (scalar (slots.headD .null) typ nullable path)) := by
  cases slots <;> rfl

theorem fields_cons (slots : List SqlValue) (path : String) (p : FieldPlan)
    (rest : List FieldPlan) :
    fields slots path (p :: rest) = (do
      let first ← field (slots.take p.width) s!"{path}.{p.name}" p
      return first :: (← fields (slots.drop p.width) path rest)) := by
  rw [fields]
  rfl

theorem fields_cons_ok {p : FieldPlan} {rest : List FieldPlan} {values : List FieldValue}
    (h : (fields slots path (p :: rest)).run.run state = (.ok values, state')) :
    ∃ v vs between,
      (field (slots.take p.width) s!"{path}.{p.name}" p).run.run state = (.ok v, between) ∧
      (fields (slots.drop p.width) path rest).run.run between = (.ok vs, state') ∧
      values = v :: vs := by
  rw [fields_cons] at h
  obtain ⟨v, between, hv, h⟩ := ExceptT.bind_eq_ok h
  obtain ⟨vs, _, hvs, h⟩ := ExceptT.bind_eq_ok h
  cases h
  exact ⟨v, vs, between, hv, hvs, rfl⟩

theorem scalar_ok {slot : SqlValue} {typ : ScalarType} {nullable : Bool}
    (h : scalar slot typ nullable path = .ok v) :
    slot.isNull = true ∧ v = .null ∧ nullable = true ∨
      slot.isNull = false ∧ coerce slot typ path = .ok v := by
  unfold scalar at h
  split at h
  · next hnull =>
    split at h
    · next hnullable =>
      cases h
      exact .inl ⟨hnull, rfl, hnullable⟩
    · cases h
  · next hnull => exact .inr ⟨Bool.eq_false_iff.mpr hnull, h⟩

theorem converted_ok {converter : Converter} {nullable : Bool}
    (h : converted slots converter nullable path = .ok v) :
    converter.fromColumns slots = .ok v ∧ (v = .null → nullable = true) := by
  unfold converted at h
  split at h
  · cases h
  · next hread =>
    split at h
    · cases h
    · next hnull =>
      cases h
      refine ⟨hread, ?_⟩
      rintro rfl
      simpa [FieldValue.isNull] using hnull

end Decode

/-! ## Rows -/

theorem Decoding.toRow_run {α : Type} (x : Decoding α) (state : DecodeState) :
    x.toRow.run.run state = ((x.run.run state).1.mapError .mapping, (x.run.run state).2) := by
  rfl

theorem Decoding.run_of_toRow {α : Type} {x : Decoding α} {a : α} {state state' : DecodeState}
    (h : x.toRow.run.run state = (.ok a, state')) : x.run.run state = (.ok a, state') := by
  rw [toRow_run, Prod.mk.injEq] at h
  exact Prod.ext (Except.mapError_eq_ok h.1) h.2

namespace RowPlan

theorem ofEntity_of_ne_pk {e : Entity} {mode : SelectMode} (hmode : mode ≠ .pk) :
    ofEntity e mode = .ok ⟨e.name, FieldPlan.ofFields mode e.fields⟩ := by
  cases mode with
  | pk => exact absurd rfl hmode
  | _ => rfl

end RowPlan

theorem Decode.checkedPlan_ok {e : Entity} {mode : SelectMode} {row : List SqlValue}
    {plan : RowPlan} (h : checkedPlan e mode row = .ok plan) :
    RowPlan.ofEntity e mode = .ok plan ∧ row.length = plan.width := by
  obtain ⟨plan', hplan, h⟩ := Except.bind_eq_ok h
  split at h
  · cases h
  · next hlength =>
    cases h
    exact ⟨Except.mapError_eq_ok hplan, not_not.mp hlength⟩

theorem Decode.checkedPlan_eq {e : Entity} {mode : SelectMode} {row : List SqlValue}
    (hmode : mode ≠ .pk)
    (hlength : row.length = FieldPlan.widths (FieldPlan.ofFields mode e.fields)) :
    checkedPlan e mode row = .ok ⟨e.name, FieldPlan.ofFields mode e.fields⟩ := by
  rw [checkedPlan, RowPlan.ofEntity_of_ne_pk hmode]
  exact if_neg (not_not_intro hlength)

namespace Schema

variable {s : Schema} {e : Entity} {mode : SelectMode} {row : List SqlValue}

theorem mapRow_eq (hmode : mode ≠ .pk) (he : s.entity? e.name = some e)
    (hlength : row.length = FieldPlan.widths (FieldPlan.ofFields mode e.fields)) :
    s.mapRow row e.name mode =
      Record.mk e.name <$> (Decode.fields row e.name (FieldPlan.ofFields mode e.fields)).toRow := by
  rw [mapRow, if_neg hmode, entity_of_entity? he]
  change (ExceptT.mk (pure (Decode.checkedPlan e mode row)) : RowDecoding RowPlan) >>= _ = _
  rw [Decode.checkedPlan_eq hmode hlength]
  rfl

/-- A row of another width is refused before it is looked at. -/
theorem mapRow_eq_error (hmode : mode ≠ .pk) (he : s.entity? e.name = some e)
    (hlength : row.length ≠ FieldPlan.widths (FieldPlan.ofFields mode e.fields))
    (state : DecodeState) :
    (s.mapRow row e.name mode).run.run state = (.error (.mapping (.columnCount e.name
      (FieldPlan.widths (FieldPlan.ofFields mode e.fields)) row.length)), state) := by
  have hplan : Decode.checkedPlan e mode row = .error (.mapping (.columnCount e.name
      (FieldPlan.widths (FieldPlan.ofFields mode e.fields)) row.length)) := by
    rw [Decode.checkedPlan, RowPlan.ofEntity_of_ne_pk hmode]
    exact if_pos hlength
  rw [mapRow, if_neg hmode, entity_of_entity? he]
  change ((ExceptT.mk (pure (Decode.checkedPlan e mode row)) : RowDecoding RowPlan) >>= _).run.run
    state = _
  rw [hplan]
  rfl

theorem mapRow_ok {name : EntityName} {r : Record} {state state' : DecodeState}
    (h : (s.mapRow row name mode).run.run state = (.ok r, state')) :
    ∃ e values, s.entity? name = some e ∧ mode ≠ .pk ∧
      row.length = FieldPlan.widths (FieldPlan.ofFields mode e.fields) ∧
      (Decode.fields row e.name (FieldPlan.ofFields mode e.fields)).run.run state =
        (.ok values, state') ∧ r = ⟨e.name, values⟩ := by
  unfold mapRow at h
  split at h
  · cases h
  · next hmode =>
    obtain ⟨e, between, hentity, h⟩ := ExceptT.bind_eq_ok h
    obtain ⟨plan, between', hchecked, h⟩ := ExceptT.bind_eq_ok h
    obtain ⟨values, between'', hvalues, h⟩ := ExceptT.bind_eq_ok h
    cases h
    obtain ⟨hfound, rfl⟩ := ExceptT.mk_pure_eq_ok hentity
    obtain ⟨hplanned, rfl⟩ := ExceptT.mk_pure_eq_ok hchecked
    obtain ⟨hplan, hlength⟩ := Decode.checkedPlan_ok hplanned
    rw [RowPlan.ofEntity_of_ne_pk hmode] at hplan
    cases hplan
    exact ⟨e, values, entity?_of_entity (Except.mapError_eq_ok hfound), hmode, hlength,
      Decoding.run_of_toRow hvalues, rfl⟩

end Schema

end RelMap
