import RelMap.Proofs.Names
import RelMap.Proofs.Row.KeyFields

/-!
# Keys of rows

The key that is read from the key slots of a row alone, and the key of the record that the whole row
is mapped to. Main statement: they are the same, unless the key holds a NULL, which is refused.
-/

namespace RelMap

/-! ## Positions -/

namespace FieldPlan

theorem name_ofField (mode : SelectMode) (f : Field) : (ofField mode f).name = f.name := by
  cases f with
  | foreignKey info target key fields =>
    rw [ofField]
    split <;> rfl
  | _ => rfl

theorem findIdx?_spansFrom (mode : SelectMode) (name : String) (start : Nat) (fields : List Field) :
    (spansFrom start (ofFields mode fields)).findIdx? (·.1.name == name) =
      fields.findIdx? (·.name == name) := by
  induction fields generalizing start with
  | nil => rfl
  | cons f rest ih =>
    rw [ofFields, spansFrom, List.findIdx?_cons, List.findIdx?_cons, name_ofField, ih]

theorem getElem?_spansFrom {fields : List Field} {i : Nat} {f : Field} (h : fields[i]? = some f)
    (mode : SelectMode) (start : Nat) :
    ∃ span, (spansFrom start (ofFields mode fields))[i]? = some (ofField mode f, span) := by
  induction fields generalizing start i with
  | nil => cases h
  | cons g rest ih =>
    cases i with
    | zero =>
      cases h
      exact ⟨_, rfl⟩
    | succ i => exact ih h _

end FieldPlan

namespace Entity

variable {e : Entity} {key : Field}

theorem exists_keyFieldIndex? (h : e.keyField? = some key) :
    ∃ i, e.keyFieldIndex? = some i ∧ e.fields[i]? = some key := by
  unfold keyField? at h
  unfold keyFieldIndex?
  generalize e.fields = fields at h ⊢
  induction fields with
  | nil => cases h
  | cons f rest ih =>
    rw [List.find?_cons] at h
    rw [List.findIdx?_cons]
    cases hprimary : f.info.primaryKey with
    | true =>
      rw [hprimary] at h
      cases h
      exact ⟨0, rfl, rfl⟩
    | false =>
      rw [hprimary] at h
      obtain ⟨i, hi, hget⟩ := ih h
      refine ⟨i + 1, ?_, hget⟩
      rw [hi]
      rfl

/-- With distinct names the first field of a field's name is the field itself. -/
theorem fieldIndex?_of_getElem? {i : Nat} (hnames : (e.fields.map (·.name)).Nodup)
    (h : e.fields[i]? = some key) : e.fieldIndex? key.name = some i :=
  findIdx?_of_getElem? hnames h

end Entity

theorem RowPlan.keySlots?_eq {e : Entity} {key : Field} {i : Nat} {mode : SelectMode} {span : Span}
    (hnames : (e.fields.map (·.name)).Nodup) (hkey : e.keyField? = some key)
    (hi : e.fields[i]? = some key)
    (hspan : (FieldPlan.spansFrom 0 (FieldPlan.ofFields mode e.fields))[i]? =
      some (FieldPlan.ofField mode key, span)) :
    keySlots? ⟨e.name, FieldPlan.ofFields mode e.fields⟩ e = some (i, span) := by
  have hindex : (FieldPlan.spansFrom 0 (FieldPlan.ofFields mode e.fields)).findIdx?
      (·.1.name == key.name) = some i := by
    rw [FieldPlan.findIdx?_spansFrom]
    exact Entity.fieldIndex?_of_getElem? hnames hi
  unfold keySlots?
  rw [hkey]
  simp only [Option.bind_eq_bind, Option.bind_some, hindex, hspan]
  rfl

theorem Decode.field_of_fields {row : List SqlValue} {path : String} {plans : List FieldPlan}
    {start : Nat} {values : List FieldValue} {state state' : DecodeState}
    (hlength : row.length = start + FieldPlan.widths plans)
    (h : (fields (row.drop start) path plans).run.run state = (.ok values, state')) {i : Nat}
    {p : FieldPlan} {span : Span} (hspan : (FieldPlan.spansFrom start plans)[i]? = some (p, span)) :
    ∃ v before after, values[i]? = some v ∧ (span.slice row).length = p.width ∧
      (field (span.slice row) s!"{path}.{p.name}" p).run.run before = (.ok v, after) := by
  induction plans generalizing start i values state with
  | nil => cases hspan
  | cons first rest ih =>
    obtain ⟨v, others, between, hv, hothers, rfl⟩ := fields_cons_ok h
    rw [FieldPlan.widths] at hlength
    cases i with
    | zero =>
      cases hspan
      refine ⟨v, state, between, rfl, Span.length_slice_mk_add (by omega), ?_⟩
      rw [Span.slice, Span.width_mk_add]
      exact hv
    | succ i =>
      rw [List.drop_drop] at hothers
      exact ih (by omega) hothers hspan

theorem Encode.nth_eq {s : Schema} {f : Field} {path : String} {values : List FieldValue} {i : Nat}
    {v : FieldValue} (h : values[i]? = some v) : nth s f path i values = field s f path v := by
  induction values generalizing i with
  | nil => cases h
  | cons first rest ih =>
    cases i with
    | zero =>
      cases h
      rfl
    | succ i => exact ih h

/-! ## References from rows -/

namespace Schema

variable {s : Schema} {e : Entity} {key : Field} {mode : SelectMode} {row : List SqlValue}

theorem mapRef_eq {i : Nat} {span : Span} {columns : List Column} (he : s.entity? e.name = some e)
    (hmode : mode ≠ .pk) (hkey : e.keyField? = some key) (hcolumns : s.keyColumns e = .ok columns)
    (hlength : row.length = FieldPlan.widths (FieldPlan.ofFields mode e.fields))
    (hspan : RowPlan.keySlots? ⟨e.name, FieldPlan.ofFields mode e.fields⟩ e = some (i, span)) :
    s.mapRef row e.name mode = (Decode.reference (span.slice row) e.name key.columnTypes false
      s!"{e.name}.{key.name}").toRow := by
  have hplan := Decode.checkedPlan_eq hmode hlength
  have htypes : columns.map (·.typ) = key.columnTypes := by
    rw [(keyColumns_ok hcolumns).1, Entity.keyColumns_of_keyField? hkey, Field.map_typ_columns]
  rw [mapRef, entity_of_entity? he, Except.mapError, ExceptT.mk_pure_ok_bind, hplan,
    ExceptT.mk_pure_ok_bind, hspan, hkey]
  dsimp only
  rw [hcolumns, ← htypes]
  rfl

/-- A row that is mapped to a record gives a reference with the key of that record, if none of the
key's parts is NULL, and is refused for the key field otherwise. -/
theorem mapRef_of_mapRow {spec : SchemaSpec} (hs : spec.toSchema = .ok s)
    (hnames : ∀ e ∈ s.entities, (e.fields.map (·.name)).Nodup) {name : EntityName}
    (he : s.entity? name = some e) {columns : List Column} (hcolumns : s.keyColumns e = .ok columns)
    (hkey : e.keyField? = some key) (hkeeps : key.KeepsParts)
    (hlinks : mode = .full → key.Unlinked) {r : Record} {state state' : DecodeState}
    (h : (s.mapRow row name mode).run.run state = (.ok r, state')) :
    ∃ parts, s.keyValues r = .ok parts ∧
      (.null ∉ parts → ∀ start, ∃ ref final,
        (s.mapRef row name mode).run.run start = (.ok ref, final) ∧ ref.entity = name ∧
          ref.key = some parts) ∧
      (.null ∈ parts → ∀ start, (s.mapRef row name mode).run.run start =
        (.error (.mapping (.nullValue s!"{name}.{key.name}")), start)) := by
  obtain ⟨e', values, he', hmode, hlength, hvalues, rfl⟩ := mapRow_ok h
  cases he.symm.trans he'
  have hname : e.name = name := name_of_entity? he
  subst hname
  obtain ⟨i, hindex, hi⟩ := Entity.exists_keyFieldIndex? hkey
  obtain ⟨span, hspan⟩ := FieldPlan.getElem?_spansFrom hi mode 0
  rw [← row.drop_zero] at hvalues
  obtain ⟨v, before, after, hv, hslots, hdecode⟩ :=
    Decode.field_of_fields (by rw [hlength, Nat.zero_add]) hvalues hspan
  have hcoherent : key.Coherent s :=
    Field.allCoherent_iff.mp (allCoherent_of_entity? hs he) key (List.mem_of_getElem? hi)
  rw [FieldPlan.width_ofField hlinks] at hslots
  obtain ⟨parts, hreads, hencode⟩ := Field.encodesAsRead hcoherent hkeeps hlinks hslots hdecode v rfl
  have hkeySlots := RowPlan.keySlots?_eq (hnames e (List.mem_of_find?_eq_some he)) hkey hi hspan
  rw [mapRef_eq he hmode hkey hcolumns hlength hkeySlots]
  refine ⟨parts, ?_, ?_, ?_⟩
  · rw [keyValues, Encode.key, entity_of_entity? he]
    have hstep (g : Entity → Except Error (List SqlValue)) :
        (liftM (Except.ok e : Except SchemaError Entity) : Except Error Entity) >>= g = g e := rfl
    rw [hstep, hindex, hkey]
    exact (Encode.nth_eq hv).trans (hencode _)
  · intro hnull start
    have hne : key.columnTypes ≠ [] := by
      rw [← Field.map_typ_columns s.naming {}, ← Entity.keyColumns_of_keyField? hkey,
        ← (keyColumns_ok hcolumns).1]
      exact fun hnil => keyColumns_ne_nil hcolumns (List.map_eq_nil_iff.mp hnil)
    obtain ⟨ref, final, hrun, href⟩ := hreads.reference_succeeds hnull hne e.name false
      s!"{e.name}.{key.name}" start
    refine ⟨ref, final, ?_, href⟩
    rw [Decoding.toRow_run, hrun]
    rfl
  · intro hnull start
    rw [Decoding.toRow_run, hreads.reference_eq_error hnull]
    rfl

theorem mapRef_of_mapRow_stay : ∃ key columns r state',
    Sample.spec.toSchema = .ok Sample.schema ∧
    (∀ e ∈ Sample.schema.entities, (e.fields.map (·.name)).Nodup) ∧
    Sample.schema.entity? "Stay" = some Sample.stay ∧
    Sample.schema.keyColumns Sample.stay = .ok columns ∧ Sample.stay.keyField? = some key ∧
    key.KeepsParts ∧ (SelectMode.nested = .full → key.Unlinked) ∧
    (Sample.schema.mapRow [.int 3, .text "Main Street", .bigInt 7] "Stay" .nested).run.run {} =
      (.ok r, state') ∧
    ∃ parts, Sample.schema.keyValues r = .ok parts ∧
      (.null ∉ parts → ∀ start, ∃ ref final,
        (Sample.schema.mapRef [.int 3, .text "Main Street", .bigInt 7] "Stay" .nested).run.run
          start = (.ok ref, final) ∧ ref.entity = "Stay" ∧ ref.key = some parts) ∧
      (.null ∈ parts → ∀ start,
        (Sample.schema.mapRef [.int 3, .text "Main Street", .bigInt 7] "Stay" .nested).run.run
          start = (.error (.mapping (.nullValue "Stay.place")), start)) := by
  have hnames : ∀ e ∈ Sample.schema.entities, (e.fields.map (·.name)).Nodup := by decide
  have hkeeps : (Field.inline { name := "place", primaryKey := true }
      Sample.address.toEntityInfo Sample.address.fields).KeepsParts := ⟨trivial, trivial, trivial⟩
  have hlinks : SelectMode.nested = .full → (Field.inline { name := "place", primaryKey := true }
      Sample.address.toEntityInfo Sample.address.fields).Unlinked := nofun
  have hrow : ∃ r state', (Sample.schema.mapRow [.int 3, .text "Main Street", .bigInt 7] "Stay"
      .nested).run.run {} = (.ok r, state') := ⟨_, _, rfl⟩
  obtain ⟨r, state', hrow⟩ := hrow
  exact ⟨_, _, r, state', Sample.toSchema_spec, hnames, rfl, rfl, rfl, hkeeps, hlinks, hrow,
    mapRef_of_mapRow Sample.toSchema_spec hnames rfl rfl rfl hkeeps hlinks hrow⟩

/-- Keys that differ from those of the whole row: a NULL, which is refused, an enum stored by its
position, a linked composite that takes more slots than columns, and a converter that forgets. -/
theorem mapRef_not_as_mapRow : Sample.spec.toSchema = .ok Sample.schema ∧
    (∀ e ∈ Sample.schema.entities, (e.fields.map (·.name)).Nodup) ∧
    (∃ r state, (Sample.schema.mapRow [.null] "Level" .nested).run.run {} = (.ok r, state) ∧
      Sample.schema.keyValues r = .ok [.null] ∧
      (Sample.schema.mapRef [.null] "Level" .nested).run.run {} =
        (.error (.mapping (.nullValue "Level.rank")), {})) ∧
    (∃ r state, (Sample.schema.mapRow [.text "1"] "Level" .nested).run.run {} = (.ok r, state) ∧
      Sample.schema.keyValues r = .ok [.text "1"] ∧
      (Sample.schema.mapRef [.text "1"] "Level" .nested).run.run {} =
        (.ok ⟨"Level", some [.text "cross"], .unavailable⟩, {})) ∧
    (∃ r state, (Sample.schema.mapRow [.int 3, .text "Bern", .text "Main Street", .bigInt 7]
        "Stay" .full).run.run {} = (.ok r, state) ∧
      Sample.schema.keyValues r = .ok [.int 3, .text "Main Street"] ∧
      (Sample.schema.mapRef [.int 3, .text "Bern", .text "Main Street", .bigInt 7]
        "Stay" .full).run.run {} =
        (.ok ⟨"Stay", some [.int 3, .text "Bern"], .unavailable⟩, {})) ∧
    (∃ r state, (Sample.schema.mapRow [.text "a", .text "b"] "Plaque" .nested).run.run {} =
        (.ok r, state) ∧
      Sample.schema.keyValues r = .ok [.text "a", .text "a"] ∧
      (Sample.schema.mapRef [.text "a", .text "b"] "Plaque" .nested).run.run {} =
        (.ok ⟨"Plaque", some [.text "a", .text "b"], .unavailable⟩, {})) := by
  refine ⟨Sample.toSchema_spec, ?_, ⟨_, _, rfl, rfl, rfl⟩, ⟨_, _, rfl, rfl, rfl⟩,
    ⟨_, _, rfl, rfl, rfl⟩, ⟨_, _, rfl, rfl, rfl⟩⟩
  decide

end Schema

end RelMap
