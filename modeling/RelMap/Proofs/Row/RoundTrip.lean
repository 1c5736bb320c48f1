import Mathlib
import RelMap.Proofs.Row.Coercion
import RelMap.Proofs.Row.FullShape
import RelMap.Proofs.Row.Mapping
import RelMap.Proofs.Row.Slots
import RelMap.Proofs.Schema.Converters

/-!
# Reading back what was encoded

A record that could have been decoded from a full select is encoded to the slots of one, and these
decode to an equal record. The induction is on the field tree: each kind of field keeps the number
of slots that its plan reads and gives back the value it was encoded from.
-/

namespace RelMap

/-! ## Well-formed records -/

def SqlValue.DecodesToSelf (v : SqlValue) (typ : ScalarType) : Prop :=
  ∀ path, Decode.keyValue v typ path = .ok v

theorem SqlValue.DecodesToSelf.isNull_eq_false {v : SqlValue} {typ : ScalarType}
    (h : v.DecodesToSelf typ) : v.isNull = false := by
  cases v with
  | null => cases h ""
  | _ => rfl

/-- The record, which needs no fetching, is not encoded to NULLs alone. -/
def Record.EncodesToValue (s : Schema) (r : Record) : Prop :=
  ∀ slots : List SqlValue,
    (s.encodeFull r : Fetching Unit (List SqlValue)) = pure slots → slots.all (·.isNull) = false

namespace Field

mutual

/-- The value is one of the field in a fully decoded record. -/
def Fits (s : Schema) : Field → FieldValue → Prop
  | .scalar info typ, v => v = .null ∧ info.nullable = true ∨ typ.Decodes v
  | .converted info converter, v =>
    v = .null ∧ info.nullable = true ∨ v ≠ .null ∧ ∃ slots, converter.toColumns v = .ok slots
  | .inline info target fields, v | .foreignKey info target _ fields, v =>
    v = .null ∧ info.nullable = true ∨
      ∃ handle values, v = .record handle ⟨target.name, values⟩ ∧ AllFit s fields values ∧
        (info.nullable = true → Record.EncodesToValue s ⟨target.name, values⟩)
  | .ref info target key, v =>
    ∃ parts source, v = .reference ⟨target, parts, source⟩ ∧
      (parts = none ∧ info.nullable = true ∨ ∃ k, parts = some [k] ∧ k.DecodesToSelf key.typ)
termination_by structural f => f

def AllFit (s : Schema) : List Field → List FieldValue → Prop
  | [], [] => True
  | f :: fields, v :: values => Fits s f v ∧ AllFit s fields values
  | _, _ => False
termination_by structural fields => fields

end

end Field

namespace Field

/-! ## Fields -/

/-- The value is encoded to as many slots as the plan of the field reads, and read back. -/
def RoundTrips (s : Schema) (f : Field) (v : FieldValue) : Prop :=
  ∃ slots : List SqlValue, slots.length = (FieldPlan.ofField .full f).width ∧
    (∀ (σ : Type) (path : String),
      (Field.encodeFull s f path v : Fetching σ (List SqlValue)) = pure slots) ∧
    ∀ path, ExceptT.Succeeds (Decode.field slots path (FieldPlan.ofField .full f))
      (·.contents = v.contents)

def AllRoundTrip (s : Schema) (fields : List Field) (values : List FieldValue) : Prop :=
  ∃ slots : List SqlValue, slots.length = FieldPlan.widths (FieldPlan.ofFields .full fields) ∧
    (∀ (σ : Type) (e : Entity),
      (e.encodeFields s fields values : Fetching σ (List SqlValue)) = pure slots) ∧
    ∀ path, ExceptT.Succeeds (Decode.fields slots path (FieldPlan.ofFields .full fields))
      (contentsOf · = contentsOf values)

variable {s : Schema}

theorem roundTrips_scalar {info : FieldInfo} {typ : ScalarType} {v : FieldValue}
    (h : Fits s (.scalar info typ) v) : RoundTrips s (.scalar info typ) v := by
  rcases h with ⟨rfl, hnullable⟩ | h
  · refine ⟨[.null], rfl, fun _ _ => Field.encodeFull_eq_of_not_composite rfl .., ?_⟩
    intro path state
    refine ⟨.null, state, ?_, rfl⟩
    simp only [FieldPlan.ofField, Decode.field_scalar, Decode.scalar, hnullable]
    rfl
  · obtain ⟨raw, hnull, hencode, hdecode⟩ := coerce_plainField h info
    refine ⟨[raw], rfl, ?_, ?_⟩
    · intro σ path
      rw [Field.encodeFull_eq_of_not_composite rfl, Schema.encodeField]
      cases v with
      | scalar | enum =>
        rw [Encode.field, hencode]
        · rfl
        all_goals intros; contradiction
      | _ => cases typ <;> exact h.elim
    · intro path state
      refine ⟨v, state, ?_, rfl⟩
      have hraw : raw.isNull = false := by
        rw [Bool.eq_false_iff]
        exact fun h => hnull (raw.isNull_iff.mp h)
      simp only [FieldPlan.ofField, Decode.field_scalar, Decode.scalar, List.headD_cons, hraw,
        hdecode]
      rfl

theorem roundTrips_converted {info : FieldInfo} {converter : Converter} {v : FieldValue}
    (hlawful : converter.Lawful) (h : Fits s (.converted info converter) v) :
    RoundTrips s (.converted info converter) v := by
  rcases h with ⟨rfl, hnullable⟩ | ⟨hnull, slots, hslots⟩
  · refine ⟨List.replicate converter.columns.length .null, List.length_replicate,
      fun _ _ => Field.encodeFull_eq_of_not_composite rfl .., ?_⟩
    intro path state
    refine ⟨.null, state, ?_, rfl⟩
    simp only [FieldPlan.ofField, Decode.field, Decode.converted, hlawful.fromColumns_null,
      hnullable]
    rfl
  · obtain ⟨hlength, w, hw, hsame⟩ := hlawful.fromColumns_toColumns v slots hnull hslots
    refine ⟨slots, hlength, ?_, ?_⟩
    · intro σ path
      have hencode : converter.encode v path = .ok slots := by
        rw [Converter.encode, hslots]
        exact if_pos hlength
      cases v with
      | null => exact absurd rfl hnull
      | _ =>
        rw [Field.encodeFull_eq_of_not_composite rfl, Schema.encodeField]
        simp only [Encode.field, Encode.plainField, hencode]
        rfl
    · intro path state
      have hcontents := (w.same_iff v).mp hsame
      refine ⟨w, state, ?_, hcontents⟩
      have hw' : w.isNull = false := by
        cases w with
        | null =>
          cases v with
          | null => exact absurd rfl hnull
          | _ => cases hsame
        | _ => rfl
      simp only [FieldPlan.ofField, Decode.field, Decode.converted, hw, hw']
      rfl

theorem roundTrips_ref {info : FieldInfo} {target : EntityName} {key : KeyColumn} {v : FieldValue}
    (h : Fits s (.ref info target key) v) : RoundTrips s (.ref info target key) v := by
  obtain ⟨parts, source, rfl, ⟨rfl, hnullable⟩ | ⟨k, rfl, hself⟩⟩ := h
  · refine ⟨[.null], rfl, fun _ _ => Field.encodeFull_eq_of_not_composite rfl .., ?_⟩
    intro path state
    refine ⟨.reference (.null target), state, ?_, rfl⟩
    simp only [FieldPlan.ofField, Decode.field, Decode.reference, hnullable]
    rfl
  · refine ⟨[k], rfl, fun _ _ => Field.encodeFull_eq_of_not_composite rfl .., ?_⟩
    intro path
    have hkeys : Decode.keyValues path [k] [key.typ] = .ok [k] := by
      rw [Decode.keyValues, hself path]
      rfl
    have hread := Decode.reference_succeeds target info.nullable
      (by rw [List.all_cons, hself.isNull_eq_false, Bool.false_and]) hkeys
    rw [FieldPlan.ofField, Decode.field]
    apply hread.bind
    rintro r ⟨hentity, hkey⟩
    apply ExceptT.Succeeds.pure
    rw [FieldValue.contents, FieldValue.contents, hentity, hkey]

/-! ## Composites -/

theorem allRoundTrip_nil : AllRoundTrip s [] [] := by
  refine ⟨[], rfl, fun _ _ => Entity.encodeFields.eq_def .., ?_⟩
  intro path
  exact ExceptT.Succeeds.pure rfl

theorem allRoundTrip_cons {f : Field} {fields : List Field} {v : FieldValue}
    {values : List FieldValue} (hfirst : RoundTrips s f v) (hrest : AllRoundTrip s fields values) :
    AllRoundTrip s (f :: fields) (v :: values) := by
  obtain ⟨first, hlength, hencode, hdecode⟩ := hfirst
  obtain ⟨rest, hlengths, hencodes, hdecodes⟩ := hrest
  refine ⟨first ++ rest, ?_, ?_, ?_⟩
  · rw [List.length_append, hlength, hlengths]
    rfl
  · intro σ e
    rw [Entity.encodeFields, hencode, hencodes]
    rfl
  · intro path
    rw [FieldPlan.ofFields, Decode.fields_cons, ← hlength, List.take_left, List.drop_left]
    apply (hdecode _).bind
    intro w hw
    apply (hdecodes path).bind
    intro ws hws
    apply ExceptT.Succeeds.pure
    rw [contentsOf, contentsOf, hw, hws]

theorem length_of_allFit {fields : List Field} {values : List FieldValue}
    (h : AllFit s fields values) : values.length = fields.length := by
  induction fields generalizing values with
  | nil =>
    cases values with
    | nil => rfl
    | cons v values => exact h.elim
  | cons f fields ih =>
    cases values with
    | nil => exact h.elim
    | cons v values => rw [List.length_cons, List.length_cons, ih h.2]

theorem encode_record {target : EntityInfo} {fields : List Field} {values : List FieldValue}
    {slots : List SqlValue} (hentity : s.entity? target.name = some ⟨target, fields⟩)
    (hlength : values.length = fields.length)
    (hencode : ∀ (σ : Type) (e : Entity),
      (e.encodeFields s fields values : Fetching σ (List SqlValue)) = pure slots)
    (σ : Type) :
    (Record.encodeFull s ⟨target.name, values⟩ : Fetching σ (List SqlValue)) = pure slots := by
  have harity : Entity.checkArity ⟨target, fields⟩ values = .ok () := if_pos hlength
  rw [Record.encodeFull, Schema.entity_of_entity? hentity]
  change liftM ((Entity.checkArity ⟨target, fields⟩ values).mapError Error.usage) >>=
    (fun _ => Entity.encodeFields s ⟨target, fields⟩ fields values) = pure slots
  rw [harity]
  exact hencode σ ⟨target, fields⟩

/-- Inline composites and foreign keys are encoded and read alike in a full select. -/
theorem roundTrips_composite {f : Field} {info : FieldInfo} {target : EntityInfo}
    {fields : List Field} {v : FieldValue}
    (hf : f = .inline info target fields ∨ ∃ key, f = .foreignKey info target key fields)
    (hentity : s.entity? target.name = some ⟨target, fields⟩)
    (hinner : ∀ values, AllFit s fields values → AllRoundTrip s fields values)
    (h : Fits s f v) : RoundTrips s f v := by
  have hplan : FieldPlan.ofField .full f =
      .composite info.name target.name (FieldPlan.ofFields .full fields) info.nullable := by
    rcases hf with rfl | ⟨key, rfl⟩ <;> rfl
  have hfits : v = .null ∧ info.nullable = true ∨
      ∃ handle values, v = .record handle ⟨target.name, values⟩ ∧ AllFit s fields values ∧
        (info.nullable = true → Record.EncodesToValue s ⟨target.name, values⟩) := by
    rcases hf with rfl | ⟨key, rfl⟩ <;> exact h
  rcases hfits with ⟨rfl, hnullable⟩ | ⟨handle, values, rfl, hfit, hvalue⟩
  · refine ⟨List.replicate (Field.fullWidth fields) .null, ?_, ?_, ?_⟩
    · rw [hplan, List.length_replicate]
      rfl
    · intro σ path
      rcases hf with rfl | ⟨key, rfl⟩ <;> rw [Field.encodeFull]
    · intro path state
      refine ⟨.null, state, ?_, rfl⟩
      have hnull : (List.replicate (Field.fullWidth fields) SqlValue.null).all (·.isNull) = true := by
        rw [List.all_replicate]
        exact ite_self _
      rw [hplan, Decode.field, hnullable, hnull]
      rfl
  · obtain ⟨slots, hlength, hencode, hdecode⟩ := hinner values hfit
    have hrecord := encode_record hentity (length_of_allFit hfit) hencode
    refine ⟨slots, ?_, ?_, ?_⟩
    · rw [hplan]
      exact hlength
    · intro σ path
      rcases hf with rfl | ⟨key, rfl⟩ <;> rw [Field.encodeFull, hrecord]
    · intro path
      have hnull : (info.nullable && slots.all (·.isNull)) = false := by
        cases hnullable : info.nullable with
        | false => rfl
        | true =>
          rw [Bool.true_and]
          exact hvalue hnullable slots (hrecord Unit)
      rw [hplan, Decode.field, hnull]
      apply (hdecode path).bind
      intro ws hws
      apply (Decode.intern_succeeds _).bind
      intro shared hshared
      apply ExceptT.Succeeds.pure
      rw [FieldValue.contents, FieldValue.contents, hshared, Record.contents, Record.contents, hws]

mutual

theorem roundTrips {f : Field} {v : FieldValue} (hcoherent : f.Coherent s)
    (hlawful : f.ForConverters Converter.Lawful) (h : Fits s f v) : RoundTrips s f v := by
  cases f with
  | scalar info typ => exact roundTrips_scalar h
  | converted info converter => exact roundTrips_converted hlawful h
  | ref info target key => exact roundTrips_ref h
  | inline info target fields =>
    exact roundTrips_composite (.inl rfl) hcoherent.1
      (fun values hfit => allRoundTrip hcoherent.2 hlawful hfit) h
  | foreignKey info target key fields =>
    exact roundTrips_composite (.inr ⟨key, rfl⟩) hcoherent.1
      (fun values hfit => allRoundTrip hcoherent.2 hlawful hfit) h
termination_by structural f

theorem allRoundTrip {fields : List Field} {values : List FieldValue}
    (hcoherent : AllCoherent s fields) (hlawful : AllForConverters Converter.Lawful fields)
    (h : AllFit s fields values) : AllRoundTrip s fields values := by
  cases fields with
  | nil =>
    cases values with
    | nil => exact allRoundTrip_nil
    | cons v values => exact h.elim
  | cons f fields =>
    cases values with
    | nil => exact h.elim
    | cons v values =>
      exact allRoundTrip_cons (roundTrips hcoherent.1 hlawful.1 h.1)
        (allRoundTrip hcoherent.2 hlawful.2 h.2)
termination_by structural fields

end

end Field

/-! ## Records -/

/-- The record could have been decoded from a full select of its entity. -/
def Record.WellFormed (s : Schema) (r : Record) : Prop :=
  ∃ e, s.entity? r.entity = some e ∧ Field.AllFit s e.fields r.values

/-- A well-formed record is encoded whatever fetcher there is, and decoding gives an equal record
whatever was interned before. -/
theorem Schema.mapRow_encodeFull {spec : SchemaSpec} {s : Schema} (hs : spec.toSchema = .ok s)
    (hconverters : ∀ c ∈ spec.converters, c.2.Lawful) {r : Record} (hr : r.WellFormed s) :
    ∃ slots : List SqlValue,
      (∀ (σ : Type) (store : ReferenceStore σ),
        (s.encodeFull r).run.run store = some (.ok slots, store)) ∧
      ∀ state, ∃ r' state',
        (s.mapRow slots r.entity .full).run.run state = (.ok r', state') ∧ r'.same r = true := by
  obtain ⟨entity, values⟩ := r
  obtain ⟨e, he, hfit⟩ := hr
  have hname : e.name = entity := name_of_entity? he
  subst hname
  obtain ⟨slots, hlength, hencode, hdecode⟩ :=
    Field.allRoundTrip (allCoherent_of_entity? hs he)
      (allForConverters_of_entity? hs hconverters he) hfit
  have hrecord := Field.encode_record he (Field.length_of_allFit hfit) hencode
  refine ⟨slots, ?_, ?_⟩
  · intro σ store
    rw [show s.encodeFull ⟨e.name, values⟩ = pure slots from hrecord σ]
    rfl
  · intro state
    obtain ⟨ws, state', hrun, hws⟩ := hdecode e.name state
    refine ⟨⟨e.name, ws⟩, state', ?_, ?_⟩
    · rw [mapRow_eq (by decide) he hlength, ExceptT.run_map, StateT.run_map, Decoding.toRow_run,
        hrun]
      rfl
    · rw [Record.same_iff, Record.contents, Record.contents, hws]

def Sample.ada : Record := ⟨"Person", [.scalar (.bigInt 7), .enum "cross",
  .record (.given 1) ⟨"Address", [.record (.given 2) ⟨"City", [.scalar (.int 3), .null]⟩,
    .scalar (.text "Main Street")]⟩,
  .scalar (.text "Onwards"), .reference ⟨"Person", some [.bigInt 8], .unavailable⟩]⟩

def Sample.noFetcher : ReferenceStore Unit :=
  ⟨⟨fun _ _ state => (.error (.usage .noFetcher), state)⟩, (), []⟩

theorem Sample.ada_wellFormed : ada.WellFormed schema := by
  have hcity : Field.AllFit schema city.fields [.scalar (.int 3), .null] := by
    exact ⟨.inr trivial, .inl ⟨rfl, rfl⟩, trivial⟩
  have haddress : Field.AllFit schema address.fields
      [.record (.given 2) ⟨"City", [.scalar (.int 3), .null]⟩, .scalar (.text "Main Street")] := by
    exact ⟨.inr ⟨.given 2, _, rfl, hcity, nofun⟩, .inr trivial, trivial⟩
  refine ⟨person, rfl, .inr trivial, .inr (.tail _ (.head _)),
    .inr ⟨.given 1, _, rfl, haddress, ?_⟩, .inr ⟨nofun, _, rfl⟩,
    ⟨_, _, rfl, .inr ⟨_, rfl, fun _ => rfl⟩⟩, trivial⟩
  intro _ slots h
  have hrun : (schema.encodeFull ⟨address.name, [.record (.given 2) ⟨"City",
      [.scalar (.int 3), .null]⟩, .scalar (.text "Main Street")]⟩).run.run noFetcher =
        some (.ok [.int 3, .null, .text "Main Street"], noFetcher) := by
    cbv
  rw [h] at hrun
  cases hrun
  rfl

theorem Sample.mapRow_encodeFull_ada :
    spec.toSchema = .ok schema ∧ (∀ c ∈ spec.converters, c.2.Lawful) ∧ ada.WellFormed schema ∧
    ∃ slots : List SqlValue,
      (∀ (σ : Type) (store : ReferenceStore σ),
        (schema.encodeFull ada).run.run store = some (.ok slots, store)) ∧
      ∀ state, ∃ r' state',
        (schema.mapRow slots "Person" .full).run.run state = (.ok r', state') ∧
          r'.same ada = true := by
  have hconverters : ∀ c ∈ spec.converters, c.2.Lawful := by
    intro c hc
    rw [List.mem_singleton.mp hc]
    exact twice_lawful
  exact ⟨toSchema_spec, hconverters, ada_wellFormed,
    Schema.mapRow_encodeFull toSchema_spec hconverters ada_wellFormed⟩

end RelMap
