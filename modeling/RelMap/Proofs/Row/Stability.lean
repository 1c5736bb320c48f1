import RelMap.Proofs.Row.Settling

/-!
# Encoding what was decoded

The record that a row is mapped to is always encoded again, and the slots it is encoded to are
mapped to an equal record exactly if every key in its references is read as itself.
-/

namespace RelMap

namespace Field

variable {s : Schema} {mode : SelectMode} {f : Field} {fields : List Field} {v : FieldValue}
  {values : List FieldValue} {slots stored : List SqlValue} {path : String}
  {state state' : DecodeState}

/-! ## Composites -/

theorem allAlwaysSettle_nil (hlength : slots.length = 0) : AllAlwaysSettle s mode [] slots [] := by
  cases List.length_eq_zero_iff.mp hlength
  intro ws hws
  cases ws with
  | nil =>
    refine ⟨rfl, [], allStoredAs_nil, rfl, rfl, ?_, ?_⟩
    · intro _ path
      exact ExceptT.Succeeds.pure rfl
    · exact fun _ _ _ _ _ _ => trivial
  | cons w ws => cases hws

theorem allAlwaysSettle_cons {first rest : List SqlValue} (hfirst : AlwaysSettles s mode f first v)
    (hrest : AllAlwaysSettle s mode fields rest values) :
    AllAlwaysSettle s mode (f :: fields) (first ++ rest) (v :: values) := by
  intro ws hws
  cases ws with
  | nil => cases hws
  | cons w ws =>
    rw [contentsOf, contentsOf, List.cons.injEq] at hws
    obtain ⟨stored, hsettles⟩ := hfirst w hws.1
    obtain ⟨hlength, others, hothers⟩ := hrest ws hws.2
    refine ⟨congrArg (· + 1) hlength, stored ++ others,
      allStoredAs_cons hsettles.storedAs hothers.storedAs, ?_, ?_, ?_, ?_⟩
    · rw [List.length_append, hsettles.length_eq, hothers.length_eq]
      rfl
    · rw [List.all_append, List.all_append, hsettles.all_isNull, hothers.all_isNull]
    · rintro ⟨hkeys, hrestKeys⟩ path
      rw [FieldPlan.ofFields, Decode.fields_cons, ← hsettles.length_eq, List.take_left,
        List.drop_left]
      apply (hsettles.reread hkeys _).bind
      intro v' hv'
      apply (hothers.reread hrestKeys path).bind
      intro values' hvalues'
      apply ExceptT.Succeeds.pure
      rw [contentsOf, contentsOf, hv', hvalues']
    · intro path state values' state' hrun hsame
      rw [FieldPlan.ofFields, Decode.fields_cons, ← hsettles.length_eq, List.take_left,
        List.drop_left] at hrun
      obtain ⟨v', between, hv', hrun⟩ := ExceptT.bind_eq_ok hrun
      obtain ⟨vs', between', hvs', hrun⟩ := ExceptT.bind_eq_ok hrun
      cases hrun
      rw [contentsOf, contentsOf, List.cons.injEq] at hsame
      exact ⟨hsettles.keysReread _ _ _ _ hv' hsame.1, hothers.keysReread _ _ _ _ hvs' hsame.2⟩

/-- A composite is inline or, in a full select, a foreign key. -/
inductive PlannedAsComposite (mode : SelectMode) (info : FieldInfo) (target : EntityInfo)
    (fields : List Field) : Field → Prop
  | inline : mode ≠ .pk → PlannedAsComposite mode info target fields (.inline info target fields)
  | foreignKey (key : KeyColumn) : mode = .full →
    PlannedAsComposite mode info target fields (.foreignKey info target key fields)

namespace PlannedAsComposite

variable {info : FieldInfo} {target : EntityInfo}

theorem ofField_eq (hf : PlannedAsComposite mode info target fields f) :
    FieldPlan.ofField mode f =
      .composite info.name target.name (FieldPlan.ofFields mode fields) info.nullable := by
  cases hf with
  | inline hmode => rw [FieldPlan.ofField, if_neg hmode]
  | foreignKey key hfull => rw [FieldPlan.ofField, if_pos hfull]

theorem keysReread_iff (hf : PlannedAsComposite mode info target fields f) (v : FieldValue) :
    f.KeysReread mode v ↔
      ∀ shared ∈ v.record?, AllKeysReread mode fields shared.content.values := by
  cases hf with
  | inline hmode => rfl
  | foreignKey key hfull => rw [KeysReread, if_pos hfull]

theorem storedAs_null (hf : PlannedAsComposite mode info target fields f) :
    StoredAs s mode f .null
      (List.replicate (FieldPlan.widths (FieldPlan.ofFields mode fields)) .null) := by
  unfold StoredAs
  split
  · next hfull =>
    subst hfull
    cases hf with
    | inline | foreignKey => exact fun _ _ => Field.encodeFull.eq_def ..
  · next hfull =>
    cases hf with
    | inline hmode =>
      have hwidth : (FieldPlan.ofField mode (.inline info target fields)).width =
          width (.inline info target fields) :=
        FieldPlan.width_ofField fun hfull' => absurd hfull' hfull
      rw [FieldPlan.ofField, if_neg hmode] at hwidth
      intro path
      rw [Encode.field, ← hwidth]
      rfl
    | foreignKey key hfull' => exact absurd hfull' hfull

theorem storedAs_record (hf : PlannedAsComposite mode info target fields f)
    (hentity : s.entity? target.name = some ⟨target, fields⟩) (handle : Handle)
    (hlength : values.length = fields.length) (h : AllStoredAs s mode fields values stored) :
    StoredAs s mode f (.record handle ⟨target.name, values⟩) stored := by
  unfold AllStoredAs at h
  unfold StoredAs
  split at h
  · next hfull =>
    rw [if_pos hfull]
    intro σ path
    have hrecord := encode_record hentity hlength h σ
    cases hf with
    | inline | foreignKey => rw [Field.encodeFull, hrecord]
  · next hfull =>
    rw [if_neg hfull]
    intro path
    cases hf with
    | inline => exact encodeRecord_eq hentity hlength (h target.name)
    | foreignKey key hfull' => exact absurd hfull' hfull

theorem settles_null (hf : PlannedAsComposite mode info target fields f)
    (hnullable : info.nullable = true) (hslots : slots.all (·.isNull) = true) :
    Settles s mode f slots .null
      (List.replicate (FieldPlan.widths (FieldPlan.ofFields mode fields)) .null) := by
  refine Field.settles_null _ ?_ hslots hf.storedAs_null ?_ ?_
  · rw [hf.ofField_eq]
    rfl
  · intro path state
    rw [hf.ofField_eq, Decode.field, hnullable, List.all_replicate, SqlValue.isNull, ite_self]
    rfl
  · rw [hf.keysReread_iff]
    intro _ hnone
    cases hnone

/-- A record settles in the slots of its values, unless these could be those of a NULL. -/
theorem settles_record (hf : PlannedAsComposite mode info target fields f)
    (hentity : s.entity? target.name = some ⟨target, fields⟩) (handle : Handle)
    (hlength : values.length = fields.length) (hsettle : AllSettle s mode fields slots values stored)
    (hread : (info.nullable && slots.all (·.isNull)) = false) :
    Settles s mode f slots (.record handle ⟨target.name, values⟩) stored := by
  have hplan := hf.ofField_eq
  have hkeys : f.KeysReread mode (.record handle ⟨target.name, values⟩) ↔
      AllKeysReread mode fields values := by
    rw [hf.keysReread_iff]
    constructor
    · exact fun hall => hall _ rfl
    · rintro hall _ ⟨⟩
      exact hall
  have hstored : (info.nullable && stored.all (·.isNull)) = false := by
    rw [hsettle.all_isNull]
    exact hread
  refine ⟨hf.storedAs_record hentity handle hlength hsettle.storedAs, ?_, hsettle.all_isNull, ?_, ?_⟩
  · rw [hplan]
    exact hsettle.length_eq
  · intro hall path
    rw [hplan, Decode.field, hstored]
    apply (hsettle.reread (hkeys.mp hall) path).bind
    intro vs hvs
    apply (Decode.intern_succeeds _).bind
    intro shared hshared
    apply ExceptT.Succeeds.pure
    rw [FieldValue.contents, FieldValue.contents, hshared, Record.contents, Record.contents, hvs]
  · intro path state v state' hrun hsame
    rw [hkeys]
    rw [hplan] at hrun
    rcases Decode.composite_ok hrun with
      ⟨rfl, -, -⟩ | ⟨-, handle', vs, us, between, hvs, rfl, hus⟩
    · cases hsame
    · obtain ⟨_, _, heq, hvalues⟩ := eq_record_of_contents hsame.symm
      cases heq
      exact hsettle.keysReread path state vs between hvs (hus.symm.trans hvalues.symm)

end PlannedAsComposite

theorem composite_settles {info : FieldInfo} {target : EntityInfo}
    (hf : PlannedAsComposite mode info target fields f)
    (hentity : s.entity? target.name = some ⟨target, fields⟩)
    (hinner : ∀ values state', (Decode.fields slots path
      (FieldPlan.ofFields mode fields)).run.run state = (.ok values, state') →
        AllAlwaysSettle s mode fields slots values)
    (h : (Decode.field slots path (FieldPlan.ofField mode f)).run.run state = (.ok v, state')) :
    AlwaysSettles s mode f slots v := by
  rw [hf.ofField_eq] at h
  intro w hw
  rcases Decode.composite_ok h with
    ⟨rfl, hnullable, hnull⟩ | ⟨hread, handle, values, ws, between, hvalues, rfl, hws⟩
  · cases eq_null_of_contents hw
    exact ⟨_, hf.settles_null hnullable hnull⟩
  · obtain ⟨handle', ws', rfl, hws'⟩ := eq_record_of_contents hw
    obtain ⟨hlength, stored, hsettle⟩ := hinner values between hvalues ws' (hws'.trans hws)
    exact ⟨stored, hf.settles_record hentity handle' hlength hsettle hread⟩

/-! ## The field tree -/

mutual

theorem alwaysSettles {f : Field} {slots : List SqlValue} {path : String}
    {state state' : DecodeState} {v : FieldValue} (hcoherent : f.Coherent s)
    (hstable : f.ForConverters Converter.Stable) (hmode : mode ≠ .pk)
    (hlength : slots.length = (FieldPlan.ofField mode f).width)
    (h : (Decode.field slots path (FieldPlan.ofField mode f)).run.run state = (.ok v, state')) :
    AlwaysSettles s mode f slots v := by
  cases f with
  | scalar info typ =>
    rw [FieldPlan.ofField, Decode.field_scalar] at h
    exact scalar_settles hlength (congrArg Prod.fst h)
  | converted info converter => exact converted_settles hstable hlength (congrArg Prod.fst h)
  | ref info target key =>
    obtain ⟨r, between, hr, h⟩ := ExceptT.bind_eq_ok h
    cases h
    exact link_settles (.ref target) hlength hr
  | inline info target fields =>
    have hf : PlannedAsComposite mode info target fields _ := .inline hmode
    rw [hf.ofField_eq] at hlength
    exact composite_settles hf hcoherent.1
      (fun values state' hvalues => allAlwaysSettle hcoherent.2 hstable hmode hlength hvalues) h
  | foreignKey info target key fields =>
    by_cases hfull : mode = .full
    · have hf : PlannedAsComposite mode info target fields _ := .foreignKey key hfull
      rw [hf.ofField_eq] at hlength
      exact composite_settles hf hcoherent.1
        (fun values state' hvalues => allAlwaysSettle hcoherent.2 hstable hmode hlength hvalues) h
    · have hf : PlannedAsLink mode info key target.name _ := .foreignKey target fields hfull
      rw [hf.ofField_eq] at h hlength
      obtain ⟨r, between, hr, h⟩ := ExceptT.bind_eq_ok h
      cases h
      exact link_settles hf hlength hr
termination_by structural f

theorem allAlwaysSettle {fields : List Field} {slots : List SqlValue} {path : String}
    {state state' : DecodeState} {values : List FieldValue} (hcoherent : AllCoherent s fields)
    (hstable : AllForConverters Converter.Stable fields) (hmode : mode ≠ .pk)
    (hlength : slots.length = FieldPlan.widths (FieldPlan.ofFields mode fields))
    (h : (Decode.fields slots path (FieldPlan.ofFields mode fields)).run.run state =
      (.ok values, state')) : AllAlwaysSettle s mode fields slots values := by
  cases fields with
  | nil =>
    cases h
    exact allAlwaysSettle_nil hlength
  | cons f fields =>
    obtain ⟨v, values, between, hv, hvalues, rfl⟩ := Decode.fields_cons_ok h
    rw [FieldPlan.ofFields, FieldPlan.widths] at hlength
    -- The plan has given the field its first slots, and the fields after it the others.
    rw [← List.take_append_drop (FieldPlan.ofField mode f).width slots]
    apply allAlwaysSettle_cons
    · apply alwaysSettles hcoherent.1 hstable.1 hmode ?_ hv
      rw [List.length_take]
      omega
    · apply allAlwaysSettle hcoherent.2 hstable.2 hmode ?_ hvalues
      rw [List.length_drop]
      omega
termination_by structural fields

end

end Field

/-! ## Records -/

namespace Schema

/-- The record is encoded to these slots for rows of the mode, and nothing is fetched for it. -/
def EncodesTo (s : Schema) (mode : SelectMode) (r : Record) (stored : List SqlValue) : Prop :=
  if mode = .full then
    ∀ (σ : Type) (store : ReferenceStore σ), (s.encodeFull r).run.run store = some (.ok stored, store)
  else s.encodeRecord r = .ok stored

theorem encodesTo_of_allStoredAs {s : Schema} {mode : SelectMode} {e : Entity}
    {values : List FieldValue} {stored : List SqlValue} (he : s.entity? e.name = some e)
    (hlength : values.length = e.fields.length)
    (h : Field.AllStoredAs s mode e.fields values stored) :
    s.EncodesTo mode ⟨e.name, values⟩ stored := by
  unfold Field.AllStoredAs at h
  unfold EncodesTo
  split at h
  · next hfull =>
    rw [if_pos hfull]
    intro σ store
    rw [Schema.encodeFull, Field.encode_record he hlength h]
    rfl
  · next hfull =>
    rw [if_neg hfull]
    exact Field.encodeRecord_eq he hlength (h e.name)

/-- A record that was decoded is encoded again. Decoding once more gives an equal record exactly if
the keys in the record are read as themselves. -/
theorem mapRow_encoded_iff {spec : SchemaSpec} {s : Schema} (hs : spec.toSchema = .ok s)
    (hconverters : ∀ c ∈ spec.converters, c.2.Stable) {name : EntityName} {mode : SelectMode}
    {row : List SqlValue} {start final : DecodeState} {r : Record}
    (h : (s.mapRow row name mode).run.run start = (.ok r, final)) :
    ∃ e stored, s.entity? name = some e ∧ s.EncodesTo mode r stored ∧
      ∀ state, (∃ r' state', (s.mapRow stored name mode).run.run state = (.ok r', state') ∧
        r'.same r = true) ↔ Field.AllKeysReread mode e.fields r.values := by
  obtain ⟨e, values, he, hmode, hlength, hvalues, rfl⟩ := mapRow_ok h
  cases name_of_entity? he
  obtain ⟨harity, stored, hsettle⟩ := Field.allAlwaysSettle (allCoherent_of_entity? hs he)
    (allForConverters_of_entity? hs hconverters he) hmode hlength hvalues values rfl
  refine ⟨e, stored, he, encodesTo_of_allStoredAs he harity hsettle.storedAs, ?_⟩
  intro state
  constructor
  · rintro ⟨r', state', hrun, hsame⟩
    obtain ⟨e', values', he', -, -, hvalues', rfl⟩ := mapRow_ok hrun
    cases he.symm.trans he'
    rw [Record.same_iff, Record.contents, Record.contents, Record.mk.injEq] at hsame
    exact hsettle.keysReread _ _ _ _ hvalues' hsame.2
  · intro hkeys
    obtain ⟨values', state', hrun, hcontents⟩ := hsettle.reread hkeys e.name state
    refine ⟨⟨e.name, values'⟩, state', ?_, ?_⟩
    · rw [mapRow_eq hmode he hsettle.length_eq, ExceptT.run_map, StateT.run_map,
        Decoding.toRow_run, hrun]
      rfl
    · rw [Record.same_iff, Record.contents, Record.contents, hcontents]

end Schema

namespace Sample

theorem twice_stable : twice.Stable := by
  constructor
  · intro slots hlength
    obtain ⟨first, second, rfl⟩ := List.length_eq_two.mp hlength
    cases first <;> cases second <;> simp [twice, SqlValue.isNull]
  · intro slots v w hlength hread hv hsame
    obtain ⟨first, second, rfl⟩ := List.length_eq_two.mp hlength
    unfold twice at hread
    dsimp only at hread
    split at hread
    · next value copy _ =>
      cases hread
      cases eq_scalar_of_contents ((w.same_iff _).mp hsame)
      exact ⟨[.text value, .text value], rfl, rfl, .scalar (.text value), rfl, hsame⟩
    · cases hread
      exact absurd rfl hv
    · cases hread

/-- A row that gives the identifiers in another width and the copy of the motto another text. -/
def adaRow : List SqlValue :=
  [.int 7, .text "1", .bigInt 3, .null, .text "Main Street", .text "Onwards", .text "Back", .int 8]

end Sample

namespace Schema

theorem mapRow_encoded_iff_ada :
    Sample.spec.toSchema = .ok Sample.schema ∧ (∀ c ∈ Sample.spec.converters, c.2.Stable) ∧
    ∃ r final, (Sample.schema.mapRow Sample.adaRow "Person" .full).run.run {} = (.ok r, final) ∧
      ∃ stored, Sample.schema.EncodesTo .full r stored ∧
        ∃ r' state', (Sample.schema.mapRow stored "Person" .full).run.run final = (.ok r', state') ∧
          r'.same r = true := by
  have hconverters : ∀ c ∈ Sample.spec.converters, c.2.Stable := by
    intro c hc
    rw [List.mem_singleton.mp hc]
    exact Sample.twice_stable
  obtain ⟨r, final, hrow, hkeys⟩ : ∃ r final,
      (Sample.schema.mapRow Sample.adaRow "Person" .full).run.run {} = (.ok r, final) ∧
        Field.AllKeysReread .full Sample.person.fields r.values := by
    refine ⟨_, _, rfl, trivial, trivial, ?_, trivial, ?_, trivial⟩
    · rintro _ ⟨⟩
      refine ⟨?_, trivial, trivial⟩
      rintro _ ⟨⟩
      exact ⟨trivial, trivial, trivial⟩
    · rintro _ ⟨⟩ _ ⟨⟩ part hpart
      trivial
  obtain ⟨e, stored, he, hencodes, hiff⟩ := mapRow_encoded_iff Sample.toSchema_spec hconverters hrow
  cases he
  exact ⟨Sample.toSchema_spec, hconverters, r, final, hrow, stored, hencodes,
    (hiff final).mpr hkeys⟩

end Schema

namespace Sample

/-! ### Keys that are not read as themselves -/

/-- Ranks are stored by position, and the name of the second one reads as the first position. -/
def rank : EnumType := { name := "Rank", variants := ["none", "0"], encoding := .ordinal }

def ranked : SchemaSpec where
  naming := naming
  entities := [
    .ofTable "Level" [(.scalar "rank" (.enum rank) : FieldSpec).asPrimaryKey],
    .ofTable "Song" [(.scalar "id" .int : FieldSpec).asPrimaryKey, .reference "level" "Level"]]

def rankedSchema : Schema where
  naming := naming
  entities := [
    ⟨⟨"Level", "Level", .table⟩, [.scalar { name := "rank", primaryKey := true } (.enum rank)]⟩,
    ⟨⟨"Song", "Song", .table⟩, [.scalar { name := "id", primaryKey := true } .int,
      .ref { name := "level" } "Level" ⟨"rank", .enum rank⟩]⟩]
  drafts := [
    ⟨⟨"Level", "Level", .table⟩,
      [⟨{ name := "rank", primaryKey := true }, .scalar (.enum rank)⟩]⟩,
    ⟨⟨"Song", "Song", .table⟩, [⟨{ name := "id", primaryKey := true }, .scalar .int⟩,
      ⟨{ name := "level" }, .ref "Level"⟩]⟩]

theorem toSchema_ranked : ranked.toSchema = .ok rankedSchema := by
  cbv

def song (rank : String) : Record :=
  ⟨"Song", [.scalar (.int 1), .reference ⟨"Level", some [.text rank], .unavailable⟩]⟩

end Sample

namespace Schema

/-- A song at the second rank becomes one at the first rank, and one at the first rank cannot be
read again. -/
theorem exists_unstable_songs :
    Sample.ranked.toSchema = .ok Sample.rankedSchema ∧
    (∀ c ∈ Sample.ranked.converters, c.2.Stable) ∧
    ((Sample.rankedSchema.mapRow [.int 1, .int 1] "Song" .nested).run.run {} =
        (.ok (Sample.song "0"), {}) ∧
      Sample.rankedSchema.EncodesTo .nested (Sample.song "0") [.int 1, .text "0"] ∧
      (Sample.rankedSchema.mapRow [.int 1, .text "0"] "Song" .nested).run.run {} =
        (.ok (Sample.song "none"), {}) ∧
      (Sample.song "none").same (Sample.song "0") = false) ∧
    ((Sample.rankedSchema.mapRow [.int 1, .int 0] "Song" .nested).run.run {} =
        (.ok (Sample.song "none"), {}) ∧
      Sample.rankedSchema.EncodesTo .nested (Sample.song "none") [.int 1, .text "none"] ∧
      (Sample.rankedSchema.mapRow [.int 1, .text "none"] "Song" .nested).run.run {} =
        (.error (.mapping (.invalidEnum "Song.level" "Rank" "none")), {})) := by
  exact ⟨Sample.toSchema_ranked, nofun, ⟨rfl, rfl, rfl, rfl⟩, ⟨rfl, rfl, rfl⟩⟩

end Schema

end RelMap
