import RelMap.Proofs.Row.FullShape
import RelMap.Proofs.Row.RoundTrip
import RelMap.Proofs.Row.Typing

/-!
# Settled values

A value that was read from slots, in whatever representation, is encoded to slots of its own. They
are NULL together with the former ones, and an equal value is read from them exactly if the keys of
its references are read as themselves. That fails for some enums stored by position, since a key
keeps the names of variants.
-/

namespace RelMap

/-! ## Laws of converters -/

/-- NULL is read from NULLs alone, and a value that was read is split into columns from which an
equal one is read. -/
structure Converter.Stable (c : Converter) : Prop where
  fromColumns_null_iff : ∀ slots : List SqlValue, slots.length = c.columns.length →
    (c.fromColumns slots = .ok .null ↔ slots.all (·.isNull) = true)
  fromColumns_toColumns : ∀ slots v w, slots.length = c.columns.length →
    c.fromColumns slots = .ok v → v ≠ .null → w.same v = true → ∃ parts, c.toColumns w = .ok parts ∧
      parts.length = c.columns.length ∧ ∃ v', c.fromColumns parts = .ok v' ∧ v'.same v = true

/-! ## Keys -/

/-- The text that a key keeps a variant as is read as that variant, even as a position. -/
def ScalarType.RereadsKey : ScalarType → SqlValue → Prop
  | .enum ⟨_, variants, .ordinal⟩, .text variant =>
    (EnumType.readOrdinal? variant).bind (variants[·]?) = some variant
  | _, _ => True

/-- A reference in the value, if it is one, has a key that is read as itself. -/
def FieldValue.RereadsKey (typ : ScalarType) (v : FieldValue) : Prop :=
  ∀ r ∈ v.reference?, ∀ key ∈ r.key, ∀ part ∈ key, typ.RereadsKey part

namespace Field

mutual

/-- The keys of all references that the value holds in the mode are read as themselves. -/
def KeysReread (mode : SelectMode) : Field → FieldValue → Prop
  | .inline _ _ fields, v => ∀ shared ∈ v.record?, AllKeysReread mode fields shared.content.values
  | .foreignKey _ _ key fields, v =>
    if mode = .full then ∀ shared ∈ v.record?, AllKeysReread mode fields shared.content.values
    else v.RereadsKey key.typ
  | .ref _ _ key, v => v.RereadsKey key.typ
  | .scalar _ _, _ | .converted _ _, _ => True
termination_by structural f => f

def AllKeysReread (mode : SelectMode) : List Field → List FieldValue → Prop
  | f :: fields, v :: values => KeysReread mode f v ∧ AllKeysReread mode fields values
  | _, _ => True
termination_by structural fields => fields

end

end Field

namespace Decode

theorem keyValue_of_hasType {part : SqlValue} {typ : ScalarType} (h : part.HasType typ)
    (path : String) : keyValue part typ path = .ok part := by
  have hnull : part.isNull = false := by
    rw [Bool.eq_false_iff]
    exact fun hisNull => h.ne_null (part.isNull_iff.mp hisNull)
  rw [keyValue, hnull, coerce_of_hasType h]
  rfl

theorem rereadsKey_of_hasType {part : SqlValue} {typ : ScalarType} (h : part.HasType typ) :
    typ.RereadsKey part := by
  cases typ with
  | enum type => cases part <;> exact h.elim
  | _ => trivial

/-- The name of a declared variant is read as itself where names are stored, and as a position where
positions are. -/
theorem rereadsKey_variant_iff {variant : String} {type : EnumType} (h : variant ∈ type.variants)
    (path : String) : (ScalarType.enum type).RereadsKey (.text variant) ↔
      keyValue (.text variant) (.enum type) path = .ok (.text variant) := by
  obtain ⟨name, variants, encoding⟩ := type
  replace h : variant ∈ variants := h
  cases encoding with
  | name =>
    have hself : keyValue (.text variant) (.enum ⟨name, variants, .name⟩) path =
        .ok (.text variant) := by
      simp only [keyValue, coerce, EnumType.decode, if_pos h]
      rfl
    exact iff_of_true trivial hself
  | ordinal =>
    simp only [ScalarType.RereadsKey, keyValue, coerce, EnumType.decode]
    cases hread : (EnumType.readOrdinal? variant).bind (variants[·]?) with
    | none =>
      constructor <;>
      · intro h
        cases h
    | some other =>
      constructor
      · rintro ⟨⟩
        rfl
      · intro hself
        cases hself
        rfl

/-- The part of a key that was read from a slot is read again as itself, unless it is the name of a
variant in a column of positions. -/
theorem rereadsKey_iff {slot part : SqlValue} {typ : ScalarType} {path : String}
    (h : keyValue slot typ path = .ok part) (path' : String) :
    typ.RereadsKey part ↔ keyValue part typ path' = .ok part := by
  unfold keyValue at h
  split at h
  · cases h
  · obtain ⟨v, hv, h⟩ := Except.bind_eq_ok h
    have hdecodes := decodes_of_coerce hv
    cases v with
    | scalar value =>
      cases h
      have hvalue : part.HasType typ := by
        cases typ <;> exact hdecodes
      exact iff_of_true (rereadsKey_of_hasType hvalue) (keyValue_of_hasType hvalue path')
    | enum variant =>
      cases h
      cases typ with
      | enum type => exact rereadsKey_variant_iff hdecodes path'
      | _ => exact hdecodes.elim
    | _ => cases h

end Decode

namespace Field

/-! ## Stored values -/

/-- Encoded for the mode, the value takes these slots, and nothing is fetched for it. -/
def StoredAs (s : Schema) (mode : SelectMode) (f : Field) (v : FieldValue)
    (stored : List SqlValue) : Prop :=
  if mode = .full then
    ∀ (σ : Type) (path : String),
      (Field.encodeFull s f path v : Fetching σ (List SqlValue)) = pure stored
  else ∀ path, Encode.field s f path v = .ok stored

def AllStoredAs (s : Schema) (mode : SelectMode) (fields : List Field) (values : List FieldValue)
    (stored : List SqlValue) : Prop :=
  if mode = .full then
    ∀ (σ : Type) (e : Entity),
      (e.encodeFields s fields values : Fetching σ (List SqlValue)) = pure stored
  else ∀ entity, Encode.fields s entity fields values = .ok stored

variable {s : Schema} {mode : SelectMode} {f : Field} {fields : List Field} {v : FieldValue}
  {values : List FieldValue} {slots stored : List SqlValue}

theorem storedAs_of_not_composite (hf : f.isComposite = false)
    (h : ∀ path, Encode.field s f path v = .ok stored) : StoredAs s mode f v stored := by
  unfold StoredAs
  split
  · intro σ path
    rw [Field.encodeFull_eq_of_not_composite hf, Schema.encodeField, h path]
    rfl
  · exact h

theorem allStoredAs_nil : AllStoredAs s mode [] [] [] := by
  unfold AllStoredAs
  split
  · exact fun _ _ => Entity.encodeFields.eq_def ..
  · exact fun _ => rfl

theorem allStoredAs_cons {first rest : List SqlValue} (hfirst : StoredAs s mode f v first)
    (hrest : AllStoredAs s mode fields values rest) :
    AllStoredAs s mode (f :: fields) (v :: values) (first ++ rest) := by
  unfold StoredAs at hfirst
  unfold AllStoredAs at hrest ⊢
  split at hfirst
  · next hfull =>
    rw [if_pos hfull] at hrest ⊢
    intro σ e
    rw [Entity.encodeFields, hfirst, hrest]
    rfl
  · next hfull =>
    rw [if_neg hfull] at hrest ⊢
    intro entity
    rw [Encode.fields, hfirst, hrest]
    rfl

/-! ## Settled values -/

/-- The value read from the slots is stored in slots of its own, which are NULL together with the
former ones. An equal value is read from them exactly if its keys are read as themselves. -/
structure Settles (s : Schema) (mode : SelectMode) (f : Field) (slots : List SqlValue)
    (v : FieldValue) (stored : List SqlValue) : Prop where
  storedAs : StoredAs s mode f v stored
  length_eq : stored.length = (FieldPlan.ofField mode f).width
  all_isNull : stored.all (·.isNull) = slots.all (·.isNull)
  reread : f.KeysReread mode v → ∀ path,
    ExceptT.Succeeds (Decode.field stored path (FieldPlan.ofField mode f)) (·.contents = v.contents)
  keysReread : ∀ path state w state',
    (Decode.field stored path (FieldPlan.ofField mode f)).run.run state = (.ok w, state') →
      w.contents = v.contents → f.KeysReread mode v

structure AllSettle (s : Schema) (mode : SelectMode) (fields : List Field) (slots : List SqlValue)
    (values : List FieldValue) (stored : List SqlValue) : Prop where
  storedAs : AllStoredAs s mode fields values stored
  length_eq : stored.length = FieldPlan.widths (FieldPlan.ofFields mode fields)
  all_isNull : stored.all (·.isNull) = slots.all (·.isNull)
  reread : AllKeysReread mode fields values → ∀ path,
    ExceptT.Succeeds (Decode.fields stored path (FieldPlan.ofFields mode fields))
      (contentsOf · = contentsOf values)
  keysReread : ∀ path state ws state',
    (Decode.fields stored path (FieldPlan.ofFields mode fields)).run.run state = (.ok ws, state') →
      contentsOf ws = contentsOf values → AllKeysReread mode fields values

/-- Whatever equal value takes the place of `v`, it is settled. -/
def AlwaysSettles (s : Schema) (mode : SelectMode) (f : Field) (slots : List SqlValue)
    (v : FieldValue) : Prop :=
  ∀ w : FieldValue, w.contents = v.contents → ∃ stored, Settles s mode f slots w stored

def AllAlwaysSettle (s : Schema) (mode : SelectMode) (fields : List Field)
    (slots : List SqlValue) (values : List FieldValue) : Prop :=
  ∀ ws : List FieldValue, contentsOf ws = contentsOf values →
    ws.length = fields.length ∧ ∃ stored, AllSettle s mode fields slots ws stored

/-- Slots that are all NULL make a NULL, which is stored as NULLs. -/
theorem settles_null (width : Nat) (hwidth : (FieldPlan.ofField mode f).width = width)
    (hslots : slots.all (·.isNull) = true)
    (hstored : StoredAs s mode f .null (List.replicate width .null))
    (hread : ∀ path state, (Decode.field (List.replicate width .null) path
      (FieldPlan.ofField mode f)).run.run state = (.ok .null, state))
    (hkeys : f.KeysReread mode .null) :
    Settles s mode f slots .null (List.replicate width .null) where
  storedAs := hstored
  length_eq := by rw [List.length_replicate, hwidth]
  all_isNull := by
    rw [hslots, List.all_replicate]
    exact ite_self _
  reread _ path state := ⟨.null, state, hread path state, rfl⟩
  keysReread _ _ _ _ _ _ := hkeys

variable {path : String} {state state' : DecodeState}

theorem scalar_settles {info : FieldInfo} {typ : ScalarType} (hlength : slots.length = 1)
    (h : Decode.scalar (slots.headD .null) typ info.nullable path = .ok v) :
    AlwaysSettles s mode (.scalar info typ) slots v := by
  obtain ⟨slot, rfl⟩ := List.length_eq_one_iff.mp hlength
  rw [List.headD_cons] at h
  intro w hw
  rcases Decode.scalar_ok h with ⟨hnull, rfl, hnullable⟩ | ⟨hnull, hcoerce⟩
  · cases eq_null_of_contents hw
    have hslots : [slot].all (·.isNull) = true := by
      rw [List.all_cons, hnull]
      rfl
    refine ⟨_, settles_null 1 rfl hslots (storedAs_of_not_composite rfl fun _ => rfl)
      ?_ trivial⟩
    intro path state
    rw [FieldPlan.ofField, Decode.field_scalar, hnullable]
    rfl
  · have hdecodes := decodes_of_coerce hcoerce
    have hw' : w = v := by
      cases v with
      | scalar value => exact eq_scalar_of_contents hw
      | enum variant => exact eq_enum_of_contents hw
      | _ => cases typ <;> exact hdecodes.elim
    subst hw'
    obtain ⟨raw, hraw, hencode, hread⟩ := coerce_plainField hdecodes info
    have hisNull : raw.isNull = false := by
      rw [Bool.eq_false_iff]
      exact fun h => hraw (raw.isNull_iff.mp h)
    refine ⟨[raw], storedAs_of_not_composite rfl ?_, rfl, ?_, ?_, ?_⟩
    · intro path
      cases w with
      | scalar | enum =>
        rw [Encode.field, hencode]
        all_goals intros; contradiction
      | _ => cases typ <;> exact hdecodes.elim
    · rw [List.all_cons, List.all_cons, hnull, hisNull]
    · intro _ path state
      refine ⟨w, state, ?_, rfl⟩
      rw [FieldPlan.ofField, Decode.field_scalar, List.headD_cons, Decode.scalar, hisNull,
        if_neg Bool.false_ne_true, hread]
      rfl
    · exact fun _ _ _ _ _ _ => trivial

theorem all_isNull_of_fromColumns {converter : Converter} (hstable : converter.Stable)
    (hlength : slots.length = converter.columns.length) (hread : converter.fromColumns slots = .ok v)
    (hv : v ≠ .null) : slots.all (·.isNull) = false := by
  rw [Bool.eq_false_iff]
  intro hnull
  rw [← hstable.fromColumns_null_iff slots hlength, hread] at hnull
  exact hv (Except.ok.inj hnull)

/-- A value that was read, or one equal to it, is split into columns from which it is read again. -/
theorem exists_parts {converter : Converter} {w : FieldValue} (hstable : converter.Stable)
    (hlength : slots.length = converter.columns.length) (hread : converter.fromColumns slots = .ok v)
    (hv : v ≠ .null) (hw : w.contents = v.contents) :
    ∃ parts v', (∀ path, converter.encode w path = .ok parts) ∧
      parts.length = converter.columns.length ∧ converter.fromColumns parts = .ok v' ∧
      v' ≠ .null ∧ v'.contents = w.contents := by
  obtain ⟨parts, hparts, hwidth, v', hv', hsame⟩ :=
    hstable.fromColumns_toColumns slots v w hlength hread hv ((w.same_iff v).mpr hw)
  have hcontents : v'.contents = v.contents := (v'.same_iff v).mp hsame
  refine ⟨parts, v', ?_, hwidth, hv', ?_, hcontents.trans hw.symm⟩
  · intro path
    rw [Converter.encode, hparts]
    exact if_pos hwidth
  · rintro rfl
    exact hv (eq_null_of_contents hcontents.symm)

theorem converted_settles {info : FieldInfo} {converter : Converter} (hstable : converter.Stable)
    (hlength : slots.length = converter.columns.length)
    (h : Decode.converted slots converter info.nullable path = .ok v) :
    AlwaysSettles s mode (.converted info converter) slots v := by
  obtain ⟨hread, hnullable⟩ := Decode.converted_ok h
  intro w hw
  by_cases hv : v = .null
  · subst hv
    cases eq_null_of_contents hw
    have hslots := (hstable.fromColumns_null_iff slots hlength).mp hread
    have hnulls :
        (List.replicate converter.columns.length SqlValue.null).all (·.isNull) = true := by
      rw [List.all_replicate]
      exact ite_self _
    refine ⟨_, settles_null converter.columns.length rfl hslots
      (storedAs_of_not_composite rfl fun _ => rfl) ?_ trivial⟩
    intro path state
    rw [FieldPlan.ofField, Decode.field, Decode.converted,
      (hstable.fromColumns_null_iff _ List.length_replicate).mpr hnulls, hnullable rfl]
    rfl
  · obtain ⟨parts, v', hencode, hwidth, hv', hv'ne, hcontents⟩ :=
      exists_parts hstable hlength hread hv hw
    have hslots := all_isNull_of_fromColumns hstable hlength hread hv
    have hstored := all_isNull_of_fromColumns hstable hwidth hv' hv'ne
    refine ⟨parts, storedAs_of_not_composite rfl ?_, hwidth, hstored.trans hslots.symm, ?_, ?_⟩
    · intro path
      cases w with
      | null => exact absurd (eq_null_of_contents hcontents) hv'ne
      | _ =>
        simp only [Encode.field, Encode.plainField, hencode]
        rfl
    · intro _ path state
      refine ⟨v', state, ?_, hcontents⟩
      have hisNull : v'.isNull = false := by
        cases v' with
        | null => exact absurd rfl hv'ne
        | _ => rfl
      rw [FieldPlan.ofField, Decode.field, Decode.converted, hv']
      simp only [hisNull]
      rfl
    · exact fun _ _ _ _ _ _ => trivial

/-! ## Links -/

/-- A link is a reference, or a foreign key where it is not expanded. -/
inductive PlannedAsLink (mode : SelectMode) (info : FieldInfo) (key : KeyColumn) :
    EntityName → Field → Prop
  | ref (target : EntityName) : PlannedAsLink mode info key target (.ref info target key)
  | foreignKey (target : EntityInfo) (fields : List Field) : mode ≠ .full →
    PlannedAsLink mode info key target.name (.foreignKey info target key fields)

section

variable {info : FieldInfo} {target : EntityName} {key : KeyColumn}

theorem PlannedAsLink.ofField_eq (hf : PlannedAsLink mode info key target f) :
    FieldPlan.ofField mode f = .ref info.name target [key.typ] info.nullable := by
  cases hf with
  | ref => rfl
  | foreignKey linked fields hmode => exact if_neg hmode

theorem PlannedAsLink.keysReread_iff (hf : PlannedAsLink mode info key target f) (v : FieldValue) :
    f.KeysReread mode v ↔ v.RereadsKey key.typ := by
  cases hf with
  | ref => rfl
  | foreignKey linked fields hmode => rw [KeysReread, if_neg hmode]

theorem PlannedAsLink.storedAs (hf : PlannedAsLink mode info key target f) (r : Reference) :
    StoredAs s mode f (.reference r) (r.key.getD [.null]) := by
  cases hf with
  | ref => exact storedAs_of_not_composite rfl fun _ => rfl
  | foreignKey linked fields hmode =>
    rw [StoredAs, if_neg hmode]
    exact fun _ => rfl

theorem PlannedAsLink.width_eq (hf : PlannedAsLink mode info key target f) :
    (FieldPlan.ofField mode f).width = 1 := by
  rw [hf.ofField_eq]
  rfl

theorem PlannedAsLink.settles_null (hf : PlannedAsLink mode info key target f)
    (hnullable : info.nullable = true) (hslots : slots.all (·.isNull) = true)
    (source : Source) : Settles s mode f slots (.reference ⟨target, none, source⟩) [.null] where
  storedAs := hf.storedAs _
  length_eq := hf.width_eq.symm
  all_isNull := by
    rw [hslots]
    rfl
  reread _ path state := by
    refine ⟨.reference (.null target), state, ?_, rfl⟩
    rw [hf.ofField_eq, Decode.field, hnullable]
    rfl
  keysReread _ _ _ _ _ _ := by
    rw [hf.keysReread_iff]
    rintro _ ⟨⟩ _ ⟨⟩

/-- The slot of a link holds its key, which is read like any slot. -/
theorem PlannedAsLink.settles_key {slot part : SqlValue}
    (hf : PlannedAsLink mode info key target f) (hslots : slots.all (·.isNull) = false)
    (hpart : Decode.keyValue slot key.typ path = .ok part) (source : Source) :
    Settles s mode f slots (.reference ⟨target, some [part], source⟩) [part] := by
  have hnull : ([part] : List SqlValue).all (·.isNull) = false := by
    rw [List.all_cons, List.all_nil, Bool.and_true, Bool.eq_false_iff]
    exact fun hisNull => (Decode.keyValue_ne_null hpart).2 (part.isNull_iff.mp hisNull)
  have hrereads : f.KeysReread mode (.reference ⟨target, some [part], source⟩) ↔
      key.typ.RereadsKey part := by
    rw [hf.keysReread_iff]
    constructor
    · exact fun hall => hall _ rfl _ rfl part (.head _)
    · rintro hpart _ ⟨⟩ _ ⟨⟩ other hother
      rwa [List.mem_singleton.mp hother]
  refine ⟨hf.storedAs _, hf.width_eq.symm, hnull.trans hslots.symm, ?_, ?_⟩
  · intro hall path
    have hself := (Decode.rereadsKey_iff hpart path).mp (hrereads.mp hall)
    have hself' : Decode.keyValues path [part] [key.typ] = .ok [part] := by
      rw [Decode.keyValues, hself]
      rfl
    rw [hf.ofField_eq, Decode.field]
    apply (Decode.reference_succeeds target info.nullable hnull hself').bind
    rintro r ⟨hentity, hkey⟩
    apply ExceptT.Succeeds.pure
    rw [FieldValue.contents, FieldValue.contents, hentity, hkey]
  · intro path state w state' hrun hsame
    rw [hrereads, Decode.rereadsKey_iff hpart path]
    rw [hf.ofField_eq] at hrun
    obtain ⟨r, between, hr, hrun⟩ := ExceptT.bind_eq_ok hrun
    cases hrun
    obtain ⟨-, ⟨hnull', -⟩ | ⟨-, key', hread', hkey⟩⟩ := Decode.reference_ok hr
    · rw [hnull] at hnull'
      cases hnull'
    · obtain ⟨part', rfl, hpart'⟩ := Decode.keyValues_single_ok hread'
      rw [FieldValue.contents, FieldValue.contents, hkey] at hsame
      cases hsame
      exact hpart'

theorem link_settles {r : Reference} (hf : PlannedAsLink mode info key target f)
    (hlength : slots.length = 1)
    (h : (Decode.reference slots target [key.typ] info.nullable path).run.run state =
      (.ok r, state')) : AlwaysSettles s mode f slots (.reference r) := by
  obtain ⟨slot, rfl⟩ := List.length_eq_one_iff.mp hlength
  obtain ⟨entity, parts, source⟩ := r
  obtain ⟨rfl, hparts⟩ := Decode.reference_ok h
  intro w hw
  obtain ⟨source', rfl⟩ := eq_reference_of_contents hw
  rcases hparts with ⟨hnull, hnullable, hnone⟩ | ⟨hnull, parts', hread, hsome⟩
  · cases hnone
    exact ⟨_, hf.settles_null hnullable hnull source'⟩
  · cases hsome
    obtain ⟨part, rfl, hpart⟩ := Decode.keyValues_single_ok hread
    exact ⟨_, hf.settles_key hnull hpart source'⟩

end

end Field

end RelMap
