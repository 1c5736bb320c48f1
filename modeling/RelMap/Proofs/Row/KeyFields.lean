import RelMap.Proofs.Row.KeyParts
import RelMap.Proofs.Schema.Converters
import RelMap.Row.Encode

/-!
# Decoded key fields

A decoded field is encoded to the parts that a key is read as from the same slots, if its enums are
stored by name, its converters restore their columns and no linked composite is expanded.
-/

namespace RelMap

/-- Values that were read from columns are split into what a key is read as from these columns. -/
structure Converter.RestoresColumns (c : Converter) : Prop where
  null_slots : ∀ slots, slots.length = c.columns.length → c.fromColumns slots = .ok .null →
    slots.all (·.isNull) = true
  toColumns : ∀ slots v w, slots.length = c.columns.length → c.fromColumns slots = .ok v →
    v ≠ .null → w.same v → ∃ parts, c.toColumns w = .ok parts ∧
      Decode.AllReadAs slots (c.columns.map (·.typ)) parts

namespace Field

mutual

/-- The enums in the field are stored by name, and its converters restore their columns. -/
def KeepsParts : Field → Prop
  | .scalar _ (.enum type) => type.encoding = .name
  | .scalar _ _ | .ref _ _ _ | .foreignKey _ _ _ _ => True
  | .converted _ converter => converter.RestoresColumns
  | .inline _ _ fields => AllKeepParts fields
termination_by structural f => f

def AllKeepParts : List Field → Prop
  | [] => True
  | f :: rest => KeepsParts f ∧ AllKeepParts rest
termination_by structural fs => fs

end

/-- Whatever equal value takes the place of `v`, it is encoded to the parts read from the slots. -/
def EncodesAsRead (s : Schema) (f : Field) (slots : List SqlValue) (v : FieldValue) : Prop :=
  ∀ w : FieldValue, w.contents = v.contents →
    ∃ parts, Decode.AllReadAs slots f.columnTypes parts ∧
      ∀ path, Encode.field s f path w = .ok parts

def AllEncodeAsRead (s : Schema) (fields : List Field) (slots : List SqlValue)
    (values : List FieldValue) : Prop :=
  ∀ ws : List FieldValue, contentsOf ws = contentsOf values →
    ws.length = fields.length ∧
    ∃ parts, Decode.AllReadAs slots (columnTypesOf fields) parts ∧
      ∀ entity, Encode.fields s entity fields ws = .ok parts

variable {s : Schema} {mode : SelectMode} {slots : List SqlValue} {path : String}
  {state state' : DecodeState} {v : FieldValue}

theorem encodesAsRead_null {f : Field} (hlength : slots.length = f.width)
    (hnull : slots.all (·.isNull) = true) : EncodesAsRead s f slots .null := by
  intro w hw
  rw [eq_null_of_contents hw]
  refine ⟨List.replicate f.columnTypes.length .null, ?_, ?_⟩
  · apply Decode.AllReadAs.replicate_null hnull
    rw [length_columnTypes, hlength]
  · intro path
    rw [length_columnTypes]
    rfl

theorem encode_enum_of_mem {type : EnumType} {variant : String} (hname : type.encoding = .name)
    (hmem : variant ∈ type.variants) (path : String) :
    type.encode variant path = .ok (.text variant) := by
  obtain ⟨position, hposition⟩ := Option.isSome_iff_exists.mp (List.isSome_idxOf?.mpr hmem)
  rw [EnumType.encode, hposition, hname]

theorem decode_enum_ok {type : EnumType} {slot : SqlValue} {variant : String}
    (hname : type.encoding = .name) (h : type.decode slot path = .ok variant) :
    slot = .text variant ∧ variant ∈ type.variants := by
  unfold EnumType.decode at h
  rw [hname] at h
  cases slot with
  | text name =>
    dsimp only at h
    split at h
    · next hmem =>
      split at hmem
      · next hvariant =>
        cases hmem
        cases h
        exact ⟨rfl, hvariant⟩
      · cases hmem
    · cases h
  | _ => cases h

theorem scalar_encodesAsRead {info : FieldInfo} {typ : ScalarType}
    (hkeeps : KeepsParts (.scalar info typ)) (hlength : slots.length = 1)
    (h : Decode.scalar (slots.headD .null) typ info.nullable path = .ok v) :
    EncodesAsRead s (.scalar info typ) slots v := by
  obtain ⟨slot, rfl⟩ := List.length_eq_one_iff.mp hlength
  rw [List.headD_cons] at h
  rcases Decode.scalar_ok h with ⟨hnull, rfl, -⟩ | ⟨hnull, h⟩
  · apply encodesAsRead_null rfl
    rw [List.all_cons, hnull]
    rfl
  · intro w hw
    have hpart : ∃ part, Decode.keyValue slot typ path = .ok part ∧
        ∀ path, Encode.field s (.scalar info typ) path w = .ok [part] := by
      unfold Decode.keyValue
      rw [hnull, if_neg Bool.false_ne_true, h]
      cases typ with
      | enum type =>
        cases hdecode : type.decode slot path with
        | error e =>
          rw [coerce, hdecode] at h
          cases h
        | ok variant =>
          rw [coerce, hdecode] at h
          cases h
          obtain ⟨rfl, hmem⟩ := decode_enum_ok hkeeps hdecode
          refine ⟨.text variant, rfl, ?_⟩
          intro path
          rw [eq_enum_of_contents hw, Encode.field, Encode.plainField,
            encode_enum_of_mem hkeeps hmem]
          · rfl
          all_goals intros; contradiction
      | _ =>
        simp only [coerce] at h
        split at h
        · next scalar _ =>
          cases h
          rw [eq_scalar_of_contents hw]
          exact ⟨scalar, rfl, fun _ => rfl⟩
        · cases h
    obtain ⟨part, hread, hencode⟩ := hpart
    exact ⟨[part], .cons (Decode.readsAs_of_keyValue hread) .nil, hencode⟩

theorem converted_encodesAsRead {info : FieldInfo} {converter : Converter}
    (hkeeps : converter.RestoresColumns) (hlength : slots.length = converter.columns.length)
    (h : Decode.converted slots converter info.nullable path = .ok v) :
    EncodesAsRead s (.converted info converter) slots v := by
  obtain ⟨hread, -⟩ := Decode.converted_ok h
  by_cases hv : v = .null
  · subst hv
    exact encodesAsRead_null hlength (hkeeps.null_slots slots hlength hread)
  · intro w hw
    have hsame : w.same v = true := (w.same_iff v).mpr hw
    obtain ⟨parts, hparts, hreads⟩ := hkeeps.toColumns slots v w hlength hread hv hsame
    refine ⟨parts, hreads, ?_⟩
    intro path
    have hencode : converter.encode w path = .ok parts := by
      have hwidth := hreads.length_eq
      rw [List.length_map] at hwidth
      rw [Converter.encode, hparts]
      exact if_pos hwidth.2
    cases w with
    | null =>
      rw [eq_null_of_contents hw.symm] at hv
      exact absurd rfl hv
    | _ =>
      simp only [Encode.field, Encode.plainField, hencode]
      rfl

theorem reference_encodesAsRead {f : Field} {info : FieldInfo} {target : EntityName}
    {key : KeyColumn} {r : Reference}
    (hf : f = .ref info target key ∨ ∃ composed fields, f = .foreignKey info composed key fields)
    (hlength : slots.length = 1)
    (h : (Decode.reference slots target [key.typ] info.nullable path).run.run state =
      (.ok r, state')) : EncodesAsRead s f slots (.reference r) := by
  obtain ⟨slot, rfl⟩ := List.length_eq_one_iff.mp hlength
  intro w hw
  obtain ⟨r', rfl, hkey⟩ : ∃ r', w = .reference r' ∧ r'.key = r.key := by
    cases w with
    | reference r' =>
      rw [FieldValue.contents, FieldValue.contents, FieldValue.reference.injEq,
        Reference.mk.injEq] at hw
      exact ⟨r', rfl, hw.2.1⟩
    | _ => cases hw
  have htypes : f.columnTypes = [key.typ] := by
    rcases hf with rfl | ⟨composed, fields, rfl⟩ <;> rfl
  have hencode : ∀ path, Encode.field s f path (.reference r') = .ok (r'.key.getD [.null]) := by
    intro path
    rcases hf with rfl | ⟨composed, fields, rfl⟩ <;> rfl
  rw [htypes]
  obtain ⟨-, ⟨hnull, -, hnone⟩ | ⟨-, parts, hread, hsome⟩⟩ := Decode.reference_ok h
  · refine ⟨[.null], Decode.AllReadAs.replicate_null hnull rfl, ?_⟩
    rw [hkey, hnone] at hencode
    exact hencode
  · obtain ⟨part, rfl, hpart⟩ := Decode.keyValues_single_ok hread
    refine ⟨[part], .cons (Decode.readsAs_of_keyValue hpart) .nil, ?_⟩
    rw [hkey, hsome] at hencode
    exact hencode

/-! ## Composites -/

theorem allEncodeAsRead_nil : AllEncodeAsRead s [] [] [] := by
  intro ws hws
  cases ws with
  | nil => exact ⟨rfl, [], .nil, fun _ => rfl⟩
  | cons w ws => cases hws

theorem allEncodeAsRead_cons {f : Field} {fields : List Field} {first rest : List SqlValue}
    {values : List FieldValue} (hfirst : EncodesAsRead s f first v)
    (hrest : AllEncodeAsRead s fields rest values) :
    AllEncodeAsRead s (f :: fields) (first ++ rest) (v :: values) := by
  intro ws hws
  cases ws with
  | nil => cases hws
  | cons w ws =>
    rw [contentsOf, contentsOf, List.cons.injEq] at hws
    obtain ⟨hlength, restParts, hrestReads, hrestEncode⟩ := hrest ws hws.2
    obtain ⟨parts, hreads, hencode⟩ := hfirst w hws.1
    refine ⟨congrArg (· + 1) hlength, parts ++ restParts, hreads.append hrestReads, ?_⟩
    intro entity
    rw [Encode.fields, hencode, hrestEncode]
    rfl

theorem encodeRecord_eq {target : EntityInfo} {fields : List Field} {values : List FieldValue}
    {parts : List SqlValue} (hentity : s.entity? target.name = some ⟨target, fields⟩)
    (hlength : values.length = fields.length)
    (hencode : Encode.fields s target.name fields values = .ok parts) :
    Encode.record s ⟨target.name, values⟩ = .ok parts := by
  have harity : Entity.checkArity ⟨target, fields⟩ values = .ok () := if_pos hlength
  rw [Encode.record, Schema.entity_of_entity? hentity]
  change (liftM (Entity.checkArity ⟨target, fields⟩ values) >>= fun _ =>
    Encode.fields s target.name fields values : Except Error (List SqlValue)) = _
  rw [harity]
  exact hencode

/-- The instance of an inline composite may be any equal one. -/
theorem inline_encodesAsRead {info : FieldInfo} {target : EntityInfo} {fields : List Field}
    {handle : Handle} {values ws : List FieldValue}
    (hentity : s.entity? target.name = some ⟨target, fields⟩)
    (hvalues : AllEncodeAsRead s fields slots values) (hws : contentsOf ws = contentsOf values) :
    EncodesAsRead s (.inline info target fields) slots (.record handle ⟨target.name, ws⟩) := by
  intro w hw
  obtain ⟨handle', ws', rfl, hws'⟩ := eq_record_of_contents hw
  obtain ⟨hlength, parts, hreads, hencode⟩ := hvalues ws' (hws'.trans hws)
  exact ⟨parts, hreads, fun _ => encodeRecord_eq hentity hlength (hencode target.name)⟩

mutual

theorem encodesAsRead {mode : SelectMode} {f : Field} {slots : List SqlValue} {path : String}
    {state state' : DecodeState} {v : FieldValue} (hcoherent : f.Coherent s) (hkeeps : f.KeepsParts)
    (hmode : mode = .full → f.Unlinked) (hlength : slots.length = f.width)
    (h : (Decode.field slots path (FieldPlan.ofField mode f)).run.run state = (.ok v, state')) :
    EncodesAsRead s f slots v := by
  cases f with
  | scalar info typ =>
    rw [FieldPlan.ofField, Decode.field_scalar] at h
    exact scalar_encodesAsRead hkeeps hlength (congrArg Prod.fst h)
  | converted info converter => exact converted_encodesAsRead hkeeps hlength (congrArg Prod.fst h)
  | ref info target key =>
    obtain ⟨r, between, hr, h⟩ := ExceptT.bind_eq_ok h
    cases h
    exact reference_encodesAsRead (.inl rfl) hlength hr
  | foreignKey info target key fields =>
    rw [FieldPlan.ofField, if_neg hmode] at h
    obtain ⟨r, between, hr, h⟩ := ExceptT.bind_eq_ok h
    cases h
    exact reference_encodesAsRead (.inr ⟨target, fields, rfl⟩) hlength hr
  | inline info target fields =>
    rcases Decode.composite_ok h with
      ⟨rfl, -, hnull⟩ | ⟨-, handle, values, ws, between, hvalues, rfl, hws⟩
    · exact encodesAsRead_null hlength hnull
    · have hinner := allEncodeAsRead hcoherent.2 hkeeps
        (fun hfull => hmode (SelectMode.eq_full_of_inner hfull)) hlength hvalues
      exact inline_encodesAsRead hcoherent.1 hinner hws
termination_by structural f

theorem allEncodeAsRead {mode : SelectMode} {fields : List Field} {slots : List SqlValue}
    {path : String} {state state' : DecodeState} {values : List FieldValue}
    (hcoherent : AllCoherent s fields) (hkeeps : AllKeepParts fields)
    (hmode : mode = .full → AllUnlinked fields) (hlength : slots.length = widths fields)
    (h : (Decode.fields slots path (FieldPlan.ofFields mode fields)).run.run state =
      (.ok values, state')) : AllEncodeAsRead s fields slots values := by
  cases fields with
  | nil =>
    cases h
    rw [List.length_eq_zero_iff.mp hlength]
    exact allEncodeAsRead_nil
  | cons f fields =>
    obtain ⟨v, values, between, hv, hvalues, rfl⟩ := Decode.fields_cons_ok h
    have hwidth := FieldPlan.width_ofField fun hfull => (hmode hfull).1
    rw [hwidth] at hv hvalues
    rw [widths] at hlength
    have htake : (slots.take f.width).length = f.width := by
      rw [List.length_take]
      omega
    have hdrop : (slots.drop f.width).length = widths fields := by
      rw [List.length_drop]
      omega
    rw [← List.take_append_drop f.width slots]
    have hfirst := encodesAsRead hcoherent.1 hkeeps.1 (fun hfull => (hmode hfull).1) htake hv
    have hrest :=
      allEncodeAsRead hcoherent.2 hkeeps.2 (fun hfull => (hmode hfull).2) hdrop hvalues
    exact allEncodeAsRead_cons hfirst hrest
termination_by structural fields

end

end Field

end RelMap
