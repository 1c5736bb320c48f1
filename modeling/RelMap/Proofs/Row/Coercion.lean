import RelMap.Row.Encode

/-!
# Values in decoded form

A decoded scalar has exactly its declared type, and a decoded enum is a declared variant. Stored and
read back, either is the same value again.
-/

namespace RelMap

open Text

/-! ## Ordinals -/

theorem digitsValue_toDigits (n : Nat) : digitsValue (Nat.toDigits 10 n) = n := by
  have hfold : digitsValue (Nat.toDigits 10 n) = Nat.ofDigitChars 10 (Nat.toDigits 10 n) 0 := by
    simp only [digitsValue, Nat.ofDigitChars, Nat.mul_comm 10]
  rw [hfold, Nat.ofDigitChars_ten_toDigits]

theorem not_isBlank_of_isDigit {c : Char} (h : c.isDigit = true) : isBlank c = false := by
  have hcode : 48 ≤ c.toNat ∧ c.toNat ≤ 57 := by
    simpa [Char.isDigit, UInt32.le_iff_toNat_le] using h
  have hruns : ∀ run ∈ blankRuns, run.last < 48 ∨ 57 < run.first := by decide
  unfold isBlank inRuns
  rw [List.any_eq_false]
  intro run hrun hhas
  simp only [CharRun.has, Bool.and_eq_true, decide_eq_true_eq] at hhas
  obtain ⟨⟨hfirst, hlast⟩, -⟩ := hhas
  have hapart := hruns run hrun
  omega

theorem trimBlanks_of_all_isDigit {digits : List Char} (h : ∀ c ∈ digits, c.isDigit = true) :
    trimBlanks digits = digits := by
  have hdrop : ∀ chars : List Char, (∀ c ∈ chars, c.isDigit = true) → dropBlanks chars = chars := by
    intro chars hchars
    cases chars with
    | nil => rfl
    | cons c rest =>
      rw [dropBlanks, List.dropWhile_cons_of_neg]
      simp [not_isBlank_of_isDigit (hchars c (.head _))]
  rw [trimBlanks, hdrop digits h, hdrop, List.reverse_reverse]
  simpa using h

namespace EnumType

theorem readOrdinal?_natText (n : Nat) : readOrdinal? (natText n) = some n := by
  have hdigits : ∀ c ∈ Nat.toDigits 10 n, c.isDigit = true := by
    intro c hc
    exact Nat.isDigit_of_mem_toDigits (by decide) (by decide) hc
  have hplus : ∀ rest, Nat.toDigits 10 n ≠ '+' :: rest := by
    intro rest h
    have hdigit := hdigits '+' (by rw [h]; exact .head _)
    exact absurd hdigit (by decide)
  rw [readOrdinal?, natText, String.toList_ofList, trimBlanks_of_all_isDigit hdigits]
  split
  · next rest heq => exact absurd heq (hplus rest)
  · rw [if_pos, digitsValue_toDigits]
    exact ⟨Nat.toDigits_ne_nil, List.all_eq_true.mpr hdigits⟩

/-- A declared variant is stored as a value that is not NULL and read back, in both encodings. -/
theorem decode_encode {type : EnumType} {variant : String} (h : variant ∈ type.variants) :
    ∃ raw, raw ≠ .null ∧ (∀ path, type.encode variant path = .ok raw) ∧
      ∀ path, type.decode raw path = .ok variant := by
  obtain ⟨position, hposition⟩ := Option.isSome_iff_exists.mp (List.isSome_idxOf?.mpr h)
  have hget : type.variants[position]? = some variant := by
    obtain ⟨hlt, heq, _⟩ := List.idxOf?_eq_some_iff.mp hposition
    rw [List.getElem?_eq_getElem hlt, heq]
  unfold encode
  rw [hposition]
  cases hencoding : type.encoding with
  | name =>
    refine ⟨.text variant, nofun, fun _ => rfl, ?_⟩
    intro path
    simp only [decode, hencoding, if_pos h]
  | ordinal =>
    refine ⟨.text (natText position), nofun, fun _ => rfl, ?_⟩
    intro path
    simp only [decode, hencoding, readOrdinal?_natText, Option.bind_some, hget]

end EnumType

/-! ## Decoded scalars -/

/-- The value is of exactly the type, which is not an enum. -/
def SqlValue.HasType : SqlValue → ScalarType → Prop
  | .boolean _, .boolean | .int _, .int | .bigInt _, .bigInt | .double _, .double
  | .text _, .text | .date _, .date | .timestamp _, .timestamp | .uuid _, .uuid
  | .bytes _, .bytes => True
  | _, _ => False

theorem SqlValue.HasType.ofType? {v : SqlValue} {typ : ScalarType} (h : v.HasType typ) :
    v.ofType? typ = some v := by
  unfold HasType at h
  split at h
  all_goals first
    | rfl
    | cases h

theorem SqlValue.hasType_of_ofType? {v w : SqlValue} {typ : ScalarType}
    (h : v.ofType? typ = some w) : w.HasType typ := by
  unfold SqlValue.ofType? at h
  split at h
  all_goals first
    | cases h <;> trivial
    | (split at h <;> cases h); trivial
    | obtain ⟨_, -, rfl⟩ := Option.map_eq_some_iff.mp h; trivial

def ScalarType.Decodes (typ : ScalarType) (v : FieldValue) : Prop :=
  match typ, v with
  | .enum type, .enum variant => variant ∈ type.variants
  | typ, .scalar value => value.HasType typ
  | _, _ => False

theorem SqlValue.HasType.ne_null {v : SqlValue} {typ : ScalarType} (h : v.HasType typ) :
    v ≠ .null := by
  rintro rfl
  exact h

/-- The type of a decoded scalar is no enum. -/
theorem coerce_of_hasType {v : SqlValue} {typ : ScalarType} (h : v.HasType typ) (path : String) :
    coerce v typ path = .ok (.scalar v) := by
  have hread := h.ofType?
  cases typ with
  | enum type => cases v <;> exact h.elim
  | _ => simp only [coerce, hread]

theorem plainField_of_hasType {v : SqlValue} {typ : ScalarType} (h : v.HasType typ)
    (info : FieldInfo) (path : String) :
    Encode.plainField (.scalar info typ) (.scalar v) path = .ok [v] := by
  cases typ <;> rfl

theorem coerce_plainField {typ : ScalarType} {v : FieldValue} (h : typ.Decodes v)
    (info : FieldInfo) :
    ∃ raw, raw ≠ .null ∧ (∀ path, Encode.plainField (.scalar info typ) v path = .ok [raw]) ∧
      ∀ path, coerce raw typ path = .ok v := by
  cases v with
  | scalar value =>
    have hvalue : value.HasType typ := by
      cases typ <;> exact h
    exact ⟨value, hvalue.ne_null, plainField_of_hasType hvalue info, coerce_of_hasType hvalue⟩
  | enum variant =>
    cases typ with
    | enum type =>
      obtain ⟨raw, hnull, hencode, hdecode⟩ := EnumType.decode_encode h
      refine ⟨raw, hnull, ?_, ?_⟩
      · intro path
        rw [Encode.plainField, hencode]
        rfl
      · intro path
        rw [coerce, hdecode]
        rfl
    | _ => exact h.elim
  | _ => cases typ <;> exact h.elim

/-! ## Types of decoded values -/

theorem EnumType.mem_of_variantAt? {type : EnumType} {position : Int} {variant : String}
    (h : type.variantAt? position = some variant) : variant ∈ type.variants := by
  unfold variantAt? at h
  split at h
  · cases h
  · exact List.mem_of_getElem? h

theorem EnumType.mem_of_decode {type : EnumType} {value : SqlValue} {path variant : String}
    (h : type.decode value path = .ok variant) : variant ∈ type.variants := by
  unfold EnumType.decode at h
  dsimp only at h
  split at h
  case h_5 => cases h
  all_goals
    split at h
    case h_2 => cases h
    case h_1 hfound =>
      cases h
      first
        | exact mem_of_variantAt? hfound
        | split at hfound <;> cases hfound; assumption
        | obtain ⟨position, -, hget⟩ := Option.bind_eq_some_iff.mp hfound
          exact List.mem_of_getElem? hget

theorem decodes_of_coerce {value : SqlValue} {typ : ScalarType} {path : String} {v : FieldValue}
    (h : coerce value typ path = .ok v) : typ.Decodes v := by
  unfold coerce at h
  split at h
  · next type =>
    cases hdecode : type.decode value path with
    | error e =>
      rw [hdecode] at h
      cases h
    | ok variant =>
      rw [hdecode] at h
      cases h
      exact EnumType.mem_of_decode hdecode
  · split at h
    · next hread =>
      cases h
      have htype := SqlValue.hasType_of_ofType? hread
      cases typ <;> exact htype
    · cases h

end RelMap
