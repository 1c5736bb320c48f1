import RelMap.Proofs.Row.Coercion
import RelMap.Proofs.Sql.Simplification

/-!
# Coerced values

What coercion keeps of a value. Main statement: it is a projection onto the values of the type.
Integers stay the same numbers, truth values come from nothing but truth values and the numbers 0
and 1, dates and timestamps keep the day, and enum variants are read back from what they are stored
as.
-/

namespace RelMap

namespace SqlValue

/-! ## What values stand for -/

def day? : SqlValue → Option Date
  | date value => some value
  | timestamp value => some value.date
  | _ => none

def FitsInt (n : Int) : Prop := -0x80000000 ≤ n ∧ n < 0x80000000

instance (n : Int) : Decidable (FitsInt n) := by unfold FitsInt; infer_instance

theorem integer?_int {n : Int} (h : FitsInt n) : (int (.ofInt n)).integer? = some n :=
  congrArg some (Int32.toInt_ofInt_of_le h.1 h.2)

theorem fitsInt_toInt (value : Int32) : FitsInt value.toInt :=
  ⟨Int32.le_toInt value, Int32.toInt_lt value⟩

theorem integer?_bigInt {value : SqlValue} {n : Int} (h : value.integer? = some n) :
    (bigInt (.ofInt n)).integer? = some n := by
  cases value with
  | int value =>
    cases h
    obtain ⟨hle, hlt⟩ := fitsInt_toInt value
    exact congrArg some (Int64.toInt_ofInt_of_le (by omega) (by omega))
  | bigInt value =>
    cases h
    exact congrArg some (congrArg Int64.toInt (Int64.ofInt_toInt value))
  | _ => cases h

/-! ## Conversions -/

theorem ofType?_int (value : SqlValue) :
    value.ofType? .int = (value.integer?.filter FitsInt).map fun n => int (.ofInt n) := by
  cases value with
  | int value =>
    have hfits : decide (FitsInt value.toInt) = true := decide_eq_true (fitsInt_toInt value)
    rw [integer?, Option.filter_some, if_pos hfits, Option.map_some, Int32.ofInt_toInt]
    rfl
  | bigInt value =>
    rw [integer?, Option.filter_some, apply_ite (Option.map _)]
    simp only [decide_eq_true_eq]
    rfl
  | _ => rfl

theorem ofType?_bigInt (value : SqlValue) :
    value.ofType? .bigInt = value.integer?.map fun n => bigInt (.ofInt n) := by
  cases value with
  | bigInt value =>
    rw [integer?, Option.map_some, Int64.ofInt_toInt]
    rfl
  | _ => rfl

def truth? : SqlValue → Option Bool
  | boolean value => some value
  | value => (value.integer?.filter fun n => n = 0 ∨ n = 1).map fun n => n = 1

theorem ofType?_boolean (value : SqlValue) :
    value.ofType? .boolean = value.truth?.map boolean := by
  cases value with
  | int value | bigInt value =>
    simp only [ofType?, truth?, integer?, Option.filter_some, decide_eq_true_eq,
      apply_ite (Option.map _), Option.map_some, Option.map_none]
  | _ => rfl

theorem truth?_eq_some {value : SqlValue} {b : Bool} (h : value.truth? = some b) :
    value = boolean b ∨ value.integer? = some 0 ∧ b = false ∨
      value.integer? = some 1 ∧ b = true := by
  unfold truth? at h
  split at h
  · cases h
    exact .inl rfl
  · obtain ⟨n, hn, hb⟩ := Option.map_eq_some_iff.mp h
    obtain ⟨hinteger, hbit⟩ := Option.filter_eq_some_iff.mp hn
    rcases of_decide_eq_true hbit with rfl | rfl
    · exact .inr (.inl ⟨hinteger, hb.symm⟩)
    · exact .inr (.inr ⟨hinteger, hb.symm⟩)

theorem day?_of_ofType? {value w : SqlValue} {typ : ScalarType}
    (htyp : typ = .date ∨ typ = .timestamp) (h : value.ofType? typ = some w) :
    ∃ day, value.day? = some day ∧ w.day? = some day := by
  rcases htyp with rfl | rfl
  all_goals
    cases value with
    | date | timestamp =>
      cases h
      exact ⟨_, rfl, rfl⟩
    | _ => cases h

end SqlValue

/-! ## Coercion -/

theorem coerce_eq_ok_scalar_iff {value w : SqlValue} {typ : ScalarType} {path : String} :
    coerce value typ path = .ok (.scalar w) ↔ value.ofType? typ = some w := by
  cases typ with
  | enum type =>
    have hscalar : ∀ r : Except MappingError String, r.map FieldValue.enum ≠ .ok (.scalar w) := by
      rintro (_ | _) h <;> cases h
    have hnone : value.ofType? (.enum type) = none := by cases value <;> rfl
    rw [hnone]
    exact iff_of_false (hscalar _) nofun
  | _ =>
    unfold coerce
    dsimp only
    cases value.ofType? _ <;> simp

theorem mem_of_coerce_eq_enum {value : SqlValue} {typ : ScalarType} {path variant : String}
    (h : coerce value typ path = .ok (.enum variant)) :
    ∃ type, typ = .enum type ∧ variant ∈ type.variants := by
  have hdecodes := decodes_of_coerce h
  cases typ with
  | enum type => exact ⟨type, rfl, hdecodes⟩
  | _ => exact hdecodes.elim

theorem coerce_bigInt_int (n : Int64) (path : String) :
    coerce (.bigInt n) .int path =
      if SqlValue.FitsInt n.toInt then .ok (.scalar (.int (.ofInt n.toInt)))
      else .error (.typeMismatch path "int" "bigint") := by
  have hread : (SqlValue.bigInt n).ofType? .int =
      if SqlValue.FitsInt n.toInt then some (.int (.ofInt n.toInt)) else none := rfl
  unfold coerce
  by_cases hfits : SqlValue.FitsInt n.toInt
  · rw [if_pos hfits] at hread ⊢
    simp only [hread]
  · rw [if_neg hfits] at hread ⊢
    simp only [hread]
    rfl

theorem coerce_bigInt_int_eq_error_iff (n : Int64) (path : String) :
    (∃ e, coerce (.bigInt n) .int path = .error e) ↔
      n.toInt < -0x80000000 ∨ 0x80000000 ≤ n.toInt := by
  have hfits : SqlValue.FitsInt n.toInt ↔ ¬ (n.toInt < -0x80000000 ∨ 0x80000000 ≤ n.toInt) := by
    rw [SqlValue.FitsInt, not_or, Int.not_lt, Int.not_le]
  rw [coerce_bigInt_int]
  split
  · next h => exact iff_of_false nofun (hfits.mp h)
  · next h => exact iff_of_true ⟨_, rfl⟩ (Decidable.not_not.mp (mt hfits.mpr h))

/-- What is kept of a value that is coerced to a type. -/
structure ScalarType.Keeps (typ : ScalarType) (value w : SqlValue) : Prop where
  hasType : w.HasType typ
  again : ∀ path, coerce w typ path = .ok (.scalar w)
  integer : typ = .int ∨ typ = .bigInt → ∃ n, value.integer? = some n ∧ w.integer? = some n
  truth : typ = .boolean → value = w ∨ value.integer? = some 0 ∧ w = .boolean false ∨
    value.integer? = some 1 ∧ w = .boolean true
  day : typ = .date ∨ typ = .timestamp → ∃ day, value.day? = some day ∧ w.day? = some day

theorem SqlValue.integer?_of_ofType? {value w : SqlValue} {typ : ScalarType}
    (htyp : typ = .int ∨ typ = .bigInt) (h : value.ofType? typ = some w) :
    ∃ n, value.integer? = some n ∧ w.integer? = some n := by
  rcases htyp with rfl | rfl
  · rw [ofType?_int] at h
    obtain ⟨n, hn, rfl⟩ := Option.map_eq_some_iff.mp h
    obtain ⟨hinteger, hfits⟩ := Option.filter_eq_some_iff.mp hn
    exact ⟨n, hinteger, integer?_int (of_decide_eq_true hfits)⟩
  · rw [ofType?_bigInt] at h
    obtain ⟨n, hinteger, rfl⟩ := Option.map_eq_some_iff.mp h
    exact ⟨n, hinteger, integer?_bigInt hinteger⟩

theorem SqlValue.keeps_of_ofType? {value w : SqlValue} {typ : ScalarType}
    (h : value.ofType? typ = some w) : typ.Keeps value w where
  hasType := hasType_of_ofType? h
  again := coerce_of_hasType (hasType_of_ofType? h)
  integer htyp := integer?_of_ofType? htyp h
  truth := by
    rintro rfl
    rw [ofType?_boolean] at h
    obtain ⟨b, hb, rfl⟩ := Option.map_eq_some_iff.mp h
    simpa using truth?_eq_some hb
  day htyp := day?_of_ofType? htyp h

/-- Coercion is a projection that keeps values, wide integers become narrow ones wherever they fit,
only declared variants are read, and each of them from what it is stored as. -/
theorem coercion_keeps_values :
    (∀ value w typ path, coerce value typ path = .ok (.scalar w) → typ.Keeps value w) ∧
    (∀ n path, (∃ e, coerce (.bigInt n) .int path = .error e) ↔
      n.toInt < -0x80000000 ∨ 0x80000000 ≤ n.toInt) ∧
    (∀ value typ path variant, coerce value typ path = .ok (.enum variant) →
      ∃ type, typ = .enum type ∧ variant ∈ type.variants) ∧
    ∀ (type : EnumType) (variant : String), variant ∈ type.variants →
      ∃ raw, (∀ path, type.encode variant path = .ok raw) ∧
        ∀ path, coerce raw (.enum type) path = .ok (.enum variant) := by
  refine ⟨?_, coerce_bigInt_int_eq_error_iff, ?_, ?_⟩
  · intro value w typ path h
    exact SqlValue.keeps_of_ofType? (coerce_eq_ok_scalar_iff.mp h)
  · intro value typ path variant h
    exact mem_of_coerce_eq_enum h
  · intro type variant h
    obtain ⟨raw, -, hencode, hdecode⟩ := EnumType.decode_encode h
    refine ⟨raw, hencode, ?_⟩
    intro path
    rw [coerce, hdecode]
    rfl

/-- Seven stays seven in half the width. -/
theorem coercion_keeps_values_seven :
    coerce (.bigInt 7) .int "Order.amount" = .ok (.scalar (.int 7)) ∧
      ScalarType.int.Keeps (.bigInt 7) (.int 7) :=
  have h : coerce (.bigInt 7) .int "Order.amount" = .ok (.scalar (.int 7)) := rfl
  ⟨h, coercion_keeps_values.1 _ _ _ _ h⟩

end RelMap
