import RelMap.Proofs.Row.Coercion
import RelMap.Proofs.Row.Mapping
import RelMap.Proofs.Row.Slots

/-!
# Parts of keys

How the slots of a key are read: a NULL stays, anything else is read in the type of its column. A
decoded field of a key is encoded to the parts that its slots are read as.
-/

namespace RelMap

/-! ## Paths in errors -/

/-- The path is used in errors only. -/
theorem EnumType.decode_ok {type : EnumType} {value : SqlValue} {path variant : String}
    (h : type.decode value path = .ok variant) (path' : String) :
    type.decode value path' = .ok variant := by
  unfold decode at h ⊢
  dsimp only at h ⊢
  split at h
  case h_5 => cases h
  all_goals
    split at h
    · exact h
    · cases h

theorem coerce_ok {value : SqlValue} {typ : ScalarType} {path : String} {v : FieldValue}
    (h : coerce value typ path = .ok v) (path' : String) : coerce value typ path' = .ok v := by
  unfold coerce at h ⊢
  split at h
  · next type =>
    cases hdecode : type.decode value path with
    | error e =>
      rw [hdecode] at h
      cases h
    | ok variant =>
      rw [hdecode] at h
      rw [EnumType.decode_ok hdecode]
      exact h
  · split at h
    · exact h
    · cases h

namespace Decode

theorem keyValue_ok {slot part : SqlValue} {typ : ScalarType} {path : String}
    (h : keyValue slot typ path = .ok part) (path' : String) :
    keyValue slot typ path' = .ok part := by
  unfold keyValue at h ⊢
  split at h
  · cases h
  · next hnull =>
    obtain ⟨v, hv, h⟩ := Except.bind_eq_ok h
    rw [if_neg hnull, coerce_ok hv path']
    cases v with
    | scalar | enum => exact h
    | _ => cases h

end Decode

/-! ## Parts -/

theorem SqlValue.ne_null_of_ofType? {v w : SqlValue} {typ : ScalarType}
    (h : v.ofType? typ = some w) : w ≠ .null := by
  rintro rfl
  cases typ <;> cases v <;> simp [ofType?] at h

theorem coerce_scalar_ne_null {value scalar : SqlValue} {typ : ScalarType} {path : String}
    (h : coerce value typ path = .ok (.scalar scalar)) : scalar ≠ .null := by
  unfold coerce at h
  split at h
  · next type =>
    cases hdecode : type.decode value path with
    | error e =>
      rw [hdecode] at h
      cases h
    | ok variant =>
      rw [hdecode] at h
      cases h
  · split at h
    · next hread =>
      cases h
      exact SqlValue.ne_null_of_ofType? hread
    · cases h

namespace Decode

theorem keyValue_ne_null {slot part : SqlValue} {typ : ScalarType} {path : String}
    (h : keyValue slot typ path = .ok part) : slot ≠ .null ∧ part ≠ .null := by
  unfold keyValue at h
  split at h
  · cases h
  · next hnull =>
    refine ⟨fun heq => hnull (slot.isNull_iff.mpr heq), ?_⟩
    obtain ⟨v, hv, h⟩ := Except.bind_eq_ok h
    cases v with
    | scalar value =>
      cases h
      exact coerce_scalar_ne_null hv
    | enum variant =>
      cases h
      nofun
    | _ => cases h

theorem keyValues_single_ok {slot : SqlValue} {typ : ScalarType} {key : List SqlValue} {path : String}
    (h : keyValues path [slot] [typ] = .ok key) :
    ∃ part, key = [part] ∧ keyValue slot typ path = .ok part := by
  obtain ⟨part, hpart, h⟩ := Except.bind_eq_ok h
  cases h
  exact ⟨part, rfl, hpart⟩

inductive ReadsAs : SqlValue → ScalarType → SqlValue → Prop
  | null {typ : ScalarType} : ReadsAs .null typ .null
  | value {slot part : SqlValue} {typ : ScalarType} : slot ≠ .null → part ≠ .null →
    (∀ path, keyValue slot typ path = .ok part) → ReadsAs slot typ part

theorem readsAs_of_keyValue {slot part : SqlValue} {typ : ScalarType} {path : String}
    (h : keyValue slot typ path = .ok part) : ReadsAs slot typ part := by
  obtain ⟨hslot, hpart⟩ := keyValue_ne_null h
  exact .value hslot hpart (keyValue_ok h)

inductive AllReadAs : List SqlValue → List ScalarType → List SqlValue → Prop
  | nil : AllReadAs [] [] []
  | cons {slot part : SqlValue} {typ : ScalarType} {slots parts : List SqlValue}
    {types : List ScalarType} : ReadsAs slot typ part → AllReadAs slots types parts →
    AllReadAs (slot :: slots) (typ :: types) (part :: parts)

namespace AllReadAs

variable {slots slots' parts parts' : List SqlValue} {types types' : List ScalarType}

theorem append (h : AllReadAs slots types parts) (h' : AllReadAs slots' types' parts') :
    AllReadAs (slots ++ slots') (types ++ types') (parts ++ parts') := by
  induction h with
  | nil => exact h'
  | cons hpart _ ih => exact .cons hpart ih

theorem replicate_null (hnull : slots.all (·.isNull) = true) (hlength : slots.length = types.length) :
    AllReadAs slots types (List.replicate types.length .null) := by
  induction slots generalizing types with
  | nil =>
    cases types with
    | nil => exact .nil
    | cons typ types => cases hlength
  | cons slot slots ih =>
    cases types with
    | nil => cases hlength
    | cons typ types =>
      rw [List.all_cons, Bool.and_eq_true] at hnull
      have hslot : slot = .null := slot.isNull_iff.mp hnull.1
      subst hslot
      exact .cons .null (ih hnull.2 (Nat.succ.inj hlength))

theorem length_eq (h : AllReadAs slots types parts) :
    slots.length = types.length ∧ parts.length = types.length := by
  induction h with
  | nil => exact ⟨rfl, rfl⟩
  | cons _ _ ih => exact ⟨congrArg (· + 1) ih.1, congrArg (· + 1) ih.2⟩

theorem keyValues_eq (h : AllReadAs slots types parts) (hnull : .null ∉ parts) (path : String) :
    keyValues path slots types = .ok parts := by
  induction h with
  | nil => rfl
  | cons hpart _ ih =>
    rw [List.mem_cons, not_or] at hnull
    cases hpart with
    | null => exact absurd rfl hnull.1
    | value _ _ hread =>
      rw [keyValues, hread path, ih hnull.2]
      rfl

/-- The first NULL of a key is refused. -/
theorem keyValues_eq_error (h : AllReadAs slots types parts) (hnull : .null ∈ parts)
    (path : String) : keyValues path slots types = .error (.nullValue path) := by
  induction h with
  | nil => cases hnull
  | cons hpart _ ih =>
    cases hpart with
    | null => rfl
    | value _ hne hread =>
      have hrest := (List.mem_cons.mp hnull).resolve_left hne.symm
      rw [keyValues, hread path, ih hrest]
      rfl

theorem reference_eq_error (h : AllReadAs slots types parts) (hnull : .null ∈ parts)
    (target : EntityName) (path : String) (state : DecodeState) :
    (reference slots target types false path).run.run state = (.error (.nullValue path), state) := by
  unfold reference
  split
  · rfl
  · rw [h.keyValues_eq_error hnull]
    rfl

theorem reference_succeeds (h : AllReadAs slots types parts) (hnull : .null ∉ parts)
    (hne : types ≠ []) (target : EntityName) (nullable : Bool) (path : String) :
    ExceptT.Succeeds (reference slots target types nullable path)
      (fun r => r.entity = target ∧ r.key = some parts) := by
  apply Decode.reference_succeeds target nullable
  · cases h with
    | nil => exact absurd rfl hne
    | cons hpart _ =>
      cases hpart with
      | null => exact absurd (.head _) hnull
      | value hslot _ _ =>
        rw [List.all_cons, Bool.and_eq_false_iff]
        left
        rw [Bool.eq_false_iff]
        exact fun hisNull => hslot ((SqlValue.isNull_iff _).mp hisNull)
  · exact h.keyValues_eq hnull path

end AllReadAs

/-- A reference that was decoded has the key read from its slots, or none where NULLs are allowed. -/
theorem reference_ok {slots : List SqlValue} {types : List ScalarType} {target : EntityName}
    {nullable : Bool} {path : String} {r : Reference} {state state' : DecodeState}
    (h : (reference slots target types nullable path).run.run state = (.ok r, state')) :
    r.entity = target ∧
      (slots.all (·.isNull) = true ∧ nullable = true ∧ r.key = none ∨
        slots.all (·.isNull) = false ∧
          ∃ key, keyValues path slots types = .ok key ∧ r.key = some key) := by
  unfold reference at h
  split at h
  · next hnull =>
    split at h
    · next hnullable =>
      cases h
      exact ⟨rfl, .inl ⟨hnull, hnullable, rfl⟩⟩
    · cases h
  · next hnull =>
    obtain ⟨key, between, hkey, h⟩ := ExceptT.bind_eq_ok h
    obtain ⟨hentity, hcreated⟩ := (newReference_succeeds target key).of_ok h
    exact ⟨hentity, .inr ⟨Bool.eq_false_iff.mpr hnull, key, congrArg Prod.fst hkey, hcreated⟩⟩

end Decode

end RelMap
