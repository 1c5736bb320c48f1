import RelMap.Text.Word

/-!
# Whole words

A word is searched for from left to right, and the search remembers of what lies behind it no more
than whether the last character was a word character. Main statement: it finds a word exactly if the
text is made up of something, the letters of the word in either case, and something else, with a
word boundary on both sides of the letters.
-/

namespace RelMap.Text

variable {word front back text : List Char} {before : Bool}

/-- A word boundary lies between two neighbours of which exactly one is a word character. -/
def IsBoundary (front back : List Char) : Prop :=
  front.getLast?.any isWordChar ≠ back.head?.any isWordChar

/-- The text holds the letters of the word, in either case, between two word boundaries. -/
def HoldsWord (word text : List Char) : Prop :=
  ∃ front letters back, text = front ++ letters ++ back ∧ letters.map Char.toLower = word ∧
    IsBoundary front (letters ++ back) ∧ IsBoundary (front ++ letters) back

/-! ## Letters -/

theorem isWordChar_of_run {c : Char} (run : CharRun) (hrun : run ∈ wordRuns)
    (hlow : run.first ≤ c.toNat) (hhigh : c.toNat ≤ run.last) (hstride : run.stride = 1) :
    isWordChar c = true := by
  rw [isWordChar, inRuns_iff]
  refine ⟨run, hrun, ?_⟩
  rw [CharRun.has_iff, hstride, Nat.mod_one]
  exact ⟨hlow, hhigh, rfl⟩

theorem isWordChar_of_toLower {c : Char} (h : c.toLower.isLower = true) :
    isWordChar c = true := by
  by_cases hupper : 'A'.val ≤ c.val ∧ c.val ≤ 'Z'.val
  · have hbounds : 0x41 ≤ c.toNat ∧ c.toNat ≤ 0x5A := by
      simpa [UInt32.le_iff_toNat_le, ← Char.toNat_val] using hupper
    exact isWordChar_of_run ⟨0x41, 0x5A, 1⟩ (.tail _ (.head _)) hbounds.1 hbounds.2 rfl
  · have hsame : c.toLower = c := dif_neg hupper
    have hlower : 'a'.val ≤ c.val ∧ c.val ≤ 'z'.val := by
      rw [hsame] at h
      exact ⟨of_decide_eq_true (Bool.and_eq_true_iff.mp h).1,
        of_decide_eq_true (Bool.and_eq_true_iff.mp h).2⟩
    have hbounds : 0x61 ≤ c.toNat ∧ c.toNat ≤ 0x7A := by
      simpa [UInt32.le_iff_toNat_le, ← Char.toNat_val] using hlower
    have hrun : (⟨0x61, 0x7A, 1⟩ : CharRun) ∈ wordRuns := .tail _ (.tail _ (.tail _ (.head _)))
    exact isWordChar_of_run _ hrun hbounds.1 hbounds.2 rfl

/-! ## The search -/

theorem startsWithWord_iff :
    startsWithWord word text = true ↔
      ∃ letters back, text = letters ++ back ∧ letters.map Char.toLower = word ∧
        back.head?.any isWordChar = false := by
  induction word generalizing text with
  | nil =>
    constructor
    · intro h
      exact ⟨[], text, rfl, rfl, by simpa [startsWithWord] using h⟩
    · rintro ⟨letters, back, rfl, hletters, hback⟩
      rw [List.map_eq_nil_iff.mp hletters]
      simpa [startsWithWord] using hback
  | cons w word ih =>
    cases text with
    | nil => simp [startsWithWord]
    | cons c rest =>
      rw [startsWithWord, Bool.and_eq_true, beq_iff_eq, ih]
      constructor
      · rintro ⟨hc, letters, back, rfl, rfl, hback⟩
        exact ⟨c :: letters, back, rfl, by rw [List.map_cons, hc], hback⟩
      · rintro ⟨_ | ⟨c', letters⟩, back, hsplit, hletters, hback⟩
        · cases hletters
        · cases hsplit
          obtain ⟨hc, hword⟩ := List.cons.inj hletters
          exact ⟨hc, letters, back, rfl, hword, hback⟩

/-- Whether a word character comes last, be it before the characters in front. -/
def endsInWordChar (before : Bool) (front : List Char) : Bool :=
  front.getLast?.elim before isWordChar

theorem endsInWordChar_cons (c : Char) (front : List Char) :
    endsInWordChar before (c :: front) = endsInWordChar (isWordChar c) front := by
  cases front with
  | nil => rfl
  | cons c' front =>
    rw [endsInWordChar, endsInWordChar, List.getLast?_cons_cons, List.getLast?_cons]
    rfl

theorem endsInWordChar_false (front : List Char) :
    endsInWordChar false front = front.getLast?.any isWordChar := by
  rw [endsInWordChar]
  cases front.getLast? <;> rfl

/-- The search goes on behind the characters in front, with what it remembers of them. -/
theorem hasWordFrom_iff :
    hasWordFrom word before text = true ↔
      ∃ front rest, text = front ++ rest ∧ endsInWordChar before front = false ∧
        startsWithWord word rest = true := by
  induction text generalizing before with
  | nil =>
    rw [hasWordFrom, Bool.and_eq_true, Bool.not_eq_true']
    constructor
    · rintro ⟨hbefore, hstart⟩
      exact ⟨[], [], rfl, hbefore, hstart⟩
    · rintro ⟨front, rest, hsplit, hfront, hstart⟩
      obtain ⟨rfl, rfl⟩ := List.append_eq_nil_iff.mp hsplit.symm
      exact ⟨hfront, hstart⟩
  | cons c text ih =>
    rw [hasWordFrom, Bool.or_eq_true, Bool.and_eq_true, Bool.not_eq_true', ih]
    constructor
    · rintro (⟨hbefore, hstart⟩ | ⟨front, rest, rfl, hfront, hstart⟩)
      · exact ⟨[], c :: text, rfl, hbefore, hstart⟩
      · exact ⟨c :: front, rest, rfl, by rwa [endsInWordChar_cons], hstart⟩
    · rintro ⟨_ | ⟨c', front⟩, rest, hsplit, hfront, hstart⟩
      · subst hsplit
        exact .inl ⟨hfront, hstart⟩
      · cases hsplit
        rw [endsInWordChar_cons] at hfront
        exact .inr ⟨front, rest, rfl, hfront, hstart⟩

/-! ## Boundaries around letters -/

section

variable {letters : List Char} (hne : letters ≠ []) (hletters : ∀ c ∈ letters, isWordChar c = true)

include hne hletters

theorem isBoundary_before_letters_iff :
    IsBoundary front (letters ++ back) ↔ front.getLast?.any isWordChar = false := by
  have hfirst : (letters ++ back).head?.any isWordChar = true := by
    rw [List.head?_append, List.head?_eq_some_head hne]
    exact hletters _ (List.head_mem hne)
  rw [IsBoundary, hfirst, ne_eq, Bool.not_eq_true]

theorem isBoundary_after_letters_iff :
    IsBoundary (front ++ letters) back ↔ back.head?.any isWordChar = false := by
  have hlast : (front ++ letters).getLast?.any isWordChar = true := by
    rw [List.getLast?_append, List.getLast?_eq_some_getLast hne]
    exact hletters _ (List.getLast_mem hne)
  rw [IsBoundary, hlast, ne_comm, ne_eq, Bool.not_eq_true]

end

theorem containsWord_iff {word text : String} (hne : word ≠ "")
    (hsmall : ∀ c ∈ word.toList, c.isLower = true) :
    containsWord word text = true ↔ HoldsWord word.toList text.toList := by
  have hword : ∀ letters : List Char, letters.map Char.toLower = word.toList →
      letters ≠ [] ∧ ∀ c ∈ letters, isWordChar c = true := by
    intro letters hlower
    refine ⟨?_, ?_⟩
    · rintro rfl
      exact hne (String.toList_eq_nil_iff.mp hlower.symm)
    · intro c hc
      exact isWordChar_of_toLower (hsmall _ (hlower ▸ List.mem_map_of_mem hc))
  rw [containsWord, hasWordFrom_iff]
  constructor
  · rintro ⟨front, rest, htext, hfront, hstart⟩
    obtain ⟨letters, back, rfl, hlower, hback⟩ := startsWithWord_iff.mp hstart
    obtain ⟨hletters, hchars⟩ := hword letters hlower
    rw [endsInWordChar_false] at hfront
    exact ⟨front, letters, back, by rw [htext, List.append_assoc], hlower,
      (isBoundary_before_letters_iff hletters hchars).mpr hfront,
      (isBoundary_after_letters_iff hletters hchars).mpr hback⟩
  · rintro ⟨front, letters, back, htext, hlower, hfront, hback⟩
    obtain ⟨hletters, hchars⟩ := hword letters hlower
    refine ⟨front, letters ++ back, by rw [htext, List.append_assoc], ?_, ?_⟩
    · rw [endsInWordChar_false]
      exact (isBoundary_before_letters_iff hletters hchars).mp hfront
    · exact startsWithWord_iff.mpr ⟨letters, back, rfl, hlower,
        (isBoundary_after_letters_iff hletters hchars).mp hback⟩

/-- An underscore is a word character, so the first text has no word of its own to offer. -/
example : containsWord "where" "in_where" = false ∧ containsWord "where" "(Where 1 = 1" = true := by
  decide +kernel

end RelMap.Text
