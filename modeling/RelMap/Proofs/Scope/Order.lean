import Mathlib.Data.List.Basic
import RelMap.Scope.Path

/-!
# The order of paths

An ambiguous look-up reports the paths of its matches, shorter ones first and those of one depth in
the order of their text, each path once.
-/

namespace RelMap.Path

variable {a b c : String} {paths : List String}

/-- The path is shorter than the other one, or as long and its text comes first. -/
def Before (a b : String) : Prop := depth a < depth b ∨ depth a = depth b ∧ a < b

instance : DecidableRel Before := fun a b =>
  inferInstanceAs (Decidable (depth a < depth b ∨ depth a = depth b ∧ a < b))

theorem Before.trans (hab : Before a b) (hbc : Before b c) : Before a c := by
  rcases hab with hab | ⟨hab, hlt⟩ <;> rcases hbc with hbc | ⟨hbc, hlt'⟩
  · exact .inl (Nat.lt_trans hab hbc)
  · exact .inl (hbc ▸ hab)
  · exact .inl (hab ▸ hbc)
  · exact .inr ⟨hab.trans hbc, String.lt_trans hlt hlt'⟩

theorem Before.ne (h : Before a b) : a ≠ b := by
  rintro rfl
  rcases h with h | ⟨-, h⟩
  · exact Nat.lt_irrefl _ h
  · exact String.lt_irrefl _ h

theorem eq_or_lt_or_lt (a b : String) : a = b ∨ a < b ∨ b < a := by
  by_cases hab : a < b
  · exact .inr (.inl hab)
  by_cases hba : b < a
  · exact .inr (.inr hba)
  · exact .inl (String.le_antisymm (String.not_lt.mp hba) (String.not_lt.mp hab))

theorem precedes_iff : precedes a b = true ↔ a = b ∨ Before a b := by
  have hle : ¬ b < a ↔ a = b ∨ a < b := by
    constructor
    · intro h
      exact (eq_or_lt_or_lt a b).imp_right fun hlt => hlt.resolve_right h
    · rintro (rfl | hlt) h
      · exact String.lt_irrefl _ h
      · exact String.lt_irrefl _ (String.lt_trans hlt h)
  unfold precedes Before
  rw [Bool.or_eq_true, Bool.and_eq_true, decide_eq_true_iff, beq_iff_eq, Bool.not_eq_true',
    decide_eq_false_iff_not, hle]
  constructor
  · rintro (h | ⟨h, rfl | hlt⟩)
    · exact .inr (.inl h)
    · exact .inl rfl
    · exact .inr (.inr ⟨h, hlt⟩)
  · rintro (rfl | h | ⟨h, hlt⟩)
    · exact .inr ⟨rfl, .inl rfl⟩
    · exact .inl h
    · exact .inr ⟨h, .inr hlt⟩

theorem pairwise_mergeSort (paths : List String) :
    (paths.mergeSort precedes).Pairwise fun a b => a = b ∨ Before a b := by
  have htrans : ∀ a b c, precedes a b = true → precedes b c = true → precedes a c = true := by
    intro a b c
    rw [precedes_iff, precedes_iff, precedes_iff]
    rintro (rfl | hab) (rfl | hbc)
    · exact .inl rfl
    · exact .inr hbc
    · exact .inr hab
    · exact .inr (hab.trans hbc)
  have htotal : ∀ a b, (precedes a b || precedes b a) = true := by
    intro a b
    rw [Bool.or_eq_true, precedes_iff, precedes_iff]
    rcases Nat.lt_trichotomy (depth a) (depth b) with h | h | h
    · exact .inl (.inr (.inl h))
    · rcases eq_or_lt_or_lt a b with rfl | hlt | hlt
      · exact .inl (.inl rfl)
      · exact .inl (.inr (.inr ⟨h, hlt⟩))
      · exact .inr (.inr (.inr ⟨h.symm, hlt⟩))
    · exact .inr (.inr (.inl h))
  exact (List.pairwise_mergeSort htrans htotal paths).imp precedes_iff.mp

/-! ## Repetitions -/

theorem eraseReps_loop (a : String) (rest done : List String) :
    List.eraseRepsBy.loop (· == ·) a rest done =
      done.reverse ++ List.eraseRepsBy.loop (· == ·) a rest [] := by
  induction rest generalizing a done with
  | nil => simp [List.eraseRepsBy.loop]
  | cons b rest ih =>
    rw [List.eraseRepsBy.loop, List.eraseRepsBy.loop]
    split
    · exact ih a done
    · rw [ih b (a :: done), ih b [a], List.reverse_cons, List.append_assoc]
      rfl

theorem eraseReps_cons_self (a : String) (rest : List String) :
    (a :: a :: rest).eraseReps = (a :: rest).eraseReps := by
  simp [List.eraseReps, List.eraseRepsBy, List.eraseRepsBy.loop]

theorem eraseReps_cons_of_ne (h : a ≠ b) (rest : List String) :
    (a :: b :: rest).eraseReps = a :: (b :: rest).eraseReps := by
  rw [List.eraseReps, List.eraseRepsBy, List.eraseRepsBy.loop, beq_false_of_ne h]
  exact eraseReps_loop b rest [a]

theorem mem_eraseReps (paths : List String) : c ∈ paths.eraseReps ↔ c ∈ paths := by
  induction paths with
  | nil => rfl
  | cons a rest ih =>
    cases rest with
    | nil => rfl
    | cons b rest =>
      by_cases h : a = b
      · subst h
        rw [eraseReps_cons_self, ih]
        simp
      · rw [eraseReps_cons_of_ne h, List.mem_cons, ih, ← List.mem_cons]

theorem pairwise_eraseReps (h : paths.Pairwise fun a b => a = b ∨ Before a b) :
    paths.eraseReps.Pairwise Before := by
  induction paths with
  | nil => exact .nil
  | cons a rest ih =>
    obtain ⟨hfirst, hrest⟩ := List.pairwise_cons.mp h
    cases rest with
    | nil => exact List.pairwise_singleton _ a
    | cons b rest =>
      by_cases hab : a = b
      · subst hab
        rw [eraseReps_cons_self]
        exact ih hrest
      · rw [eraseReps_cons_of_ne hab, List.pairwise_cons]
        refine ⟨fun c hc => ?_, ih hrest⟩
        have hb : Before a b := (hfirst b (.head _)).resolve_left hab
        rcases List.mem_cons.mp ((mem_eraseReps _).mp hc) with rfl | hc
        · exact hb
        · rcases (List.pairwise_cons.mp hrest).1 c hc with rfl | hbc
          · exact hb
          · exact hb.trans hbc

/-! ## Sorted paths -/

theorem pairwise_sorted (paths : List String) : (sorted paths).Pairwise Before :=
  pairwise_eraseReps (pairwise_mergeSort paths)

theorem mem_sorted : c ∈ sorted paths ↔ c ∈ paths := by
  rw [sorted, mem_eraseReps]
  exact (List.mergeSort_perm paths precedes).mem_iff

theorem length_sorted (h : paths.Nodup) : (sorted paths).length = paths.length := by
  have hnodup : (sorted paths).Nodup := (pairwise_sorted paths).imp Before.ne
  exact ((List.perm_ext_iff_of_nodup hnodup h).mpr fun _ => mem_sorted).length_eq

/-- The report is the only list in order that has just these paths. -/
theorem sorted_eq_of_mem_iff {reported : List String} (hordered : reported.Pairwise Before)
    (hmem : ∀ p, p ∈ reported ↔ p ∈ paths) : sorted paths = reported := by
  have hperm : (sorted paths).Perm reported :=
    (List.perm_ext_iff_of_nodup ((pairwise_sorted paths).imp Before.ne)
      (hordered.imp Before.ne)).mpr fun p => mem_sorted.trans (hmem p).symm
  exact hperm.eq_of_pairwise (fun _ _ _ _ hab hba => absurd rfl (hab.trans hba).ne)
    (pairwise_sorted paths) hordered

end RelMap.Path
