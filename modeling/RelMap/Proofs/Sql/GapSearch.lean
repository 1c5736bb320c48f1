import Mathlib.Data.List.Dedup
import Mathlib.Data.List.Perm.Subperm
import RelMap.Sql.Parameters

/-!
# The search for a gap

Positions count from 1 without a gap if the first number that is none of them lies beyond the
greatest. The search for it goes up from 1 and stops at the first gap, so that it looks at one
number more than there are positions at most, and at none beyond the greatest.
-/

namespace RelMap.Parameters

variable {indices : List Nat} {remaining candidate : Nat}

/-! ## Logged tests -/

def isLoggedIndex (indices : List Nat) (candidate : Nat) : StateM (List Nat) Bool := do
  modify (· ++ [candidate])
  return decide (candidate ∈ indices)

theorem firstGap_zero :
    firstGap (isIndex indices) 0 candidate =
      if candidate ∈ indices then none else some candidate := by
  change (if decide (candidate ∈ indices) then none else some candidate) = _
  simp only [decide_eq_true_eq]

theorem firstGap_succ :
    firstGap (isIndex indices) (remaining + 1) candidate =
      if candidate ∈ indices then firstGap (isIndex indices) remaining (candidate + 1)
      else some candidate := by
  change (if decide (candidate ∈ indices) then firstGap (isIndex indices) remaining (candidate + 1)
    else some candidate) = _
  simp only [decide_eq_true_eq]

section

variable (log : List Nat)

theorem run_loggedGap_zero :
    (firstGap (isLoggedIndex indices) 0 candidate).run log =
      (if candidate ∈ indices then none else some candidate, log ++ [candidate]) := by
  change (if decide (candidate ∈ indices) then pure none else pure (some candidate) :
    StateM (List Nat) (Option Nat)).run (log ++ [candidate]) = _
  simp only [decide_eq_true_eq]
  split <;> rfl

theorem run_loggedGap_succ :
    (firstGap (isLoggedIndex indices) (remaining + 1) candidate).run log =
      if candidate ∈ indices then
        (firstGap (isLoggedIndex indices) remaining (candidate + 1)).run (log ++ [candidate])
      else (some candidate, log ++ [candidate]) := by
  change (if decide (candidate ∈ indices) then
    firstGap (isLoggedIndex indices) remaining (candidate + 1) else pure (some candidate) :
      StateM (List Nat) (Option Nat)).run (log ++ [candidate]) = _
  simp only [decide_eq_true_eq]
  split <;> rfl

theorem fst_run_loggedGap :
    ((firstGap (isLoggedIndex indices) remaining candidate).run log).1 =
      firstGap (isIndex indices) remaining candidate := by
  induction remaining generalizing candidate log with
  | zero => rw [run_loggedGap_zero, firstGap_zero]
  | succ remaining ih =>
    rw [run_loggedGap_succ, firstGap_succ]
    split
    · exact ih _
    · rfl

/-- All candidates but the last one are indices, and the search ends when none remains. -/
theorem exists_snd_loggedGap (indices : List Nat) (remaining candidate : Nat) :
    ∃ count ≤ remaining,
      ((firstGap (isLoggedIndex indices) remaining candidate).run log).2 =
        log ++ List.range' candidate (count + 1) ∧
      List.range' candidate count ⊆ indices := by
  induction remaining generalizing candidate log with
  | zero =>
    rw [run_loggedGap_zero]
    exact ⟨0, Nat.le_refl 0, rfl, nofun⟩
  | succ remaining ih =>
    rw [run_loggedGap_succ]
    split
    · next hcandidate =>
      obtain ⟨count, hcount, hlog, hindices⟩ := ih (log ++ [candidate]) (candidate + 1)
      refine ⟨count + 1, Nat.succ_le_succ hcount, ?_, ?_⟩
      · rw [hlog, List.range'_succ, List.append_assoc]
        rfl
      · rw [List.range'_succ]
        exact List.cons_subset.mpr ⟨hcandidate, hindices⟩
    · exact ⟨0, Nat.zero_le _, rfl, nofun⟩

end

theorem length_snd_loggedGap_le (indices : List Nat) (remaining candidate : Nat) :
    ((firstGap (isLoggedIndex indices) remaining candidate).run []).2.length ≤
      indices.dedup.length + 1 := by
  obtain ⟨count, -, hlog, hindices⟩ := exists_snd_loggedGap [] indices remaining candidate
  have hdistinct : (List.range' candidate count).Nodup := List.nodup_range'
  have hsubset : List.range' candidate count ⊆ indices.dedup := by
    intro i hi
    exact List.mem_dedup.mpr (hindices hi)
  have hle := (hdistinct.subperm hsubset).length_le
  rw [List.length_range'] at hle
  rw [hlog, List.nil_append, List.length_range']
  exact Nat.succ_le_succ hle

theorem mem_snd_loggedGap {i : Nat}
    (hi : i ∈ ((firstGap (isLoggedIndex indices) remaining candidate).run []).2) :
    candidate ≤ i ∧ i ≤ candidate + remaining := by
  obtain ⟨count, hcount, hlog, -⟩ := exists_snd_loggedGap [] indices remaining candidate
  rw [hlog, List.nil_append, List.mem_range'_1] at hi
  omega

theorem firstGap_eq_none_iff :
    firstGap (isIndex indices) remaining candidate = none ↔
      ∀ i, candidate ≤ i → i ≤ candidate + remaining → i ∈ indices := by
  induction remaining generalizing candidate with
  | zero =>
    have hfirst : firstGap (isIndex indices) 0 candidate = none ↔ candidate ∈ indices := by
      rw [firstGap_zero]
      split <;> simp [*]
    rw [hfirst]
    constructor
    · intro h i hle hge
      rwa [Nat.le_antisymm hge hle]
    · intro h
      exact h candidate (Nat.le_refl _) (Nat.le_refl _)
  | succ remaining ih =>
    have hfirst : firstGap (isIndex indices) (remaining + 1) candidate = none ↔
        candidate ∈ indices ∧ firstGap (isIndex indices) remaining (candidate + 1) = none := by
      rw [firstGap_succ]
      split <;> simp [*]
    rw [hfirst, ih]
    constructor
    · rintro ⟨hcandidate, h⟩ i hle hge
      rcases Nat.eq_or_lt_of_le hle with rfl | hlt
      · exact hcandidate
      · exact h i hlt (by omega)
    · intro h
      exact ⟨h candidate (Nat.le_refl _) (by omega), fun i hle hge => h i (by omega) (by omega)⟩

/-! ## Indices -/

def loggedCheck (indices : List Nat) : Except ParameterError Unit × List Nat :=
  (checkRange (isLoggedIndex indices) indices).run []

variable {lowest highest : Nat}

/-- From the extremes on, both checks do the same with what their search finds. -/
theorem checkIndices_eq (hmin : indices.min? = some lowest) (hmax : indices.max? = some highest) :
    checkIndices indices =
      if lowest ≠ 1 then .error (.positionalStart lowest)
      else match firstGap (isIndex indices) (highest - 1) 1 with
        | some missing => .error (.positionalGap missing)
        | none => .ok () := by
  unfold checkIndices checkRange
  rw [hmin, hmax]
  dsimp only
  split
  · rfl
  · change (match firstGap (isIndex indices) (highest - 1) 1 with | some missing => _ | none => _ :
      Except ParameterError Unit) = _
    cases firstGap (isIndex indices) (highest - 1) 1 <;> rfl

theorem loggedCheck_eq (hmin : indices.min? = some lowest) (hmax : indices.max? = some highest) :
    loggedCheck indices =
      if lowest ≠ 1 then (.error (.positionalStart lowest), [])
      else
        let (gap, log) := (firstGap (isLoggedIndex indices) (highest - 1) 1).run []
        match gap with
        | some missing => (.error (.positionalGap missing), log)
        | none => (.ok (), log) := by
  unfold loggedCheck checkRange
  rw [hmin, hmax]
  dsimp only
  split
  · rfl
  · rw [StateT.run_bind]
    rcases (firstGap (isLoggedIndex indices) (highest - 1) 1).run [] with ⟨_ | missing, log⟩ <;> rfl

theorem fst_loggedCheck (indices : List Nat) : (loggedCheck indices).1 = checkIndices indices := by
  cases hmin : indices.min? with
  | none =>
    unfold loggedCheck checkIndices checkRange
    rw [hmin]
    rfl
  | some lowest =>
    cases hmax : indices.max? with
    | none =>
      unfold loggedCheck checkIndices checkRange
      rw [hmin, hmax]
      rfl
    | some highest =>
      rw [loggedCheck_eq hmin hmax, checkIndices_eq hmin hmax, ← fst_run_loggedGap [],
        apply_ite Prod.fst]
      congr 1
      rcases (firstGap (isLoggedIndex indices) (highest - 1) 1).run [] with ⟨_ | missing, log⟩ <;>
        rfl

/-- What the check looks at are few numbers, and none of them is beyond the greatest index. -/
theorem snd_loggedCheck (indices : List Nat) :
    (loggedCheck indices).2.length ≤ indices.dedup.length + 1 ∧
      ∀ candidate ∈ (loggedCheck indices).2, ∃ index ∈ indices, candidate ≤ index := by
  rcases eq_or_ne indices [] with rfl | hne
  · exact ⟨Nat.zero_le _, nofun⟩
  obtain ⟨lowest, hmin⟩ := Option.isSome_iff_exists.mp (List.isSome_min?_of_ne_nil hne)
  obtain ⟨highest, hmax⟩ := Option.isSome_iff_exists.mp (List.isSome_max?_of_ne_nil hne)
  rw [loggedCheck_eq hmin hmax]
  split
  · exact ⟨Nat.zero_le _, nofun⟩
  next hstart =>
  obtain ⟨hlowest, -⟩ := List.min?_eq_some_iff.mp hmin
  obtain ⟨hhighest, hgreatest⟩ := List.max?_eq_some_iff.mp hmax
  have hpos : 1 ≤ highest := by
    rw [← not_not.mp hstart]
    exact hgreatest lowest hlowest
  have hlength := length_snd_loggedGap_le indices (highest - 1) 1
  have hmem : ∀ candidate ∈ ((firstGap (isLoggedIndex indices) (highest - 1) 1).run []).2,
      candidate ≤ highest := by
    intro candidate hcandidate
    have hle := (mem_snd_loggedGap hcandidate).2
    omega
  generalize (firstGap (isLoggedIndex indices) (highest - 1) 1).run [] = logged at hlength hmem
  obtain ⟨_ | missing, log⟩ := logged <;>
    exact ⟨hlength, fun candidate hcandidate => ⟨highest, hhighest, hmem candidate hcandidate⟩⟩

/-- Indices are accepted if they are the numbers from 1 to some number. -/
theorem checkIndices_eq_ok_iff :
    checkIndices indices = .ok () ↔ ∃ n, ∀ i, i ∈ indices ↔ 1 ≤ i ∧ i ≤ n := by
  rcases eq_or_ne indices [] with rfl | hne
  · exact iff_of_true rfl ⟨0, fun i => iff_of_false nofun (by omega)⟩
  obtain ⟨lowest, hmin⟩ := Option.isSome_iff_exists.mp (List.isSome_min?_of_ne_nil hne)
  obtain ⟨highest, hmax⟩ := Option.isSome_iff_exists.mp (List.isSome_max?_of_ne_nil hne)
  obtain ⟨hlowest, hleast⟩ := List.min?_eq_some_iff.mp hmin
  obtain ⟨hhighest, hgreatest⟩ := List.max?_eq_some_iff.mp hmax
  have hcheck : checkIndices indices = .ok () ↔
      lowest = 1 ∧ firstGap (isIndex indices) (highest - 1) 1 = none := by
    rw [checkIndices_eq hmin hmax]
    split
    · next hstart => exact iff_of_false nofun fun h => hstart h.1
    next hstart =>
    cases firstGap (isIndex indices) (highest - 1) 1 with
    | none => exact iff_of_true rfl ⟨not_not.mp hstart, rfl⟩
    | some missing => exact iff_of_false nofun fun h => nomatch h.2
  rw [hcheck, firstGap_eq_none_iff]
  constructor
  · rintro ⟨rfl, hall⟩
    refine ⟨highest, fun i => ⟨fun hi => ⟨hleast i hi, hgreatest i hi⟩, ?_⟩⟩
    rintro ⟨hle, hge⟩
    exact hall i hle (by omega)
  · rintro ⟨n, hn⟩
    obtain ⟨hle, hge⟩ := (hn lowest).mp hlowest
    have hone : lowest ≤ 1 := hleast 1 ((hn 1).mpr ⟨Nat.le_refl 1, Nat.le_trans hle hge⟩)
    refine ⟨Nat.le_antisymm hone hle, ?_⟩
    intro i hi hle'
    obtain ⟨-, hhigh⟩ := (hn highest).mp hhighest
    exact (hn i).mpr ⟨hi, by omega⟩

end RelMap.Parameters
