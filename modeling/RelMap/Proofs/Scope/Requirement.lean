import RelMap.Proofs.Scope.DependencySearch

/-!
# Required joins

What makes a join required, and what marks and deferrals change about it. Deferring loses no
reference: each is kept, or is a dependency of the join that it is deferred to.
-/

namespace RelMap.TableUse

variable {u : TableUse}

/-! ## Chains of dependencies -/

theorem LeadsTo.mono {u' : TableUse} {a b : String}
    (hdependencies : u.dependencies ⊆ u'.dependencies) (h : u.LeadsTo a b) : u'.LeadsTo a b := by
  induction h with
  | refl => exact .refl
  | tail _ hstep ih => exact ih.tail (hdependencies hstep)

theorem isRequired_of_mem_referenced {a : String} (h : a ∈ u.referenced) :
    u.isRequired a = true :=
  isRequired_iff.mpr ⟨a, h, .refl⟩

theorem isRequired_of_leadsTo {a b : String} (h : u.LeadsTo a b) (hb : u.isRequired b = true) :
    u.isRequired a = true := by
  obtain ⟨c, hc, hchain⟩ := isRequired_iff.mp hb
  exact isRequired_iff.mpr ⟨c, hc, h.trans hchain⟩

theorem isRequired_of_dependency {a b : String} (h : (a, b) ∈ u.dependencies)
    (hb : u.isRequired b = true) : u.isRequired a = true :=
  isRequired_of_leadsTo (.single h) hb

/-! ## Marks -/

theorem mem_referenced_mark {a b : String} :
    b ∈ (u.mark a).referenced ↔ b ∈ u.referenced ∨ b = a := by
  unfold mark
  split
  · next ha =>
    constructor
    · exact .inl
    · rintro (hb | rfl)
      · exact hb
      · exact ha
  · rw [List.mem_append, List.mem_singleton]

theorem dependencies_mark {a : String} : (u.mark a).dependencies = u.dependencies := by
  unfold mark
  split <;> rfl

/-! ## Deferred references -/

theorem referenced_deferOne {a reference : String} :
    (deferOne a u reference).referenced = u.referenced.filter (· != reference) := by
  unfold deferOne addDependency
  split <;> rfl

theorem dependencies_deferOne (u : TableUse) (a reference : String) :
    u.dependencies ⊆ (deferOne a u reference).dependencies ∧
      (reference = a ∨ (reference, a) ∈ (deferOne a u reference).dependencies) := by
  unfold deferOne addDependency
  split
  · next h => exact ⟨fun _ hd => hd, .inl h⟩
  · simp

theorem mem_referenced_foldl_deferOne {a b : String} {references : List String} :
    b ∈ (references.foldl (deferOne a) u).referenced ↔ b ∈ u.referenced ∧ b ∉ references := by
  induction references generalizing u with
  | nil => simp
  | cons reference rest ih =>
    rw [List.foldl_cons, ih, referenced_deferOne, List.mem_filter, List.mem_cons]
    simp only [bne_iff_ne]
    tauto

theorem dependencies_foldl_deferOne {a : String} {references : List String} :
    u.dependencies ⊆ (references.foldl (deferOne a) u).dependencies ∧
      ∀ b ∈ references, b = a ∨ (b, a) ∈ (references.foldl (deferOne a) u).dependencies := by
  induction references generalizing u with
  | nil => exact ⟨fun _ hd => hd, fun b hb => nomatch hb⟩
  | cons reference rest ih =>
    obtain ⟨hsub, hhead⟩ := dependencies_deferOne u a reference
    obtain ⟨hsubs, hrest⟩ := ih (u := deferOne a u reference)
    rw [List.foldl_cons]
    refine ⟨fun d hd => hsubs (hsub hd), ?_⟩
    intro b hb
    rcases List.mem_cons.mp hb with rfl | hb
    · exact hhead.imp_right (fun hd => hsubs hd)
    · exact hrest b hb

theorem mem_dependencies_deferOne {a reference : String} {d : String × String}
    (hd : d ∈ (deferOne a u reference).dependencies) : d ∈ u.dependencies ∨ d = (reference, a) := by
  unfold deferOne addDependency at hd
  split at hd
  · exact .inl hd
  · exact (List.mem_append.mp hd).imp_right List.mem_singleton.mp

theorem mem_dependencies_foldl_deferOne {a : String} {references : List String}
    {d : String × String} (hd : d ∈ (references.foldl (deferOne a) u).dependencies) :
    d ∈ u.dependencies ∨ d.1 ∈ references ∧ d.2 = a := by
  induction references generalizing u with
  | nil => exact .inl hd
  | cons reference rest ih =>
    rcases ih hd with hd | ⟨hrest, ha⟩
    · rcases mem_dependencies_deferOne hd with hd | rfl
      · exact .inl hd
      · exact .inr ⟨.head _, rfl⟩
    · exact .inr ⟨.tail _ hrest, ha⟩

variable {before : List String} {a b : String}

theorem mem_referenced_deferSince :
    b ∈ (u.deferSince before a).referenced ↔ b ∈ u.referenced ∧ b ∈ before := by
  rw [deferSince, mem_referenced_foldl_deferOne, List.mem_filter]
  simp only [List.contains_eq_mem, Bool.not_eq_true', decide_eq_false_iff_not]
  tauto

theorem dependencies_deferSince : u.dependencies ⊆ (u.deferSince before a).dependencies :=
  dependencies_foldl_deferOne.1

theorem mem_dependencies_deferSince {d : String × String}
    (hd : d ∈ (u.deferSince before a).dependencies) :
    d ∈ u.dependencies ∨ (d.1 ∈ u.referenced ∧ d.1 ∉ before) ∧ d.2 = a := by
  rcases mem_dependencies_foldl_deferOne hd with hd | ⟨hnew, ha⟩
  · exact .inl hd
  · rw [List.mem_filter, List.contains_eq_mem, Bool.not_eq_true', decide_eq_false_iff_not] at hnew
    exact .inr ⟨hnew, ha⟩

/-- A reference is kept, or the join for its alias hangs on the one that it is deferred to. -/
theorem deferSince_of_mem_referenced (hb : b ∈ u.referenced) :
    b ∈ (u.deferSince before a).referenced ∨ b = a ∨
      (b, a) ∈ (u.deferSince before a).dependencies := by
  by_cases hbefore : b ∈ before
  · exact .inl (mem_referenced_deferSince.mpr ⟨hb, hbefore⟩)
  · right
    apply dependencies_foldl_deferOne.2
    simp [hb, hbefore]

end RelMap.TableUse
