import RelMap.Proofs.Scope.Marks
import RelMap.Proofs.Scope.Standing

/-!
# Look-ups that are repeated

Between two equal look-ups from the same scope more occurrences may have been bound. The second finds
what the first has found exactly if none of the later ones matches in the scope that decides or in a
nearer one. Otherwise it stops at the nearer scope, or cannot decide between the matches.
-/

namespace RelMap

section

variable {α : Type} [BEq α] [LawfulBEq α] {p : α → Bool} {items : List α} {a b : α}

theorem eq_or_mem_takeWhile (hfind : items.find? p = some b) (ha : a ∈ items) (hp : p a = true) :
    b = a ∨ b ∈ items.takeWhile (· != a) := by
  induction items with
  | nil => cases ha
  | cons first rest ih =>
    by_cases hfirst : first = a
    · subst hfirst
      rw [List.find?_cons_of_pos hp] at hfind
      exact .inl (Option.some.inj hfind).symm
    · rw [List.takeWhile_cons_of_pos (by simpa using hfirst)]
      by_cases hyes : p first = true
      · rw [List.find?_cons_of_pos hyes] at hfind
        cases hfind
        exact .inr (.head _)
      · rw [List.find?_cons_of_neg hyes] at hfind
        have hrest := (List.mem_cons.mp ha).resolve_left (Ne.symm hfirst)
        exact (ih hfind hrest).imp_right (.tail _)

end

namespace Resolver

variable {r r' r'' : Resolver} {scope : ScopeId} {entity : EntityName} {path : Option String}
  {filter : ScopeFilter} {o : Occurrence}

/-- Look-ups consult the same scopes, which have at least the occurrences from before. -/
structure BindsMore (r r' : Resolver) : Prop where
  visible : ∀ filter, r'.visibleScopes filter = r.visibleScopes filter
  kept : ∀ scope, r.occurrences scope <+: r'.occurrences scope

def boundSince (r r' : Resolver) (scope : ScopeId) : List Occurrence :=
  (r'.occurrences scope).drop (r.occurrences scope).length

/-- No match is bound later in the scope that decides a look-up or in one consulted before it. -/
def Undisturbed (r r' : Resolver) (entity : EntityName) (path : Option String)
    (filter : ScopeFilter) (scope : ScopeId) : Prop :=
  ∀ inner, inner = scope ∨ inner ∈ r.nearer filter scope →
    ∀ later ∈ r.boundSince r' inner, isAt entity path later = false

theorem BindsMore.of_steps {named : Resolver → Prop} (h : Steps named r r') (hr : r.WellNested)
    (hsame : r'.SameTables r'') (hcurrent : r''.current = r.current) : r.BindsMore r'' where
  visible := by
    have hstays := (Stays.steps h).trans (.of_sameTables hsame)
    have hlive : r''.current < r'.scopes.length := by
      rw [hcurrent, ← hsame.length]
      exact hstays.lt_length hr.live
    have hnested := (h.wellNested hr).of_same hsame.parent? hsame.length hlive
    exact hstays.visibleScopes hr hnested hcurrent
  kept scope := by
    rw [hsame.occurrences]
    exact h.occurrences_prefix hr scope

namespace BindsMore

theorem occurrences_eq (h : r.BindsMore r') (scope : ScopeId) :
    r'.occurrences scope = r.occurrences scope ++ r.boundSince r' scope :=
  (List.prefix_iff_eq_append.mp (h.kept scope)).symm

theorem matches_eq (h : r.BindsMore r') (scope : ScopeId) :
    (r'.occurrences scope).filter (isAt entity path) =
      (r.occurrences scope).filter (isAt entity path) ++
        (r.boundSince r' scope).filter (isAt entity path) := by
  rw [h.occurrences_eq, List.filter_append]

theorem nearer_eq (h : r.BindsMore r') (filter : ScopeFilter) (scope : ScopeId) :
    r'.nearer filter scope = r.nearer filter scope := by
  unfold nearer
  rw [h.visible]

/-- A scope without a match gets one only by what it binds later. -/
theorem hasMatch_eq_false_iff_later (h : r.BindsMore r') {inner : ScopeId}
    (hno : r.hasMatch entity path inner = false) : r'.hasMatch entity path inner = false ↔
      ∀ later ∈ r.boundSince r' inner, isAt entity path later = false := by
  rw [hasMatch_eq_false_iff, h.matches_eq, hasMatch_eq_false_iff.mp hno, List.nil_append,
    List.filter_eq_nil_iff]
  simp only [Bool.not_eq_true]

variable (h : r.BindsMore r') (hfound : r.findBinding entity path filter = .ok (scope, o))
include h hfound

theorem exists_nearest_again : ∃ inner, r'.nearest? entity path filter = some inner ∧
    (inner = scope ∨ inner ∈ r.nearer filter scope) := by
  obtain ⟨hscope, ho, hat⟩ := findBinding_ok hfound
  rw [← h.visible] at hscope
  have hmatch : r'.hasMatch entity path scope = true :=
    List.any_eq_true.mpr ⟨o, (h.kept scope).subset ho, hat⟩
  have hsome : (r'.nearest? entity path filter).isSome :=
    List.find?_isSome.mpr ⟨scope, hscope, hmatch⟩
  obtain ⟨inner, hnearest⟩ := Option.isSome_iff_exists.mp hsome
  refine ⟨inner, hnearest, ?_⟩
  rw [← h.nearer_eq]
  exact eq_or_mem_takeWhile hnearest hscope hmatch

/-- The second look-up finds the same exactly if it is undisturbed. -/
theorem findBinding_again_iff : r'.findBinding entity path filter = .ok (scope, o) ↔
    r.Undisturbed r' entity path filter scope := by
  obtain ⟨hnearest, hmatches⟩ := findBinding_eq_ok_iff.mp hfound
  have hno (inner : ScopeId) (hinner : inner ∈ r.nearer filter scope) :=
    h.hasMatch_eq_false_iff_later (eq_false_of_mem_takeWhile hnearest hinner)
  rw [findBinding_eq_ok_iff, h.matches_eq, hmatches, List.append_right_eq_self,
    List.filter_eq_nil_iff]
  constructor
  · rintro ⟨hnearest', hlater⟩ inner (rfl | hinner) later hmem
    · exact Bool.eq_false_iff.mpr (hlater later hmem)
    · have hinner' : inner ∈ r'.nearer filter scope := by
        rw [h.nearer_eq]
        exact hinner
      have hno' : r'.hasMatch entity path inner = false :=
        eq_false_of_mem_takeWhile hnearest' hinner'
      exact (hno inner hinner).mp hno' later hmem
  · intro hundisturbed
    refine ⟨?_, fun later hmem => Bool.eq_false_iff.mp (hundisturbed scope (.inl rfl) later hmem)⟩
    obtain ⟨inner, hnearest', rfl | hinner⟩ := h.exists_nearest_again hfound
    · exact hnearest'
    · have hnone := (hno inner hinner).mpr (hundisturbed inner (.inr hinner))
      cases (List.find?_some hnearest').symm.trans hnone

theorem findBinding_again_cases : r'.findBinding entity path filter = .ok (scope, o) ∨
    (∃ inner ∈ r.nearer filter scope, ∃ later ∈ r.boundSince r' inner,
      r'.findBinding entity path filter = .ok (inner, later)) ∨
    ∃ paths, r'.findBinding entity path filter = .error (.ambiguous entity paths) := by
  obtain ⟨hnearest, hmatches⟩ := findBinding_eq_ok_iff.mp hfound
  obtain ⟨inner, hnearest', hinner⟩ := h.exists_nearest_again hfound
  cases hagain : r'.findBinding entity path filter with
  | error e =>
    rw [findBinding_of_nearest? hnearest', answerIn] at hagain
    split at hagain <;> cases hagain
    exact .inr (.inr ⟨_, rfl⟩)
  | ok found =>
    obtain ⟨inner', later⟩ := found
    obtain ⟨hsame, honly⟩ := findBinding_eq_ok_iff.mp hagain
    cases hnearest'.symm.trans hsame
    rw [h.matches_eq] at honly
    rcases hinner with rfl | hinner
    · rw [hmatches] at honly
      rw [(List.cons.inj honly).1]
      exact .inl rfl
    · have hno : r.hasMatch entity path inner = false := eq_false_of_mem_takeWhile hnearest hinner
      rw [hasMatch_eq_false_iff.mp hno, List.nil_append] at honly
      have hlater : later ∈ (r.boundSince r' inner).filter (isAt entity path) := by
        rw [honly]
        exact .head _
      exact .inr (.inl ⟨inner, hinner, later, (List.mem_filter.mp hlater).1, rfl⟩)

/-- In the current scope a place is taken once, so a look-up there with a path is not disturbed. -/
theorem undisturbed_of_inner (hplaces : r'.PlacesDistinct) {p : String} (hpath : path = some p)
    (hinner : filter = .inner) : r.Undisturbed r' entity path filter scope := by
  subst hpath hinner
  obtain ⟨hscope, ho, hat⟩ := findBinding_ok hfound
  cases List.mem_singleton.mp hscope
  have hnearer : r.nearer .inner r.current = [] := by
    unfold nearer visibleScopes
    rw [List.takeWhile_cons_of_neg (by simp)]
  rintro inner (rfl | hinner) later hlater
  · rw [← Bool.not_eq_true]
    intro hat'
    obtain ⟨hname, hp⟩ := isAt_iff.mp hat
    obtain ⟨hname', hp'⟩ := isAt_iff.mp hat'
    have hplace : o.place = later.place :=
      Prod.ext (hname.trans hname'.symm) ((hp p rfl).symm.trans (hp' p rfl))
    have hdistinct := hplaces r.current
    rw [h.occurrences_eq, List.map_append, List.nodup_append] at hdistinct
    exact hdistinct.2.2 _ (List.mem_map_of_mem ho) _ (List.mem_map_of_mem hlater) hplace
  · rw [hnearer] at hinner
    cases hinner

end BindsMore

end Resolver

end RelMap
