import Mathlib.Data.List.Basic
import Mathlib.Logic.Relation
import RelMap.Scope.TableUse

/-!
# The search along dependencies

A join is searched in depth for a referenced alias among those that hang on it. An alias that has
been entered is passed over from then on, even while what hangs on it is still being searched. Main
statement: over dependencies of any shape, also in circles, the search comes to an end, and it is
successful exactly if a chain of dependencies leads to a referenced alias.
-/

namespace RelMap.TableUse

variable {u : TableUse} {visited visited' pending : List String} {answer : Bool} {a : String}

/-! ## Dependencies -/

/-- Each join of the chain hangs on the one before it. -/
def LeadsTo (u : TableUse) : String → String → Prop :=
  Relation.ReflTransGen fun a b => (a, b) ∈ u.dependencies

theorem LeadsTo.mem_of_closed {entered : List String}
    (hclosed : ∀ a ∈ entered, ∀ b, (a, b) ∈ u.dependencies → b ∈ entered) {a b : String}
    (h : u.LeadsTo a b) (ha : a ∈ entered) : b ∈ entered := by
  induction h with
  | refl => exact ha
  | tail _ hstep ih => exact hclosed _ ih _ hstep

theorem isReferenced_iff {a : String} : u.isReferenced a = true ↔ a ∈ u.referenced := by
  simp [isReferenced]

theorem mem_dependents {a b : String} : b ∈ u.dependents a ↔ (a, b) ∈ u.dependencies := by
  simp [dependents]

/-- The dependencies of the joins that are still to be entered. -/
def unentered (u : TableUse) (visited : List String) : List (String × String) :=
  u.dependencies.filter (·.1 ∉ visited)

theorem length_unentered_cons {a : String} {visited : List String} (ha : a ∉ visited) :
    (u.unentered (a :: visited)).length + (u.dependents a).length =
      (u.unentered visited).length := by
  have hothers : u.unentered (a :: visited) =
      (u.unentered visited).filter fun d => !(d.1 == a) := by
    rw [unentered, unentered, List.filter_filter]
    apply List.filter_congr
    intro d _
    by_cases hd : d.1 = a <;> simp [hd]
  have hown : u.dependencies.filter (·.1 == a) = (u.unentered visited).filter (·.1 == a) := by
    rw [unentered, List.filter_filter]
    apply List.filter_congr
    intro d _
    by_cases hd : d.1 = a <;> simp [hd, ha]
  rw [dependents, List.length_map, hown, hothers,
    List.length_eq_length_filter_add (l := u.unentered visited) (·.1 == a), Nat.add_comm]

/-! ## Searches -/

structure Listing (u : TableUse) where
  dependents : String → List String
  mem_dependents : ∀ {a b}, b ∈ dependents a ↔ (a, b) ∈ u.dependencies

namespace Listing

variable {l : u.Listing}

/-- The search of the pending aliases, one after the other, ends with the answer. It enters none of
the aliases visited before it, and those visited after it come last. -/
inductive Searched (l : u.Listing) : List String → List String → Bool → List String → Prop
  | nothing {visited : List String} : Searched l visited [] false visited
  | again {visited visited' pending : List String} {a : String} {answer : Bool}
    (hvisited : a ∈ visited) (hrest : Searched l visited pending answer visited') :
    Searched l visited (a :: pending) answer visited'
  | referenced {visited pending : List String} {a : String} (hvisited : a ∉ visited)
    (hreferenced : a ∈ u.referenced) : Searched l visited (a :: pending) true (a :: visited)
  | found {visited visited' pending : List String} {a : String} (hvisited : a ∉ visited)
    (hreferenced : a ∉ u.referenced)
    (hinner : Searched l (a :: visited) (l.dependents a) true visited') :
    Searched l visited (a :: pending) true visited'
  | passed {visited visited' visited'' pending : List String} {a : String} {answer : Bool}
    (hvisited : a ∉ visited) (hreferenced : a ∉ u.referenced)
    (hinner : Searched l (a :: visited) (l.dependents a) false visited')
    (hrest : Searched l visited' pending answer visited'') :
    Searched l visited (a :: pending) answer visited''

theorem Searched.visited_subset (h : l.Searched visited pending answer visited') :
    visited ⊆ visited' := by
  induction h with
  | nothing => exact fun _ hb => hb
  | again _ _ ih => exact ih
  | referenced _ _ => exact List.subset_cons_self _ _
  | found _ _ _ ih => exact (List.cons_subset.mp ih).2
  | passed _ _ _ _ ihInner ih => exact List.Subset.trans (List.cons_subset.mp ihInner).2 ih

/-! ## What is found -/

theorem Searched.exists_leadsTo (h : l.Searched visited pending answer visited')
    (hanswer : answer = true) : ∃ a ∈ pending, ∃ b ∈ u.referenced, u.LeadsTo a b := by
  induction h with
  | nothing => cases hanswer
  | again _ _ ih | passed _ _ _ _ _ ih =>
    obtain ⟨c, hc, hreach⟩ := ih hanswer
    exact ⟨c, .tail _ hc, hreach⟩
  | referenced _ hreferenced => exact ⟨_, .head _, _, hreferenced, .refl⟩
  | found _ _ _ ih =>
    obtain ⟨c, hc, b, hb, hchain⟩ := ih rfl
    exact ⟨_, .head _, b, hb, .head (l.mem_dependents.mp hc) hchain⟩

/-- A search in vain has visited all that was pending, and the aliases that it has entered itself
are unreferenced and have no dependents left to visit. Nothing is said of the aliases visited before
it: they may be the ones whose dependents are being searched. -/
theorem Searched.closed (h : l.Searched visited pending answer visited')
    (hanswer : answer = false) :
    pending ⊆ visited' ∧ ∀ a ∈ visited', a ∉ visited →
      a ∉ u.referenced ∧ l.dependents a ⊆ visited' := by
  induction h with
  | nothing => exact ⟨List.nil_subset _, fun a ha hnew => absurd ha hnew⟩
  | again hvisited hrest ih =>
    obtain ⟨hpending, hclosed⟩ := ih hanswer
    exact ⟨List.cons_subset.mpr ⟨hrest.visited_subset hvisited, hpending⟩, hclosed⟩
  | referenced _ _ | found _ _ _ _ => cases hanswer
  | @passed visited visited' visited'' pending a _ _ hreferenced hinner hrest ihInner ih =>
    obtain ⟨hdependents, hclosedInner⟩ := ihInner rfl
    obtain ⟨hpending, hclosed⟩ := ih hanswer
    have hlater := hrest.visited_subset
    have hentered : a ∈ visited' := hinner.visited_subset (.head _)
    refine ⟨List.cons_subset.mpr ⟨hlater hentered, hpending⟩, ?_⟩
    intro b hb hnew
    -- It is entered inside `a`, is `a` itself or is entered after it.
    by_cases hbInner : b ∈ visited'
    · by_cases hba : b = a
      · subst hba
        exact ⟨hreferenced, List.Subset.trans hdependents hlater⟩
      · obtain ⟨hmarked, hsub⟩ := hclosedInner b hbInner (by simp [hba, hnew])
        exact ⟨hmarked, List.Subset.trans hsub hlater⟩
    · exact hclosed b hb hbInner

theorem Searched.not_leadsTo (h : l.Searched [] [a] false visited) {b : String}
    (hchain : u.LeadsTo a b) : b ∉ u.referenced := by
  obtain ⟨hstart, hclosed⟩ := h.closed rfl
  have hb : b ∈ visited := by
    apply hchain.mem_of_closed _ (hstart (.head _))
    intro c hc d hd
    exact (hclosed c hc List.not_mem_nil).2 (l.mem_dependents.mpr hd)
  exact (hclosed b hb List.not_mem_nil).1

theorem Searched.answer_iff (h : l.Searched [] [a] answer visited) :
    answer = true ↔ ∃ b ∈ u.referenced, u.LeadsTo a b := by
  constructor
  · intro hanswer
    obtain ⟨c, hc, hreach⟩ := h.exists_leadsTo hanswer
    rw [List.mem_singleton] at hc
    exact hc ▸ hreach
  · rintro ⟨b, hb, hchain⟩
    rw [← Bool.not_eq_false]
    rintro rfl
    exact h.not_leadsTo hchain hb

/-! ## The end of the search -/

theorem length_unentered_le (h : visited ⊆ visited') :
    (u.unentered visited').length ≤ (u.unentered visited).length := by
  apply List.Sublist.length_le
  apply List.monotone_filter_right
  intro d hd
  simp only [decide_eq_true_eq] at hd ⊢
  exact fun hmem => hd (h hmem)

/-- The search of the pending aliases ends, with one answer or the other. -/
def Ends (l : u.Listing) (visited pending : List String) : Prop :=
  ∃ answer visited', l.Searched visited pending answer visited'

/-- A search ends if it ends inside the first alias, and behind it whatever has been visited by
then. -/
theorem Ends.cons (hinner : a ∉ visited → l.Ends (a :: visited) (l.dependents a))
    (hrest : ∀ visited', visited ⊆ visited' → l.Ends visited' pending) :
    l.Ends visited (a :: pending) := by
  by_cases hvisited : a ∈ visited
  · obtain ⟨answer, visited', hrest⟩ := hrest visited fun _ hb => hb
    exact ⟨answer, visited', .again hvisited hrest⟩
  by_cases hreferenced : a ∈ u.referenced
  · exact ⟨true, a :: visited, .referenced hvisited hreferenced⟩
  obtain ⟨answer, visited', hinner⟩ := hinner hvisited
  cases answer with
  | true => exact ⟨true, visited', .found hvisited hreferenced hinner⟩
  | false =>
    have hsub := (List.cons_subset.mp hinner.visited_subset).2
    obtain ⟨answer, visited'', hrest⟩ := hrest visited' hsub
    exact ⟨answer, visited'', .passed hvisited hreferenced hinner hrest⟩

/-- The outer induction is on the dependencies that may still be followed, for the search inside an
alias, the inner one on the aliases that come after it. An alias without dependents leaves as many
to follow, but there is nothing inside. -/
theorem ends_of_length_le {count : Nat} (hcount : (u.unentered visited).length ≤ count) :
    l.Ends visited pending := by
  induction count using Nat.strongRecOn generalizing visited pending with
  | _ count ihInner =>
    induction pending generalizing visited with
    | nil => exact ⟨false, visited, .nothing⟩
    | cons a pending ih =>
      refine Ends.cons ?_ fun visited' hsub => ih (Nat.le_trans (length_unentered_le hsub) hcount)
      intro hvisited
      by_cases hnone : l.dependents a = []
      · exact ⟨false, a :: visited, hnone ▸ .nothing⟩
      · have hlength := length_unentered_cons (u := u) hvisited
        have hsome : 0 < (u.dependents a).length := by
          obtain ⟨b, hb⟩ := List.exists_mem_of_ne_nil _ hnone
          exact List.length_pos_of_mem (TableUse.mem_dependents.mpr (l.mem_dependents.mp hb))
        exact ihInner _ (by omega) (Nat.le_refl _)

theorem ends (l : u.Listing) (visited pending : List String) : l.Ends visited pending :=
  ends_of_length_le (Nat.le_refl _)

/-! ## The search that runs -/

def noted (u : TableUse) : u.Listing := ⟨u.dependents, TableUse.mem_dependents⟩

theorem dependents_noted : (noted u).dependents = u.dependents := rfl

theorem reaches_cons_of_mem {steps : Nat} (ha : a ∈ visited) :
    u.reaches (steps + 1) visited (a :: pending) = u.reaches steps visited pending := by
  rw [reaches, if_pos ha]

theorem reaches_cons_of_notMem {steps : Nat} (ha : a ∉ visited) :
    u.reaches (steps + 1) visited (a :: pending) =
      (u.isReferenced a || u.reaches steps (a :: visited) (u.dependents a ++ pending)) := by
  rw [reaches, if_neg ha]

/-- A pending alias has a step of its own. If it is entered, its dependencies leave theirs to the
aliases that they lead to. -/
theorem exists_step {steps : Nat} {behind : List String}
    (hsteps : (u.unentered visited).length + (a :: pending ++ behind).length ≤ steps) :
    ∃ rest, steps = rest + 1 ∧ (u.unentered visited).length + (pending ++ behind).length ≤ rest ∧
      (a ∉ visited → (u.unentered (a :: visited)).length +
        (u.dependents a ++ (pending ++ behind)).length ≤ rest) := by
  rw [List.cons_append, List.length_cons] at hsteps
  refine ⟨steps - 1, by omega, by omega, ?_⟩
  intro hvisited
  have hlength := length_unentered_cons (u := u) hvisited
  rw [List.length_append]
  omega

/-- A search that runs with a step for each pending alias and for each dependency that may still be
followed visits the same aliases, and has enough steps left for those behind the pending ones. -/
theorem Searched.exists_left (h : (noted u).Searched visited pending answer visited')
    (steps : Nat) (behind : List String)
    (hsteps : (u.unentered visited).length + (pending ++ behind).length ≤ steps) :
    ∃ left, (u.unentered visited').length + behind.length ≤ left ∧
      u.reaches steps visited (pending ++ behind) = (answer || u.reaches left visited' behind) := by
  induction h generalizing steps behind with
  | nothing => exact ⟨steps, hsteps, rfl⟩
  | again hvisited _ ih =>
    obtain ⟨rest, rfl, hrest, -⟩ := exists_step hsteps
    obtain ⟨left, hleft, hreaches⟩ := ih rest behind hrest
    exact ⟨left, hleft, (reaches_cons_of_mem hvisited).trans hreaches⟩
  | referenced hvisited hreferenced =>
    obtain ⟨rest, rfl, -, -⟩ := exists_step hsteps
    refine ⟨_, Nat.le_refl _, ?_⟩
    rw [List.cons_append, reaches_cons_of_notMem hvisited, isReferenced_iff.mpr hreferenced,
      Bool.true_or, Bool.true_or]
  | @found _ _ pending _ hvisited _ _ ih =>
    obtain ⟨rest, rfl, -, hinside⟩ := exists_step hsteps
    -- To the search inside, the other pending aliases are what stands behind.
    obtain ⟨left, -, hreaches⟩ := ih rest (pending ++ behind) (hinside hvisited)
    rw [dependents_noted] at hreaches
    refine ⟨_, Nat.le_refl _, ?_⟩
    rw [List.cons_append, reaches_cons_of_notMem hvisited, hreaches, Bool.true_or, Bool.or_true,
      Bool.true_or]
  | @passed _ _ _ pending _ _ hvisited hreferenced _ _ ihInner ih =>
    obtain ⟨rest, rfl, -, hinside⟩ := exists_step hsteps
    obtain ⟨between, hbetween, hinner⟩ := ihInner rest (pending ++ behind) (hinside hvisited)
    obtain ⟨left, hleft, hreaches⟩ := ih between behind hbetween
    rw [dependents_noted, Bool.false_or] at hinner
    refine ⟨left, hleft, ?_⟩
    rw [List.cons_append, reaches_cons_of_notMem hvisited, hinner, hreaches,
      Bool.eq_false_iff.mpr (mt isReferenced_iff.mp hreferenced), Bool.false_or]

theorem searched_isRequired (u : TableUse) (a : String) :
    ∃ visited, (noted u).Searched [] [a] (u.isRequired a) visited := by
  obtain ⟨answer, visited, h⟩ := (noted u).ends [] [a]
  have hunentered : (u.unentered []).length ≤ u.dependencies.length := List.length_filter_le _ _
  obtain ⟨left, -, hreaches⟩ := h.exists_left _ [] (Nat.add_le_add_right hunentered 1)
  have hnothing : u.reaches left visited [] = false := by cases left <;> rfl
  rw [hnothing, Bool.or_false] at hreaches
  have hanswer : u.isRequired a = answer := hreaches
  exact ⟨visited, hanswer ▸ h⟩

end Listing

theorem isRequired_iff : u.isRequired a = true ↔ ∃ b ∈ u.referenced, u.LeadsTo a b := by
  obtain ⟨visited, h⟩ := Listing.searched_isRequired u a
  exact h.answer_iff

/-- Whatever calls have led to the use of tables, and in whatever order dependents are tried, the
search ends, and with one answer, the one that decides on the join: whether a chain of dependencies
leads from its alias to a referenced one, no dependency being needed if it is referenced itself. -/
theorem required_iff_reaches_referenced (u : TableUse) (l : u.Listing) (a : String) :
    (∀ answer, (∃ visited, l.Searched [] [a] answer visited) ↔ answer = u.isRequired a) ∧
      (u.isRequired a = true ↔ ∃ b ∈ u.referenced, u.LeadsTo a b) := by
  have heq : ∀ answer visited, l.Searched [] [a] answer visited → answer = u.isRequired a := by
    intro answer visited h
    rw [Bool.eq_iff_iff, h.answer_iff, isRequired_iff]
  refine ⟨?_, isRequired_iff⟩
  intro answer
  constructor
  · rintro ⟨visited, h⟩
    exact heq answer visited h
  · rintro rfl
    obtain ⟨answer, visited, h⟩ := l.ends [] [a]
    exact ⟨visited, heq answer visited h ▸ h⟩

/-- The joins for orders and visits hang on each other, and one for customers on that for visits. -/
def circular : TableUse where
  referenced := ["_c"]
  dependencies := [("_o", "_v"), ("_v", "_o"), ("_v", "_c")]

/-- The search meets orders again below visits before it finds the customers. -/
theorem required_iff_reaches_referenced_order :
    ∃ visited, (Listing.noted circular).Searched [] ["_o"] true visited := by
  obtain ⟨hends, -⟩ := required_iff_reaches_referenced circular (.noted circular) "_o"
  exact (hends true).mpr (by decide)

end RelMap.TableUse
