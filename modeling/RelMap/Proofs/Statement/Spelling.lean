import Mathlib.Data.List.GetD
import RelMap.Proofs.Bounds.Access
import RelMap.Proofs.Statement.Citations
import RelMap.Proofs.Statement.Membership
import RelMap.Proofs.Statement.PlannedJoins

/-!
# Qualifiers in text

Lists of columns, join conditions and object conditions spell the qualifiers of the columns that
they are about, since a comparison of a column is never decided before the statement is run.
-/

namespace RelMap

variable {format : SqlFormat} {qualifier name : String}

namespace Fragment.Spells

theorem identifier (format : SqlFormat) (name : String) :
    (format.identifier name).Spells format name := .head _

theorem column (hqualify : format.qualifyColumns = true) (qualifier name : String) :
    (format.column qualifier name).Spells format qualifier := by
  rw [SqlFormat.column, if_pos hqualify]
  exact (identifier format qualifier).append_left.append_left

theorem join {separator : String} {fragments : List Fragment} {f : Fragment} (hf : f ∈ fragments)
    (h : f.Spells format qualifier) :
    (Fragment.join separator fragments).Spells format qualifier := by
  induction hf with
  | head rest =>
    cases rest with
    | nil => exact h
    | cons g rest => exact h.append_left.append_left
  | @tail g rest hmem ih =>
    cases rest with
    | nil => cases hmem
    | cons g' rest => exact ih.append_right

end Fragment.Spells

/-! ## Columns -/

def Operand.IsOf (qualifier : String) (x : Operand) : Prop := ∃ name, x = .column qualifier name

theorem Operand.IsOf.spells {x : Operand} (h : x.IsOf qualifier)
    (hqualify : format.qualifyColumns = true) : (x.render format).Spells format qualifier := by
  obtain ⟨name, rfl⟩ := h
  exact .column hqualify qualifier name

theorem Select.spells_operandList {operands : List Operand} {x : Operand} (hx : x ∈ operands)
    (h : x.IsOf qualifier) (hqualify : format.qualifyColumns = true) :
    (operandList format operands).Spells format qualifier :=
  .join (List.mem_map_of_mem hx) (h.spells hqualify)

/-! ## Join conditions -/

namespace JoinCondition

variable {condition : JoinCondition}

theorem spells_left {e : ColumnEquality} (he : e ∈ condition) (h : e.left.IsOf qualifier)
    (hqualify : format.qualifyColumns = true) :
    (condition.render format).Spells format qualifier :=
  .join (List.mem_map_of_mem he) (h.spells hqualify).append_left.append_left

theorem spells_right {e : ColumnEquality} (he : e ∈ condition) (h : e.right.IsOf qualifier)
    (hqualify : format.qualifyColumns = true) :
    (condition.render format).Spells format qualifier :=
  .join (List.mem_map_of_mem he) (h.spells hqualify).append_right

end JoinCondition

namespace Schema

variable {s : Schema} {left right : Entity} {condition : JoinCondition}

theorem mem_relations_of_findRelation {relation : Relation}
    (h : s.findRelation left right = .ok relation) :
    relation ∈ s.relations left right.name ∨
      relation.child ≠ left.name ∧ relation ∈ s.relations right left.name := by
  rw [findRelation_eq_choose] at h
  generalize hcandidates : s.relations left right.name ++ _ = candidates at h
  rcases candidates with _ | ⟨r, _ | ⟨other, rest⟩⟩
  · cases h
  · cases h
    have hmem : relation ∈ s.relations left right.name ++
        if left.name = right.name then [] else s.relations right left.name := by
      rw [hcandidates]
      exact .head _
    rcases List.mem_append.mp hmem with hmem | hmem
    · exact .inl hmem
    · split at hmem
      · cases hmem
      · next hne =>
        have hchild := (relations_within hmem).1
        exact .inr ⟨hchild ▸ Ne.symm hne, hmem⟩
  · cases h

/-- A relation has a column of the child, which the condition equates with one of the parent. -/
theorem exists_mem_relationCondition {child parent : Entity} {target : EntityName}
    {relation : Relation} {childQualifier parentQualifier : String}
    (hrelation : relation ∈ s.relations child target)
    (h : s.relationCondition relation child parent childQualifier parentQualifier =
      .ok condition) :
    ∃ e ∈ condition, e.left.IsOf childQualifier ∧ e.right.IsOf parentQualifier := by
  obtain ⟨-, hstop, -⟩ := Field.relationsIn_bounds hrelation
  obtain ⟨-, -, hle⟩ := relations_within hrelation
  rw [relationCondition_ignored] at h
  dsimp only at h
  split at h
  · cases h
  · next hlength =>
    cases h
    have hone : (relation.columns.slice (s.columns child)).length = 1 := by
      rw [Span.slice, List.length_take, List.length_drop, Span.width]
      omega
    obtain ⟨f, hf⟩ := List.length_eq_one_iff.mp hone
    obtain ⟨k, hk⟩ := List.length_eq_one_iff.mp ((not_not.mp hlength).symm.trans hone)
    rw [hf, hk]
    exact ⟨_, .head _, ⟨_, rfl⟩, ⟨_, rfl⟩⟩

/-- The condition of a join has columns of both sides. -/
theorem joinCondition_spells {leftQualifier rightQualifier : String}
    (h : s.joinCondition left leftQualifier right rightQualifier = .ok condition)
    (hqualify : format.qualifyColumns = true) :
    (condition.render format).Spells format leftQualifier ∧
      (condition.render format).Spells format rightQualifier := by
  obtain ⟨relation, hrelation, h⟩ := Except.bind_eq_ok h
  rcases mem_relations_of_findRelation hrelation with hmem | ⟨hne, hmem⟩
  · rw [if_pos (relations_within hmem).1] at h
    obtain ⟨e, he, hleft, hright⟩ := exists_mem_relationCondition hmem h
    exact ⟨JoinCondition.spells_left he hleft hqualify,
      JoinCondition.spells_right he hright hqualify⟩
  · rw [if_neg hne] at h
    obtain ⟨e, he, hright, hleft⟩ := exists_mem_relationCondition hmem h
    exact ⟨JoinCondition.spells_right he hleft hqualify,
      JoinCondition.spells_left he hright hqualify⟩

end Schema

/-- A planned join has a column of its source in its condition. -/
theorem AutoJoin.Joins.spells_host {j : AutoJoin} {host o : Occurrence} {column : Column}
    {key : KeyColumn} (h : j.Joins host column key o) (hqualify : format.qualifyColumns = true) :
    (j.join.render format).Spells format host.qualifier := by
  unfold Join.render
  rw [h.condition]
  exact (JoinCondition.spells_left (.head _) ⟨_, rfl⟩ hqualify).append_right.append_right

/-! ## Object conditions -/

variable {p q : Predicate}

namespace Predicate

/-- All that the predicate compares are columns under the qualifier; it is not decided. -/
def About (qualifier : String) : Predicate → Prop
  | true | false => False
  | compare left _ _ => left.IsOf qualifier
  | .in operand _ | notIn operand _ | between operand _ _ | isNull operand | isNotNull operand =>
    operand.IsOf qualifier
  | and left right | or left right => left.About qualifier ∧ right.About qualifier
  | not inner => inner.About qualifier

theorem spells_binary {left right : Fragment} {op : String} (h : left.Spells format qualifier) :
    (binary left op right).Spells format qualifier :=
  h.append_left.append_left.append_left.append_left

namespace About

theorem spells (h : p.About qualifier) (hqualify : format.qualifyColumns = Bool.true) :
    (p.render format).Spells format qualifier := by
  induction p with
  | true | false => cases h
  | compare left op right =>
    have hleft : (left.render format).Spells format qualifier := Operand.IsOf.spells h hqualify
    -- comparisons with NULL are written differently
    cases op <;> cases right <;> first
      | exact hleft.append_left
      | exact spells_binary hleft
  | «in» operand items | notIn operand items | between operand low high =>
    exact spells_binary (Operand.IsOf.spells h hqualify)
  | isNull operand | isNotNull operand =>
    exact (Operand.IsOf.spells h hqualify).append_left
  | and left right ihLeft ihRight | or left right ihLeft ihRight =>
    exact (spells_binary (ihLeft h.1)).append_right.append_left
  | not inner ih => exact (ih h).append_right.append_left.append_right

theorem conj (hp : p.About qualifier) (hq : q.About qualifier) : (conj p q).About qualifier := by
  unfold Predicate.conj
  split
  · exact hp
  · exact hq
  · exact hq
  · exact hp
  · split
    · exact hp
    · exact ⟨hp, hq⟩

theorem disj (hp : p.About qualifier) (hq : q.About qualifier) : (disj p q).About qualifier := by
  unfold Predicate.disj
  split
  · exact hp
  · exact hq
  · exact hq
  · exact hp
  · split
    · exact hp
    · exact ⟨hp, hq⟩

theorem negate (hp : p.About qualifier) : p.negate.About qualifier := by
  unfold Predicate.negate
  split <;> exact hp

theorem foldl {connect : Predicate → Predicate → Predicate} {unit : Predicate}
    (hunit : ∀ p, connect unit p = p)
    (hconnect : ∀ p q, p.About qualifier → q.About qualifier → (connect p q).About qualifier)
    {predicates : List Predicate} (hne : predicates ≠ [])
    (h : ∀ p ∈ predicates, p.About qualifier) :
    (predicates.foldl connect unit).About qualifier := by
  cases predicates with
  | nil => exact absurd rfl hne
  | cons p rest =>
    rw [List.foldl_cons, hunit]
    obtain ⟨hp, hrest⟩ := List.forall_mem_cons.mp h
    clear h hne
    induction rest generalizing p with
    | nil => exact hp
    | cons q rest ih =>
      obtain ⟨hq, hrest⟩ := List.forall_mem_cons.mp hrest
      exact ih (connect p q) (hconnect p q hp hq) hrest

theorem conjAll {predicates : List Predicate} (hne : predicates ≠ [])
    (h : ∀ p ∈ predicates, p.About qualifier) : (conjAll predicates).About qualifier :=
  foldl (fun p => by cases p <;> rfl) (fun _ _ => conj) hne h

theorem disjAll {predicates : List Predicate} (hne : predicates ≠ [])
    (h : ∀ p ∈ predicates, p.About qualifier) : (disjAll predicates).About qualifier :=
  foldl (fun p => by cases p <;> rfl) (fun _ _ => disj) hne h

end About

end Predicate

namespace Condition

open Predicate

variable {columns : List Operand} {column : Operand} {operator : Operator} {values : List SqlValue}

/-- There is something to compare with; only membership in nothing is decided at once. -/
def Compares {α : Type} (operator : Operator) (operands : List α) : Prop :=
  operator = .in ∨ operator = .notIn → operands ≠ []

theorem about_equal (hcolumn : column.IsOf qualifier) (value : SqlValue) :
    (equal column (literal value)).About qualifier := by
  obtain ⟨name, rfl⟩ := hcolumn
  rw [equal_column]
  exact ⟨name, rfl⟩

theorem about_singleColumn (hcolumn : column.IsOf qualifier) (hcompares : Compares operator values)
    (h : singleColumn column operator (values.map literal) = .ok p) : p.About qualifier := by
  have hoperand : (values.map literal).getD 0 .null = literal (values.getD 0 .null) :=
    List.getD_map values .null literal
  unfold singleColumn at h
  split at h
  · next op hop =>
    cases h
    rw [hoperand]
    cases op with
    | eq => exact about_equal hcolumn _
    | _ => exact hcolumn
  · cases operator with
    | «in» =>
      cases h
      rw [inList, List.isEmpty_map, List.isEmpty_eq_false_iff.mpr (hcompares (.inl rfl))]
      exact hcolumn
    | notIn =>
      cases h
      rw [notInList, List.isEmpty_map, List.isEmpty_eq_false_iff.mpr (hcompares (.inr rfl))]
      exact hcolumn
    | _ =>
      cases h
      exact hcolumn

theorem about_allEqual (hcolumns : ∀ x ∈ columns, x.IsOf qualifier) (hne : columns ≠ [])
    (hfits : values.length = columns.length) :
    (allEqual columns (values.map literal)).About qualifier := by
  unfold allEqual
  apply About.conjAll
  · intro hnone
    have hlength := congrArg List.length hnone
    rw [List.length_zipWith, List.length_map, hfits, Nat.min_self] at hlength
    exact hne (List.eq_nil_of_length_eq_zero hlength)
  · intro p hp
    rw [← List.map_uncurry_zip_eq_zipWith] at hp
    obtain ⟨⟨x, y⟩, hxy, rfl⟩ := List.mem_map.mp hp
    obtain ⟨hx, hy⟩ := List.of_mem_zip hxy
    obtain ⟨value, -, rfl⟩ := List.mem_map.mp hy
    exact about_equal (hcolumns x hx) value

theorem about_manyColumns {operands : List (List SqlValue)}
    (hcolumns : ∀ x ∈ columns, x.IsOf qualifier) (hne : columns ≠ [])
    (hfits : ∀ values ∈ operands, values.length = columns.length)
    (hoperands : operator ≠ .isNull → operator ≠ .isNotNull → operands ≠ [])
    (h : manyColumns columns operator (operands.map (·.map literal)) = .ok p) :
    p.About qualifier := by
  unfold manyColumns at h
  dsimp only at h
  rw [List.map_map] at h
  have hequal : ∀ p ∈ operands.map (allEqual columns ∘ (·.map literal)), p.About qualifier := by
    intro p hp
    obtain ⟨values, hvalues, rfl⟩ := List.mem_map.mp hp
    exact about_allEqual hcolumns hne (hfits values hvalues)
  have hmap {test : Operand → Predicate}
      (htest : ∀ x, x.IsOf qualifier → (test x).About qualifier) :
      ∀ p ∈ columns.map test, p.About qualifier := by
    intro p hp
    obtain ⟨x, hx, rfl⟩ := List.mem_map.mp hp
    exact htest x (hcolumns x hx)
  have hsome : operator ≠ .isNull → operator ≠ .isNotNull →
      operands.map (allEqual columns ∘ (·.map literal)) ≠ [] := by
    intro hnull hnotNull hnone
    exact hoperands hnull hnotNull (List.map_eq_nil_iff.mp hnone)
  split at h
  · cases h
    exact .conjAll (hsome nofun nofun) hequal
  · cases h
    exact (About.conjAll (hsome nofun nofun) hequal).negate
  · cases h
    exact .disjAll (hsome nofun nofun) hequal
  · cases h
    exact (About.disjAll (hsome nofun nofun) hequal).negate
  · cases h
    exact .conjAll (mt List.map_eq_nil_iff.mp hne) (hmap fun _ hx => hx)
  · cases h
    exact .disjAll (mt List.map_eq_nil_iff.mp hne) (hmap fun _ hx => hx)
  · cases h

theorem operands_ne_nil_of_checkArity {α : Type} {operands : List α}
    (harity : checkArity operator operands.length = .ok ()) (hcompares : Compares operator operands)
    (hnull : operator ≠ .isNull) (hnotNull : operator ≠ .isNotNull) : operands ≠ [] := by
  rintro rfl
  cases operator with
  | «in» => exact hcompares (.inl rfl) rfl
  | notIn => exact hcompares (.inr rfl) rfl
  | isNull => exact hnull rfl
  | isNotNull => exact hnotNull rfl
  | _ => cases harity

theorem about_predicate {c : Comparison} (hcolumns : ∀ x ∈ c.columns, x.IsOf qualifier)
    (hne : c.columns ≠ []) (harity : checkArity operator c.operands.length = .ok ())
    (hcompares : Compares operator c.operands) (h : predicate c operator = .ok p) :
    p.About qualifier := by
  have hfits := fits_of_predicate h
  obtain ⟨_, -, h⟩ := Except.bind_eq_ok h
  split at h
  · next column hcolumn =>
    rw [hcolumn] at hcolumns hfits
    dsimp only at h
    rw [← List.map_flatten] at h
    refine about_singleColumn (hcolumns column (.head _)) ?_ h
    intro hmembership hnone
    obtain ⟨values, hvalues⟩ := List.exists_mem_of_ne_nil _ (hcompares hmembership)
    have hnil := List.flatten_eq_nil_iff.mp hnone values hvalues
    have hlength := hfits values hvalues
    rw [hnil] at hlength
    cases hlength
  · exact about_manyColumns hcolumns hne hfits
      (operands_ne_nil_of_checkArity harity hcompares) h

end Condition

end RelMap
