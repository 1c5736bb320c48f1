import RelMap.Proofs.Sql.Truth
import RelMap.Proofs.Statement.Operations
import RelMap.Statement.Condition
import RelMap.Statement.Registration

/-!
# Membership in a list of operands

A condition on a list of operands is built in one of two ways: as a list, if there is one column to
compare, or from comparisons of all columns with each operand. Both say of an operand what equality
with it says, except that NULL is a member of no list, whereas equality with NULL is a test for it.
-/

namespace RelMap

namespace Condition

open Predicate

variable {v : Evaluation} {columns : List Operand} {column : Operand} {c : Comparison}

/-! ## Single operands -/

/-- The operand is NULL, and there is only one column to compare with it. -/
def LoneNull (columns : List Operand) (values : List SqlValue) : Prop :=
  columns.length = 1 ∧ values = [.null]

def memberTruth (v : Evaluation) (columns : List Operand) (values : List SqlValue) : Truth :=
  match columns with
  | [column] => v.isIn column (values.map literal)
  | columns => (allEqual columns (values.map literal)).truth v

theorem memberTruth_single (column : Operand) (value : SqlValue) :
    memberTruth v [column] [value] = v.compares .eq column (literal value) :=
  Truth.or_fails _

theorem memberTruth_many (h : columns.length ≠ 1) (values : List SqlValue) :
    memberTruth v columns values = (allEqual columns (values.map literal)).truth v := by
  unfold memberTruth
  split
  · exact absurd rfl h
  · rfl

theorem compares_null (op : CompareOp) (column : Operand) :
    v.compares op column .null = .unknown := by
  unfold Evaluation.compares
  rw [show (Operand.null.value v).isNull = Bool.true from rfl, Bool.or_true]
  rfl

theorem written_literal (op : CompareOp) (column : Operand) {value : SqlValue}
    (h : value ≠ .null) :
    v.written op column (literal value) = v.compares op column (literal value) := by
  have hliteral : literal value = .param (.anonymous value) := by
    unfold literal
    split
    · exact absurd rfl h
    · rfl
  rw [hliteral]
  cases op <;> rfl

theorem compares_literal_eq_holds (column : Operand) (value : SqlValue) :
    v.compares .eq column (literal value) = .holds ↔
      value ≠ .null ∧ v.written .eq column (literal value) = .holds := by
  by_cases h : value = .null
  · subst h
    rw [literal, compares_null]
    exact iff_of_false nofun fun h => h.1 rfl
  · rw [written_literal .eq column h]
    exact (and_iff_right h).symm

theorem compares_literal_eq_fails (column : Operand) (value : SqlValue) :
    v.compares .eq column (literal value) = .fails ↔
      value ≠ .null ∧ v.written .neq column (literal value) = .holds := by
  by_cases h : value = .null
  · subst h
    rw [literal, compares_null]
    exact iff_of_false nofun fun h => h.1 rfl
  · rw [written_literal .neq column h, v.compares_neq, Truth.not_eq_holds]
    exact (and_iff_right h).symm

/-! ## Predicates -/

theorem predicate_eq {operator : Operator} (horders : operator.ordersValues = Bool.false)
    (hfits : ∀ values ∈ c.operands, values.length = c.columns.length) :
    predicate c operator = match c.columns with
      | [column] => singleColumn column operator (c.operands.map (·.map literal)).flatten
      | columns => manyColumns columns operator (c.operands.map (·.map literal)) := by
  have hcheck : checkOperands operator c.columns.length c.operands = .ok () := by
    have hfind : c.operands.find? (·.length != c.columns.length) = none := by
      rw [List.find?_eq_none]
      intro values hvalues
      rw [hfits values hvalues, bne_self_eq_false]
      exact Bool.false_ne_true
    rw [checkOperands, hfind, horders]
    rfl
  rw [predicate, hcheck]
  rfl

theorem predicate_many {operator : Operator} (horders : operator.ordersValues = Bool.false)
    (hfits : ∀ values ∈ c.operands, values.length = c.columns.length)
    (h : c.columns.length ≠ 1) :
    predicate c operator = manyColumns c.columns operator (c.operands.map (·.map literal)) := by
  rw [predicate_eq horders hfits]
  split
  · next hone =>
    rw [hone] at h
    exact absurd rfl h
  · rfl

theorem fits_of_checkOperands {operator : Operator} {columns : Nat}
    {operands : List (List SqlValue)} (h : checkOperands operator columns operands = .ok ()) :
    ∀ values ∈ operands, values.length = columns := by
  unfold checkOperands at h
  split at h
  · cases h
  · next hfind =>
    intro values hvalues
    have hsame := List.find?_eq_none.mp hfind values hvalues
    simpa using hsame

theorem fits_of_predicate {operator : Operator} {p : Predicate} (h : predicate c operator = .ok p) :
    ∀ values ∈ c.operands, values.length = c.columns.length := by
  obtain ⟨_, hcheck, -⟩ := Except.bind_eq_ok h
  exact fits_of_checkOperands hcheck

/-- Membership holds of one of the operands, and its opposite says the opposite. -/
theorem exists_membership (hfits : ∀ values ∈ c.operands, values.length = c.columns.length) :
    ∃ isIn isNotIn, predicate c .in = .ok isIn ∧ predicate c .notIn = .ok isNotIn ∧
      ∀ v, isIn.truth v = .any (c.operands.map (memberTruth v c.columns)) ∧
        isNotIn.truth v = (isIn.truth v).not := by
  obtain ⟨columns, operands⟩ := c
  by_cases hone : columns.length = 1
  · obtain ⟨column, rfl⟩ := List.length_eq_one_iff.mp hone
    refine ⟨_, _, predicate_eq rfl hfits, predicate_eq rfl hfits, fun v => ?_⟩
    rw [truth_inList, truth_notInList, Evaluation.isIn_flatten, List.map_map]
    exact ⟨rfl, rfl⟩
  · refine ⟨_, _, predicate_many rfl hfits hone, predicate_many rfl hfits hone, fun v => ?_⟩
    rw [truth_negate, truth_disjAll, List.map_map, List.map_map]
    refine ⟨congrArg Truth.any (List.map_congr_left fun values _ => ?_), rfl⟩
    exact (memberTruth_many hone values).symm

/-- A column is no literal, so nothing is decided before the statement is run. -/
theorem equal_column (qualifier name : String) (value : SqlValue) :
    equal (.column qualifier name) (literal value) =
      compare (.column qualifier name) .eq (literal value) := by
  cases value <;> rfl

/-- Membership of an operand is equality with it, and its opposite, except for a single NULL. -/
theorem exists_equality (hcolumns : ∀ x ∈ columns, ∃ qualifier name, x = .column qualifier name)
    {values : List SqlValue} (hfits : values.length = columns.length) :
    ∃ isEqual isUnequal, predicate ⟨columns, [values]⟩ .eq = .ok isEqual ∧
      predicate ⟨columns, [values]⟩ .neq = .ok isUnequal ∧
      ∀ v, (memberTruth v columns values = .holds ↔
          ¬ LoneNull columns values ∧ isEqual.truth v = .holds) ∧
        (memberTruth v columns values = .fails ↔
          ¬ LoneNull columns values ∧ isUnequal.truth v = .holds) := by
  have hoperands : ∀ vs ∈ [values], vs.length = columns.length := by
    rw [List.forall_mem_singleton]
    exact hfits
  by_cases hone : columns.length = 1
  · obtain ⟨column, rfl⟩ := List.length_eq_one_iff.mp hone
    obtain ⟨value, rfl⟩ := List.length_eq_one_iff.mp hfits
    obtain ⟨qualifier, name, rfl⟩ := hcolumns column (.head _)
    have hlone : LoneNull [.column qualifier name] [value] ↔ value = .null := by
      simp [LoneNull]
    refine ⟨_, _, predicate_eq rfl hoperands, predicate_eq rfl hoperands, fun v => ?_⟩
    rw [memberTruth_single, hlone]
    change (_ ↔ _ ∧ (equal _ (literal value)).truth v = _) ∧ _
    rw [equal_column]
    exact ⟨compares_literal_eq_holds _ _, compares_literal_eq_fails _ _⟩
  · have hlone : ¬ LoneNull columns values := fun h => hone h.1
    refine ⟨_, _, predicate_many rfl hoperands hone, predicate_many rfl hoperands hone,
      fun v => ?_⟩
    rw [memberTruth_many hone, truth_negate, List.map_singleton, List.map_singleton,
      truth_conjAll_singleton,
      Truth.not_eq_holds]
    exact ⟨(and_iff_right hlone).symm, (and_iff_right hlone).symm⟩

/-! ## Conditions -/

variable {s : Schema} {target : ConditionTarget} {operands : List FieldValue} {m : Mention}
  {state state' : CompileState}

/-- The columns of a comparison do not depend on the operands, which are encoded one by one. -/
theorem comparison_ok (h : (comparison s target operands).run state = .ok ((m, c), state')) :
    (∀ x ∈ c.columns, ∃ qualifier name, x = .column qualifier name) ∧
    ∃ encode : FieldValue → Except Error (List SqlValue),
      operands.mapM encode = .ok c.operands ∧
      ∀ others values, others.mapM encode = .ok values →
        (comparison s target others).run state = .ok ((m, ⟨c.columns, values⟩), state') := by
  have hnames {qualifier : String} {columns : List Column} :
      ∀ x ∈ columns.map fun column => Operand.column qualifier column.name,
        ∃ qualifier name, x = .column qualifier name := by
    intro x hx
    obtain ⟨column, -, rfl⟩ := List.mem_map.mp hx
    exact ⟨_, _, rfl⟩
  cases target with
  | column column =>
    obtain ⟨binding, between, hbinding, h⟩ := StateT.bind_eq_ok h
    obtain ⟨field, hfield, h⟩ := StateT.lift_bind_eq_ok h
    obtain ⟨values, hvalues, h⟩ := StateT.mapM_lift_bind_eq_ok_iff.mp h
    cases h
    refine ⟨hnames, _, hvalues, fun others values' hothers => ?_⟩
    exact (StateT.run_bind_of_ok hbinding).trans <|
      (StateT.run_bind_of_ok (StateT.run_lift_of_ok hfield _)).trans <|
        StateT.mapM_lift_bind_eq_ok_iff.mpr ⟨values', hothers, rfl⟩
  | entity t =>
    obtain ⟨e, _, he, h⟩ := StateT.bind_eq_ok h
    obtain ⟨found, _, hfound, h⟩ := StateT.bind_eq_ok h
    obtain ⟨m, _, hm, h⟩ := StateT.bind_eq_ok h
    cases hkey : e.keyField? with
    | none =>
      rw [hkey] at h
      cases h
    | some key =>
      rw [hkey] at h
      obtain ⟨values, hvalues, h⟩ := StateT.mapM_lift_bind_eq_ok_iff.mp h
      obtain ⟨columns, hcolumns, h⟩ := StateT.lift_bind_eq_ok h
      cases h
      refine ⟨hnames, _, hvalues, fun others values' hothers => ?_⟩
      refine (StateT.run_bind_of_ok he).trans <| (StateT.run_bind_of_ok hfound).trans <|
        (StateT.run_bind_of_ok hm).trans ?_
      rw [hkey]
      refine StateT.mapM_lift_bind_eq_ok_iff.mpr ⟨values', hothers, ?_⟩
      exact StateT.run_bind_of_ok (StateT.run_lift_of_ok hcolumns _)

def IsLoneNull (s : Schema) (target : ConditionTarget) (state : CompileState)
    (operand : FieldValue) : Prop :=
  ∃ m column state', (comparison s target [operand]).run state =
    .ok ((m, ⟨[column], [[.null]]⟩), state')

theorem isLoneNull_iff {x : FieldValue} {columns : List Operand} {values : List SqlValue}
    (h : (comparison s target [x]).run state = .ok ((m, ⟨columns, [values]⟩), state')) :
    IsLoneNull s target state x ↔ LoneNull columns values := by
  constructor
  · rintro ⟨_, column, _, hlone⟩
    cases h.symm.trans hlone
    exact ⟨rfl, rfl⟩
  · rintro ⟨hone, rfl⟩
    obtain ⟨column, rfl⟩ := List.length_eq_one_iff.mp hone
    exact ⟨_, _, _, h⟩

theorem objectPredicate_ok {operator : Operator} {p : Predicate}
    (h : (objectPredicate s target operator operands).run state = .ok ((m, p), state')) :
    ∃ c, (comparison s target operands).run state = .ok ((m, c), state') ∧
      predicate c operator = .ok p := by
  obtain ⟨_, -, h⟩ := Compiling.lift_bind_ok h
  obtain ⟨⟨m', c⟩, _, hcomparison, h⟩ := StateT.bind_eq_ok h
  obtain ⟨p', hp, h⟩ := Compiling.lift_bind_ok h
  cases h
  exact ⟨c, hcomparison, hp⟩

theorem objectPredicate_of_ok {operator : Operator} {p : Predicate}
    (harity : checkArity operator operands.length = .ok ())
    (hcomparison : (comparison s target operands).run state = .ok ((m, c), state'))
    (hp : predicate c operator = .ok p) :
    (objectPredicate s target operator operands).run state = .ok ((m, p), state') := by
  exact (Compiling.lift_bind_of_ok harity).trans <|
    (StateT.run_bind_of_ok hcomparison).trans <| Compiling.lift_bind_of_ok hp

theorem exists_equal_conditions {x : FieldValue} {values : List SqlValue}
    (h : (comparison s target [x]).run state = .ok ((m, ⟨columns, [values]⟩), state'))
    (hfits : values.length = columns.length) :
    ∃ isEqual isUnequal,
      (objectPredicate s target .eq [x]).run state = .ok ((m, isEqual), state') ∧
      (objectPredicate s target .neq [x]).run state = .ok ((m, isUnequal), state') ∧
      ∀ v, (memberTruth v columns values = .holds ↔
          ¬ IsLoneNull s target state x ∧ isEqual.truth v = .holds) ∧
        (memberTruth v columns values = .fails ↔
          ¬ IsLoneNull s target state x ∧ isUnequal.truth v = .holds) := by
  obtain ⟨isEqual, isUnequal, heq, hneq, htruth⟩ := exists_equality (comparison_ok h).1 hfits
  refine ⟨isEqual, isUnequal, objectPredicate_of_ok rfl h heq, objectPredicate_of_ok rfl h hneq, ?_⟩
  rw [isLoneNull_iff h]
  exact htruth

/-- The condition on a list of operands holds exactly if equality with one of them does, and its
opposite exactly if each is unequal; only NULL for a single column is equal to nothing there and
unequal to nothing either. -/
theorem in_iff_exists_eq {isIn : Predicate}
    (h : (objectPredicate s target .in operands).run state = .ok ((m, isIn), state')) :
    ∃ isNotIn, (objectPredicate s target .notIn operands).run state =
        .ok ((m, isNotIn), state') ∧
      ∃ isEqual isUnequal : FieldValue → Predicate,
        (∀ x ∈ operands,
          (objectPredicate s target .eq [x]).run state = .ok ((m, isEqual x), state') ∧
          (objectPredicate s target .neq [x]).run state = .ok ((m, isUnequal x), state')) ∧
        ∀ v : Evaluation,
          (isIn.truth v = .holds ↔
            ∃ x ∈ operands, ¬ IsLoneNull s target state x ∧ (isEqual x).truth v = .holds) ∧
          (isNotIn.truth v = .holds ↔
            ∀ x ∈ operands, ¬ IsLoneNull s target state x ∧ (isUnequal x).truth v = .holds) := by
  obtain ⟨c, hcomparison, hin⟩ := objectPredicate_ok h
  have hfits := fits_of_predicate hin
  obtain ⟨-, encode, hencode, hothers⟩ := comparison_ok hcomparison
  obtain ⟨isIn', isNotIn, hin', hnotin, htruth⟩ := exists_membership hfits
  cases hin.symm.trans hin'
  have hvalues := Except.forall₂_of_mapM_ok hencode
  have hmember : ∀ x ∈ operands, ∃ isEqual isUnequal,
      (objectPredicate s target .eq [x]).run state = .ok ((m, isEqual), state') ∧
      (objectPredicate s target .neq [x]).run state = .ok ((m, isUnequal), state') ∧
      ∀ values, encode x = .ok values → ∀ v,
        (memberTruth v c.columns values = .holds ↔
          ¬ IsLoneNull s target state x ∧ isEqual.truth v = .holds) ∧
        (memberTruth v c.columns values = .fails ↔
          ¬ IsLoneNull s target state x ∧ isUnequal.truth v = .holds) := by
    intro x hx
    obtain ⟨values, hmem, hencoded⟩ := exists_right_of_forall₂ hvalues hx
    have hsingle : [x].mapM encode = .ok [values] := by
      rw [List.mapM_cons, hencoded]
      rfl
    obtain ⟨isEqual, isUnequal, heq, hneq, htruth⟩ :=
      exists_equal_conditions (hothers _ _ hsingle) (hfits values hmem)
    refine ⟨isEqual, isUnequal, heq, hneq, fun values' hencoded' => ?_⟩
    cases hencoded.symm.trans hencoded'
    exact htruth
  choose! isEqual isUnequal heq hneq hmember using hmember
  refine ⟨isNotIn, objectPredicate_of_ok rfl hcomparison hnotin, isEqual, isUnequal,
    fun x hx => ⟨heq x hx, hneq x hx⟩, fun v => ?_⟩
  rw [(htruth v).2, (htruth v).1, Truth.not_eq_holds, Truth.any_eq_holds, Truth.any_eq_fails,
    List.mem_map, List.forall_mem_map]
  refine ⟨⟨?_, ?_⟩, ⟨fun h x hx => ?_, fun h values hmem => ?_⟩⟩
  · rintro ⟨values, hmem, h⟩
    obtain ⟨x, hx, hencoded⟩ := exists_left_of_forall₂ hvalues hmem
    exact ⟨x, hx, (hmember x hx values hencoded v).1.mp h⟩
  · rintro ⟨x, hx, h⟩
    obtain ⟨values, hmem, hencoded⟩ := exists_right_of_forall₂ hvalues hx
    exact ⟨values, hmem, (hmember x hx values hencoded v).1.mpr h⟩
  · obtain ⟨values, hmem, hencoded⟩ := exists_right_of_forall₂ hvalues hx
    exact (hmember x hx values hencoded v).2.mp (h values hmem)
  · obtain ⟨x, hx, hencoded⟩ := exists_left_of_forall₂ hvalues hmem
    exact (hmember x hx values hencoded v).2.mpr (h x hx)

end Condition

/-! ## Cities and homes -/

namespace Sample

def rowOf (values : List (String × SqlValue)) : Evaluation where
  dialect := .ansi
  column _ name := (values.lookup name).getD .null
  bindVar _ := .null
  compare op a b := if op = .neq then a != b else a == b
  compare_neq _ _ := rfl

def cityName : ConditionTarget := .column ⟨"City", "name", none, .cascade⟩

def personHome : ConditionTarget := .column ⟨"Person", "home", none, .cascade⟩

def homes : List FieldValue :=
  [.record (.given 1) ⟨"Address", [.scalar (.int 3), .scalar (.text "Main Street")]⟩, .null]

end Sample

namespace Condition

/-- A person without a home is among those who have a given home or none. -/
theorem in_iff_exists_eq_homes :
    ∃ bound, (Registration.element Sample.schema (.fromTable "Person" none false)).run {} =
        .ok bound ∧
      ∃ built, (objectPredicate Sample.schema Sample.personHome .in Sample.homes).run bound.2 =
          .ok built ∧
        built.1.2.truth (Sample.rowOf []) = .holds ∧
        ∃ x ∈ Sample.homes, ∃ isEqual,
          (objectPredicate Sample.schema Sample.personHome .eq [x]).run bound.2 =
            .ok ((built.1.1, isEqual), built.2) ∧
          isEqual.truth (Sample.rowOf []) = .holds := by
  have hbuilt : ∃ bound,
      (Registration.element Sample.schema (.fromTable "Person" none false)).run {} = .ok bound ∧
      ∃ built, (objectPredicate Sample.schema Sample.personHome .in Sample.homes).run bound.2 =
          .ok built ∧ built.1.2.truth (Sample.rowOf []) = .holds := by
    decide +kernel
  obtain ⟨bound, hbound, ⟨⟨m, isIn⟩, state'⟩, hin, hholds⟩ := hbuilt
  obtain ⟨_, _, isEqual, _, hequal, htruth⟩ := in_iff_exists_eq hin
  obtain ⟨x, hx, -, htrue⟩ := (htruth (Sample.rowOf [])).1.mp hholds
  exact ⟨bound, hbound, _, hin, hholds, x, hx, isEqual x, (hequal x hx).1, htrue⟩

/-- A city without a name equals NULL, but is not in a list with NULL. A city with a name that is
not in the list is unequal to each operand, but not known to be outside the list. -/
theorem exists_eq_not_in :
    Sample.spec.toSchema = .ok Sample.schema ∧
    ∃ bound, (Registration.element Sample.schema (.fromTable "City" none false)).run {} =
        .ok bound ∧
      (∃ isIn, (objectPredicate Sample.schema Sample.cityName .in [.null]).run bound.2 = .ok isIn ∧
        ∃ isEqual, (objectPredicate Sample.schema Sample.cityName .eq [.null]).run bound.2 =
            .ok isEqual ∧
          isEqual.1.2.truth (Sample.rowOf []) = .holds ∧
          isIn.1.2.truth (Sample.rowOf []) ≠ .holds) ∧
      ∃ isNotIn, (objectPredicate Sample.schema Sample.cityName .notIn
            [.scalar (.text "Bern"), .null]).run bound.2 = .ok isNotIn ∧
        ∃ isNotBern, (objectPredicate Sample.schema Sample.cityName .neq
              [.scalar (.text "Bern")]).run bound.2 = .ok isNotBern ∧
          ∃ isNotNull, (objectPredicate Sample.schema Sample.cityName .neq [.null]).run bound.2 =
              .ok isNotNull ∧
            isNotBern.1.2.truth (Sample.rowOf [("name", .text "Oslo")]) = .holds ∧
            isNotNull.1.2.truth (Sample.rowOf [("name", .text "Oslo")]) = .holds ∧
            isNotIn.1.2.truth (Sample.rowOf [("name", .text "Oslo")]) ≠ .holds :=
  ⟨Sample.toSchema_spec, by decide +kernel⟩

end Condition

end RelMap
