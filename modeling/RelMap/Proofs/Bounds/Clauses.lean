import RelMap.Proofs.Bounds.Access
import RelMap.Proofs.Statement.Membership
import RelMap.Statement.Select

/-!
# Bounds of clauses

The columns of a column reference and of a select list lie among those of the tables that they are
taken from. A condition on one column takes its operands out of a list, whose length is checked
before anything else; that every operand has one value for the column keeps it.
-/

namespace RelMap

open Compiling

variable (b : Bounds)

/-! ## Column references -/

theorem Resolver.resolveColumn_eq_ignored (s : Schema) (c : ColumnRef) :
    resolveColumn (b := b) s c = resolveColumn (b := .ignored) s c := by
  unfold resolveColumn
  refine bind_congr fun r => bind_congr fun ((owner, o), fieldPath) => bind_congr fun table => ?_
  refine ExceptT.check_bind_congr fun span hspan => bind_congr fun scope => ?_
  have hwithin : span.Within (s.columns table) :=
    Entity.fieldSpan_within (Except.mapError_eq_ok hspan)
  rw [hwithin.access, hwithin.access]

theorem Compiling.resolveColumn_eq_ignored (s : Schema) (c : ColumnRef) :
    resolveColumn (b := b) s c = resolveColumn (b := .ignored) s c :=
  congrArg onResolver (Resolver.resolveColumn_eq_ignored b s c)

/-! ## Select lists -/

namespace Select

mutual

theorem fullField_eq_ignored {naming : NamingStrategy} {host : Host} (inlinePath : String)
    {start : Nat} {f : Field} (h : start + f.width ≤ host.columns.length) :
    fullField (b := b) naming host inlinePath start f =
      fullField (b := .ignored) naming host inlinePath start f := by
  cases f with
  | inline info target fields => exact fullFields_eq_ignored _ h
  | foreignKey info target key fields =>
    unfold fullField
    refine bind_congr fun found => bind_congr fun m => ?_
    apply fullFields_eq_ignored
    rw [Field.length_columnsOf]
    omega
  | scalar | ref | converted =>
    have hwithin := Span.within_mk_add h
    unfold fullField
    rw [hwithin.access, hwithin.access]
termination_by structural f

/-- The columns of a host's fields lie among its columns. -/
theorem fullFields_eq_ignored {naming : NamingStrategy} {host : Host} (inlinePath : String)
    {start : Nat} {fields : List Field}
    (h : start + Field.widths fields ≤ host.columns.length) :
    fullFields (b := b) naming host inlinePath start fields =
      fullFields (b := .ignored) naming host inlinePath start fields := by
  cases fields with
  | nil => rfl
  | cons f rest =>
    rw [Field.widths] at h
    have hfirst : start + f.width ≤ host.columns.length := by omega
    have hrest : start + f.width + Field.widths rest ≤ host.columns.length := by omega
    unfold fullFields
    rw [fullField_eq_ignored inlinePath hfirst, fullFields_eq_ignored inlinePath hrest]
termination_by structural fields

end

theorem columns_eq_ignored (s : Schema) (e : Entity) (found : ScopeId × Occurrence)
    (mode : SelectMode) :
    columns (b := b) s e found mode = columns (b := .ignored) s e found mode := by
  unfold columns
  refine bind_congr fun m => ?_
  cases mode with
  | pk =>
    dsimp only
    rw [Schema.keyColumns_eq_ignored]
  | nested => rfl
  | full => exact fullFields_eq_ignored b "" (s.widths_le_columns e)

theorem emit_eq_ignored (s : Schema) (format : SqlFormat) (entity : EntityName)
    (mode : SelectMode) (path : Option String) :
    emit (b := b) s format entity mode path = emit (b := .ignored) s format entity mode path := by
  unfold emit list
  simp only [columns_eq_ignored b]

theorem emitColumn_eq_ignored (s : Schema) (format : SqlFormat) (c : ColumnRef) :
    emitColumn (b := b) s format c = emitColumn (b := .ignored) s format c := by
  unfold emitColumn
  rw [resolveColumn_eq_ignored]

end Select

/-! ## Conditions -/

namespace Condition

/-- Operands of the operator's number are there to be taken. -/
theorem singleColumn_eq_ignored (column : Operand) {operator : Operator} {operands : List Operand}
    (h : checkArity operator operands.length = .ok ()) :
    singleColumn (b := b) column operator operands =
      singleColumn (b := .ignored) column operator operands := by
  have hlength {arity : Nat} (harity : operator.arity = some arity) : operands.length = arity := by
    rw [checkArity, harity] at h
    exact of_not_not fun hne => by simp [hne] at h
  unfold singleColumn
  cases operator with
  | «in» | notIn | isNull | isNotNull => rfl
  | between =>
    obtain ⟨low, high, rfl⟩ := List.length_eq_two.mp (hlength rfl)
    have hhigh (breach : Option UsageError) :
        Bounds.item breach [low, high] 1 .null = .ok high :=
      Bounds.item_eq_ok Nat.one_lt_two
    have hlow (breach : Option UsageError) :
        Bounds.item breach ([low, high].eraseIdx 1) 0 .null = .ok low :=
      Bounds.item_eq_ok Nat.zero_lt_one
    simp only [compareOp?, hhigh, hlow]
  | eq | neq | lt | lte | gt | gte | like =>
    obtain ⟨operand, rfl⟩ := List.length_eq_one_iff.mp (hlength rfl)
    have hitem (breach : Option UsageError) :
        Bounds.item breach [operand] 0 .null = .ok operand :=
      Bounds.item_eq_ok Nat.zero_lt_one
    simp only [compareOp?, hitem]

/-- With one operand too few there is no upper bound to take. -/
example (e : UsageError) (column low : Operand) :
    singleColumn (b := { usage := some e }) column .between [low] = .error e := rfl

theorem length_flatten_literals {operands : List (List SqlValue)}
    (h : ∀ values ∈ operands, values.length = 1) :
    (operands.map (·.map literal)).flatten.length = operands.length := by
  induction operands with
  | nil => rfl
  | cons values rest ih =>
    rw [List.forall_mem_cons] at h
    rw [List.map_cons, List.flatten_cons, List.length_append, ih h.2, List.length_map, h.1,
      List.length_cons]
    omega

theorem predicate_eq_ignored {c : Comparison} {operator : Operator}
    (h : checkArity operator c.operands.length = .ok ()) :
    predicate (b := b) c operator = predicate (b := .ignored) c operator := by
  obtain ⟨columns, operands⟩ := c
  unfold predicate
  cases hcheck : checkOperands operator columns.length operands with
  | error e => rfl
  | ok =>
    have hfits := fits_of_checkOperands hcheck
    rcases columns with _ | ⟨column, _ | ⟨other, rest⟩⟩
    · rfl
    · rw [← length_flatten_literals hfits] at h
      exact singleColumn_eq_ignored b column h
    · rfl

theorem comparison_eq_ignored (s : Schema) (target : ConditionTarget)
    (operands : List FieldValue) :
    comparison (b := b) s target operands = comparison (b := .ignored) s target operands := by
  unfold comparison
  simp only [resolveColumn_eq_ignored b, Schema.keyColumns_eq_ignored b]

theorem objectPredicate_eq_ignored (s : Schema) (target : ConditionTarget) (operator : Operator)
    (operands : List FieldValue) :
    objectPredicate (b := b) s target operator operands =
      objectPredicate (b := .ignored) s target operator operands := by
  unfold objectPredicate
  rw [comparison_eq_ignored]
  refine StateT.bind_congr_of_ok fun _ _ _ harity => ?_
  refine StateT.bind_congr_of_ok fun _ compared _ hcomparison => ?_
  obtain ⟨m, c⟩ := compared
  have hcount : c.operands.length = operands.length := by
    obtain ⟨-, encode, hencode, -⟩ := comparison_ok hcomparison
    exact (Except.forall₂_of_mapM_ok hencode).length_eq.symm
  have harity := Except.mapError_eq_ok (StateT.lift_eq_ok harity).1
  rw [← hcount] at harity
  dsimp only
  rw [predicate_eq_ignored b harity]

end Condition

end RelMap
