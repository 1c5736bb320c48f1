import RelMap.Proofs.Bounds.Clauses
import RelMap.Proofs.Bounds.Registration
import RelMap.Proofs.Bounds.Rows
import RelMap.Statement.Compile

/-!
# Bounds of statements

Both walks over the elements of a statement, and with them its compilation, stay within the bounds
of every list that they take parts of, for whatever elements. So does the mapping of rows.
-/

namespace RelMap

variable (b : Bounds)

/-! ## Emission -/

namespace Emission

theorem emitRelation_eq_ignored (s : Schema) (format : SqlFormat) (auto : Bool) (target : Entity)
    (joined : ScopeId × Occurrence) (source : Option TableRef) :
    emitRelation (b := b) s format auto target joined source =
      emitRelation (b := .ignored) s format auto target joined source := by
  unfold emitRelation
  simp only [Schema.joinCondition_eq_ignored b]

section

variable {s : Schema} {format : SqlFormat}

mutual

theorem element_eq_ignored (separate : Bool) (e : Element) :
    element (b := b) s format separate e = element (b := .ignored) s format separate e := by
  cases e with
  | select entity mode path => exact Select.emit_eq_ignored b s format entity mode path
  | column c => exact Select.emitColumn_eq_ignored b s format c
  | join j => exact join_eq_ignored separate j
  | condition clause =>
    unfold element
    rw [condition_eq_ignored clause]
  | subquery inner correlated => exact congrArg inSubquery (elements_eq_ignored true inner)
  | _ => rfl
termination_by structural e

theorem elements_eq_ignored (afterSql : Bool) (es : List Element) :
    elements (b := b) s format afterSql es = elements (b := .ignored) s format afterSql es := by
  cases es with
  | nil => rfl
  | cons e rest =>
    unfold elements
    simp only [element_eq_ignored _ e, elements_eq_ignored _ rest]
termination_by structural es

theorem join_eq_ignored (separate : Bool) (j : JoinElement) :
    join (b := b) s format separate j = join (b := .ignored) s format separate j := by
  obtain ⟨kind, target, aliasName, path, onClause, auto⟩ := j
  unfold join
  simp only [joinTarget_eq_ignored target, joinOn_eq_ignored _ _ _ onClause]
termination_by structural j

theorem joinTarget_eq_ignored (t : JoinTarget) :
    joinTarget (b := b) s format t = joinTarget (b := .ignored) s format t := by
  cases t with
  | entity name => rfl
  | subquery entity inner correlated => exact congrArg inSubquery (elements_eq_ignored true inner)
termination_by structural t

theorem joinOn_eq_ignored (auto : Bool) (target : Entity) (joined : ScopeId × Occurrence)
    (onClause : JoinOn) :
    joinOn (b := b) s format auto target joined onClause =
      joinOn (b := .ignored) s format auto target joined onClause := by
  cases onClause with
  | relation source => exact emitRelation_eq_ignored b s format auto target joined source
  | template inner => exact congrArg (inCondition auto _) (elements_eq_ignored true inner)
  | none => rfl
termination_by structural onClause

theorem condition_eq_ignored (clause : WhereClause) :
    condition (b := b) s format clause = condition (b := .ignored) s format clause := by
  cases clause with
  | template inner => exact elements_eq_ignored true inner
  | object target operator operands =>
    unfold condition
    rw [Condition.objectPredicate_eq_ignored]
termination_by structural clause

end

end

end Emission

/-! ## Statements and rows -/

namespace Schema

theorem emit_eq_ignored (s : Schema) (dialect : Dialect) (elements : List Element) :
    s.emit (b := b) dialect elements = s.emit (b := .ignored) dialect elements := by
  unfold emit
  rw [Registration.elements_eq_ignored, Emission.elements_eq_ignored]

/-- No access is out of bounds, whatever the schema, the options and the elements with all they
hold, whatever the row, entity and mode: whatever errors an access out of bounds would end a run
with, compiling a statement and mapping a row come to what they come to if bounds are ignored. -/
theorem accesses_in_bounds (s : Schema) (b : Bounds) :
    (∀ options elements,
      s.compile (b := b) options elements = s.compile (b := .ignored) options elements) ∧
    (∀ row entity mode,
      s.mapRow (b := b) row entity mode = s.mapRow (b := .ignored) row entity mode) ∧
    ∀ row entity mode,
      s.mapRef (b := b) row entity mode = s.mapRef (b := .ignored) row entity mode := by
  refine ⟨fun options elements => ?_, s.mapRow_eq_ignored b, s.mapRef_eq_ignored b⟩
  unfold compile
  rw [emit_eq_ignored]

end Schema

end RelMap
