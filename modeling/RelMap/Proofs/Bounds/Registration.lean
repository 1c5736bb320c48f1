import RelMap.Proofs.Bounds.Access
import RelMap.Proofs.Steps
import RelMap.Statement.Registration

/-!
# Bounds of registration

A foreign key that implies a join lies among the columns of the table that holds it, at any depth of
composites.
-/

namespace RelMap

namespace Registration

variable (b : Bounds) (s : Schema)

/-! ## Planned joins -/

theorem planRelation_eq_ignored (source : PlannedTable) {relation : Relation} (parent : Entity)
    (h : relation.columns.Within (s.columns source.entity)) :
    planRelation (b := b) s source relation parent =
      planRelation (b := .ignored) s source relation parent := by
  unfold planRelation
  simp only [Schema.relationCondition_eq_ignored b h]

mutual

theorem planField_eq_ignored {source : PlannedTable} (inlinePath : String) {start : Nat}
    {f : Field} (h : start + f.width ≤ (s.columns source.entity).length) :
    planField (b := b) s source inlinePath start f =
      planField (b := .ignored) s source inlinePath start f := by
  cases f with
  | scalar | ref | converted => rfl
  | inline info target fields => exact planFields_eq_ignored _ h
  | foreignKey info target key fields =>
    have hplace := Span.within_mk_add h
    have hplace : (Field.keyPlace inlinePath start info target.name).columns.Within
        (s.columns source.entity) := Span.within_mk_add h
    have hinner (joined : Occurrence) (kind : JoinKind) :
        planFields (b := b) s ⟨⟨target, fields⟩, joined, some kind⟩ "" 0 fields = _ :=
      planFields_eq_ignored "" (s.widths_le_columns ⟨target, fields⟩)
    unfold planField
    simp only [KeyPlace.access_eq_ok hplace, Schema.accessRelations_eq_ok, hinner]
    refine StateT.bind_congr_of_ok fun _ relation _ hrelation => ?_
    cases (StateT.lift_eq_ok hrelation).1
    rw [planRelation_eq_ignored b s source ⟨target, fields⟩ hplace]
termination_by structural f

/-- The foreign keys among a table's fields lie among its columns. -/
theorem planFields_eq_ignored {source : PlannedTable} (inlinePath : String) {start : Nat}
    {fields : List Field} (h : start + Field.widths fields ≤ (s.columns source.entity).length) :
    planFields (b := b) s source inlinePath start fields =
      planFields (b := .ignored) s source inlinePath start fields := by
  cases fields with
  | nil => rfl
  | cons f rest =>
    rw [Field.widths] at h
    have hfirst : start + f.width ≤ (s.columns source.entity).length := by omega
    have hrest : start + f.width + Field.widths rest ≤ (s.columns source.entity).length := by omega
    unfold planFields
    rw [planField_eq_ignored inlinePath hfirst, planFields_eq_ignored inlinePath hrest]
termination_by structural fields

end

/-! ## Tables -/

theorem registerFrom_eq_ignored (entity : Entity) (aliasName : Option String) (autoJoin : Bool) :
    registerFrom (b := b) s entity aliasName autoJoin =
      registerFrom (b := .ignored) s entity aliasName autoJoin := by
  unfold registerFrom
  refine bind_congr fun bound => ?_
  cases autoJoin with
  | false => rfl
  | true =>
    rw [Schema.accessRelations_eq_ok b, Schema.accessRelations_eq_ok .ignored]
    dsimp only
    rw [planFields_eq_ignored b s "" (s.widths_le_columns entity)]

theorem joinedPath_eq_ignored (target : Entity) (aliasName path : Option String)
    (onClause : JoinOn) :
    joinedPath (b := b) s target aliasName path onClause =
      joinedPath (b := .ignored) s target aliasName path onClause := by
  unfold joinedPath
  simp only [Schema.candidates_eq_ok]

theorem registerJoined_eq_ignored (entity : EntityName) (aliasName path : Option String)
    (onClause : JoinOn) :
    registerJoined (b := b) s entity aliasName path onClause =
      registerJoined (b := .ignored) s entity aliasName path onClause := by
  unfold registerJoined
  simp only [joinedPath_eq_ignored b]

/-! ## The walk -/

mutual

theorem element_eq_ignored (e : Element) :
    element (b := b) s e = element (b := .ignored) s e := by
  cases e with
  | fromTable name aliasName autoJoin =>
    unfold element
    simp only [registerFrom_eq_ignored b]
  | join j => exact join_eq_ignored j
  | subquery inner correlated =>
    exact congrArg (inNewScope correlated) (elements_eq_ignored inner)
  | condition clause => exact condition_eq_ignored clause
  | _ => rfl
termination_by structural e

theorem elements_eq_ignored (es : List Element) :
    elements (b := b) s es = elements (b := .ignored) s es := by
  cases es with
  | nil => rfl
  | cons e rest =>
    unfold elements
    rw [element_eq_ignored e, elements_eq_ignored rest]
termination_by structural es

theorem join_eq_ignored (j : JoinElement) : join (b := b) s j = join (b := .ignored) s j := by
  obtain ⟨kind, target, aliasName, path, onClause, auto⟩ := j
  unfold join
  rw [joinTarget_eq_ignored target, joinOn_eq_ignored onClause, registerJoined_eq_ignored]
termination_by structural j

theorem joinTarget_eq_ignored (t : JoinTarget) :
    joinTarget (b := b) s t = joinTarget (b := .ignored) s t := by
  cases t with
  | entity name => rfl
  | subquery entity inner correlated =>
    exact congrArg (inNewScope correlated) (elements_eq_ignored inner)
termination_by structural t

theorem joinOn_eq_ignored (onClause : JoinOn) :
    joinOn (b := b) s onClause = joinOn (b := .ignored) s onClause := by
  cases onClause with
  | template inner => exact elements_eq_ignored inner
  | relation | none => rfl
termination_by structural onClause

theorem condition_eq_ignored (clause : WhereClause) :
    condition (b := b) s clause = condition (b := .ignored) s clause := by
  cases clause with
  | template inner => exact elements_eq_ignored inner
  | object => rfl
termination_by structural clause

end

end Registration

end RelMap
