import RelMap.Proofs.Bounds.Access
import RelMap.Proofs.Scope.FreshAliases
import RelMap.Proofs.Statement.Registered

/-!
# Planning by name

The planner goes through the foreign keys of a table one after the other, and through those of each
entity that they lead to, which it looks up in the schema. Main statement: this comes to an end in a
coherent schema, where it is the walk along the field tree.
-/

namespace RelMap

open Compiling

namespace Registration

variable {s : Schema}

/-- To plan the joins for the given foreign keys of the source, one after the other, each followed by
those of the entity that it leads to, which is looked up by its name, comes to an end and does what
the computation does. -/
inductive Unfolds (s : Schema) : PlannedTable → List Relation → Compiling (List AutoJoin) → Prop
  | nil {source : PlannedTable} : Unfolds s source [] (pure [])
  | cons {source : PlannedTable} {relation : Relation} {rest : List Relation} {parent : Entity}
    {inner : AutoJoin → Compiling (List AutoJoin)} {later : Compiling (List AutoJoin)}
    (hparent : s.entity? relation.parent = some parent)
    (hinner : ∀ join, Unfolds s ⟨parent, join.joined, some join.join.kind⟩
      (s.eagerRelations parent) (inner join))
    (hlater : Unfolds s source rest later) :
    Unfolds s source (relation :: rest) (do
      let join ← planRelation s source relation parent
      let others ← inner join
      return join :: others ++ (← later))

theorem Unfolds.append {source : PlannedTable} {relations relations' : List Relation}
    {x y : Compiling (List AutoJoin)} (hx : Unfolds s source relations x)
    (hy : Unfolds s source relations' y) :
    Unfolds s source (relations ++ relations') (do
      let joins ← x
      return joins ++ (← y)) := by
  induction hx with
  | nil => simpa using hy
  | cons hparent hinner _ _ ih =>
    have hunfolds := Unfolds.cons hparent hinner (ih hy)
    simpa using hunfolds

theorem planField_foreignKey (s : Schema) (source : PlannedTable) (inlinePath : String)
    (start : Nat) (info : FieldInfo) (target : EntityInfo) (key : KeyColumn) (fields : List Field) :
    planField s source inlinePath start (.foreignKey info target key fields) = (do
      let relation := (Field.keyPlace inlinePath start info target.name).relationIn
        source.entity.name (s.columns source.entity)
      let join ← planRelation s source relation ⟨target, fields⟩
      let others ← planFields s ⟨⟨target, fields⟩, join.joined, some join.join.kind⟩ "" 0 fields
      return join :: others) := by
  rw [planField]
  simp only [Schema.accessRelations_eq_ok]
  rfl

mutual

theorem planField_unfolds (source : PlannedTable) (inlinePath : String) (start : Nat) (f : Field)
    (hcoherent : f.Coherent s) :
    Unfolds s source
      (f.relations source.entity.name (s.columns source.entity) Field.isEager inlinePath start)
      (planField s source inlinePath start f) := by
  cases f with
  | scalar | ref | converted => exact .nil
  | inline info target fields =>
    exact planFields_unfolds source (Path.join inlinePath info.name) start fields hcoherent.2
  | foreignKey info target key fields =>
    let relation := (Field.keyPlace inlinePath start info target.name).relationIn
      source.entity.name (s.columns source.entity)
    have hparent : s.entity? relation.parent = some ⟨target, fields⟩ := hcoherent.1
    have hunfolds : Unfolds s source [relation] _ := .cons hparent (fun join => planFields_unfolds
      ⟨⟨target, fields⟩, join.joined, some join.join.kind⟩ "" 0 fields hcoherent.2) .nil
    simp only [pure_bind, List.append_nil] at hunfolds
    rw [planField_foreignKey]
    exact hunfolds
termination_by structural f

theorem planFields_unfolds (source : PlannedTable) (inlinePath : String) (start : Nat)
    (fields : List Field) (hcoherent : Field.AllCoherent s fields) :
    Unfolds s source (Field.relationsIn source.entity.name (s.columns source.entity) Field.isEager
      inlinePath start fields) (planFields s source inlinePath start fields) := by
  cases fields with
  | nil => exact .nil
  | cons f rest =>
    rw [Field.relationsIn_cons]
    exact (planField_unfolds source inlinePath start f hcoherent.1).append
      (planFields_unfolds source inlinePath (start + f.width) rest hcoherent.2)
termination_by structural fields

end

theorem Unfolds.unique {source : PlannedTable} {relations : List Relation}
    {x y : Compiling (List AutoJoin)} (hx : Unfolds s source relations x)
    (hy : Unfolds s source relations y) : x = y := by
  induction hx generalizing y with
  | nil =>
    cases hy
    rfl
  | cons hparent _ _ ihInner ihLater =>
    cases hy with
    | cons hparent' hinner' hlater' =>
      cases hparent.symm.trans hparent'
      rw [funext fun join => ihInner join (hinner' join), ihLater hlater']

/-! ## Planned joins -/

theorem noteSource_holder {source : PlannedTable} {joined : Occurrence} {holder : Option Occurrence}
    {state state' : CompileState}
    (h : (noteSource source joined).run state = .ok (holder, state')) :
    holder = if source.joined.isSome then some source.occurrence else none := by
  unfold noteSource at h
  split at h
  · next hsome =>
    obtain ⟨_, _, hnote, h⟩ := StateT.bind_eq_ok h
    cases h
    rw [if_pos hsome]
  · next hnone =>
    cases h
    rw [if_neg hnone]

/-- What is known of the join for a foreign key of the source. -/
structure PlannedFor (s : Schema) (source : PlannedTable) (relation : Relation) (parent : Entity)
    (j : AutoJoin) : Prop where
  entity : j.joined.entity = parent.toEntityInfo
  path : j.joined.path = Path.join source.occurrence.path relation.fieldPath
  aliased : j.joined.aliasName ≠ ""
  holder : j.source = if source.joined.isSome then some source.occurrence else none
  table : j.join.table = ⟨parent.table, j.joined.aliasName⟩
  left : source.joined = some .left ∨ relation.nullable = true → j.join.kind = .left
  inner : ¬ (source.joined = some .left ∨ relation.nullable = true) → j.join.kind = .inner
  condition : ∃ condition, j.join.condition = some condition ∧
    s.relationCondition relation source.entity parent source.occurrence.qualifier j.qualifier =
      .ok condition

theorem planRelation_ok {source : PlannedTable} {relation : Relation} {parent : Entity}
    {j : AutoJoin} {state state' : CompileState}
    (h : (planRelation s source relation parent).run state = .ok (j, state')) :
    PlannedFor s source relation parent j := by
  unfold planRelation at h
  obtain ⟨aliasName, registered, halias, h⟩ := StateT.bind_eq_ok h
  obtain ⟨condition, hcondition, h⟩ := lift_bind_ok h
  obtain ⟨holder, noted, hnote, h⟩ := StateT.bind_eq_ok h
  obtain ⟨scope, _, hscope, h⟩ := StateT.bind_eq_ok h
  cases h
  obtain ⟨r, hr, rfl⟩ := resolving_ok halias
  exact ⟨rfl, rfl, (Resolver.generateAlias_ok hr).2.1, noteSource_holder hnote, rfl,
    fun hleft => if_pos hleft, fun hinner => if_neg hinner, condition, rfl, hcondition⟩

end Registration

end RelMap
