import RelMap.Schema.Draft

/-!
# Validation

An entity is valid if no entity reappears along a path of composition from it, its primary key fits
its kind, and each foreign key, also inside inline composites, refers to an entity whose key is one
scalar field.
-/

namespace RelMap

namespace Draft

/-- The drafts other than the one of that name. -/
def without (drafts : List Draft) (name : EntityName) : List Draft :=
  drafts.filter (·.info.name != name)

theorem length_without_lt {drafts : List Draft} {name : EntityName} {d : Draft}
    (h : find? drafts name = some d) : (without drafts name).length < drafts.length := by
  have hmem := List.mem_of_find?_eq_some h
  have hname := List.find?_some h
  refine List.length_filter_lt_length_iff_exists.mpr ⟨d, hmem, ?_⟩
  simp_all

/-- Depth-first search for a cycle. `stack` holds the entities on the path to the fields at hand,
and `fresh` those that are not on it, so the search ends. -/
def checkCycles (fresh : List Draft) (stack : List EntityName) :
    List DraftField → Except SchemaError Unit
  | [] => .ok ()
  | f :: rest => do
    match f.kind.component? with
    | none => pure ()
    | some target =>
      if target ∈ stack then throw (.cycle (stack ++ [target]))
      match _h : find? fresh target with
      | none => pure ()
      | some d => checkCycles (without fresh target) (stack ++ [target]) d.fields
    checkCycles fresh stack rest
termination_by fields => (fresh.length, fields.length)
decreasing_by
  all_goals first
    | exact Prod.Lex.left _ _ (length_without_lt ‹_›)
    | exact Prod.Lex.right _ (by simp)

def checkPrimaryKey (d : Draft) : Except SchemaError Unit :=
  match d.info.kind, d.keyFields with
  | .inline, [] => .ok ()
  | .inline, f :: _ => .error (.inlinePrimaryKey d.info.name f.info.name)
  | .table, [] => .error (.missingPrimaryKey d.info.name)
  | .projection, [] => .ok ()
  | _, [f] =>
    let qualified := SchemaSpec.qualifiedName d.info.name f.info.name
    match f.kind with
    | .scalar _ | .inline _ => .ok ()
    | .converted _ => .error (.converterKey qualified)
    | .foreignKey _ | .ref _ => .error (.invalidForeignKey qualified .primaryKey)
  | _, fields => .error (.multiplePrimaryKeys d.info.name (fields.map (·.info.name)))

/-- A foreign key of `columns` explicit column names fits the key of its target. -/
def checkForeignKey (qualified : String) (columns : Nat) (target : Draft) :
    Except SchemaError Unit :=
  match target.keyFields with
  | [] => .error (.invalidForeignKey qualified (.keylessTarget target.info.name))
  | [key] =>
    match key.kind with
    | .inline _ => .error (.compoundForeignKey qualified target.info.name)
    | _ =>
      if columns ≤ 1 then .ok () else .error (.foreignKeyColumnCount qualified columns 1)
  | fields => .error (.multiplePrimaryKeys target.info.name (fields.map (·.info.name)))

/-- Checks the foreign keys among the fields of `entity`, then those of its inline composites in
place. The entities in `fresh` may still be entered. -/
def checkForeignKeys (drafts fresh : List Draft) (entity : EntityName) :
    List DraftField → Except SchemaError Unit
  | [] => .ok ()
  | f :: rest => do
    match f.kind with
    | .scalar _ | .converted _ => pure ()
    | .inline target =>
      match _h : find? fresh target with
      | none => pure ()
      | some d => checkForeignKeys drafts (without fresh target) target d.fields
    | .foreignKey target | .ref target =>
      match find? drafts target with
      | none => throw (.unknownEntity target)
      | some d =>
        checkForeignKey (SchemaSpec.qualifiedName entity f.info.name) f.info.columnNames.length d
    checkForeignKeys drafts fresh entity rest
termination_by fields => (fresh.length, fields.length)
decreasing_by
  all_goals first
    | exact Prod.Lex.left _ _ (length_without_lt ‹_›)
    | exact Prod.Lex.right _ (by simp)

def validate (drafts : List Draft) (d : Draft) : Except SchemaError Unit := do
  checkCycles (without drafts d.info.name) [d.info.name] d.fields
  checkPrimaryKey d
  checkForeignKeys drafts (without drafts d.info.name) d.info.name d.fields

end Draft

end RelMap
