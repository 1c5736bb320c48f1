import RelMap.Proofs.Schema.Layout
import RelMap.Proofs.Schema.Leaves

/-!
# Join inference

The links between two entities are the foreign keys and references, among the leaves of the one,
that refer to the other. Main statement: two entities are joined exactly if there is one link
between them, whichever side holds it, and then the column of the link equals the key of the entity
that it refers to.
-/

namespace RelMap

/-! ## Relations of leaves -/

def Leaf.relation (child : EntityName) (columns : List Column) (l : Leaf) : Relation :=
  (Field.keyPlace ((l.around.map (·.name)).foldl Path.join "") l.start l.field.info
    (l.field.target?.getD "")).relationIn child columns

theorem Leaf.fieldPath_relation (child : EntityName) (columns : List Column) (l : Leaf) :
    (l.relation child columns).fieldPath = l.fieldPath := by
  rw [fieldPath, path, infos, List.map_append, List.foldl_append]
  rfl

theorem Field.width_of_isForeignKey {f : Field} (hf : f.isForeignKey = true) : f.width = 1 := by
  cases f with
  | foreignKey | ref => rfl
  | scalar | inline | converted => cases hf

theorem Leaf.columns_relation {l : Leaf} (hl : l.field.isForeignKey = true) (child : EntityName)
    (columns : List Column) : (l.relation child columns).columns = l.span := by
  rw [span, Field.width_of_isForeignKey hl]
  rfl

namespace Field

mutual

theorem relations_eq_map_leaves (child : EntityName) (columns : List Column)
    (wanted : Field → Bool) (around : List FieldInfo) (start : Nat) (f : Field) :
    f.relations child columns wanted ((around.map (·.name)).foldl Path.join "") start =
      ((f.leaves around start).filter fun l => l.field.isForeignKey && wanted l.field).map
        (·.relation child columns) := by
  cases f with
  | scalar | converted => rfl
  | inline info target fields =>
    have hrelations :=
      relationsIn_eq_map_leaves child columns wanted (around ++ [info]) start fields
    rw [List.map_append, List.foldl_append] at hrelations
    exact hrelations
  | foreignKey info target key fields | ref info target key =>
    simp only [relations, keyPlaces, leaves, List.filter_cons, List.filter_nil, isForeignKey,
      Bool.true_and]
    split <;> rfl
termination_by structural f

theorem relationsIn_eq_map_leaves (child : EntityName) (columns : List Column)
    (wanted : Field → Bool) (around : List FieldInfo) (start : Nat) (fields : List Field) :
    relationsIn child columns wanted ((around.map (·.name)).foldl Path.join "") start fields =
      ((leavesOf around start fields).filter fun l => l.field.isForeignKey && wanted l.field).map
        (·.relation child columns) := by
  cases fields with
  | nil => rfl
  | cons f rest =>
    rw [relationsIn_cons, leavesOf, List.filter_append, List.map_append,
      relations_eq_map_leaves child columns wanted around start f,
      relationsIn_eq_map_leaves child columns wanted around (start + f.width) rest]
termination_by structural fields

end

end Field

/-! ## Links -/

/-- The foreign keys and references to `parent`, each as often as it is embedded. -/
def Entity.linksTo (child : Entity) (parent : EntityName) : List Leaf :=
  child.leaves.filter fun l => l.field.isForeignKey && l.field.target? == some parent

structure JoinSide where
  entity : Entity
  qualifier : String

structure Link where
  child : JoinSide
  parent : JoinSide
  leaf : Leaf

namespace Link

def name (link : Link) : String := s!"{link.child.entity.name}.{link.leaf.fieldPath}"

def relation (s : Schema) (link : Link) : Relation :=
  link.leaf.relation link.child.entity.name (s.columns link.child.entity)

/-- The links between two sides. Those of an entity to itself count on the left side only. -/
def between (left right : JoinSide) : List Link :=
  (left.entity.linksTo right.entity.name).map (⟨left, right, ·⟩) ++
    if left.entity.name = right.entity.name then []
    else (right.entity.linksTo left.entity.name).map (⟨right, left, ·⟩)

/-- The one column of the link, under the name of the child, equals the one key column of the
parent, under the name of the parent. -/
def Equates (s : Schema) (link : Link) (condition : JoinCondition) : Prop :=
  ∃ column key, link.leaf.span.slice (s.columns link.child.entity) = [column] ∧
    s.keyColumns link.parent.entity = .ok [key] ∧
    condition = [⟨.column link.child.qualifier column.name,
      .column link.parent.qualifier key.name⟩]

end Link

namespace Schema

variable {spec : SchemaSpec} {s : Schema} {left right : JoinSide}

theorem relations_eq_map_linksTo (s : Schema) (child : Entity) (parent : EntityName) :
    s.relations child parent =
      (child.linksTo parent).map (·.relation child.name (s.columns child)) :=
  Field.relationsIn_eq_map_leaves child.name (s.columns child) (·.target? == some parent) [] 0
    child.fields

theorem findRelation_eq (s : Schema) (left right : JoinSide) :
    s.findRelation left.entity right.entity =
      match Link.between left right with
      | [] => .error (.noRelation left.entity.name right.entity.name)
      | [link] => .ok (link.relation s)
      | links =>
        .error (.ambiguousRelation left.entity.name right.entity.name (links.map (·.name))) := by
  have hcandidates : s.relations left.entity right.entity.name ++
      (if left.entity.name = right.entity.name then []
        else s.relations right.entity left.entity.name) =
      (Link.between left right).map (·.relation s) := by
    rw [Link.between, List.map_append, List.map_map, relations_eq_map_linksTo,
      relations_eq_map_linksTo]
    congr 1
    split
    · rfl
    · rw [List.map_map]
      rfl
  have hname : ∀ link : Link,
      s!"{(link.relation s).child}.{(link.relation s).fieldPath}" = link.name := by
    intro link
    rw [Link.relation, Leaf.fieldPath_relation]
    rfl
  rw [findRelation_eq_choose, hcandidates]
  rcases Link.between left right with _ | ⟨link, _ | ⟨other, rest⟩⟩
  · rfl
  · rfl
  · simp only [choose, List.map_cons, List.map_map, hname, Function.comp_def]

/-- Between two sides a link is held by the one and refers to the other. -/
theorem mem_between {link : Link} (h : link ∈ Link.between left right) :
    link.leaf ∈ link.child.entity.linksTo link.parent.entity.name ∧
      (link.child = left ∧ link.parent = right ∨
        left.entity.name ≠ right.entity.name ∧ link.child = right ∧ link.parent = left) := by
  rw [Link.between, List.mem_append] at h
  rcases h with h | h
  · obtain ⟨l, hl, rfl⟩ := List.mem_map.mp h
    exact ⟨hl, .inl ⟨rfl, rfl⟩⟩
  · split at h
    · cases h
    · next hne =>
      obtain ⟨l, hl, rfl⟩ := List.mem_map.mp h
      exact ⟨hl, .inr ⟨hne, rfl, rfl⟩⟩

/-- In an accepted schema the condition of a link is one equality. -/
theorem relationCondition_link (h : spec.toSchema = .ok s) {a b : EntityName} {link : Link}
    (hchild : s.entity? a = some link.child.entity)
    (hparent : s.entity? b = some link.parent.entity)
    (hlink : link.leaf ∈ link.child.entity.linksTo link.parent.entity.name) :
    ∃ condition, link.Equates s condition ∧
      s.relationCondition (link.relation s) link.child.entity link.parent.entity
        link.child.qualifier link.parent.qualifier = .ok condition := by
  obtain ⟨hleaf, hrefers⟩ := List.mem_filter.mp hlink
  rw [Bool.and_eq_true, beq_iff_eq] at hrefers
  have hholds := Entity.holds_of_mem_leaves hleaf
  obtain ⟨owner, info, typ, column, howner, hkey, hcolumns, -⟩ :=
    Field.columns_of_isForeignKey (hholds.coherent (allCoherent_of_entity? h hchild))
      (hholds.keyed (allKeyed_of_entity? h hchild)) hrefers.1 hrefers.2 s.naming
      link.leaf.enclosing
  have hslice : link.leaf.span.slice (s.columns link.child.entity) = [column] :=
    (Entity.slice_of_mem_leaves hleaf).trans hcolumns
  have hspan : (link.relation s).columns = link.leaf.span := Leaf.columns_relation hrefers.1 _ _
  have hparent' := hparent
  rw [← name_of_entity? hparent, howner] at hparent'
  cases hparent'
  obtain ⟨key, hkeys⟩ : ∃ key, link.parent.entity.keyColumns s.naming = [key] :=
    ⟨_, Entity.keyColumns_of_keyField? hkey⟩
  refine ⟨_, ⟨column, key, hslice, ?_, rfl⟩, ?_⟩
  · rw [keyColumns_eq, hkeys]
    rfl
  · rw [relationCondition_ignored, hspan, hslice, hkeys]
    rfl

theorem joinCondition_link (h : spec.toSchema = .ok s) {a b : EntityName} {link : Link}
    (hleft : s.entity? a = some left.entity) (hright : s.entity? b = some right.entity)
    (hone : Link.between left right = [link]) :
    ∃ condition, link.Equates s condition ∧
      s.joinCondition left.entity left.qualifier right.entity right.qualifier = .ok condition := by
  have hmem : link ∈ Link.between left right := hone ▸ .head _
  have hrelation : s.findRelation left.entity right.entity = .ok (link.relation s) := by
    rw [findRelation_eq, hone]
  obtain ⟨hlink, ⟨hchild, hparent⟩ | ⟨hne, hchild, hparent⟩⟩ := mem_between hmem
  · obtain ⟨condition, hequates, hcondition⟩ :=
      relationCondition_link h (hchild ▸ hleft) (hparent ▸ hright) hlink
    refine ⟨condition, hequates, ?_⟩
    rw [joinCondition, hrelation, ← hcondition, hchild, hparent]
    exact if_pos (congrArg (·.entity.name) hchild)
  · obtain ⟨condition, hequates, hcondition⟩ :=
      relationCondition_link h (hchild ▸ hright) (hparent ▸ hleft) hlink
    refine ⟨condition, hequates, ?_⟩
    rw [joinCondition, hrelation, ← hcondition, hchild, hparent]
    refine if_neg fun hname => hne ?_
    rw [← hname, ← hchild]
    rfl

structure InfersJoin (s : Schema) (left right : JoinSide) : Prop where
  noRelation : ∀ a b, s.findRelation left.entity right.entity = .error (.noRelation a b) ↔
    (Link.between left right).length = 0 ∧ a = left.entity.name ∧ b = right.entity.name
  ambiguous : ∀ a b fields,
    s.findRelation left.entity right.entity = .error (.ambiguousRelation a b fields) ↔
      1 < (Link.between left right).length ∧ a = left.entity.name ∧ b = right.entity.name ∧
        fields = (Link.between left right).map (·.name)
  joined : (Link.between left right).length = 1 →
    ∃ link ∈ Link.between left right, ∃ condition, link.Equates s condition ∧
      s.joinCondition left.entity left.qualifier right.entity right.qualifier = .ok condition
  noMismatch : ∀ field foreignKeyColumns keyColumns,
    s.joinCondition left.entity left.qualifier right.entity right.qualifier ≠
      .error (.columnCountMismatch field foreignKeyColumns keyColumns)
  symmetric : left.entity.name ≠ right.entity.name → ∀ condition,
    s.joinCondition left.entity left.qualifier right.entity right.qualifier = .ok condition ↔
      s.joinCondition right.entity right.qualifier left.entity left.qualifier = .ok condition

theorem joinCondition_ok_iff (h : spec.toSchema = .ok s) {a b : EntityName}
    (hleft : s.entity? a = some left.entity) (hright : s.entity? b = some right.entity)
    {condition : JoinCondition} :
    s.joinCondition left.entity left.qualifier right.entity right.qualifier = .ok condition ↔
      ∃ link, Link.between left right = [link] ∧ link.Equates s condition := by
  constructor
  · intro hcondition
    obtain ⟨relation, hrelation, -⟩ := Except.bind_eq_ok hcondition
    rw [findRelation_eq] at hrelation
    rcases hlinks : Link.between left right with _ | ⟨link, _ | ⟨other, rest⟩⟩
    · rw [hlinks] at hrelation
      cases hrelation
    · obtain ⟨condition', hequates, hcondition'⟩ := joinCondition_link h hleft hright hlinks
      rw [hcondition] at hcondition'
      cases hcondition'
      exact ⟨link, rfl, hequates⟩
    · rw [hlinks] at hrelation
      cases hrelation
  · rintro ⟨link, hone, column, key, hcolumn, hkey, rfl⟩
    obtain ⟨condition', ⟨column', key', hcolumn', hkey', rfl⟩, hcondition⟩ :=
      joinCondition_link h hleft hright hone
    rw [hcolumn] at hcolumn'
    rw [hkey] at hkey'
    cases hcolumn'
    cases hkey'
    exact hcondition

/-- Different entities have the same links whichever comes first. -/
theorem between_perm (hne : left.entity.name ≠ right.entity.name) :
    (Link.between left right).Perm (Link.between right left) := by
  rw [Link.between, Link.between, if_neg hne, if_neg hne.symm]
  exact List.perm_append_comm

theorem join_inferred (h : spec.toSchema = .ok s) {a b : EntityName}
    (hleft : s.entity? a = some left.entity) (hright : s.entity? b = some right.entity) :
    s.InfersJoin left right where
  noRelation := by
    intro a b
    rw [findRelation_eq]
    rcases Link.between left right with _ | ⟨link, _ | ⟨other, rest⟩⟩
    · simp [eq_comm]
    · simp
    · simp
  ambiguous := by
    intro a b fields
    rw [findRelation_eq]
    rcases Link.between left right with _ | ⟨link, _ | ⟨other, rest⟩⟩
    · simp
    · simp
    · simp [eq_comm]
  joined := by
    intro hone
    obtain ⟨link, hlink⟩ := List.length_eq_one_iff.mp hone
    exact ⟨link, hlink ▸ .head _, joinCondition_link h hleft hright hlink⟩
  noMismatch := by
    intro field foreignKeyColumns keyColumns hmismatch
    rcases hlinks : Link.between left right with _ | ⟨link, _ | ⟨other, rest⟩⟩
    · rw [joinCondition, findRelation_eq, hlinks] at hmismatch
      cases hmismatch
    · obtain ⟨condition, -, hcondition⟩ := joinCondition_link h hleft hright hlinks
      rw [hcondition] at hmismatch
      cases hmismatch
    · rw [joinCondition, findRelation_eq, hlinks] at hmismatch
      cases hmismatch
  symmetric := by
    intro hne condition
    have hone : ∀ link, Link.between left right = [link] ↔ Link.between right left = [link] := by
      intro link
      have hperm := between_perm hne
      constructor
      · intro hlinks
        rw [hlinks] at hperm
        exact List.singleton_perm.mp hperm |>.symm
      · intro hlinks
        rw [hlinks] at hperm
        exact List.perm_singleton.mp hperm
    rw [joinCondition_ok_iff h hleft hright, joinCondition_ok_iff h hright hleft]
    simp only [hone]

/-- A person's home, at the depth of an inline composite, links to one city. -/
theorem join_inferred_personCity :
    Sample.spec.toSchema = .ok Sample.schema ∧
      Sample.schema.entity? "Person" = some Sample.person ∧
      Sample.schema.entity? "City" = some Sample.city ∧
      (Link.between ⟨Sample.person, "_p"⟩ ⟨Sample.city, "_c"⟩).map (·.name) =
        ["Person.home.city"] ∧
      Sample.schema.joinCondition Sample.person "_p" Sample.city "_c" =
        .ok [⟨.column "_p" "home_city_id", .column "_c" "id"⟩] ∧
      Sample.schema.InfersJoin ⟨Sample.person, "_p"⟩ ⟨Sample.city, "_c"⟩ := by
  have hperson : Sample.schema.entity? "Person" = some Sample.person := rfl
  have hcity : Sample.schema.entity? "City" = some Sample.city := rfl
  exact ⟨Sample.toSchema_spec, hperson, hcity, by decide +kernel, by decide +kernel,
    join_inferred Sample.toSchema_spec hperson hcity⟩

end Schema

end RelMap
