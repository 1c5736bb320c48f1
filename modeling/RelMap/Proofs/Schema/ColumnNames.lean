import Mathlib.Data.List.Nodup
import RelMap.Proofs.Schema.Leaves

/-!
# Column names

A column is named by its field, or derived from segments: those around the field, its name, and what
tells apart the columns of a converter or of a link. Nothing keeps two columns of an entity from
having one name. If no names are given and the suffixes of each converter are distinct, the columns
have distinct segments, so that it rests with the naming strategy.
-/

namespace RelMap

/-- What a column is named after. -/
inductive ColumnLabel where
  /-- A name given by the field. -/
  | given (name : String)
  /-- Segments that the naming strategy makes a name of. -/
  | derived (segments : List String)
deriving DecidableEq

def ColumnLabel.name (naming : NamingStrategy) : ColumnLabel → String
  | given name => name
  | derived segments => naming.column segments

namespace Enclosing

def label (e : Enclosing) (info : FieldInfo) (index : Nat) (extra : List String) : ColumnLabel :=
  match info.columnNames[index]? with
  | some name => .given name
  | none => .derived (e.segments ++ info.name :: extra)

theorem name_label (e : Enclosing) (naming : NamingStrategy) (info : FieldInfo) (index : Nat)
    (extra : List String) :
    (e.label info index extra).name naming = e.columnName naming info index extra := by
  unfold label columnName
  cases info.columnNames[index]? <;> rfl

theorem segments_foldl_enter {around : List FieldInfo}
    (h : ∀ info ∈ around, info.columnNames = []) (e : Enclosing) :
    (around.foldl enter e).segments = e.segments ++ around.map (·.name) := by
  induction around generalizing e with
  | nil => exact (List.append_nil _).symm
  | cons info rest ih =>
    rw [List.forall_mem_cons] at h
    rw [List.foldl_cons, ih h.2, enter, h.1, List.append_assoc]
    rfl

end Enclosing

/-! ## Labels of leaves -/

/-- What stands behind the name of the field in each of its columns. -/
def Field.extras : Field → List (List String)
  | .scalar _ _ => [[]]
  | .inline _ _ _ => []
  | .foreignKey _ _ key _ | .ref _ _ key => [[key.name]]
  | .converted _ converter => converter.columns.map fun c => if c.suffix = "" then [] else [c.suffix]

namespace Leaf

variable {naming : NamingStrategy} {l l' : Leaf}

def labels (l : Leaf) : List ColumnLabel :=
  l.field.extras.mapIdx fun index extra => l.enclosing.label l.field.info index extra

theorem map_name_convertedColumns (e : Enclosing) (info : FieldInfo) (index : Nat)
    (columns : List ConvertedColumn) :
    (e.convertedColumns naming info index columns).map (·.name) =
      (columns.map fun c => if c.suffix = "" then [] else [c.suffix]).mapIdx fun i extra =>
        e.columnName naming info (index + i) extra := by
  induction columns generalizing index with
  | nil => rfl
  | cons c rest ih =>
    rw [Enclosing.convertedColumns, List.map_cons, List.map_cons, List.mapIdx_cons, ih]
    simp only [Nat.add_assoc, Nat.add_comm 1]
    rfl

theorem map_name_columns (hl : l.field.isInline = false) :
    (l.columns naming).map (·.name) = l.labels.map (·.name naming) := by
  have hlabels : l.labels.map (·.name naming) = l.field.extras.mapIdx fun index extra =>
      l.enclosing.columnName naming l.field.info index extra := by
    apply List.ext_getElem?
    intro i
    rw [List.getElem?_map, labels, List.getElem?_mapIdx, List.getElem?_mapIdx, Option.map_map]
    congr 1
    funext extra
    exact Enclosing.name_label ..
  rw [hlabels]
  obtain ⟨around, field, start⟩ := l
  cases field with
  | inline => cases hl
  | scalar | foreignKey | ref => rfl
  | converted info converter =>
    apply (map_name_convertedColumns _ info 0 converter.columns).trans
    simp only [Nat.zero_add]
    rfl

/-- No column name is given on the way to the leaf, and its columns have different suffixes. -/
structure Derived (l : Leaf) : Prop where
  names : ∀ info ∈ l.infos, info.columnNames = []
  suffixes : l.field.extras.Nodup

theorem Derived.labels_eq (h : l.Derived) :
    l.labels = l.field.extras.map fun extra => .derived (l.path ++ extra) := by
  have hnames := List.forall_mem_append.mp h.names
  have hfield : l.field.info.columnNames = [] := hnames.2 _ (.head _)
  have hsegments : l.enclosing.segments = l.around.map (·.name) :=
    Enclosing.segments_foldl_enter hnames.1 {}
  have hlabel (index : Nat) (extra : List String) :
      l.enclosing.label l.field.info index extra = .derived (l.path ++ extra) := by
    rw [Enclosing.label, hfield, hsegments, path, infos, List.map_append, List.append_assoc]
    rfl
  apply List.ext_getElem?
  intro i
  simp only [labels, hlabel, List.getElem?_mapIdx, List.getElem?_map]

/-- Neither leaf is found on the way to the other. -/
def Apart (l l' : Leaf) : Prop := ¬l.path <+: l'.path ∧ ¬l'.path <+: l.path

theorem Derived.nodup_labels (h : l.Derived) : l.labels.Nodup := by
  rw [h.labels_eq]
  apply h.suffixes.map
  intro extra extra' heq
  exact List.append_cancel_left (ColumnLabel.derived.inj heq)

theorem Apart.disjoint_labels (hapart : l.Apart l') (h : l.Derived) (h' : l'.Derived) :
    l.labels.Disjoint l'.labels := by
  rw [h.labels_eq, h'.labels_eq]
  intro label hlabel hlabel'
  obtain ⟨extra, -, rfl⟩ := List.mem_map.mp hlabel
  obtain ⟨extra', -, heq⟩ := List.mem_map.mp hlabel'
  have hpaths : l'.path ++ extra' = l.path ++ extra := ColumnLabel.derived.inj heq
  cases List.prefix_or_prefix_of_prefix (List.prefix_append l.path extra)
      (hpaths ▸ List.prefix_append l'.path extra') with
  | inl hprefix => exact hapart.1 hprefix
  | inr hprefix => exact hapart.2 hprefix

end Leaf

/-! ## Distinct field names -/

namespace Field

variable {s : Schema} {l : Leaf}

theorem path_of_mem_leaves {around : List FieldInfo} {start : Nat} {f : Field}
    (h : l ∈ f.leaves around start) : ∃ rest, l.path = around.map (·.name) ++ f.name :: rest := by
  obtain ⟨-, inner, span, haround, -, hholds⟩ := heldLeaf_of_mem_leaves around start f h
  rw [Leaf.path, Leaf.infos, haround, List.append_assoc, List.map_append]
  generalize (inner ++ [l.field.info]).map (·.name) = path at hholds
  cases hholds with
  | here hmem =>
    obtain rfl := List.mem_singleton.mp (mem_of_mem_spansFrom hmem)
    exact ⟨[], rfl⟩
  | inside hmem _ =>
    obtain rfl := List.mem_singleton.mp (mem_of_mem_spansFrom hmem)
    exact ⟨_, rfl⟩

theorem path_of_mem_leavesOf {around : List FieldInfo} {start : Nat} {fields : List Field}
    (h : l ∈ leavesOf around start fields) :
    ∃ f ∈ fields, ∃ rest, l.path = around.map (·.name) ++ f.name :: rest := by
  induction fields generalizing start with
  | nil => cases h
  | cons f fields ih =>
    rw [leavesOf, List.mem_append] at h
    cases h with
    | inl h => exact ⟨f, .head _, path_of_mem_leaves h⟩
    | inr h =>
      obtain ⟨g, hg, hpath⟩ := ih h
      exact ⟨g, .tail _ hg, hpath⟩

mutual

/-- The leaves of a field, if the fields of every entity have different names. -/
theorem pairwise_apart_leaves (hdistinct : ∀ e ∈ s.entities, (e.fields.map (·.name)).Nodup)
    (around : List FieldInfo) (start : Nat) (f : Field) (hcoherent : Coherent s f) :
    (f.leaves around start).Pairwise Leaf.Apart := by
  cases f with
  | scalar | foreignKey | ref | converted => exact List.pairwise_singleton _ _
  | inline info target fields =>
    have hfields := hdistinct _ (List.mem_of_find?_eq_some hcoherent.1)
    exact pairwise_apart_leavesOf hdistinct (around ++ [info]) start fields hcoherent.2 hfields
termination_by structural f

theorem pairwise_apart_leavesOf (hdistinct : ∀ e ∈ s.entities, (e.fields.map (·.name)).Nodup)
    (around : List FieldInfo) (start : Nat) (fields : List Field)
    (hcoherent : AllCoherent s fields) (hfields : (fields.map (·.name)).Nodup) :
    (leavesOf around start fields).Pairwise Leaf.Apart := by
  cases fields with
  | nil => exact .nil
  | cons f rest =>
    rw [List.map_cons, List.nodup_cons] at hfields
    rw [leavesOf, List.pairwise_append]
    refine ⟨pairwise_apart_leaves hdistinct around start f hcoherent.1,
      pairwise_apart_leavesOf hdistinct around _ rest hcoherent.2 hfields.2, ?_⟩
    intro l hl l' hl'
    obtain ⟨inner, hpath⟩ := path_of_mem_leaves hl
    obtain ⟨g, hg, inner', hpath'⟩ := path_of_mem_leavesOf hl'
    have hne : f.name ≠ g.name := by
      intro heq
      exact hfields.1 (heq ▸ List.mem_map_of_mem hg)
    -- The two paths part where the names of the two fields stand.
    rw [Leaf.Apart, hpath, hpath', List.prefix_append_right_inj, List.prefix_append_right_inj,
      List.cons_prefix_cons, List.cons_prefix_cons]
    exact ⟨fun h => hne h.1, fun h => hne h.1.symm⟩
termination_by structural fields

end

end Field

/-! ## Labels of entities -/

namespace Entity

variable {s : Schema} {e : Entity}

def labels (e : Entity) : List ColumnLabel := e.leaves.flatMap (·.labels)

theorem map_name_columns (naming : NamingStrategy) (e : Entity) :
    (e.columns naming).map (·.name) = e.labels.map (·.name naming) := by
  rw [columns_eq_flatMap_leaves, labels, List.map_flatMap, List.map_flatMap]
  apply List.flatMap_congr
  intro l hl
  exact Leaf.map_name_columns (isInline_of_mem_leaves hl)

/-- No column name is given and no converter repeats a suffix, whatever is embedded where. -/
def NamesDerived (e : Entity) : Prop := ∀ l ∈ e.leaves, l.Derived

theorem nodup_labels (hdistinct : ∀ e ∈ s.entities, (e.fields.map (·.name)).Nodup)
    (hcoherent : Field.AllCoherent s e.fields) (hfields : (e.fields.map (·.name)).Nodup)
    (h : e.NamesDerived) : e.labels.Nodup := by
  have hapart : e.leaves.Pairwise Leaf.Apart :=
    Field.pairwise_apart_leavesOf hdistinct [] 0 e.fields hcoherent hfields
  rw [labels, List.nodup_flatMap]
  refine ⟨fun l hl => (h l hl).nodup_labels, ?_⟩
  apply hapart.imp_of_mem
  intro l l' hl hl' hapart
  exact hapart.disjoint_labels (h l hl) (h l' hl')

/-- Names are distinct if labels are and the naming strategy keeps them apart. -/
theorem nodup_names_iff (naming : NamingStrategy) (e : Entity) :
    ((e.columns naming).map (·.name)).Nodup ↔
      e.labels.Nodup ∧
        ∀ a ∈ e.labels, ∀ b ∈ e.labels, a.name naming = b.name naming → a = b := by
  rw [map_name_columns]
  constructor
  · intro h
    exact ⟨h.of_map, fun a ha b hb => List.inj_on_of_nodup_map h ha hb⟩
  · rintro ⟨hlabels, hinjective⟩
    exact hlabels.map_on hinjective

end Entity

end RelMap
