import RelMap.Proofs.Schema.Layout

/-!
# Leaves

The leaves of an entity are its fields at any depth of inline composites that are not composites
themselves, each counted once for every place at which it is embedded. They share out the columns of
the table among them, in order.
-/

namespace RelMap

/-- A field other than an inline composite, as it stands in a table. -/
structure Leaf where
  /-- The inline composites around it, the outermost first. -/
  around : List FieldInfo
  field : Field
  /-- The number of its first column. -/
  start : Nat

namespace Leaf

def infos (l : Leaf) : List FieldInfo := l.around ++ [l.field.info]

def path (l : Leaf) : List String := l.infos.map (·.name)

def fieldPath (l : Leaf) : String := l.path.foldl Path.join ""

def span (l : Leaf) : Span := ⟨l.start, l.start + l.field.width⟩

def enclosing (l : Leaf) : Enclosing := l.around.foldl Enclosing.enter {}

def columns (naming : NamingStrategy) (l : Leaf) : List Column := l.field.columns naming l.enclosing

end Leaf

namespace Field

def isInline : Field → Bool
  | .inline _ _ _ => true
  | _ => false

mutual

/-- The leaves of a field inside the given composites, its first column being number `start`. -/
def leaves (around : List FieldInfo) (start : Nat) : Field → List Leaf
  | .inline info _ fields => leavesOf (around ++ [info]) start fields
  | f => [⟨around, f, start⟩]
termination_by structural f => f

def leavesOf (around : List FieldInfo) (start : Nat) : List Field → List Leaf
  | [] => []
  | f :: rest => f.leaves around start ++ leavesOf around (start + f.width) rest
termination_by structural fs => fs

end

theorem leaves_eq_singleton {f : Field} (hf : f.isInline = false) (around : List FieldInfo)
    (start : Nat) : f.leaves around start = [⟨around, f, start⟩] := by
  cases f with
  | inline => cases hf
  | scalar | foreignKey | ref | converted => rfl

/-! ## Places -/

variable {l : Leaf} {fields : List Field} {path : List String} {span : Span} {f : Field}

theorem mem_spansFrom_shift {start : Nat} (offset : Nat) (h : (f, span) ∈ spansFrom start fields) :
    (f, span.shift offset) ∈ spansFrom (start + offset) fields := by
  induction fields generalizing start with
  | nil => cases h
  | cons g rest ih =>
    rw [spansFrom, List.mem_cons] at h ⊢
    rcases h with h | h
    · cases h
      left
      rw [Span.shift, Nat.add_right_comm]
    · right
      have hrest := ih h
      rwa [Nat.add_right_comm] at hrest

/-- What is held by the first field is held at the same place whatever fields follow. -/
theorem Holds.append {fields' : List Field} (h : Holds fields path span f) :
    Holds (fields ++ fields') path span f := by
  have hmem : ∀ (start : Nat) (fields : List Field) (p : Field × Span),
      p ∈ spansFrom start fields → p ∈ spansFrom start (fields ++ fields') := by
    intro start fields p hp
    induction fields generalizing start with
    | nil => cases hp
    | cons g rest ih => exact (List.mem_cons.mp hp).elim (· ▸ .head _) fun hp => .tail _ (ih _ hp)
  cases h with
  | here hf => exact .here (hmem 0 fields _ hf)
  | inside hf hinner => exact .inside (hmem 0 fields _ hf) hinner

/-- What is held by the later fields is held behind the columns of the first. -/
theorem Holds.cons (g : Field) (h : Holds fields path span f) :
    Holds (g :: fields) path (span.shift g.width) f := by
  have hmem : ∀ {f : Field} {span : Span}, (f, span) ∈ spansFrom 0 fields →
      (f, span.shift g.width) ∈ spansFrom 0 (g :: fields) :=
    fun h => .tail _ (mem_spansFrom_shift _ h)
  cases h with
  | here hf => exact .here (hmem hf)
  | @inside _ inner info target host span path f hf hinner =>
    have hplace : (span.shift host.start).shift g.width =
        span.shift (host.shift g.width).start := by
      simp only [Span.shift, Nat.add_assoc]
    rw [hplace]
    exact .inside (hmem hf) hinner

/-- The leaf `l`, listed for some fields inside the composites `around` from column `start` on, is
held by the fields. -/
def HeldLeaf (around : List FieldInfo) (start : Nat) (fields : List Field) (l : Leaf) : Prop :=
  l.field.isInline = false ∧ ∃ inner span, l.around = around ++ inner ∧ l.span = span.shift start ∧
    Holds fields ((inner ++ [l.field.info]).map (·.name)) span l.field

mutual

theorem heldLeaf_of_mem_leaves (around : List FieldInfo) (start : Nat) (f : Field)
    (h : l ∈ f.leaves around start) : HeldLeaf around start [f] l := by
  cases f with
  | scalar | foreignKey | ref | converted =>
    cases List.mem_singleton.mp h
    refine ⟨rfl, [], ⟨0, 0 + _⟩, (List.append_nil _).symm, ?_, .here (.head _)⟩
    rw [Leaf.span, Span.shift, Nat.zero_add, Nat.zero_add, Nat.add_comm start]
  | inline info target fields =>
    obtain ⟨hleaf, inner, span, haround, hspan, hholds⟩ :=
      heldLeaf_of_mem_leavesOf (around ++ [info]) start fields h
    refine ⟨hleaf, info :: inner, span, ?_, hspan, ?_⟩
    · rw [haround, List.append_assoc, List.singleton_append]
    · have hhost : (Field.inline info target fields, (⟨0, 0 + _⟩ : Span)) ∈ spansFrom 0 [_] :=
        .head _
      exact .inside hhost hholds
termination_by structural f

theorem heldLeaf_of_mem_leavesOf (around : List FieldInfo) (start : Nat) (fields : List Field)
    (h : l ∈ leavesOf around start fields) : HeldLeaf around start fields l := by
  cases fields with
  | nil => cases h
  | cons f rest =>
    rw [leavesOf, List.mem_append] at h
    rcases h with h | h
    · obtain ⟨hleaf, inner, span, haround, hspan, hholds⟩ :=
        heldLeaf_of_mem_leaves around start f h
      exact ⟨hleaf, inner, span, haround, hspan, hholds.append⟩
    · obtain ⟨hleaf, inner, span, haround, hspan, hholds⟩ :=
        heldLeaf_of_mem_leavesOf around (start + f.width) rest h
      refine ⟨hleaf, inner, span.shift f.width, haround, ?_, hholds.cons f⟩
      rw [hspan]
      simp only [Span.shift]
      congr 1 <;> omega
termination_by structural fields

end

/-! ## Columns -/

variable {naming : NamingStrategy}

mutual

theorem columns_eq_flatMap_leaves (naming : NamingStrategy) (around : List FieldInfo) (start : Nat)
    (f : Field) : f.columns naming (around.foldl Enclosing.enter {}) =
      (f.leaves around start).flatMap (·.columns naming) := by
  cases f with
  | scalar | foreignKey | ref | converted => exact (List.append_nil _).symm
  | inline info target fields =>
    have hcolumns := columnsOf_eq_flatMap_leaves naming (around ++ [info]) start fields
    rw [List.foldl_append] at hcolumns
    exact hcolumns
termination_by structural f

theorem columnsOf_eq_flatMap_leaves (naming : NamingStrategy) (around : List FieldInfo)
    (start : Nat) (fields : List Field) :
    columnsOf naming (around.foldl Enclosing.enter {}) fields =
      (leavesOf around start fields).flatMap (·.columns naming) := by
  cases fields with
  | nil => rfl
  | cons f rest =>
    rw [columnsOf, leavesOf, List.flatMap_append, columns_eq_flatMap_leaves naming around start f,
      columnsOf_eq_flatMap_leaves naming around (start + f.width) rest]
termination_by structural fields

end

mutual

/-- A leaf finds its own columns in the table, whatever columns stand before and behind. -/
theorem slice_of_mem_leaves (naming : NamingStrategy) (around : List FieldInfo)
    (front back : List Column) (f : Field) (h : l ∈ f.leaves around front.length) :
    l.span.slice (front ++ (f.columns naming (around.foldl Enclosing.enter {}) ++ back)) =
      l.columns naming := by
  cases f with
  | scalar | foreignKey | ref | converted =>
    cases List.mem_singleton.mp h
    rw [Leaf.span, Span.slice, Span.width_mk_add, List.drop_left, ← length_columns naming,
      List.take_left]
    rfl
  | inline info target fields =>
    have hslice := slice_of_mem_leavesOf naming (around ++ [info]) front back fields h
    rw [List.foldl_append] at hslice
    exact hslice
termination_by structural f

theorem slice_of_mem_leavesOf (naming : NamingStrategy) (around : List FieldInfo)
    (front back : List Column) (fields : List Field)
    (h : l ∈ leavesOf around front.length fields) :
    l.span.slice (front ++ (columnsOf naming (around.foldl Enclosing.enter {}) fields ++ back)) =
      l.columns naming := by
  cases fields with
  | nil => cases h
  | cons f rest =>
    rw [leavesOf, List.mem_append] at h
    rw [columnsOf, List.append_assoc]
    rcases h with h | h
    · exact slice_of_mem_leaves naming around front _ f h
    · rw [← List.append_assoc]
      apply slice_of_mem_leavesOf naming around _ back rest
      rw [List.length_append, length_columns]
      exact h
termination_by structural fields

end

mutual

theorem exists_leaf_at (around : List FieldInfo) (start : Nat) (f : Field) {i : Nat}
    (hstart : start ≤ i) (hstop : i < start + f.width) :
    ∃ l ∈ f.leaves around start, l.span.start ≤ i ∧ i < l.span.stop := by
  cases f with
  | scalar | foreignKey | ref | converted => exact ⟨_, .head _, hstart, hstop⟩
  | inline info target fields =>
    exact exists_leafOf_at (around ++ [info]) start fields hstart hstop
termination_by structural f

theorem exists_leafOf_at (around : List FieldInfo) (start : Nat) (fields : List Field) {i : Nat}
    (hstart : start ≤ i) (hstop : i < start + widths fields) :
    ∃ l ∈ leavesOf around start fields, l.span.start ≤ i ∧ i < l.span.stop := by
  cases fields with
  | nil => exact absurd hstart (Nat.not_le_of_lt hstop)
  | cons f rest =>
    rw [widths, ← Nat.add_assoc] at hstop
    rw [leavesOf]
    by_cases hlt : i < start + f.width
    · obtain ⟨l, hl, hi⟩ := exists_leaf_at around start f hstart hlt
      exact ⟨l, List.mem_append_left _ hl, hi⟩
    · obtain ⟨l, hl, hi⟩ :=
        exists_leafOf_at around (start + f.width) rest (Nat.le_of_not_lt hlt) hstop
      exact ⟨l, List.mem_append_right _ hl, hi⟩
termination_by structural fields

end

end Field

/-! ## Leaves of entities -/

namespace Entity

variable {e : Entity} {l : Leaf} {naming : NamingStrategy}

def leaves (e : Entity) : List Leaf := Field.leavesOf [] 0 e.fields

theorem holds_of_mem_leaves (h : l ∈ e.leaves) : Field.Holds e.fields l.path l.span l.field := by
  obtain ⟨-, inner, span, haround, hspan, hholds⟩ := Field.heldLeaf_of_mem_leavesOf [] 0 e.fields h
  rw [List.nil_append] at haround
  rw [Leaf.path, Leaf.infos, haround, hspan]
  exact hholds

theorem isInline_of_mem_leaves (h : l ∈ e.leaves) : l.field.isInline = false :=
  (Field.heldLeaf_of_mem_leavesOf [] 0 e.fields h).1

theorem columns_eq_flatMap_leaves (naming : NamingStrategy) (e : Entity) :
    e.columns naming = e.leaves.flatMap (·.columns naming) :=
  Field.columnsOf_eq_flatMap_leaves naming [] 0 e.fields

theorem slice_of_mem_leaves (h : l ∈ e.leaves) :
    l.span.slice (e.columns naming) = l.columns naming := by
  have hslice := Field.slice_of_mem_leavesOf naming [] [] [] e.fields h
  rw [List.nil_append, List.append_nil] at hslice
  exact hslice

theorem exists_leaf_at {i : Nat} (hi : i < e.columnCount) :
    ∃ l ∈ e.leaves, l.span.start ≤ i ∧ i < l.span.stop :=
  Field.exists_leafOf_at [] 0 e.fields (Nat.zero_le i) (by rwa [Nat.zero_add])

end Entity

end RelMap
