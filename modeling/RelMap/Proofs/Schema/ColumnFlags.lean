import RelMap.Proofs.Schema.Leaves

/-!
# Column flags

What the flags of a column owe to its field and to the inline composites around the field. Main
statement: a column is nullable, generated or part of the key as soon as one of them is, but it is
taken out of inserts and updates only by its own field, or by a composite that is out of both. A
composite that is out of one alone does not pass that on.
-/

namespace RelMap

def FieldInfo.isReadOnly (info : FieldInfo) : Bool := !info.insertable && !info.updatable

theorem FieldInfo.isReadOnly_eq_false {info : FieldInfo} :
    info.isReadOnly = false ↔ info.insertable = true ∨ info.updatable = true := by
  rw [isReadOnly]
  cases info.insertable <;> cases info.updatable <;> decide

namespace Enclosing

theorem foldl_enter_flag {flag : Enclosing → Bool} {own : FieldInfo → Bool}
    (hflag : ∀ e info, flag (enter e info) = (flag e || own info)) (e : Enclosing)
    (around : List FieldInfo) : flag (around.foldl enter e) = (flag e || around.any own) := by
  induction around generalizing e with
  | nil => exact (Bool.or_false _).symm
  | cons info rest ih => rw [List.foldl_cons, ih, hflag, List.any_cons, Bool.or_assoc]

theorem path_foldl_enter (e : Enclosing) (around : List FieldInfo) :
    (around.foldl enter e).path = e.path ++ around.map (·.name) := by
  induction around generalizing e with
  | nil => exact (List.append_nil _).symm
  | cons info rest ih =>
    rw [List.foldl_cons, ih, enter, List.append_assoc]
    rfl

theorem exists_column_of_mem_convertedColumns {e : Enclosing} {naming : NamingStrategy}
    {info : FieldInfo} {index : Nat} {columns : List ConvertedColumn} {c : Column}
    (h : c ∈ e.convertedColumns naming info index columns) :
    ∃ name typ, c = e.column info false name typ := by
  induction columns generalizing index with
  | nil => cases h
  | cons _ rest ih =>
    rw [convertedColumns, List.mem_cons] at h
    exact h.elim (fun h => ⟨_, _, h⟩) ih

end Enclosing

theorem Field.exists_column_of_mem_columns {f : Field} {naming : NamingStrategy} {e : Enclosing}
    {c : Column} (hf : f.isInline = false) (h : c ∈ f.columns naming e) :
    ∃ foreignKey name typ, c = e.column f.info foreignKey name typ := by
  cases f with
  | inline => cases hf
  | scalar | foreignKey | ref => exact ⟨_, _, _, List.mem_singleton.mp h⟩
  | converted info converter =>
    obtain ⟨name, typ, hc⟩ := Enclosing.exists_column_of_mem_convertedColumns h
    exact ⟨false, name, typ, hc⟩

/-! ## Flags of leaves -/

/-- The flags of a column of the leaf, by the leaf and the composites around it. The last two tell
when it takes exactly those writes that all of these take. -/
structure Leaf.Flags (l : Leaf) (c : Column) : Prop where
  fieldPath : c.fieldPath = ".".intercalate l.path
  nullable : c.nullable = true ↔ ∃ info ∈ l.infos, info.nullable = true
  autoGenerated : c.autoGenerated = true ↔ ∃ info ∈ l.infos, info.autoGenerated = true
  primaryKey : c.primaryKey = true ↔ ∃ info ∈ l.infos, info.primaryKey = true
  insertable : c.insertable = true ↔ l.field.info.insertable = true ∧
    ∀ info ∈ l.around, info.insertable = true ∨ info.updatable = true
  updatable : c.updatable = true ↔ l.field.info.updatable = true ∧
    ∀ info ∈ l.around, info.insertable = true ∨ info.updatable = true
  insertable_agrees : (c.insertable = true ↔ ∀ info ∈ l.infos, info.insertable = true) ↔
    l.field.info.insertable = false ∨ (∃ info ∈ l.around, info.isReadOnly = true) ∨
      ∀ info ∈ l.around, info.insertable = true
  updatable_agrees : (c.updatable = true ↔ ∀ info ∈ l.infos, info.updatable = true) ↔
    l.field.info.updatable = false ∨ (∃ info ∈ l.around, info.isReadOnly = true) ∨
      ∀ info ∈ l.around, info.updatable = true

namespace Leaf

variable {l : Leaf} {c : Column} {own : FieldInfo → Bool}

theorem inherited_iff {flag : Enclosing → Bool}
    (hflag : ∀ e info, flag (Enclosing.enter e info) = (flag e || own info))
    (hnone : flag {} = false) :
    (flag l.enclosing || own l.field.info) = true ↔ ∃ info ∈ l.infos, own info = true := by
  rw [enclosing, Enclosing.foldl_enter_flag hflag, hnone, Bool.false_or, ← List.any_eq_true, infos,
    List.any_append, List.any_cons, List.any_nil, Bool.or_false]

theorem readOnly_enclosing :
    l.enclosing.readOnly = true ↔ ∃ info ∈ l.around, info.isReadOnly = true := by
  have hfold : l.enclosing.readOnly = (false || l.around.any FieldInfo.isReadOnly) :=
    Enclosing.foldl_enter_flag (fun _ _ => rfl) {} l.around
  rw [hfold, Bool.false_or, List.any_eq_true]

/-- Of the writes that the leaf takes itself, a read-only composite around it refuses all. -/
theorem written_iff : (!l.enclosing.readOnly && own l.field.info) = true ↔
    own l.field.info = true ∧
      ∀ info ∈ l.around, info.insertable = true ∨ info.updatable = true := by
  rw [Bool.and_eq_true, Bool.not_eq_true', ← Bool.not_eq_true, readOnly_enclosing, and_comm]
  simp only [← FieldInfo.isReadOnly_eq_false, not_exists, not_and, Bool.not_eq_true]

theorem written_agrees (hown : ∀ info : FieldInfo, info.isReadOnly = true → own info = false) :
    ((!l.enclosing.readOnly && own l.field.info) = true ↔ ∀ info ∈ l.infos, own info = true) ↔
      own l.field.info = false ∨ (∃ info ∈ l.around, info.isReadOnly = true) ∨
        ∀ info ∈ l.around, own info = true := by
  have hall : (∀ info ∈ l.infos, own info = true) ↔
      own l.field.info = true ∧ ∀ info ∈ l.around, own info = true := by
    rw [infos, List.forall_mem_append, List.forall_mem_singleton, and_comm]
  have hrefused : (∃ info ∈ l.around, info.isReadOnly = true) →
      ¬∀ info ∈ l.around, own info = true := by
    rintro ⟨info, hmem, hinfo⟩ hwritten
    exact Bool.false_ne_true ((hown info hinfo).symm.trans (hwritten info hmem))
  rw [hall, Bool.and_eq_true, Bool.not_eq_true', ← Bool.not_eq_true, readOnly_enclosing,
    ← Bool.not_eq_true (own _)]
  by_cases htaken : own l.field.info = true
  · by_cases hreadOnly : ∃ info ∈ l.around, info.isReadOnly = true
    · simp only [hreadOnly, hrefused hreadOnly, not_true, false_and, and_false, true_or, or_true]
    · simp only [hreadOnly, htaken, not_false_iff, true_and, not_true, false_or, true_iff]
  · simp [htaken]

theorem flags_of_mem_columns {naming : NamingStrategy} (hl : l.field.isInline = false)
    (hc : c ∈ l.columns naming) : l.Flags c := by
  obtain ⟨foreignKey, name, typ, rfl⟩ := Field.exists_column_of_mem_columns hl hc
  have hreadOnly : ∀ info : FieldInfo, info.isReadOnly = true →
      info.insertable = false ∧ info.updatable = false := by
    intro info h
    rwa [FieldInfo.isReadOnly, Bool.and_eq_true, Bool.not_eq_true', Bool.not_eq_true'] at h
  exact {
    fieldPath := by
      rw [Enclosing.column, enclosing, Enclosing.path_foldl_enter, path, infos, List.map_append]
      rfl
    nullable := inherited_iff (fun _ _ => rfl) rfl
    autoGenerated := inherited_iff (fun _ _ => rfl) rfl
    primaryKey := inherited_iff (fun _ _ => rfl) rfl
    insertable := written_iff
    updatable := written_iff
    insertable_agrees := written_agrees fun info h => (hreadOnly info h).1
    updatable_agrees := written_agrees fun info h => (hreadOnly info h).2 }

end Leaf

/-! ## Flags of tables -/

/-- The columns of an entity are those of its leaves, one leaf after the other, with the flags that
the leaf says. -/
structure Entity.Flagged (s : Schema) (e : Entity) : Prop where
  shared : s.columns e = e.leaves.flatMap fun l => l.span.slice (s.columns e)
  flags : ∀ l ∈ e.leaves, ∀ c ∈ l.span.slice (s.columns e), l.Flags c

namespace Schema

theorem columns_flagged (s : Schema) (e : Entity) : e.Flagged s := by
  have hslice : ∀ l ∈ e.leaves, l.span.slice (s.columns e) = l.columns s.naming :=
    fun l hl => Entity.slice_of_mem_leaves hl
  refine ⟨?_, ?_⟩
  · rw [List.flatMap_congr hslice]
    exact Entity.columns_eq_flatMap_leaves s.naming e
  · intro l hl c hc
    rw [hslice l hl] at hc
    exact Leaf.flags_of_mem_columns (Entity.isInline_of_mem_leaves hl) hc

end Schema

/-! ### Senders that are not to be written

The sender of a letter is not to be inserted, that of a note not to be updated. -/

namespace Sample

def letterSpec : SchemaSpec where
  naming := naming
  entities := [
    .ofInline "Sender" [.scalar "street" .text],
    .ofTable "Letter" [(.scalar "id" .int : FieldSpec).asPrimaryKey,
      { FieldSpec.composite "sender" "Sender" with insertable := false }],
    .ofTable "Note" [(.scalar "id" .int : FieldSpec).asPrimaryKey,
      { FieldSpec.composite "sender" "Sender" with updatable := false }]]

def sender : Entity := ⟨⟨"Sender", "Sender", .inline⟩, [.scalar { name := "street" } .text]⟩

def letter : Entity := ⟨⟨"Letter", "Letter", .table⟩,
  [.scalar { name := "id", primaryKey := true } .int,
    .inline { name := "sender", insertable := false } sender.toEntityInfo sender.fields]⟩

def note : Entity := ⟨⟨"Note", "Note", .table⟩,
  [.scalar { name := "id", primaryKey := true } .int,
    .inline { name := "sender", updatable := false } sender.toEntityInfo sender.fields]⟩

def letters : Schema := ⟨[sender, letter, note], naming,
  [⟨sender.toEntityInfo, [⟨{ name := "street" }, .scalar .text⟩]⟩,
    ⟨letter.toEntityInfo, [⟨{ name := "id", primaryKey := true }, .scalar .int⟩,
      ⟨{ name := "sender", insertable := false }, .inline "Sender"⟩]⟩,
    ⟨note.toEntityInfo, [⟨{ name := "id", primaryKey := true }, .scalar .int⟩,
      ⟨{ name := "sender", updatable := false }, .inline "Sender"⟩]⟩]⟩

theorem toSchema_letterSpec : letterSpec.toSchema = .ok letters := by
  cbv

end Sample

/-- The sender's street is inserted with a letter and updated in a note all the same. -/
theorem Schema.exists_written_in_unwritten_sender :
    Sample.letterSpec.toSchema = .ok Sample.letters ∧
    Sample.letters.entity? "Letter" = some Sample.letter ∧
    (∃ l ∈ Sample.letter.leaves, l.path = ["sender", "street"] ∧
      (∃ info ∈ l.infos, info.insertable = false) ∧
      ∃ c ∈ l.span.slice (Sample.letters.columns Sample.letter), c.insertable = true) ∧
    Sample.letters.entity? "Note" = some Sample.note ∧
    ∃ l ∈ Sample.note.leaves, l.path = ["sender", "street"] ∧
      (∃ info ∈ l.infos, info.updatable = false) ∧
      ∃ c ∈ l.span.slice (Sample.letters.columns Sample.note), c.updatable = true :=
  ⟨Sample.toSchema_letterSpec, rfl,
    ⟨⟨[_], _, _⟩, .tail _ (.head _), rfl, ⟨_, .head _, rfl⟩, ⟨_, .head _, rfl⟩⟩, rfl,
    ⟨[_], _, _⟩, .tail _ (.head _), rfl, ⟨_, .head _, rfl⟩, ⟨_, .head _, rfl⟩⟩

end RelMap
