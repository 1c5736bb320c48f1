import RelMap.Row.Interner

/-!
# Contents of records

The contents of a value are what is left of it without instances and without the sources of
references. Values are the same exactly if their contents are equal, and an intern table answers
with a record of the same contents.
-/

namespace RelMap

mutual

def FieldValue.contents : FieldValue → FieldValue
  | .null => .null
  | .scalar value => .scalar value
  | .enum variant => .enum variant
  | .record _ content => .record (.given 0) content.contents
  | .reference target => .reference ⟨target.entity, target.key, .unavailable⟩
termination_by structural v => v

def Record.contents : Record → Record
  | ⟨entity, values⟩ => ⟨entity, contentsOf values⟩
termination_by structural r => r

def contentsOf : List FieldValue → List FieldValue
  | [] => []
  | v :: rest => v.contents :: contentsOf rest
termination_by structural vs => vs

end

mutual

theorem FieldValue.same_iff (a b : FieldValue) : a.same b = true ↔ a.contents = b.contents := by
  cases a with
  | record handle content =>
    cases b <;> simp [FieldValue.same, FieldValue.contents, Record.same_iff content]
  | _ => cases b <;> simp [FieldValue.same, FieldValue.contents, Reference.same]
termination_by structural a

theorem Record.same_iff (a b : Record) : a.same b = true ↔ a.contents = b.contents := by
  cases a with
  | mk entity values =>
    cases b with
    | mk entity' values' => simp [Record.same, Record.contents, sameValues_iff values]
termination_by structural a

theorem sameValues_iff (as bs : List FieldValue) :
    sameValues as bs = true ↔ contentsOf as = contentsOf bs := by
  cases as with
  | nil => cases bs <;> simp [sameValues, contentsOf]
  | cons a as =>
    cases bs with
    | nil => simp [sameValues, contentsOf]
    | cons b bs => simp [sameValues, contentsOf, FieldValue.same_iff a, sameValues_iff as]
termination_by structural as

end

/-! ## Equal values -/

section

variable {w : FieldValue}

theorem eq_null_of_contents (h : w.contents = FieldValue.null.contents) :
    w = .null := by
  cases w with
  | null => rfl
  | _ => cases h

theorem eq_scalar_of_contents {value : SqlValue}
    (h : w.contents = (FieldValue.scalar value).contents) : w = .scalar value := by
  cases w with
  | scalar => exact h
  | _ => cases h

theorem eq_enum_of_contents {variant : String}
    (h : w.contents = (FieldValue.enum variant).contents) : w = .enum variant := by
  cases w with
  | enum => exact h
  | _ => cases h

theorem eq_record_of_contents {handle : Handle} {entity : EntityName} {values : List FieldValue}
    (h : w.contents = (FieldValue.record handle ⟨entity, values⟩).contents) :
    ∃ handle' values', w = .record handle' ⟨entity, values'⟩ ∧
      contentsOf values' = contentsOf values := by
  cases w with
  | record handle' content' =>
    obtain ⟨entity', values'⟩ := content'
    simp only [FieldValue.contents, Record.contents, FieldValue.record.injEq, Record.mk.injEq,
      true_and] at h
    obtain ⟨rfl, hvalues⟩ := h
    exact ⟨handle', values', rfl, hvalues⟩
  | _ => cases h

theorem eq_reference_of_contents {target : EntityName} {key : Option (List SqlValue)}
    {source : Source} (h : w.contents = (FieldValue.reference ⟨target, key, source⟩).contents) :
    ∃ source', w = .reference ⟨target, key, source'⟩ := by
  cases w with
  | reference r =>
    obtain ⟨target', key', source'⟩ := r
    cases h
    exact ⟨source', rfl⟩
  | _ => cases h

end

/-! ## Intern tables -/

theorem Interner.contents_intern (table : Interner) (r : Record) :
    (table.intern r).1.content.contents = r.contents := by
  unfold Interner.intern
  split
  · next shared hfind =>
    have hfind : table.records.find? (·.content.same r) = some shared := hfind
    have hsame := List.find?_some hfind
    rw [← Record.same_iff]
    exact hsame
  · rfl

end RelMap
