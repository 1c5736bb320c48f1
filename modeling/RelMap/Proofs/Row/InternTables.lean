import Mathlib.Data.List.Nodup
import RelMap.Proofs.Row.Contents

/-!
# Intern tables

An intern table holds one instance of each record and only grows at its end, so instances are equal
exactly if their contents are, and indices stay what they are.
-/

namespace RelMap

namespace Interner

theorem intern_cases (table : Interner) (r : Record) :
    (∃ shared ∈ table.records, shared.content.contents = r.contents ∧
      table.intern r = (shared, table)) ∨
    (∀ shared ∈ table.records, shared.content.contents ≠ r.contents) ∧
      table.intern r = (⟨.interned table.next, r⟩,
        ⟨table.records ++ [⟨.interned table.next, r⟩], table.next + 1⟩) := by
  unfold intern find?
  split
  · next shared hfind =>
    have hsame := List.find?_some hfind
    exact .inl ⟨shared, List.mem_of_find?_eq_some hfind, (Record.same_iff _ _).mp hsame, rfl⟩
  · next hfind =>
    refine .inr ⟨fun shared hmem hcontents => ?_, rfl⟩
    rw [List.find?_eq_none] at hfind
    exact hfind shared hmem ((Record.same_iff _ _).mpr hcontents)

/-- Each record is there once, and each instance has a number of its own. -/
structure Canonical (table : Interner) : Prop where
  contents_nodup : (table.records.map (·.content.contents)).Nodup
  handles_nodup : (table.records.map (·.handle)).Nodup
  numbered : ∀ shared ∈ table.records, ∃ number < table.next, shared.handle = .interned number

theorem canonical_of_records_eq_nil {table : Interner} (h : table.records = []) :
    table.Canonical := by
  refine ⟨?_, ?_, ?_⟩ <;> simp [h]

theorem Canonical.intern {table : Interner} (h : table.Canonical) (r : Record) :
    (table.intern r).2.Canonical := by
  obtain ⟨shared, -, -, hintern⟩ | ⟨hnew, hintern⟩ := table.intern_cases r
  · rwa [hintern]
  · rw [hintern]
    refine ⟨?_, ?_, ?_⟩
    · rw [List.map_append, List.nodup_append']
      refine ⟨h.contents_nodup, List.nodup_singleton _, ?_⟩
      rintro _ hmem hlast
      obtain ⟨shared, hshared, rfl⟩ := List.mem_map.mp hmem
      exact hnew shared hshared (List.mem_singleton.mp hlast)
    · rw [List.map_append, List.nodup_append']
      refine ⟨h.handles_nodup, List.nodup_singleton _, ?_⟩
      rintro _ hmem hlast
      obtain ⟨shared, hshared, rfl⟩ := List.mem_map.mp hmem
      obtain ⟨number, hnumber, hhandle⟩ := h.numbered shared hshared
      rw [hhandle] at hlast
      cases List.mem_singleton.mp hlast
      exact absurd hnumber (Nat.lt_irrefl _)
    · intro shared hshared
      obtain hshared | hshared := List.mem_append.mp hshared
      · obtain ⟨number, hnumber, hhandle⟩ := h.numbered shared hshared
        exact ⟨number, Nat.lt_succ_of_lt hnumber, hhandle⟩
      · cases List.mem_singleton.mp hshared
        exact ⟨table.next, Nat.lt_succ_self _, rfl⟩

/-- Interned records are the same instance exactly if they are equal. -/
theorem Canonical.handle_eq_iff {table : Interner} (h : table.Canonical) {a b : SharedRecord}
    (ha : a ∈ table.records) (hb : b ∈ table.records) :
    a.handle = b.handle ↔ a.content.same b.content = true := by
  rw [Record.same_iff]
  constructor
  · intro hhandle
    rw [List.inj_on_of_nodup_map h.handles_nodup ha hb hhandle]
  · intro hcontents
    rw [List.inj_on_of_nodup_map h.contents_nodup ha hb hcontents]

section

variable {before after : Interner} (h : before.records <+: after.records)

include h

theorem get?_of_prefix {index : Nat} {shared : SharedRecord}
    (hget : before.get? index = some shared) : after.get? index = some shared := by
  obtain ⟨added, hadded⟩ := h
  rw [get?, ← hadded, List.getElem?_append_left (List.getElem?_eq_some_iff.mp hget).1]
  exact hget

theorem indexOf?_of_prefix {r : Record} {index : Nat} (hindex : before.indexOf? r = some index) :
    after.indexOf? r = some index := by
  obtain ⟨added, hadded⟩ := h
  unfold indexOf? at hindex ⊢
  rw [← hadded, List.findIdx?_append, hindex]
  rfl

end

end Interner

end RelMap
