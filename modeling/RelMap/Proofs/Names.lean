import Mathlib.Data.List.Nodup
import RelMap.Error

/-!
# Distinct names

Where names are distinct an item is found by its own, and so is its position. Numerals are distinct.
-/

namespace RelMap

theorem natText_injective : Function.Injective natText := by
  intro a b h
  have hdigits : Nat.toDigits 10 a = Nat.toDigits 10 b := String.ofList_injective h
  have hvalue := congrArg (Nat.ofDigitChars 10 · 0) hdigits
  rwa [Nat.ofDigitChars_toDigits (by decide) (by decide),
    Nat.ofDigitChars_toDigits (by decide) (by decide)] at hvalue

variable {α : Type} {name : α → String} {items : List α}

theorem find?_eq_some_iff_of_nodup (hdistinct : (items.map name).Nodup) (target : String) (a : α) :
    items.find? (name · == target) = some a ↔ a ∈ items ∧ name a = target := by
  constructor
  · intro h
    exact ⟨List.mem_of_find?_eq_some h, by simpa using List.find?_some h⟩
  · rintro ⟨ha, rfl⟩
    have hsome : (items.find? (name · == name a)).isSome := by
      rw [List.find?_isSome]
      exact ⟨a, ha, beq_self_eq_true (name a)⟩
    obtain ⟨b, hfind⟩ := Option.isSome_iff_exists.mp hsome
    have hname : name b = name a := by simpa using List.find?_some hfind
    rw [hfind, List.inj_on_of_nodup_map hdistinct (List.mem_of_find?_eq_some hfind) ha hname]

theorem find?_eq_of_mem_iff {items' : List α}
    (hdistinct : (items.map name).Nodup) (hdistinct' : (items'.map name).Nodup)
    (hmem : ∀ a, a ∈ items' ↔ a ∈ items) (target : String) :
    items'.find? (name · == target) = items.find? (name · == target) := by
  apply Option.ext
  intro a
  rw [find?_eq_some_iff_of_nodup hdistinct', find?_eq_some_iff_of_nodup hdistinct, hmem]

theorem findIdx?_of_getElem? (hdistinct : (items.map name).Nodup) {i : Nat} {a : α}
    (h : items[i]? = some a) : items.findIdx? (name · == name a) = some i := by
  obtain ⟨hlt, rfl⟩ := List.getElem?_eq_some_iff.mp h
  rw [List.findIdx?_eq_some_iff_getElem]
  refine ⟨hlt, beq_self_eq_true _, ?_⟩
  intro j hj heq
  have hi' : i < (items.map name).length := by rwa [List.length_map]
  have hj' : j < (items.map name).length := Nat.lt_trans hj hi'
  have hname : (items.map name)[j] = (items.map name)[i] := by
    rw [List.getElem_map, List.getElem_map]
    exact eq_of_beq heq
  have hindex := hdistinct.getElem_inj_iff.mp hname
  omega

theorem map_lookup_zip {names : List String} {values : List α} (hdistinct : names.Nodup)
    (hlength : names.length = values.length) :
    names.map (fun n => (names.zip values).lookup n) = values.map some := by
  induction names generalizing values with
  | nil => rw [List.length_eq_zero_iff.mp hlength.symm]; rfl
  | cons first rest ih =>
    cases values with
    | nil => cases hlength
    | cons v vs =>
      rw [List.nodup_cons] at hdistinct
      rw [List.map_cons, List.map_cons, ← ih hdistinct.2 (Nat.succ.inj hlength), List.zip_cons_cons,
        List.lookup_cons_self, List.cons.injEq]
      refine ⟨rfl, List.map_congr_left ?_⟩
      intro other hother
      have hne : other ≠ first := by
        rintro rfl
        exact hdistinct.1 hother
      rw [List.lookup_cons, beq_false_of_ne hne]

end RelMap
