import RelMap.Proofs.Row.Slots
import RelMap.Schema.Relation

/-!
# Bounds of keys and relations

Within bounds, an access gives its part of the list whatever it would come to elsewhere. A function
that stays within bounds thus does the same as if bounds are ignored. Here this is shown for the
columns of keys and relations.
-/

namespace RelMap

/-! ## Accesses -/

namespace Bounds

variable {ε α : Type} {breach : Option ε} {items : List α}

theorem access_eq_ok {inBounds : Prop} [Decidable inBounds] (h : inBounds) (part : α) :
    access breach inBounds part = .ok part := by
  cases breach with
  | none => rfl
  | some error => exact if_pos h

theorem front_eq_ok {count : Nat} (h : count ≤ items.length) :
    front breach items count = .ok (items.take count) :=
  access_eq_ok h _

theorem item_eq_ok {index : Nat} {default : α} (h : index < items.length) :
    item breach items index default = .ok (items.getD index default) :=
  access_eq_ok h _

end Bounds

namespace Span

variable {α : Type} {items : List α}

theorem Within.access {ε : Type} {breach : Option ε} {span : Span} (h : span.Within items) :
    span.access breach items = .ok (span.slice items) :=
  Bounds.access_eq_ok h _

/-- The last item of the span is missing. -/
example (e : JoinError) : (⟨1, 3⟩ : Span).access (some e) [0, 1] = .error e := rfl

theorem within_mk_add {start width : Nat} (h : start + width ≤ items.length) :
    (⟨start, start + width⟩ : Span).Within items :=
  ⟨Nat.le_add_right _ _, h⟩

end Span

/-! ## Fields and keys -/

namespace Field

/-- A field found among others lies between the first of their columns and the last. -/
theorem bounds_of_mem_spansFrom {start : Nat} {fields : List Field} {f : Field} {span : Span}
    (h : (f, span) ∈ spansFrom start fields) :
    start ≤ span.start ∧ span.stop = span.start + f.width ∧
      span.stop ≤ start + widths fields := by
  induction fields generalizing start with
  | nil => cases h
  | cons g rest ih =>
    rw [spansFrom, List.mem_cons] at h
    rw [widths]
    obtain h | h := h
    · cases h
      exact ⟨Nat.le_refl _, rfl, by dsimp only; omega⟩
    · obtain ⟨hstart, hstop, hle⟩ := ih h
      exact ⟨by omega, hstop, by omega⟩

/-- The columns that names lead to are some of those of the fields that they start from. -/
theorem bounds_of_spanAt? {offset : Nat} {fields : List Field} {names : List String} {span : Span}
    (h : spanAt? offset fields names = some span) :
    span.start ≤ span.stop ∧ span.stop ≤ offset + widths fields := by
  induction offset, fields, names using spanAt?.induct with
  | case1 offset fields => cases h
  | case2 offset fields name =>
    obtain ⟨⟨f, own⟩, hfind, h⟩ := Option.map_eq_some_iff.mp h
    cases h
    have hbounds := bounds_of_mem_spansFrom (List.mem_of_find?_eq_some hfind)
    rw [Span.shift]
    exact ⟨by dsimp only; omega, by dsimp only; omega⟩
  | case3 offset fields name rest hrest info target inner host hfind ih =>
    rw [spanAt?, hfind] at h
    · obtain ⟨hstart, hle⟩ := ih h
      have hhost := bounds_of_mem_spansFrom (List.mem_of_find?_eq_some hfind)
      rw [width] at hhost
      exact ⟨hstart, by omega⟩
    · exact hrest
  | case4 offset fields name rest hrest hfind =>
    rw [spanAt?] at h
    · split at h
      · next hinline => exact absurd hinline (hfind _ _ _ _)
      · cases h
    · exact hrest

theorem spans_within {naming : NamingStrategy} {e : Enclosing} {fields : List Field} {f : Field}
    {span : Span} (h : (f, span) ∈ spansFrom 0 fields) :
    span.Within (columnsOf naming e fields) := by
  have hbounds := bounds_of_mem_spansFrom h
  rw [Span.Within, length_columnsOf]
  omega

end Field

namespace Entity

variable {naming : NamingStrategy} {e : Entity}

theorem fieldSpan_eq_ok_iff {path : String} {span : Span} : e.fieldSpan path = .ok span ↔
    Field.spanAt? 0 e.fields (Path.segments path) = some span := by
  unfold fieldSpan
  cases Field.spanAt? 0 e.fields (Path.segments path) <;> simp

theorem fieldSpan_within {path : String} {span : Span} (h : e.fieldSpan path = .ok span) :
    span.Within (e.columns naming) := by
  obtain ⟨hstart, hle⟩ := Field.bounds_of_spanAt? (fieldSpan_eq_ok_iff.mp h)
  rw [Span.Within, columns, Field.length_columnsOf]
  omega

theorem keySpan_within : e.keySpan.Within (e.columns naming) := by
  unfold keySpan
  split
  · next hfind => exact Field.spans_within (List.mem_of_find?_eq_some hfind)
  · exact ⟨Nat.le_refl 0, Nat.zero_le _⟩

end Entity

theorem Schema.keyColumns_eq_ignored (b : Bounds) (s : Schema) (e : Entity) :
    s.keyColumns (b := b) e = s.keyColumns (b := .ignored) e := by
  have hwithin : e.keySpan.Within (s.columns e) := e.keySpan_within
  unfold keyColumns
  rw [hwithin.access, hwithin.access]

/-! ## Relations -/

namespace Field

variable {child : EntityName} {columns : List Column} {wanted : Field → Bool}

mutual

/-- A foreign key has one of the columns of its field. -/
theorem keyPlaces_bounds {path : String} {start : Nat} {f : Field} {place : KeyPlace}
    (h : place ∈ keyPlaces wanted path start f) :
    place.columns.stop = place.columns.start + 1 ∧ place.columns.stop ≤ start + f.width := by
  cases f with
  | scalar | converted => cases h
  | inline info target fields => exact keyPlacesIn_bounds h
  | foreignKey info target key fields | ref info target key =>
    rw [keyPlaces] at h
    split at h
    · cases List.mem_singleton.mp h
      exact ⟨rfl, Nat.le_refl _⟩
    · cases h
termination_by structural f

theorem keyPlacesIn_bounds {path : String} {start : Nat} {fields : List Field} {place : KeyPlace}
    (h : place ∈ keyPlacesIn wanted path start fields) :
    place.columns.stop = place.columns.start + 1 ∧
      place.columns.stop ≤ start + widths fields := by
  cases fields with
  | nil => cases h
  | cons f rest =>
    rw [keyPlacesIn] at h
    rw [widths]
    obtain h | h := List.mem_append.mp h
    · obtain ⟨hstop, hle⟩ := keyPlaces_bounds h
      exact ⟨hstop, by omega⟩
    · obtain ⟨hstop, hle⟩ := keyPlacesIn_bounds h
      exact ⟨hstop, by omega⟩
termination_by structural fields

end

theorem relationsIn_cons (path : String) (start : Nat) (f : Field) (rest : List Field) :
    relationsIn child columns wanted path start (f :: rest) =
      relations child columns wanted path start f ++
        relationsIn child columns wanted path (start + f.width) rest := by
  rw [relationsIn, keyPlacesIn, List.map_append]
  rfl

theorem relationsIn_bounds {path : String} {start : Nat} {fields : List Field} {r : Relation}
    (hr : r ∈ relationsIn child columns wanted path start fields) :
    r.child = child ∧ r.columns.stop = r.columns.start + 1 ∧
      r.columns.stop ≤ start + widths fields := by
  obtain ⟨place, hplace, rfl⟩ := List.mem_map.mp hr
  exact ⟨rfl, keyPlacesIn_bounds hplace⟩

end Field

theorem KeyPlace.access_eq_ok {ε : Type} {breach : Option ε} {columns : List Column}
    {place : KeyPlace} (h : place.columns.Within columns) (child : EntityName) :
    place.access breach child columns = .ok (place.relationIn child columns) := by
  rw [access, h.access]
  rfl

namespace Schema

theorem relationCondition_ignored (s : Schema) (relation : Relation) (child parent : Entity)
    (childQualifier parentQualifier : String) :
    s.relationCondition relation child parent childQualifier parentQualifier =
      let foreignKey := relation.columns.slice (s.columns child)
      let key := parent.keyColumns s.naming
      if foreignKey.length ≠ key.length then
        .error (.columnCountMismatch s!"{relation.child}.{relation.fieldPath}" foreignKey.length
          key.length)
      else .ok (List.zipWith
        (fun f k => ⟨.column childQualifier f.name, .column parentQualifier k.name⟩)
        foreignKey key) :=
  rfl

variable (b : Bounds) {s : Schema} {child : Entity}

theorem widths_le_columns (s : Schema) (e : Entity) :
    0 + Field.widths e.fields ≤ (s.columns e).length := by
  rw [columns, Entity.columns, Field.length_columnsOf]
  omega

theorem relations_within {parent : EntityName} {r : Relation} (h : r ∈ s.relations child parent) :
    r.child = child.name ∧ r.columns.Within (s.columns child) := by
  obtain ⟨hchild, hstop, hle⟩ := Field.relationsIn_bounds h
  exact ⟨hchild, by omega, Nat.le_trans hle (s.widths_le_columns child)⟩

theorem accessRelations_eq_ok (s : Schema) (child : Entity) (wanted : Field → Bool) :
    s.accessRelations (b := b) child wanted =
      .ok (Field.relationsIn child.name (s.columns child) wanted "" 0 child.fields) := by
  have hplaces : ∀ place ∈ Field.keyPlacesIn wanted "" 0 child.fields,
      place.columns.Within (s.columns child) := by
    intro place hplace
    obtain ⟨hstop, hle⟩ := Field.keyPlacesIn_bounds hplace
    exact ⟨by omega, Nat.le_trans hle (s.widths_le_columns child)⟩
  rw [accessRelations, Field.relationsIn]
  generalize Field.keyPlacesIn wanted "" 0 child.fields = places at hplaces
  induction places with
  | nil => rfl
  | cons place rest ih =>
    rw [List.forall_mem_cons] at hplaces
    rw [List.mapM_cons, KeyPlace.access_eq_ok hplaces.1, ih hplaces.2]
    rfl

theorem candidates_eq_ok (s : Schema) (left right : Entity) :
    s.candidates (b := b) left right = .ok (s.relations left right.name ++
      if left.name = right.name then [] else s.relations right left.name) := by
  rw [candidates, accessRelations_eq_ok, accessRelations_eq_ok]
  change (if left.name = right.name then .ok (s.relations left right.name)
    else .ok (s.relations left right.name ++ s.relations right left.name) : Except JoinError _) = _
  split
  · rw [List.append_nil]
  · rfl

theorem findRelation_eq_choose (s : Schema) (left right : Entity) :
    s.findRelation (b := b) left right = choose left.name right.name (s.relations left right.name ++
      if left.name = right.name then [] else s.relations right left.name) := by
  rw [findRelation, candidates_eq_ok]
  rfl

theorem relationCondition_eq_ignored {relation : Relation} {parent : Entity}
    {childQualifier parentQualifier : String} (h : relation.columns.Within (s.columns child)) :
    s.relationCondition (b := b) relation child parent childQualifier parentQualifier =
      s.relationCondition (b := .ignored) relation child parent childQualifier parentQualifier := by
  have hkey : parent.keySpan.Within (s.columns parent) := parent.keySpan_within
  unfold relationCondition
  rw [h.access, h.access, hkey.access, hkey.access]

/-- The relation between two entities is one of the child's. -/
theorem findRelation_within {s : Schema} {left right : Entity} {relation : Relation}
    (h : s.findRelation left right = .ok relation) :
    relation.columns.Within (s.columns (if relation.child = left.name then left else right)) := by
  rw [findRelation_eq_choose] at h
  generalize hcandidates : s.relations left right.name ++ _ = candidates at h
  rcases candidates with _ | ⟨r, _ | ⟨other, rest⟩⟩
  · cases h
  · cases h
    have hmem : relation ∈ s.relations left right.name ++
        if left.name = right.name then [] else s.relations right left.name := by
      rw [hcandidates]
      exact .head _
    obtain hmem | hmem := List.mem_append.mp hmem
    · obtain ⟨hchild, hwithin⟩ := relations_within hmem
      rwa [if_pos hchild]
    -- A relation of the other side counts only if there are two sides.
    · split at hmem
      · cases hmem
      · next hne =>
        obtain ⟨hchild, hwithin⟩ := relations_within hmem
        rwa [if_neg (hchild ▸ Ne.symm hne)]
  · cases h

theorem joinCondition_eq_ignored (s : Schema) (left : Entity) (leftQualifier : String)
    (right : Entity) (rightQualifier : String) :
    s.joinCondition (b := b) left leftQualifier right rightQualifier =
      s.joinCondition (b := .ignored) left leftQualifier right rightQualifier := by
  unfold joinCondition
  rw [findRelation_eq_choose, ← findRelation_eq_choose .ignored]
  cases hrelation : s.findRelation (b := .ignored) left right with
  | error e => rfl
  | ok relation =>
    have hwithin := findRelation_within .ignored hrelation
    change (if _ then _ else _) = if _ then _ else _
    split
    · next hchild =>
      rw [if_pos hchild] at hwithin
      exact relationCondition_eq_ignored b hwithin
    · next hchild =>
      rw [if_neg hchild] at hwithin
      exact relationCondition_eq_ignored b hwithin

end Schema

end RelMap
