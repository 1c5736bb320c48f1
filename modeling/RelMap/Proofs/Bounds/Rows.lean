import RelMap.Proofs.Bounds.Access
import RelMap.Proofs.Row.Mapping

/-!
# Bounds of rows

The slots of each field lie in the row once the row is as wide as its plan, and a scalar has a slot.
-/

namespace RelMap

variable (b : Bounds)

/-! ## Fields -/

namespace Decode

mutual

theorem field_eq_ignored {slots : List SqlValue} (path : String) {p : FieldPlan}
    (h : slots.length = p.width) :
    field (b := b) slots path p = field (b := .ignored) slots path p := by
  cases p with
  | scalar name typ nullable =>
    have hslot : 0 < slots.length := h ▸ Nat.zero_lt_one
    unfold field
    rw [Bounds.item_eq_ok hslot, Bounds.item_eq_ok hslot]
  | converted name converter nullable => rfl
  | composite name entity inner nullable =>
    unfold field
    rw [fields_eq_ignored path (Nat.le_of_eq h.symm)]
  | ref name target key nullable => rfl
termination_by structural p

/-- Where the row has a slot for each that the plans read, decoding stays in the row. -/
theorem fields_eq_ignored {slots : List SqlValue} (path : String) {plans : List FieldPlan}
    (h : FieldPlan.widths plans ≤ slots.length) :
    fields (b := b) slots path plans = fields (b := .ignored) slots path plans := by
  cases plans with
  | nil => rfl
  | cons p rest =>
    rw [FieldPlan.widths] at h
    have hfront : p.width ≤ slots.length := by omega
    have hfirst : (slots.take p.width).length = p.width := by rw [List.length_take]; omega
    have hrest : FieldPlan.widths rest ≤ (slots.drop p.width).length := by
      rw [List.length_drop]
      omega
    unfold fields
    rw [Bounds.front_eq_ok hfront, Bounds.front_eq_ok hfront, ExceptT.mk_pure_ok_bind,
      ExceptT.mk_pure_ok_bind, field_eq_ignored _ hfirst, fields_eq_ignored path hrest]
termination_by structural plans

end

/-- A row that ends too early has no slot for the last field. -/
example (e : MappingError) (state : DecodeState) :
    (fields (b := { mapping := some e }) [.int 1] "City"
      [.scalar "id" .int false, .scalar "name" .text true]).run.run state = (.error e, state) := rfl

end Decode

/-! ## Rows -/

theorem FieldPlan.spansFrom_bounds {start : Nat} {plans : List FieldPlan} {p : FieldPlan}
    {span : Span} (h : (p, span) ∈ spansFrom start plans) :
    span.start ≤ span.stop ∧ span.stop ≤ start + widths plans := by
  induction plans generalizing start with
  | nil => cases h
  | cons q rest ih =>
    rw [spansFrom, List.mem_cons] at h
    rw [widths]
    obtain h | h := h
    · cases h
      exact ⟨Nat.le_add_right _ _, by dsimp only; omega⟩
    · obtain ⟨hle, hstop⟩ := ih h
      exact ⟨hle, by omega⟩

theorem RowPlan.keySlots_within {plan : RowPlan} {e : Entity} {index : Nat} {span : Span}
    {row : List SqlValue} (h : plan.keySlots? e = some (index, span))
    (hlength : row.length = plan.width) : span.Within row := by
  unfold keySlots? at h
  simp only [Option.bind_eq_bind, Option.bind_eq_some_iff] at h
  obtain ⟨key, -, i, -, ⟨p, slots⟩, hspan, h⟩ := h
  cases h
  have hbounds := FieldPlan.spansFrom_bounds (List.mem_of_getElem? hspan)
  rw [Span.Within, hlength, RowPlan.width]
  dsimp only
  omega

namespace Schema

theorem mapRow_eq_ignored (s : Schema) (row : List SqlValue) (entity : EntityName)
    (mode : SelectMode) :
    s.mapRow (b := b) row entity mode = s.mapRow (b := .ignored) row entity mode := by
  unfold mapRow
  split
  · rfl
  refine bind_congr fun e => ExceptT.check_bind_congr fun plan hplan => ?_
  have hlength := (Decode.checkedPlan_ok hplan).2
  rw [Decode.fields_eq_ignored b e.name (Nat.le_of_eq hlength.symm)]

theorem mapRef_eq_ignored (s : Schema) (row : List SqlValue) (entity : EntityName)
    (mode : SelectMode) :
    s.mapRef (b := b) row entity mode = s.mapRef (b := .ignored) row entity mode := by
  unfold mapRef
  refine bind_congr fun e => ExceptT.check_bind_congr fun plan hplan => ?_
  have hlength := (Decode.checkedPlan_ok hplan).2
  rw [keyColumns_eq_ignored]
  cases hslots : plan.keySlots? e with
  | none => rfl
  | some found =>
    have hwithin := RowPlan.keySlots_within hslots hlength
    cases e.keyField? with
    | none => rfl
    | some key => simp only [hwithin.access]

end Schema

end RelMap
