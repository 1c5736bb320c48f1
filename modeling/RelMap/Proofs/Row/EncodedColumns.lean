import Mathlib
import RelMap.Proofs.Row.FullShape
import RelMap.Statement.Compile
import RelMap.Statement.Modification

/-!
# Values in their columns

If the values of a record line up with the columns of its table, then the parameters of an insert or
update belong to the columns that they are zipped with, and every bind variable named like a column
finds the value in that column.
-/

namespace RelMap

open Modification

variable {s : Schema} {e : Entity} {r : Record} {values : List SqlValue}

/-! ## Parameters -/

/-- Filtering the columns and filtering the columns with their values go together. -/
theorem zip_filter_zip {α β γ : Type} {p : α → Bool} {as : List α} {bs : List β} (f : β → γ)
    (h : bs.length = as.length) :
    (as.filter p).zip (((as.zip bs).filter fun x => p x.1).map fun x => f x.2) =
      ((as.zip bs).filter fun x => p x.1).map fun x => (x.1, f x.2) := by
  induction as generalizing bs with
  | nil => rfl
  | cons a as ih =>
    cases bs with
    | nil => cases h
    | cons b bs =>
      have hrest := ih (Nat.succ.inj h)
      rw [List.zip_cons_cons, List.filter_cons, List.filter_cons]
      cases p a with
      | false => exact hrest
      | true =>
        rw [if_pos rfl, if_pos rfl, List.map_cons, List.map_cons, List.zip_cons_cons, hrest]

theorem length_filter_zip {α β : Type} {p : α → Bool} {as : List α} {bs : List β}
    (h : bs.length = as.length) :
    ((as.zip bs).filter fun x => p x.1).length = (as.filter p).length := by
  have hfst : ((as.zip bs).filter fun x => p x.1).map Prod.fst = as.filter p := by
    calc ((as.zip bs).filter fun x => p x.1).map Prod.fst
        = ((as.zip bs).map Prod.fst).filter p := List.filter_map.symm
      _ = as.filter p := by rw [List.map_fst_zip (Nat.le_of_eq h.symm)]
  rw [← hfst, List.length_map]

theorem recordSlots_ok {accepts : Column → Bool} {slots : List ParamSlot}
    (he : s.entity? r.entity = some e) (hvalues : s.encodeRecord r = .ok values)
    (hlength : values.length = (s.columns e).length)
    (h : recordSlots s accepts r = .ok slots) :
    slots.length = ((s.columns e).filter accepts).length ∧
      ∀ p ∈ ((s.columns e).filter accepts).zip slots, accepts p.1 = true ∧
        ∃ (i : Nat) (v : SqlValue), (s.columns e)[i]? = some p.1 ∧ values[i]? = some v ∧
          p.2 = .anonymous v := by
  unfold recordSlots at h
  rw [Schema.entity_of_entity? he, hvalues] at h
  cases h
  refine ⟨?_, ?_⟩
  · rw [List.length_map]
    exact length_filter_zip hlength
  · intro p hp
    have hzip := zip_filter_zip ParamSlot.anonymous (p := accepts) hlength
    rw [hzip] at hp
    obtain ⟨⟨c, v⟩, hmem, rfl⟩ := List.mem_map.mp hp
    obtain ⟨hmem, haccepts⟩ := List.mem_filter.mp hmem
    obtain ⟨i, hi⟩ := List.mem_iff_getElem?.mp hmem
    obtain ⟨hc, hv⟩ := List.getElem?_zip_eq_some.mp hi
    exact ⟨haccepts, i, v, hc, hv, rfl⟩

theorem boundValue_ok {columns : List Column} {name : String} {i : Nat}
    (hlength : values.length = columns.length)
    (hi : columns.findIdx? (·.name == name) = some i) :
    ∃ v, values[i]? = some v ∧
      (CompiledStatement.boundValue columns values name).run = .ok (some v) := by
  have hlt : i < values.length := by
    rw [hlength]
    exact (List.findIdx?_eq_some_iff_getElem.mp hi).1
  refine ⟨values[i], List.getElem?_eq_getElem hlt, ?_⟩
  unfold CompiledStatement.boundValue
  rw [hi]
  exact congrArg Except.ok (List.getElem?_eq_getElem hlt)

/-! ## Encodings -/

/-- If the records in a record are those that its fields name and its keys are single values, it is
encoded to one value for each column, every field to its own columns. If also the records behind its
references are, it is fully encoded to one value for each slot of its plan. -/
theorem Schema.encodings_line_up {spec : SchemaSpec} (hs : spec.toSchema = .ok s)
    (he : s.entity? r.entity = some e) :
    (Field.AllSuit e.fields r.values → ∀ values, s.encodeRecord r = .ok values →
      values.length = e.columnCount ∧
      (∀ (i : Nat) (f : Field) (span : Span), e.spans[i]? = some (f, span) →
        ∃ v, r.values[i]? = some v ∧
        s.encodeField f v s!"{e.name}.{f.name}" = .ok (span.slice values)) ∧
      (∀ accepts slots, recordSlots s accepts r = .ok slots →
        slots.length = ((s.columns e).filter accepts).length ∧
          ∀ p ∈ ((s.columns e).filter accepts).zip slots, accepts p.1 = true ∧
            ∃ (i : Nat) (v : SqlValue), (s.columns e)[i]? = some p.1 ∧ values[i]? = some v ∧
              p.2 = .anonymous v) ∧
      ∀ name i, (s.columns e).findIdx? (·.name == name) = some i →
        ∃ v, values[i]? = some v ∧
          (CompiledStatement.boundValue (s.columns e) values name).run = .ok (some v)) ∧
    ∀ (σ : Type) (store : ReferenceStore σ), Field.AllSpread s e.fields r.values store →
      ∃ outcome store', (s.encodeFull r).run.run store = some (outcome, store') ∧
        ∀ values, outcome = .ok values →
          ∃ plan, RowPlan.ofEntity e .full = .ok plan ∧ values.length = plan.width := by
  obtain ⟨entity, vs⟩ := r
  cases name_of_entity? he
  have hcoherent := allCoherent_of_entity? hs he
  have hkeyed := allKeyed_of_entity? hs he
  refine ⟨?_, ?_⟩
  · intro hsuits values hvalues
    obtain ⟨hchecked, hfields⟩ := Field.encodeRecord_ok he hvalues
    have hwidth := Field.length_encodeFields hcoherent hkeyed hsuits hchecked hfields
    have hlength : values.length = (s.columns e).length := by
      rw [hwidth]
      exact (Field.length_columnsOf s.naming {} e.fields).symm
    refine ⟨hwidth, ?_, ?_, ?_⟩
    · intro i f span hspan
      exact Field.slice_encodeFields [] hcoherent hkeyed hsuits hchecked hfields hspan
    · intro accepts slots hslots
      exact recordSlots_ok he hvalues hlength hslots
    · intro name i hi
      exact boundValue_ok hlength hi
  · intro σ store hspreads
    have hends : Fetching.Ends (s.encodeFull ⟨e.name, vs⟩) store
        (·.length = Field.fullWidth e.fields) :=
      Record.ends_encodeFull he rfl fun hlength =>
        Entity.ends_encodeFields e hcoherent hkeyed hspreads hlength
    obtain ⟨outcome, store', hrun, hok⟩ := hends
    exact ⟨outcome, store', hrun, fun values hvalues => ⟨_, rfl, hok values hvalues⟩⟩

/-! ## Persons -/

namespace Sample

def personAt (city : FieldValue) : Record := ⟨"Person", [.scalar (.bigInt 7), .enum "cross",
  .record (.given 1) ⟨"Address", [city, .scalar (.text "Main Street")]⟩, .null,
  .reference ⟨"Person", some [.bigInt 8], .unavailable⟩]⟩

def bern : Record := ⟨"City", [.scalar (.int 3), .scalar (.text "Bern")]⟩

def atlas : ReferenceStore Unit := ⟨⟨fun _ _ _ => (.ok bern, ())⟩, (), []⟩

def toBern : Reference := ⟨"City", some [.int 3], .pending 0⟩

theorem personAt_suits : Field.AllSuit person.fields (personAt (.reference toBern)).values := by
  have hplace : Field.AllSuit address.fields [.reference toBern, .scalar (.text "Main Street")] := by
    refine ⟨?_, trivial, trivial⟩
    rintro _ ⟨⟩
    rfl
  refine ⟨trivial, trivial, ?_, trivial, ?_, trivial⟩
  · rintro _ ⟨⟩
    exact ⟨rfl, hplace⟩
  · rintro _ ⟨⟩
    rfl

/-- A trip to a town that is to be fetched, as is the country of the town. -/
def farTrip : Record := ⟨"Trip", [.scalar (.int 1),
  .record (.given 1) ⟨"Place", [.reference ⟨"Town", some [.int 3], .pending 0⟩]⟩]⟩

def farTown : Record :=
  ⟨"Town", [.scalar (.int 3), .reference ⟨"Country", some [.int 9], .pending 1⟩]⟩

def gazetteer : ReferenceStore Unit where
  fetcher := ⟨fun entity key _ =>
    (.ok (if entity = "Town" then farTown else ⟨entity, key.map .scalar⟩), ())⟩
  state := ()

theorem farTrip_spreads : Field.AllSpread trips trip.fields farTrip.values gazetteer := by
  refine Field.allSpread_cons_of_not_composite rfl trivial ⟨?_, fun _ _ _ _ => trivial⟩
  rintro _ ⟨⟩
  refine ⟨rfl, ?_, fun _ _ _ _ => trivial⟩
  rintro shared store' ⟨⟩
  refine ⟨rfl, Field.allSpread_cons_of_not_composite rfl trivial ⟨?_, fun _ _ _ _ => trivial⟩⟩
  rintro shared store' ⟨⟩
  exact ⟨rfl, trivial, fun _ _ _ _ => trivial⟩

end Sample

/-- The person is encoded to seven values for its table, and the trip to three for a full select: its
town is fetched, and the country that the town refers to. -/
theorem Schema.encodings_line_up_personAt :
    (Sample.spec.toSchema = .ok Sample.schema ∧
      Sample.schema.entity? "Person" = some Sample.person ∧
      ∃ values, Sample.schema.encodeRecord (Sample.personAt (.reference Sample.toBern)) =
          .ok values ∧ values = [.bigInt 7, .text "1", .int 3, .text "Main Street", .null, .null,
            .bigInt 8] ∧
        values.length = Sample.person.columnCount) ∧
    Sample.tripSpec.toSchema = .ok Sample.trips ∧
    Sample.trips.entity? "Trip" = some Sample.trip ∧
    ∃ values store', (Sample.trips.encodeFull Sample.farTrip).run.run Sample.gazetteer =
        some (.ok values, store') ∧ values = [.int 1, .int 3, .int 9] ∧
      ∃ plan, RowPlan.ofEntity Sample.trip .full = .ok plan ∧ values.length = plan.width := by
  have hperson : Sample.schema.entity? "Person" = some Sample.person := rfl
  have htrip : Sample.trips.entity? "Trip" = some Sample.trip := rfl
  refine ⟨⟨Sample.toSchema_spec, hperson, _, rfl, rfl, ?_⟩, Sample.toSchema_tripSpec, htrip, ?_⟩
  · have hall := encodings_line_up Sample.toSchema_spec
      (r := Sample.personAt (.reference Sample.toBern)) hperson
    exact (hall.1 Sample.personAt_suits _ rfl).1
  · have hall := encodings_line_up Sample.toSchema_tripSpec (r := Sample.farTrip) htrip
    obtain ⟨outcome, store', hrun, hok⟩ := hall.2 Unit Sample.gazetteer Sample.farTrip_spreads
    have hvalues : (Sample.trips.encodeFull Sample.farTrip).run.run Sample.gazetteer =
        some (.ok [.int 1, .int 3, .int 9], { Sample.gazetteer with cells :=
          [(1, ⟨"Country", [.scalar (.int 9)]⟩), (0, Sample.farTown)] }) := by
      cbv
    cases hvalues.symm.trans hrun
    exact ⟨_, _, hvalues, rfl, hok _ rfl⟩

/-- A key without values leaves no value for the column of the city, so the street takes its place
and there is none for the last column. A bare key takes one slot of two. -/
theorem Schema.encodings_out_of_line :
    Sample.spec.toSchema = .ok Sample.schema ∧
    (∃ values, Sample.schema.encodeRecord
        (Sample.personAt (.reference ⟨"City", some [], .unavailable⟩)) = .ok values ∧
      values = [.bigInt 7, .text "1", .text "Main Street", .null, .null, .bigInt 8] ∧
      values.length ≠ Sample.person.columnCount ∧
      ((Sample.schema.columns Sample.person)[2]?).map (·.name) = some "home_city_id" ∧
      (CompiledStatement.boundValue (Sample.schema.columns Sample.person) values
        "home_city_id").run = .ok (some (.text "Main Street")) ∧
      ((Sample.schema.columns Sample.person)[6]?).map (·.name) = some "boss_id" ∧
      (CompiledStatement.boundValue (Sample.schema.columns Sample.person) values
        "boss_id").run = .ok none) ∧
    ∃ values, (Sample.schema.encodeFull (Sample.personAt (.scalar (.int 3)))).run.run
        Sample.atlas = some (.ok values, Sample.atlas) ∧
      ∃ plan, RowPlan.ofEntity Sample.person .full = .ok plan ∧ values.length ≠ plan.width := by
  refine ⟨Sample.toSchema_spec, ⟨_, rfl, rfl, ?_⟩, [.bigInt 7, .text "1", .int 3,
    .text "Main Street", .null, .null, .bigInt 8], ?_, _, rfl, ?_⟩
  · decide +kernel
  · cbv
  · decide

end RelMap
