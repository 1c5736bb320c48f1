import RelMap.Proofs.Steps
import RelMap.Schema.Basic

/-!
# Expanded entities

Expansion is described by a relation between declared fields and field trees, which leaves out the
bookkeeping that makes the expansion end. Main statement: in an accepted schema a composite holds
the fields of its target exactly as the target's own entity has them.
-/

namespace RelMap

namespace Draft

/-! ## Expansion as a relation -/

/-- The field trees that declared fields stand for, targets being looked up among all drafts. -/
inductive Expands (naming : NamingStrategy) (drafts : List Draft) :
    List DraftField → List Field → Prop
  | nil : Expands naming drafts [] []
  | scalar {info : FieldInfo} {typ : ScalarType} {rest : List DraftField} {fields : List Field} :
    Expands naming drafts rest fields →
    Expands naming drafts (⟨info, .scalar typ⟩ :: rest) (.scalar info typ :: fields)
  | converted {info : FieldInfo} {converter : Converter} {rest : List DraftField}
    {fields : List Field} :
    Expands naming drafts rest fields →
    Expands naming drafts (⟨info, .converted converter⟩ :: rest) (.converted info converter :: fields)
  | ref {info : FieldInfo} {target : EntityName} {key : KeyColumn} {rest : List DraftField}
    {fields : List Field} :
    targetKey naming drafts target = .ok key → Expands naming drafts rest fields →
    Expands naming drafts (⟨info, .ref target⟩ :: rest) (.ref info target key :: fields)
  | inline {info : FieldInfo} {target : EntityName} {d : Draft} {inner : List Field}
    {rest : List DraftField} {fields : List Field} :
    find? drafts target = some d → Expands naming drafts d.fields inner →
    Expands naming drafts rest fields →
    Expands naming drafts (⟨info, .inline target⟩ :: rest) (.inline info d.info inner :: fields)
  | foreignKey {info : FieldInfo} {target : EntityName} {d : Draft} {key : KeyColumn}
    {inner : List Field} {rest : List DraftField} {fields : List Field} :
    find? drafts target = some d → targetKey naming drafts target = .ok key →
    Expands naming drafts d.fields inner → Expands naming drafts rest fields →
    Expands naming drafts (⟨info, .foreignKey target⟩ :: rest)
      (.foreignKey info d.info key inner :: fields)

variable {naming : NamingStrategy} {drafts fresh : List Draft}

theorem find?_without (drafts : List Draft) (name other : EntityName) :
    find? (without drafts other) name = if name = other then none else find? drafts name := by
  unfold find? without
  rw [List.find?_filter]
  split
  · next h =>
    subst h
    rw [List.find?_eq_none]
    intro d _
    simp
  · next h =>
    congr 1
    funext d
    grind

theorem find?_of_without {name other : EntityName} {d : Draft}
    (h : find? (without drafts other) name = some d) : find? drafts name = some d := by
  rw [find?_without] at h
  split at h
  · cases h
  · exact h

theorem name_of_find? {name : EntityName} {d : Draft} (h : find? drafts name = some d) :
    d.info.name = name := by
  have hname := List.find?_some h
  simpa using hname

def FoundIn (fresh drafts : List Draft) : Prop :=
  ∀ name d, find? fresh name = some d → find? drafts name = some d

theorem FoundIn.without (h : FoundIn fresh drafts) (name : EntityName) :
    FoundIn (without fresh name) drafts :=
  fun other d hd => h other d (find?_of_without hd)

/-- Fresh entities stand for what they are among all drafts, so leaving some out does not change
what a field stands for. -/
theorem expands_of_expand {fields : List DraftField} {result : List Field}
    (hfresh : FoundIn fresh drafts)
    (h : expand naming drafts fresh fields = .ok result) :
    Expands naming drafts fields result := by
  induction fresh, fields using expand.induct naming drafts generalizing result with
  | case1 fresh =>
    rw [expand] at h
    cases h
    exact .nil
  | case2 fresh f rest typ hkind ih =>
    obtain ⟨info, kind⟩ := f
    cases hkind
    rw [expand] at h
    obtain ⟨_, ⟨⟩, h⟩ := Except.bind_eq_ok h
    obtain ⟨fields, hfields, h⟩ := Except.bind_eq_ok h
    cases h
    exact .scalar (ih hfresh hfields)
  | case3 fresh f rest converter hkind ih =>
    obtain ⟨info, kind⟩ := f
    cases hkind
    rw [expand] at h
    obtain ⟨_, ⟨⟩, h⟩ := Except.bind_eq_ok h
    obtain ⟨fields, hfields, h⟩ := Except.bind_eq_ok h
    cases h
    exact .converted (ih hfresh hfields)
  | case4 fresh f rest target hkind ih =>
    obtain ⟨info, kind⟩ := f
    cases hkind
    rw [expand] at h
    obtain ⟨key, hkey, h⟩ := Except.bind_eq_ok h
    obtain ⟨_, ⟨⟩, h⟩ := Except.bind_eq_ok h
    obtain ⟨fields, hfields, h⟩ := Except.bind_eq_ok h
    cases h
    exact .ref hkey (ih hfresh hfields)
  | case5 fresh f rest target hkind hfind ih =>
    obtain ⟨info, kind⟩ := f
    cases hkind
    rw [expand] at h
    dsimp only at h
    split at h
    · cases h
    · next d hfind' => cases hfind.symm.trans hfind'
  | case6 fresh f rest target hkind d hfind ih ihInner =>
    obtain ⟨info, kind⟩ := f
    cases hkind
    rw [expand] at h
    dsimp only at h
    split at h
    · next hfind' => cases hfind.symm.trans hfind'
    · next d' hfind' =>
      cases hfind.symm.trans hfind'
      obtain ⟨inner, hinner, h⟩ := Except.bind_eq_ok h
      obtain ⟨_, ⟨⟩, h⟩ := Except.bind_eq_ok h
      obtain ⟨fields, hfields, h⟩ := Except.bind_eq_ok h
      cases h
      have hexpands := ihInner (hfresh.without target) hinner
      exact .inline (hfresh target d hfind) hexpands (ih hfresh hfields)
  | case7 fresh f rest target hkind hfind ih =>
    obtain ⟨info, kind⟩ := f
    cases hkind
    rw [expand] at h
    dsimp only at h
    split at h
    · cases h
    · next d hfind' => cases hfind.symm.trans hfind'
  | case8 fresh f rest target hkind d hfind ih ihInner =>
    obtain ⟨info, kind⟩ := f
    cases hkind
    rw [expand] at h
    dsimp only at h
    split at h
    · next hfind' => cases hfind.symm.trans hfind'
    · next d' hfind' =>
      cases hfind.symm.trans hfind'
      obtain ⟨key, hkey, h⟩ := Except.bind_eq_ok h
      obtain ⟨inner, hinner, h⟩ := Except.bind_eq_ok h
      obtain ⟨_, ⟨⟩, h⟩ := Except.bind_eq_ok h
      obtain ⟨fields, hfields, h⟩ := Except.bind_eq_ok h
      cases h
      have hexpands := ihInner (hfresh.without target) hinner
      exact .foreignKey (hfresh target d hfind) hkey hexpands (ih hfresh hfields)

theorem Expands.unique {fields : List DraftField} {result result' : List Field}
    (h : Expands naming drafts fields result) (h' : Expands naming drafts fields result') :
    result = result' := by
  induction h generalizing result' with
  | nil =>
    cases h'
    rfl
  | scalar _ ih =>
    cases h' with
    | scalar hrest => rw [ih hrest]
  | converted _ ih =>
    cases h' with
    | converted hrest => rw [ih hrest]
  | ref hkey _ ih =>
    cases h' with
    | ref hkey' hrest =>
      cases hkey.symm.trans hkey'
      rw [ih hrest]
  | inline hfind _ _ ihInner ih =>
    cases h' with
    | inline hfind' hinner hrest =>
      cases hfind.symm.trans hfind'
      rw [ihInner hinner, ih hrest]
  | foreignKey hfind hkey _ _ ihInner ih =>
    cases h' with
    | foreignKey hfind' hkey' hinner hrest =>
      cases hfind.symm.trans hfind'
      cases hkey.symm.trans hkey'
      rw [ihInner hinner, ih hrest]

theorem toEntity_ok {d : Draft} {e : Entity} (h : toEntity naming drafts d = .ok e) :
    e.toEntityInfo = d.info ∧ Expands naming drafts d.fields e.fields := by
  obtain ⟨fields, hfields, h⟩ := Except.bind_eq_ok h
  cases h
  have hall : FoundIn drafts drafts := fun _ _ hd => hd
  exact ⟨rfl, expands_of_expand (hall.without _) hfields⟩

end Draft

/-! ## Accepted schemas -/

namespace Schema

theorem entity?_of_entity {s : Schema} {name : EntityName} {e : Entity}
    (h : s.entity name = .ok e) : s.entity? name = some e := by
  unfold entity at h
  split at h
  · next e' hfind =>
    cases h
    exact hfind
  · cases h

theorem entity_of_entity? {s : Schema} {name : EntityName} {e : Entity}
    (h : s.entity? name = some e) : s.entity name = .ok e := by
  rw [entity, h]

theorem name_of_entity? {s : Schema} {name : EntityName} {e : Entity}
    (h : s.entity? name = some e) : e.name = name := by
  have hname := List.find?_some h
  simpa using hname

theorem find?_of_forall₂ {naming : NamingStrategy} {drafts all : List Draft}
    {entities : List Entity} (name : EntityName)
    (h : List.Forall₂ (fun d e => Draft.toEntity naming all d = .ok e) drafts entities) :
    Option.Rel (fun d e => Draft.toEntity naming all d = .ok e)
      (Draft.find? drafts name) (entities.find? (·.name == name)) := by
  induction h with
  | nil => exact .none
  | @cons d e ds es hd _ ih =>
    have hname : e.name = d.info.name := by rw [(Draft.toEntity_ok hd).1]
    unfold Draft.find? at ih ⊢
    rw [List.find?_cons, List.find?_cons, hname]
    cases d.info.name == name with
    | true => exact .some hd
    | false => exact ih

variable {spec : SchemaSpec} {s : Schema}

theorem toSchema_ok (h : spec.toSchema = .ok s) :
    s.naming = spec.naming ∧ spec.entities.mapM spec.resolveEntity = .ok s.drafts ∧
      s.drafts.forM (Draft.validate s.drafts) = .ok () ∧
      List.Forall₂ (fun d e => Draft.toEntity s.naming s.drafts d = .ok e) s.drafts s.entities := by
  unfold SchemaSpec.toSchema at h
  obtain ⟨_, _, h⟩ := Except.bind_eq_ok h
  obtain ⟨drafts, hdrafts, h⟩ := Except.bind_eq_ok h
  obtain ⟨_, hvalid, h⟩ := Except.bind_eq_ok h
  obtain ⟨entities, hentities, h⟩ := Except.bind_eq_ok h
  cases h
  exact ⟨rfl, hdrafts, hvalid, Except.forall₂_of_mapM_ok hentities⟩

theorem exists_draft_of_entity? (h : spec.toSchema = .ok s) {name : EntityName} {e : Entity}
    (he : s.entity? name = some e) :
    ∃ d, Draft.find? s.drafts name = some d ∧ e.toEntityInfo = d.info ∧
      Draft.Expands s.naming s.drafts d.fields e.fields := by
  have hrel := find?_of_forall₂ name (toSchema_ok h).2.2.2
  unfold entity? at he
  rw [he] at hrel
  cases hfind : Draft.find? s.drafts name with
  | none =>
    rw [hfind] at hrel
    cases hrel
  | some d =>
    rw [hfind] at hrel
    cases hrel with
    | some hd => exact ⟨d, rfl, Draft.toEntity_ok hd⟩

theorem entity?_of_find? (h : spec.toSchema = .ok s) {name : EntityName} {d : Draft}
    {fields : List Field} (hfind : Draft.find? s.drafts name = some d)
    (hfields : Draft.Expands s.naming s.drafts d.fields fields) :
    s.entity? d.info.name = some ⟨d.info, fields⟩ := by
  have hrel := find?_of_forall₂ name (toSchema_ok h).2.2.2
  rw [hfind] at hrel
  unfold entity?
  rw [Draft.name_of_find? hfind]
  cases he : s.entities.find? (·.name == name) with
  | none =>
    rw [he] at hrel
    cases hrel
  | some e =>
    rw [he] at hrel
    cases hrel with
    | some hd =>
      obtain ⟨hinfo, hexpands⟩ := Draft.toEntity_ok hd
      rw [hfields.unique hexpands, ← hinfo]

end Schema

namespace Field

mutual

/-- Every composite inside the field holds the fields of its target's own entity. -/
def Coherent (s : Schema) : Field → Prop
  | .inline _ target fields | .foreignKey _ target _ fields =>
    s.entity? target.name = some ⟨target, fields⟩ ∧ AllCoherent s fields
  | .scalar _ _ | .ref _ _ _ | .converted _ _ => True
termination_by structural f => f

def AllCoherent (s : Schema) : List Field → Prop
  | [] => True
  | f :: rest => Coherent s f ∧ AllCoherent s rest
termination_by structural fs => fs

end

theorem allCoherent_iff {s : Schema} {fields : List Field} :
    AllCoherent s fields ↔ ∀ f ∈ fields, Coherent s f := by
  induction fields with
  | nil => simp [AllCoherent]
  | cons f rest ih => simp [AllCoherent, ih]

end Field

namespace Schema

theorem allCoherent_of_expands {spec : SchemaSpec} {s : Schema} (h : spec.toSchema = .ok s)
    {fields : List DraftField} {result : List Field}
    (hfields : Draft.Expands s.naming s.drafts fields result) : Field.AllCoherent s result := by
  induction hfields with
  | nil => trivial
  | scalar _ ih | converted _ ih | ref _ _ ih => exact ⟨trivial, ih⟩
  | inline hfind hinner _ ihInner ih => exact ⟨⟨entity?_of_find? h hfind hinner, ihInner⟩, ih⟩
  | foreignKey hfind _ hinner _ ihInner ih =>
    exact ⟨⟨entity?_of_find? h hfind hinner, ihInner⟩, ih⟩

/-- In an accepted schema composites agree with the entities they are composed of. -/
theorem allCoherent_of_entity? {spec : SchemaSpec} {s : Schema} (h : spec.toSchema = .ok s)
    {name : EntityName} {e : Entity} (he : s.entity? name = some e) :
    Field.AllCoherent s e.fields := by
  obtain ⟨d, _, _, hfields⟩ := exists_draft_of_entity? h he
  exact allCoherent_of_expands h hfields

end Schema

/-! ## A sample schema

Persons live at an address, which is stored with them and names a city. Stays are known by their
address, levels by their mood and plaques by what is written on them. -/

namespace Sample

/-- Names are kept, the segments of a column joined by underscores. -/
def naming : NamingStrategy where
  table name := name
  column segments := "_".intercalate segments

def twice : Converter where
  columns := [⟨"", .text⟩, ⟨"copy", .text⟩]
  fromColumns
    | [.text value, .text _] => .ok (.scalar (.text value))
    | [.null, .null] => .ok .null
    | _ => .error "two texts expected"
  toColumns
    | .scalar (.text value) => .ok [.text value, .text value]
    | _ => .error "a text expected"

def mood : EnumType := { name := "Mood", variants := ["calm", "cross"], encoding := .ordinal }

def spec : SchemaSpec where
  naming := naming
  converters := [("twice", twice)]
  entities := [
    .ofTable "City" [(.scalar "id" .int : FieldSpec).asPrimaryKey,
      (.scalar "name" .text : FieldSpec).asNullable],
    .ofInline "Address" [.linked "city" "City", .scalar "street" .text],
    .ofInline "Inscription" [.converted "words" "twice"],
    .ofTable "Person" [(.scalar "id" .bigInt : FieldSpec).asPrimaryKey,
      .scalar "mood" (.enum mood), (.composite "home" "Address" : FieldSpec).asNullable,
      (.converted "motto" "twice" : FieldSpec).asNullable, .reference "boss" "Person"],
    .ofTable "Stay" [(.composite "place" "Address" : FieldSpec).asPrimaryKey,
      .reference "guest" "Person"],
    .ofTable "Level" [((.scalar "rank" (.enum mood) : FieldSpec).asPrimaryKey).asNullable],
    .ofTable "Plaque" [(.composite "text" "Inscription" : FieldSpec).asPrimaryKey]]

def city : Entity := ⟨⟨"City", "City", .table⟩,
  [.scalar { name := "id", primaryKey := true } .int,
    .scalar { name := "name", nullable := true } .text]⟩

def address : Entity := ⟨⟨"Address", "Address", .inline⟩,
  [.foreignKey { name := "city" } city.toEntityInfo ⟨"id", .int⟩ city.fields,
    .scalar { name := "street" } .text]⟩

def inscription : Entity := ⟨⟨"Inscription", "Inscription", .inline⟩,
  [.converted { name := "words" } twice]⟩

def person : Entity := ⟨⟨"Person", "Person", .table⟩,
  [.scalar { name := "id", primaryKey := true } .bigInt, .scalar { name := "mood" } (.enum mood),
    .inline { name := "home", nullable := true } address.toEntityInfo address.fields,
    .converted { name := "motto", nullable := true } twice,
    .ref { name := "boss" } "Person" ⟨"id", .bigInt⟩]⟩

def stay : Entity := ⟨⟨"Stay", "Stay", .table⟩,
  [.inline { name := "place", primaryKey := true } address.toEntityInfo address.fields,
    .ref { name := "guest" } "Person" ⟨"id", .bigInt⟩]⟩

def level : Entity := ⟨⟨"Level", "Level", .table⟩,
  [.scalar { name := "rank", primaryKey := true, nullable := true } (.enum mood)]⟩

def plaque : Entity := ⟨⟨"Plaque", "Plaque", .table⟩,
  [.inline { name := "text", primaryKey := true } inscription.toEntityInfo inscription.fields]⟩

def drafts : List Draft := [
  ⟨city.toEntityInfo, [⟨{ name := "id", primaryKey := true }, .scalar .int⟩,
    ⟨{ name := "name", nullable := true }, .scalar .text⟩]⟩,
  ⟨address.toEntityInfo, [⟨{ name := "city" }, .foreignKey "City"⟩,
    ⟨{ name := "street" }, .scalar .text⟩]⟩,
  ⟨inscription.toEntityInfo, [⟨{ name := "words" }, .converted twice⟩]⟩,
  ⟨person.toEntityInfo, [⟨{ name := "id", primaryKey := true }, .scalar .bigInt⟩,
    ⟨{ name := "mood" }, .scalar (.enum mood)⟩,
    ⟨{ name := "home", nullable := true }, .inline "Address"⟩,
    ⟨{ name := "motto", nullable := true }, .converted twice⟩,
    ⟨{ name := "boss" }, .ref "Person"⟩]⟩,
  ⟨stay.toEntityInfo, [⟨{ name := "place", primaryKey := true }, .inline "Address"⟩,
    ⟨{ name := "guest" }, .ref "Person"⟩]⟩,
  ⟨level.toEntityInfo, [⟨{ name := "rank", primaryKey := true, nullable := true },
    .scalar (.enum mood)⟩]⟩,
  ⟨plaque.toEntityInfo, [⟨{ name := "text", primaryKey := true }, .inline "Inscription"⟩]⟩]

def schema : Schema :=
  ⟨[city, address, inscription, person, stay, level, plaque], naming, drafts⟩

theorem toSchema_spec : spec.toSchema = .ok schema := by
  cbv

/-! ### Trips to a town of some country -/

def tripSpec : SchemaSpec where
  naming := naming
  entities := [
    .ofTable "Country" [(.scalar "id" .int : FieldSpec).asPrimaryKey],
    .ofTable "Town" [(.scalar "id" .int : FieldSpec).asPrimaryKey, .linked "country" "Country"],
    .ofInline "Place" [.linked "town" "Town"],
    .ofTable "Trip" [(.scalar "id" .int : FieldSpec).asPrimaryKey,
      (.composite "goal" "Place" : FieldSpec).asNullable]]

def country : Entity := ⟨⟨"Country", "Country", .table⟩,
  [.scalar { name := "id", primaryKey := true } .int]⟩

def town : Entity := ⟨⟨"Town", "Town", .table⟩,
  [.scalar { name := "id", primaryKey := true } .int,
    .foreignKey { name := "country" } country.toEntityInfo ⟨"id", .int⟩ country.fields]⟩

def place : Entity := ⟨⟨"Place", "Place", .inline⟩,
  [.foreignKey { name := "town" } town.toEntityInfo ⟨"id", .int⟩ town.fields]⟩

def trip : Entity := ⟨⟨"Trip", "Trip", .table⟩,
  [.scalar { name := "id", primaryKey := true } .int,
    .inline { name := "goal", nullable := true } place.toEntityInfo place.fields]⟩

def trips : Schema := ⟨[country, town, place, trip], naming, [
  ⟨country.toEntityInfo, [⟨{ name := "id", primaryKey := true }, .scalar .int⟩]⟩,
  ⟨town.toEntityInfo, [⟨{ name := "id", primaryKey := true }, .scalar .int⟩,
    ⟨{ name := "country" }, .foreignKey "Country"⟩]⟩,
  ⟨place.toEntityInfo, [⟨{ name := "town" }, .foreignKey "Town"⟩]⟩,
  ⟨trip.toEntityInfo, [⟨{ name := "id", primaryKey := true }, .scalar .int⟩,
    ⟨{ name := "goal", nullable := true }, .inline "Place"⟩]⟩]⟩

theorem toSchema_tripSpec : tripSpec.toSchema = .ok trips := by
  cbv

end Sample

end RelMap
