import RelMap.Proofs.Schema.Cycles

/-!
# Valid drafts

Validation accepts all drafts of a schema exactly if composition is acyclic, primary keys fit the
kinds of their entities, and links lead to entities with one key field that is not a composite.
Drafts that are accepted can be expanded.
-/

namespace RelMap

/-- An entity of the kind may have that many primary key fields. -/
def EntityKind.AllowsKeys : EntityKind → Nat → Prop
  | .table, count => count = 1
  | .projection, count => count ≤ 1
  | .inline, count => count = 0

namespace DraftKind

def IsKey : DraftKind → Prop
  | .scalar _ | .inline _ => True
  | .foreignKey _ | .ref _ | .converted _ => False

def link? : DraftKind → Option EntityName
  | .foreignKey target | .ref target => some target
  | .scalar _ | .inline _ | .converted _ => none

end DraftKind

namespace Draft

variable {naming : NamingStrategy} {drafts fresh : List Draft} {stack : List EntityName}
  {target : EntityName} {d : Draft} {fields : List DraftField}

/-! ## Primary keys -/

def KeysFit (d : Draft) : Prop :=
  d.info.kind.AllowsKeys d.keyFields.length ∧ ∀ f ∈ d.keyFields, f.kind.IsKey

theorem checkPrimaryKey_eq_ok_iff (d : Draft) : checkPrimaryKey d = .ok () ↔ d.KeysFit := by
  unfold checkPrimaryKey KeysFit
  cases hkind : d.info.kind with
  | inline =>
    cases hfields : d.keyFields with
    | nil => exact iff_of_true rfl ⟨rfl, List.forall_mem_nil _⟩
    | cons f rest => exact iff_of_false nofun fun h => Nat.succ_ne_zero _ h.1
  | table | projection =>
    match hfields : d.keyFields with
    | [] =>
      first
        | exact iff_of_true rfl ⟨Nat.zero_le 1, List.forall_mem_nil _⟩
        | exact iff_of_false nofun fun h => Nat.zero_ne_one h.1
    | [f] =>
      simp only [List.mem_singleton, forall_eq, EntityKind.AllowsKeys, List.length_singleton,
        Nat.le_refl, true_and]
      cases f.kind with
      | scalar | inline => exact iff_of_true rfl trivial
      | foreignKey | ref | converted => exact iff_of_false nofun id
    | f :: g :: rest =>
      apply iff_of_false nofun
      rintro ⟨hcount, -⟩
      simp [EntityKind.AllowsKeys] at hcount

/-! ## Links -/

/-- The entity has one primary key field, and it is no composite that is stored in several
columns. -/
def SimplyKeyed (d : Draft) : Prop :=
  ∃ key, d.keyFields = [key] ∧ ∀ component, key.kind ≠ .inline component

/-- The field takes at most one column name and leads to an entity with a simple key, if it leads to
one at all. -/
def LinkFits (drafts : List Draft) (f : DraftField) : Prop :=
  ∀ target ∈ f.kind.link?,
    (∃ d, find? drafts target = some d ∧ d.SimplyKeyed) ∧ f.info.columnNames.length ≤ 1

theorem checkForeignKey_eq_ok_iff (qualified : String) (columns : Nat) (target : Draft) :
    checkForeignKey qualified columns target = .ok () ↔ target.SimplyKeyed ∧ columns ≤ 1 := by
  unfold checkForeignKey SimplyKeyed
  match hfields : target.keyFields with
  | [] => exact iff_of_false nofun fun ⟨⟨_, h, _⟩, _⟩ => nomatch h
  | [key] =>
    simp only [List.cons.injEq, and_true, exists_eq_left']
    cases hkind : key.kind with
    | inline component => exact iff_of_false nofun fun h => h.1 component rfl
    | _ =>
      dsimp only
      split
      · next hcolumns => exact iff_of_true rfl ⟨nofun, hcolumns⟩
      · next hcolumns => exact iff_of_false nofun fun h => hcolumns h.2
  | f :: g :: rest => exact iff_of_false nofun fun ⟨⟨_, h, _⟩, _⟩ => nomatch h

theorem linkFits_of_checkForeignKey {f : DraftField} {qualified : String}
    (hlink : f.kind.link? = some target) (hfind : find? drafts target = some d)
    (h : checkForeignKey qualified f.info.columnNames.length d = .ok ()) : LinkFits drafts f := by
  intro other hother
  cases hlink.symm.trans hother
  obtain ⟨hkeyed, hcolumns⟩ := (checkForeignKey_eq_ok_iff _ _ _).mp h
  exact ⟨⟨d, hfind, hkeyed⟩, hcolumns⟩

theorem linkFits_of_none {f : DraftField} (hlink : f.kind.link? = none) : LinkFits drafts f := by
  intro target htarget
  cases hlink.symm.trans htarget

theorem linkFits_of_checkForeignKeys {entity : EntityName}
    (h : checkForeignKeys drafts fresh entity fields = .ok ()) :
    ∀ f ∈ fields, LinkFits drafts f := by
  induction fields with
  | nil => exact List.forall_mem_nil _
  | cons f rest ih =>
    rw [checkForeignKeys] at h
    rw [List.forall_mem_cons]
    cases hkind : f.kind with
    | scalar typ | converted converter =>
      rw [hkind] at h
      have hnone : f.kind.link? = none := by rw [hkind]; rfl
      exact ⟨linkFits_of_none hnone, ih h⟩
    | inline component =>
      rw [hkind] at h
      have hnone : f.kind.link? = none := by rw [hkind]; rfl
      dsimp only at h
      split at h
      · exact ⟨linkFits_of_none hnone, ih h⟩
      · exact ⟨linkFits_of_none hnone, ih (Except.check_bind_eq_ok_iff.mp h).2⟩
    | foreignKey target | ref target =>
      rw [hkind] at h
      have hlink : f.kind.link? = some target := by rw [hkind]; rfl
      dsimp only at h
      split at h
      · cases h
      · next d hfind =>
        obtain ⟨hcheck, h⟩ := Except.check_bind_eq_ok_iff.mp h
        exact ⟨linkFits_of_checkForeignKey hlink hfind hcheck, ih h⟩

/-- What is checked again inside of inline composites is what is checked of these themselves. -/
theorem checkForeignKeys_eq_ok (hall : ∀ d ∈ drafts, ∀ f ∈ d.fields, LinkFits drafts f)
    (hfresh : FoundIn fresh drafts) {entity : EntityName}
    (hfields : ∀ f ∈ fields, LinkFits drafts f) :
    checkForeignKeys drafts fresh entity fields = .ok () := by
  induction fresh, entity, fields using checkForeignKeys.induct drafts with
  | case1 fresh entity => rw [checkForeignKeys]
  | case2 fresh entity f rest typ hkind ih | case3 fresh entity f rest converter hkind ih =>
    rw [List.forall_mem_cons] at hfields
    rw [checkForeignKeys, hkind]
    exact ih hfresh hfields.2
  | case4 fresh entity f rest target hkind hfind ih =>
    rw [List.forall_mem_cons] at hfields
    rw [checkForeignKeys, hkind]
    dsimp only
    split
    · exact ih hfresh hfields.2
    · next d hfind' => cases hfind.symm.trans hfind'
  | case5 fresh entity f rest target hkind d hfind ih ihInner =>
    rw [List.forall_mem_cons] at hfields
    rw [checkForeignKeys, hkind]
    dsimp only
    split
    · next hfind' => cases hfind.symm.trans hfind'
    · next d' hfind' =>
      cases hfind.symm.trans hfind'
      have hmem := List.mem_of_find?_eq_some (hfresh target d hfind)
      rw [Except.check_bind_eq_ok_iff]
      exact ⟨ihInner (hfresh.without target) (hall d hmem), ih hfresh hfields.2⟩
  | case6 fresh entity f rest target hkind hfind ih
  | case8 fresh entity f rest target hkind hfind ih =>
    rw [List.forall_mem_cons] at hfields
    obtain ⟨⟨d, hfind', -⟩, -⟩ := hfields.1 target (by rw [hkind]; rfl)
    cases hfind.symm.trans hfind'
  | case7 fresh entity f rest target hkind d hfind ih
  | case9 fresh entity f rest target hkind d hfind ih =>
    rw [List.forall_mem_cons] at hfields
    obtain ⟨⟨d', hfind', hkeyed⟩, hcolumns⟩ := hfields.1 target (by rw [hkind]; rfl)
    cases hfind.symm.trans hfind'
    rw [checkForeignKeys, hkind]
    dsimp only
    rw [hfind]
    dsimp only
    rw [Except.check_bind_eq_ok_iff, checkForeignKey_eq_ok_iff]
    exact ⟨⟨hkeyed, hcolumns⟩, ih hfresh hfields.2⟩

/-! ## All drafts -/

/-- No check depends on the order of the drafts. -/
theorem forall_validate_iff (hdistinct : (drafts.map (·.info.name)).Nodup) :
    (∀ d ∈ drafts, validate drafts d = .ok ()) ↔
      (∀ name, ¬ Relation.TransGen (Composes drafts) name name) ∧ (∀ d ∈ drafts, d.KeysFit) ∧
        ∀ d ∈ drafts, ∀ f ∈ d.fields, LinkFits drafts f := by
  rw [← forall_checkCycles_iff hdistinct]
  simp only [validate, Except.check_bind_eq_ok_iff, checkPrimaryKey_eq_ok_iff]
  constructor
  · intro h
    exact ⟨fun d hd => (h d hd).1, fun d hd => (h d hd).2.1,
      fun d hd => linkFits_of_checkForeignKeys (h d hd).2.2⟩
  · rintro ⟨hcycles, hkeys, hlinks⟩ d hd
    have hall : FoundIn drafts drafts := fun _ _ hfind => hfind
    exact ⟨hcycles d hd, hkeys d hd,
      checkForeignKeys_eq_ok hlinks (hall.without _) (hlinks d hd)⟩

/-! ## Expansion -/

def ScalarKeyed (d : Draft) : Prop := ∃ info typ, d.keyFields = [⟨info, .scalar typ⟩]

theorem SimplyKeyed.scalarKeyed (h : d.SimplyKeyed) (hkeys : d.KeysFit) : d.ScalarKeyed := by
  obtain ⟨⟨info, kind⟩, hfields, hinline⟩ := h
  have hkey : kind.IsKey := hkeys.2 ⟨info, kind⟩ (hfields ▸ .head _)
  cases kind with
  | scalar typ => exact ⟨info, typ, hfields⟩
  | inline component => exact absurd rfl (hinline component)
  | foreignKey | ref | converted => exact hkey.elim

theorem ScalarKeyed.simplyKeyed (h : d.ScalarKeyed) : d.SimplyKeyed := by
  obtain ⟨info, typ, hfields⟩ := h
  exact ⟨_, hfields, nofun⟩

theorem exists_targetKey (naming : NamingStrategy) (hfind : find? drafts target = some d)
    (hkey : d.ScalarKeyed) : ∃ column, targetKey naming drafts target = .ok column := by
  obtain ⟨info, typ, hfields⟩ := hkey
  have hfirst : d.fields.find? (·.info.primaryKey) = some ⟨info, .scalar typ⟩ := by
    rw [← List.head?_filter]
    exact congrArg List.head? hfields
  rw [targetKey, hfind, Option.bind_some, keyColumn?, hfirst]
  exact ⟨_, rfl⟩

/-- What the field is composed of is declared, and what it links to has a scalar key. -/
structure Expandable (drafts : List Draft) (f : DraftField) : Prop where
  component : ∀ target ∈ f.kind.component?, ∃ d, find? drafts target = some d
  link : ∀ target ∈ f.kind.link?, ∃ d, find? drafts target = some d ∧ d.ScalarKeyed

theorem Remain.clear_fields (hfresh : Remain drafts fresh stack)
    (hfind : find? fresh target = some d) (hclear : Clear drafts stack target) :
    d ∈ drafts ∧ AllClear drafts (stack ++ [target]) d.fields := by
  rw [hfresh.find?_eq (hclear target .refl).1] at hfind
  exact ⟨List.mem_of_find?_eq_some hfind, ((clear_iff hfind).mp hclear).2⟩

/-- Where no path of composition comes back, expansion finds every entity among the fresh ones. -/
theorem exists_expand (naming : NamingStrategy)
    (hall : ∀ d ∈ drafts, ∀ f ∈ d.fields, Expandable drafts f)
    (hfresh : Remain drafts fresh stack) (hfields : ∀ f ∈ fields, Expandable drafts f)
    (hclear : AllClear drafts stack fields) :
    ∃ result, expand naming drafts fresh fields = .ok result := by
  induction fresh, fields using expand.induct naming drafts generalizing stack with
  | case1 fresh => exact ⟨[], by rw [expand]⟩
  | case2 fresh f rest typ hkind ih | case3 fresh f rest converter hkind ih =>
    obtain ⟨info, kind⟩ := f
    cases hkind
    rw [List.forall_mem_cons] at hfields
    obtain ⟨others, hothers⟩ := ih hfresh hfields.2 (allClear_cons.mp hclear).2
    rw [expand, hothers]
    exact ⟨_, rfl⟩
  | case4 fresh f rest target hkind ih =>
    obtain ⟨info, kind⟩ := f
    cases hkind
    rw [List.forall_mem_cons] at hfields
    obtain ⟨others, hothers⟩ := ih hfresh hfields.2 (allClear_cons.mp hclear).2
    obtain ⟨d, hfind, hkeyed⟩ := hfields.1.link target rfl
    obtain ⟨key, hkey⟩ := exists_targetKey naming hfind hkeyed
    rw [expand, hothers]
    dsimp only
    rw [hkey]
    exact ⟨_, rfl⟩
  | case5 fresh f rest target hkind hfind ih | case7 fresh f rest target hkind hfind ih =>
    rw [List.forall_mem_cons] at hfields
    obtain ⟨d, hfind'⟩ := hfields.1.component target (by rw [hkind]; rfl)
    have hstack := (allClear_cons.mp hclear).1 target (by rw [hkind]; rfl) target .refl
    rw [hfresh.find?_eq hstack.1] at hfind
    cases hfind.symm.trans hfind'
  | case6 fresh f rest target hkind d hfind ih ihInner =>
    obtain ⟨info, kind⟩ := f
    cases hkind
    rw [List.forall_mem_cons] at hfields
    obtain ⟨hhead, hrest⟩ := allClear_cons.mp hclear
    obtain ⟨others, hothers⟩ := ih hfresh hfields.2 hrest
    obtain ⟨hmem, hinner⟩ := hfresh.clear_fields hfind (hhead target rfl)
    obtain ⟨inner, hinner⟩ := ihInner (hfresh.push target) (hall d hmem) hinner
    rw [expand, hothers]
    dsimp only
    split
    · next hfind' => cases hfind.symm.trans hfind'
    · next d' hfind' =>
      cases hfind.symm.trans hfind'
      rw [hinner]
      exact ⟨_, rfl⟩
  | case8 fresh f rest target hkind d hfind ih ihInner =>
    obtain ⟨info, kind⟩ := f
    cases hkind
    rw [List.forall_mem_cons] at hfields
    obtain ⟨hhead, hrest⟩ := allClear_cons.mp hclear
    obtain ⟨others, hothers⟩ := ih hfresh hfields.2 hrest
    obtain ⟨hmem, hinner⟩ := hfresh.clear_fields hfind (hhead target rfl)
    obtain ⟨inner, hinner⟩ := ihInner (hfresh.push target) (hall d hmem) hinner
    obtain ⟨d', hfind', hkeyed⟩ := hfields.1.link target rfl
    obtain ⟨key, hkey⟩ := exists_targetKey naming hfind' hkeyed
    rw [expand, hothers]
    dsimp only
    split
    · next hfind' => cases hfind.symm.trans hfind'
    · next d' hfind' =>
      cases hfind.symm.trans hfind'
      rw [hinner, hkey]
      exact ⟨_, rfl⟩

end Draft

end RelMap
