import RelMap.Proofs.Statement.AcceptedParameters

/-!
# Generated names

In named style the parameters without a name are numbered. The numbered names differ from each
other, but a parameter may come with one of them. As long as none does, the generated names have no
part in any conflict.
-/

namespace RelMap

/-- The name of an anonymous parameter behind `n` others. -/
def generatedName (n : Nat) : String := "_p" ++ natText (n + 1)

theorem generatedName_injective : Function.Injective generatedName := by
  intro m n h
  exact Nat.succ.inj (natText_injective ((String.append_right_inj _).mp h))

def generatedNames (slots : List ParamSlot) : List String :=
  (List.range (slots.countP ParamSlot.isAnonymous)).map generatedName

/-- The parameters with the names that they have in named style. -/
def withNames (slots : List ParamSlot) : List ParamSlot :=
  slots.mapIdx fun i slot => slot.withName (slots.take i)

def supplied (slots : List ParamSlot) : List ParamSlot := slots.filter (!·.isAnonymous)

variable {slots : List ParamSlot} {name : String} {dialect : Dialect}

theorem nodup_generatedNames (slots : List ParamSlot) : (generatedNames slots).Nodup :=
  List.nodup_range.map generatedName_injective

theorem mem_generatedNames :
    name ∈ generatedNames slots ↔
      ∃ n < slots.countP ParamSlot.isAnonymous, generatedName n = name := by
  simp [generatedNames]

/-! ## Numbers of anonymous parameters -/

theorem countP_take_lt {i : Nat} {value : SqlValue} (h : slots[i]? = some (.anonymous value)) :
    (slots.take i).countP ParamSlot.isAnonymous < slots.countP ParamSlot.isAnonymous := by
  obtain ⟨hlt, hslot⟩ := List.getElem?_eq_some_iff.mp h
  have hsplit : slots = slots.take i ++ .anonymous value :: slots.drop (i + 1) := by
    rw [← hslot, ← List.drop_eq_getElem_cons hlt, List.take_append_drop]
  have hcount := congrArg (List.countP ParamSlot.isAnonymous) hsplit
  rw [List.countP_append, List.countP_cons_of_pos (by rfl)] at hcount
  omega

theorem exists_anonymous {n : Nat} (h : n < slots.countP ParamSlot.isAnonymous) :
    ∃ i value, slots[i]? = some (.anonymous value) ∧
      (slots.take i).countP ParamSlot.isAnonymous = n := by
  induction slots generalizing n with
  | nil => cases h
  | cons slot rest ih =>
    cases slot with
    | anonymous value =>
      cases n with
      | zero => exact ⟨0, value, rfl, rfl⟩
      | succ n =>
        rw [List.countP_cons_of_pos (by rfl)] at h
        obtain ⟨i, value', hi, hcount⟩ := ih (Nat.lt_of_succ_lt_succ h)
        refine ⟨i + 1, value', hi, ?_⟩
        rw [List.take_succ_cons, List.countP_cons_of_pos (by rfl), hcount]
    | positional _ _ | named _ _ | bindVar _ =>
      rw [List.countP_cons_of_neg (by simp [ParamSlot.isAnonymous])] at h
      obtain ⟨i, value', hi, hcount⟩ := ih h
      refine ⟨i + 1, value', hi, ?_⟩
      rw [List.take_succ_cons, List.countP_cons_of_neg (by simp [ParamSlot.isAnonymous]), hcount]

theorem mem_generatedNames_iff :
    name ∈ generatedNames slots ↔ ∃ i value, slots[i]? = some (.anonymous value) ∧
      (ParamSlot.anonymous value).placeholder (slots.take i) = name := by
  rw [mem_generatedNames]
  constructor
  · rintro ⟨n, hn, rfl⟩
    obtain ⟨i, value, hi, rfl⟩ := exists_anonymous hn
    exact ⟨i, value, hi, rfl⟩
  · rintro ⟨i, value, hi, rfl⟩
    exact ⟨_, countP_take_lt hi, rfl⟩

theorem eq_of_placeholder_eq {i j : Nat} {value value' : SqlValue}
    (hi : slots[i]? = some (.anonymous value)) (hj : slots[j]? = some (.anonymous value'))
    (h : (ParamSlot.anonymous value).placeholder (slots.take i) =
      (ParamSlot.anonymous value').placeholder (slots.take j)) : i = j := by
  have hcount : (slots.take i).countP ParamSlot.isAnonymous =
      (slots.take j).countP ParamSlot.isAnonymous := generatedName_injective h
  have hearlier {i j : Nat} {value : SqlValue} (hi : slots[i]? = some (.anonymous value))
      (hlt : i < j) : (slots.take i).countP ParamSlot.isAnonymous <
        (slots.take j).countP ParamSlot.isAnonymous := by
    have hi' : (slots.take j)[i]? = some (.anonymous value) := by
      rw [List.getElem?_take_of_lt hlt, hi]
    have htake : (slots.take j).take i = slots.take i := by
      rw [List.take_take, Nat.min_eq_left (Nat.le_of_lt hlt)]
    exact htake ▸ countP_take_lt hi'
  rcases Nat.lt_trichotomy i j with hlt | heq | hgt
  · have := hearlier hi hlt
    omega
  · exact heq
  · have := hearlier hj hgt
    omega

theorem mem_withNames {slot : ParamSlot} :
    slot ∈ withNames slots ↔ slot ∈ supplied slots ∨ ∃ i value,
      slots[i]? = some (.anonymous value) ∧
        slot = .named ((ParamSlot.anonymous value).placeholder (slots.take i)) value := by
  rw [withNames, List.mem_mapIdx, supplied, List.mem_filter]
  constructor
  · rintro ⟨i, hi, rfl⟩
    have hmem := List.getElem_mem hi
    cases hslot : slots[i] with
    | anonymous value => exact .inr ⟨i, value, by rw [List.getElem?_eq_getElem hi, hslot], rfl⟩
    | positional _ _ | named _ _ | bindVar _ =>
      rw [hslot] at hmem
      exact .inl ⟨hmem, rfl⟩
  · rintro (⟨hslot, hkept⟩ | ⟨i, value, hslot, rfl⟩)
    · obtain ⟨i, hi, rfl⟩ := List.getElem_of_mem hslot
      refine ⟨i, hi, ?_⟩
      cases hslot : slots[i] with
      | anonymous value =>
        rw [hslot] at hkept
        cases hkept
      | positional _ _ | named _ _ | bindVar _ => rfl
    · obtain ⟨hi, hslot⟩ := List.getElem?_eq_some_iff.mp hslot
      exact ⟨i, hi, by rw [hslot]; rfl⟩

theorem mem_supplied_of_name {slot : ParamSlot} (hslot : slot ∈ slots)
    (hname : slot.name? = some name) : slot ∈ supplied slots := by
  rw [supplied, List.mem_filter]
  refine ⟨hslot, ?_⟩
  cases slot with
  | anonymous value => cases hname
  | positional _ _ | named _ _ | bindVar _ => rfl

def NamesApart (slots : List ParamSlot) : Prop :=
  ∀ i value, slots[i]? = some (.anonymous value) → ∀ slot ∈ slots,
    slot.name? ≠ some ((ParamSlot.anonymous value).placeholder (slots.take i))

theorem namesApart_iff :
    NamesApart slots ↔
      ∀ slot ∈ slots, ∀ name, slot.name? = some name → name ∉ generatedNames slots := by
  constructor
  · intro h slot hslot name hname hgenerated
    obtain ⟨i, value, hi, rfl⟩ := mem_generatedNames_iff.mp hgenerated
    exact h i value hi slot hslot hname
  · intro h i value hi slot hslot hname
    exact h slot hslot _ hname (mem_generatedNames_iff.mpr ⟨i, value, hi, rfl⟩)

namespace Parameters

/-! ## Conflicts -/

/-- The parameters give a name two values, or a value although it is to be bound. -/
def Conflict (dialect : Dialect) (slots : List ParamSlot) (name : String) : Prop :=
  (∃ value value', .named name value ∈ slots ∧ .named name value' ∈ slots ∧
    dialect.coerce value ≠ dialect.coerce value') ∨
  ∃ value, .named name value ∈ slots ∧ .bindVar name ∈ slots

/-- A parameter comes with the name of an anonymous one, and has another value or is to be bound. -/
def Clash (dialect : Dialect) (slots : List ParamSlot) (name : String) : Prop :=
  ∃ i value, slots[i]? = some (.anonymous value) ∧
    (ParamSlot.anonymous value).placeholder (slots.take i) = name ∧
    (.bindVar name ∈ slots ∨
      ∃ value', .named name value' ∈ slots ∧ dialect.coerce value' ≠ dialect.coerce value)

theorem consistentNames_iff : ConsistentNames dialect slots ↔
    (∀ slot ∈ slots, slot.name?.isSome) ∧ ∀ name, ¬ Conflict dialect slots name := by
  constructor
  · rintro ⟨hnamed, hapart, hagree⟩
    refine ⟨hnamed, fun name => ?_⟩
    rintro (⟨value, value', hvalue, hvalue', hne⟩ | ⟨value, hvalue, hbind⟩)
    · exact hne (hagree name value value' hvalue hvalue')
    · exact hapart name value hvalue hbind
  · rintro ⟨hnamed, hnone⟩
    refine ⟨hnamed, fun name value hvalue hbind => hnone name (.inr ⟨value, hvalue, hbind⟩), ?_⟩
    intro name value value' hvalue hvalue'
    by_contra hne
    exact hnone name (.inl ⟨value, value', hvalue, hvalue', hne⟩)

theorem Collected.conflict_of_addNamed {values : List (String × SqlValue)} {bindVars : List String}
    {slot : ParamSlot} {e : ParameterError} (h : Collected dialect slots values bindVars)
    (herror : Parameters.addNamed dialect (values, bindVars) slot = .error e) :
    (slot.name? = none ∧ e = .mixedStyles) ∨
      ∃ name, e = .conflictingNamed name ∧ Conflict dialect (slots ++ [slot]) name := by
  have hlast : slot ∈ slots ++ [slot] := List.mem_append_right _ (.head _)
  unfold Parameters.addNamed at herror
  cases slot with
  | anonymous value | positional index value =>
    cases herror
    exact .inl ⟨rfl, rfl⟩
  | named name value =>
    dsimp only at herror
    split at herror
    · next hbound =>
      cases herror
      have hbind := List.mem_append_left [ParamSlot.named name value] (h.mem_bindVars_iff.mp hbound)
      exact .inr ⟨name, rfl, .inr ⟨value, hlast, hbind⟩⟩
    split at herror
    · next known hknown =>
      split at herror
      · cases herror
      · next hne =>
        cases herror
        obtain ⟨value', hvalue', rfl⟩ := h.exists_of_lookup hknown
        exact .inr ⟨name, rfl, .inl ⟨value', value, List.mem_append_left _ hvalue', hlast, hne⟩⟩
    · cases herror
  | bindVar name =>
    dsimp only at herror
    split at herror
    · next hknown =>
      cases herror
      obtain ⟨known, hknown⟩ := Option.isSome_iff_exists.mp hknown
      obtain ⟨value, hvalue, -⟩ := h.exists_of_lookup hknown
      exact .inr ⟨name, rfl, .inr ⟨value, List.mem_append_left _ hvalue, hlast⟩⟩
    · split at herror <;> cases herror

theorem Conflict.mono {slots' : List ParamSlot} (h : Conflict dialect slots name)
    (hsub : slots ⊆ slots') : Conflict dialect slots' name := by
  rcases h with ⟨value, value', hvalue, hvalue', hne⟩ | ⟨value, hvalue, hbind⟩
  · exact .inl ⟨value, value', hsub hvalue, hsub hvalue', hne⟩
  · exact .inr ⟨value, hsub hvalue, hsub hbind⟩

theorem collect_named_eq_error_iff {e : ParameterError} :
    collect slots .named dialect = .error e ↔
      slots.foldlM (addNamed dialect) ([], []) = .error e := by
  unfold collect
  dsimp only
  cases slots.foldlM (addNamed dialect) ([], []) with
  | error e' => constructor <;> · rintro ⟨⟩; rfl
  | ok state => exact iff_of_false nofun nofun

theorem conflict_of_collect_error {e : ParameterError}
    (h : collect slots .named dialect = .error e) :
    ((∃ slot ∈ slots, slot.name? = none) ∧ e = .mixedStyles) ∨
      ∃ name, e = .conflictingNamed name ∧ Conflict dialect slots name := by
  obtain ⟨first, slot, rest, ⟨values, bindVars⟩, rfl, hfirst, hslot⟩ :=
    Except.exists_foldlM_error (collect_named_eq_error_iff.mp h)
  have hsub : first ++ [slot] ⊆ first ++ slot :: rest := by
    rw [List.append_cons first slot rest]
    exact List.subset_append_left _ rest
  rcases (collected_of_fold hfirst).conflict_of_addNamed hslot with
    ⟨hname, he⟩ | ⟨name, he, hconflict⟩
  · exact .inl ⟨⟨slot, List.mem_append_right _ (.head _), hname⟩, he⟩
  · exact .inr ⟨name, he, hconflict.mono hsub⟩

/-! ## Collecting with and without generated names -/

/-- Two states in the course of collecting, one with the generated names before number `count` and
one without them: they know the same of the names that parameters come with. -/
structure Alongside (slots : List ParamSlot) (count : Nat)
    (state state' : List (String × SqlValue) × List String) : Prop where
  bindVars : state.2 = state'.2
  lookup : ∀ slot ∈ slots, ∀ name, slot.name? = some name →
    state.1.lookup name = state'.1.lookup name
  fresh : ∀ n, count ≤ n → n < slots.countP ParamSlot.isAnonymous →
    state.1.lookup (generatedName n) = none ∧ generatedName n ∉ state.2

namespace Alongside

variable {count : Nat} {state state' : List (String × SqlValue) × List String} {slot : ParamSlot}

theorem lookup_concat_of_ne {name name' : String} (h : name ≠ name')
    (values : List (String × SqlValue)) (value : SqlValue) :
    (values ++ [(name', value)]).lookup name = values.lookup name := by
  rw [List.lookup_append, List.lookup_cons, beq_false_of_ne h, List.lookup_nil, Option.or_none]

theorem ne_generatedName (hapart : NamesApart slots) (hslot : slot ∈ slots)
    (hname : slot.name? = some name) {n : Nat} (hn : n < slots.countP ParamSlot.isAnonymous) :
    name ≠ generatedName n := by
  rintro rfl
  exact namesApart_iff.mp hapart slot hslot _ hname (mem_generatedNames.mpr ⟨n, hn, rfl⟩)

/-- The next generated name is new, so that nothing can be wrong with it. -/
theorem addGenerated (h : Alongside slots count state state') (hapart : NamesApart slots)
    (hcount : count < slots.countP ParamSlot.isAnonymous) (value : SqlValue) :
    ∃ next, addNamed dialect state (.named (generatedName count) value) = .ok next ∧
      Alongside slots (count + 1) next state' := by
  obtain ⟨hunknown, hunbound⟩ := h.fresh count (Nat.le_refl count) hcount
  refine ⟨(state.1 ++ [(generatedName count, dialect.coerce value)], state.2), ?_, h.bindVars,
    ?_, ?_⟩
  · simp only [addNamed, if_neg hunbound, hunknown]
  · intro slot hslot name hname
    have hne := ne_generatedName hapart hslot hname hcount
    rw [lookup_concat_of_ne hne]
    exact h.lookup slot hslot name hname
  · intro n hn hlt
    obtain ⟨hunknown, hunbound⟩ := h.fresh n (Nat.le_of_succ_le hn) hlt
    have hne : generatedName n ≠ generatedName count := by
      intro hsame
      have := generatedName_injective hsame
      omega
    rw [lookup_concat_of_ne hne]
    exact ⟨hunknown, hunbound⟩

theorem addSupplied (h : Alongside slots count state state') (hapart : NamesApart slots)
    (hslot : slot ∈ slots) (hsupplied : slot.isAnonymous = false) :
    (∃ e, addNamed dialect state slot = .error e ∧ addNamed dialect state' slot = .error e) ∨
      ∃ next next', addNamed dialect state slot = .ok next ∧
        addNamed dialect state' slot = .ok next' ∧ Alongside slots count next next' := by
  obtain ⟨values, bindVars⟩ := state
  obtain ⟨values', bindVars'⟩ := state'
  obtain rfl : bindVars = bindVars' := h.bindVars
  cases slot with
  | anonymous value => cases hsupplied
  | positional index value => exact .inl ⟨.mixedStyles, rfl, rfl⟩
  | named name value =>
    have hlookup : values.lookup name = values'.lookup name := h.lookup _ hslot name rfl
    simp only [addNamed, hlookup]
    split
    · exact .inl ⟨_, rfl, rfl⟩
    split
    · split
      · exact .inr ⟨_, _, rfl, rfl, h⟩
      · exact .inl ⟨_, rfl, rfl⟩
    · refine .inr ⟨_, _, rfl, rfl, rfl, ?_, ?_⟩
      · intro slot' hslot' name' hname'
        rw [List.lookup_append, List.lookup_append]
        exact congrArg (Option.or · _) (h.lookup slot' hslot' name' hname')
      · intro n hn hlt
        obtain ⟨hunknown, hunbound⟩ := h.fresh n hn hlt
        have hne : generatedName n ≠ name := (ne_generatedName hapart hslot rfl hlt).symm
        rw [lookup_concat_of_ne hne]
        exact ⟨hunknown, hunbound⟩
  | bindVar name =>
    have hlookup : values.lookup name = values'.lookup name := h.lookup _ hslot name rfl
    simp only [addNamed, hlookup]
    split
    · exact .inl ⟨_, rfl, rfl⟩
    split
    · exact .inr ⟨_, _, rfl, rfl, h⟩
    · refine .inr ⟨_, _, rfl, rfl, rfl, h.lookup, ?_⟩
      intro n hn hlt
      obtain ⟨hunknown, hunbound⟩ := h.fresh n hn hlt
      have hne : generatedName n ≠ name := (ne_generatedName hapart hslot rfl hlt).symm
      refine ⟨hunknown, ?_⟩
      rw [List.mem_append, List.mem_singleton, not_or]
      exact ⟨hunbound, hne⟩

theorem foldlM_eq_error_iff {earlier rest : List ParamSlot} {e : ParameterError}
    (hslots : slots = earlier ++ rest) (hapart : NamesApart slots)
    (h : Alongside slots (earlier.countP ParamSlot.isAnonymous) state state') :
    (rest.mapIdx fun i slot => slot.withName (earlier ++ rest.take i)).foldlM
        (addNamed dialect) state = .error e ↔
      (supplied rest).foldlM (addNamed dialect) state' = .error e := by
  induction rest generalizing earlier state state' with
  | nil => exact iff_of_false nofun nofun
  | cons slot rest ih =>
    have hslot : slot ∈ slots := hslots ▸ List.mem_append_right _ (.head _)
    have hrest : slots = (earlier ++ [slot]) ++ rest := by rw [hslots, List.append_cons]
    have hshift : (fun i (slot' : ParamSlot) =>
          slot'.withName (earlier ++ (slot :: rest).take (i + 1))) =
        fun i slot' => slot'.withName (earlier ++ [slot] ++ rest.take i) := by
      funext i slot'
      rw [List.take_succ_cons, List.append_cons]
    rw [List.mapIdx_cons, List.take_zero, List.append_nil, List.foldlM_cons, hshift]
    cases hanonymous : slot.isAnonymous with
    | true =>
      cases slot with
      | positional _ _ | named _ _ | bindVar _ => cases hanonymous
      | anonymous value =>
        have hcount : (earlier ++ [ParamSlot.anonymous value]).countP ParamSlot.isAnonymous =
            earlier.countP ParamSlot.isAnonymous + 1 := by
          rw [List.countP_append]
          rfl
        have hlt : earlier.countP ParamSlot.isAnonymous < slots.countP ParamSlot.isAnonymous := by
          rw [hrest, List.countP_append, hcount]
          omega
        obtain ⟨next, hnext, hstate⟩ := h.addGenerated hapart hlt value
        rw [supplied, List.filter_cons_of_neg (by simp [ParamSlot.isAnonymous])]
        change (addNamed dialect state (.named (generatedName _) value) >>= _) = _ ↔ _
        rw [hnext]
        exact ih hrest (hcount ▸ hstate)
    | false =>
      have hcount : (earlier ++ [slot]).countP ParamSlot.isAnonymous =
          earlier.countP ParamSlot.isAnonymous := by
        rw [List.countP_append, List.countP_singleton, hanonymous]
        rfl
      have hkept : slot.withName earlier = slot := by
        cases slot with
        | anonymous value => cases hanonymous
        | positional _ _ | named _ _ | bindVar _ => rfl
      rw [supplied, List.filter_cons_of_pos (by rw [hanonymous]; rfl), List.foldlM_cons, hkept]
      rcases h.addSupplied hapart hslot hanonymous with
        ⟨e', herror, herror'⟩ | ⟨next, next', hnext, hnext', hstate⟩
      · rw [herror, herror']
        exact Iff.rfl
      · rw [hnext, hnext']
        exact ih hrest (hcount ▸ hstate)

end Alongside

theorem collect_withNames_eq_error_iff (hapart : NamesApart slots) {e : ParameterError} :
    collect (withNames slots) .named dialect = .error e ↔
      collect (supplied slots) .named dialect = .error e := by
  have hstart : Alongside slots 0 ([], []) ([], []) :=
    ⟨rfl, fun _ _ _ _ => rfl, fun _ _ _ => ⟨rfl, nofun⟩⟩
  rw [collect_named_eq_error_iff, collect_named_eq_error_iff]
  exact @Alongside.foldlM_eq_error_iff slots dialect _ _ [] slots e rfl hapart hstart

/-- A conflict that involves generated names is one with a name that a parameter comes with. -/
theorem conflict_withNames (h : Conflict dialect (withNames slots) name) :
    Conflict dialect slots name ∨ Clash dialect slots name := by
  have hslots {slot : ParamSlot} (hslot : slot ∈ supplied slots) : slot ∈ slots :=
    List.mem_of_mem_filter hslot
  rcases h with ⟨value, value', hvalue, hvalue', hne⟩ | ⟨value, hvalue, hbind⟩
  · rcases mem_withNames.mp hvalue with hvalue | ⟨i, given, hi, hgiven⟩ <;>
      rcases mem_withNames.mp hvalue' with hvalue' | ⟨j, given', hj, hgiven'⟩
    · exact .inl (.inl ⟨value, value', hslots hvalue, hslots hvalue', hne⟩)
    · cases hgiven'
      exact .inr ⟨j, value', hj, rfl, .inr ⟨value, hslots hvalue, hne⟩⟩
    · cases hgiven
      exact .inr ⟨i, value, hi, rfl, .inr ⟨value', hslots hvalue', hne.symm⟩⟩
    · cases hgiven
      injection hgiven' with hname hsame
      obtain rfl := eq_of_placeholder_eq hi hj hname
      cases hi.symm.trans hj
      exact absurd (hsame ▸ rfl) hne
  · have hbind : .bindVar name ∈ slots := by
      rcases mem_withNames.mp hbind with hbind | ⟨_, _, _, hgiven⟩
      · exact hslots hbind
      · cases hgiven
    rcases mem_withNames.mp hvalue with hvalue | ⟨i, given, hi, hgiven⟩
    · exact .inl (.inr ⟨value, hslots hvalue, hbind⟩)
    · cases hgiven
      exact .inr ⟨i, value, hi, rfl, .inl hbind⟩

theorem Conflict.withNames (h : Conflict dialect slots name) :
    Conflict dialect (withNames slots) name := by
  have hmem {slot : ParamSlot} (hslot : slot ∈ slots) (hname : slot.name? = some name) :
      slot ∈ RelMap.withNames slots := mem_withNames.mpr (.inl (mem_supplied_of_name hslot hname))
  rcases h with ⟨value, value', hvalue, hvalue', hne⟩ | ⟨value, hvalue, hbind⟩
  · exact .inl ⟨value, value', hmem hvalue rfl, hmem hvalue' rfl, hne⟩
  · exact .inr ⟨value, hmem hvalue rfl, hmem hbind rfl⟩

theorem Clash.withNames (h : Clash dialect slots name) :
    Conflict dialect (withNames slots) name := by
  obtain ⟨i, value, hi, rfl, h⟩ := h
  have hgiven := mem_withNames.mpr (.inr ⟨i, value, hi, rfl⟩)
  rcases h with hbind | ⟨value', hvalue', hne⟩
  · exact .inr ⟨value, hgiven, mem_withNames.mpr (.inl (mem_supplied_of_name hbind rfl))⟩
  · have hvalue' := mem_withNames.mpr (.inl (mem_supplied_of_name hvalue' rfl))
    exact .inl ⟨value', value, hvalue', hgiven, hne⟩

theorem conflict_of_collect_withNames
    (h : collect (withNames slots) .named dialect = .error (.conflictingNamed name)) :
    Conflict dialect slots name ∨ Clash dialect slots name := by
  rcases conflict_of_collect_error h with ⟨-, he⟩ | ⟨_, he, hconflict⟩ <;> cases he
  exact conflict_withNames hconflict

theorem conflict_of_namesApart (hapart : NamesApart slots)
    (h : collect (withNames slots) .named dialect = .error (.conflictingNamed name)) :
    Conflict dialect slots name := by
  rw [collect_withNames_eq_error_iff hapart] at h
  rcases conflict_of_collect_error h with ⟨-, he⟩ | ⟨_, he, hconflict⟩ <;> cases he
  exact hconflict.mono (List.filter_subset_self _)

theorem exists_collect_error (hpositions : ∀ slot ∈ slots, slot.isPositional = false)
    (h : Conflict dialect slots name ∨ Clash dialect slots name) :
    ∃ name', collect (withNames slots) .named dialect = .error (.conflictingNamed name') := by
  have hnamed : ∀ slot ∈ withNames slots, slot.name? ≠ none := by
    intro slot hslot
    rcases mem_withNames.mp hslot with hslot | ⟨i, value, -, rfl⟩
    · rw [supplied, List.mem_filter] at hslot
      cases slot with
      | anonymous value => cases hslot.2
      | positional index value => cases hpositions _ hslot.1
      | named _ _ | bindVar _ => exact nofun
    · exact nofun
  have hconflict : Conflict dialect (withNames slots) name :=
    h.elim Conflict.withNames Clash.withNames
  cases hcollect : collect (withNames slots) .named dialect with
  | ok collected =>
    have hconsistent := collect_named_ok_iff.mp ⟨collected, hcollect⟩
    exact absurd hconflict ((consistentNames_iff.mp hconsistent).2 name)
  | error e =>
    rcases conflict_of_collect_error hcollect with ⟨⟨slot, hslot, hname⟩, -⟩ | ⟨name', rfl, -⟩
    · exact absurd hname (hnamed slot hslot)
    · exact ⟨name', rfl⟩

end Parameters

namespace Fragment

open Parameters

/-- The anonymous parameters of a statement are numbered in order, so that their names differ from
each other. They differ from the names that parameters come with exactly if none of those is one of
the numbered names; then the same goes wrong as without them, and a name is in conflict only if it
comes with two values, or with a value and as a bind variable. In general, conflicts are those among
the names that parameters come with, and those of such a name with a generated one. -/
theorem generated_names_apart (f : Fragment) (keep : ConditionKey → Bool) (dialect : Dialect) :
    (f.render .named keep).slots = withNames (f.params keep) ∧
    (generatedNames (f.params keep)).Nodup ∧
    (NamesApart (f.params keep) ↔ ∀ slot ∈ f.params keep, ∀ name, slot.name? = some name →
      name ∉ generatedNames (f.params keep)) ∧
    (NamesApart (f.params keep) →
      (∀ e, collect (f.render .named keep).slots .named dialect = .error e ↔
        collect (supplied (f.params keep)) .named dialect = .error e) ∧
      ∀ name, collect (f.render .named keep).slots .named dialect =
        .error (.conflictingNamed name) → Conflict dialect (f.params keep) name) ∧
    (∀ name, collect (f.render .named keep).slots .named dialect =
        .error (.conflictingNamed name) →
      Conflict dialect (f.params keep) name ∨ Clash dialect (f.params keep) name) ∧
    ((∀ slot ∈ f.params keep, slot.isPositional = false) →
      ∀ name, Conflict dialect (f.params keep) name ∨ Clash dialect (f.params keep) name →
        ∃ name', collect (f.render .named keep).slots .named dialect =
          .error (.conflictingNamed name')) := by
  have hslots : (f.render .named keep).slots = withNames (f.params keep) := slots_render_withName
  rw [hslots]
  exact ⟨rfl, nodup_generatedNames _, namesApart_iff,
    fun hapart => ⟨fun e => collect_withNames_eq_error_iff hapart,
      fun name => conflict_of_namesApart hapart⟩,
    fun name => conflict_of_collect_withNames,
    fun hpositions name => exists_collect_error hpositions⟩

end Fragment

namespace Sample

def twoIds : Fragment := [.param (.named "_p2" (.int 7)), .text " ", .param (.anonymous (.int 5)),
  .text " ", .param (.named "id" (.int 1)), .text " ", .param (.named "id" (.int 2))]

/-- An anonymous parameter before one that comes with the name that is generated for it. -/
def takenName : Fragment :=
  [.param (.anonymous (.int 5)), .text " ", .param (.named "_p1" (.int 6))]

end Sample

namespace Fragment

open Parameters

theorem generated_names_apart_twoIds :
    NamesApart (Sample.twoIds.params fun _ => true) ∧
      collect (Sample.twoIds.render .named fun _ => true).slots .named .ansi =
        .error (.conflictingNamed "id") ∧
      Conflict .ansi (Sample.twoIds.params fun _ => true) "id" := by
  have hnames : ∀ slot ∈ Sample.twoIds.params fun _ => true,
      ∀ name ∈ slot.name?, name ∉ generatedNames (Sample.twoIds.params fun _ => true) := by
    decide +kernel
  have hrun : collect (Sample.twoIds.render .named fun _ => true).slots .named .ansi =
      .error (.conflictingNamed "id") := by
    decide +kernel
  obtain ⟨-, -, hiff, hapart, -⟩ := generated_names_apart Sample.twoIds (fun _ => true) .ansi
  have h := hiff.mpr fun slot hslot name hname => hnames slot hslot name hname
  exact ⟨h, hrun, (hapart h).2 "id" hrun⟩

/-- A name that comes once is reported to have two values, since one of them was given the same
name. -/
theorem exists_taken_name :
    ¬ NamesApart (Sample.takenName.params fun _ => true) ∧
    (∀ name, ¬ Conflict .ansi (Sample.takenName.params fun _ => true) name) ∧
    Sample.takenName.paramStyle = .ok .named ∧
    Sample.takenName.render .named (fun _ => true) =
      ⟨":_p1 :_p1", [.named "_p1" (.int 5), .named "_p1" (.int 6)]⟩ ∧
    collect (Sample.takenName.render .named fun _ => true).slots .named .ansi =
      .error (.conflictingNamed "_p1") ∧
    Sample.tasks.compile {}
        [.param (.value (.int 5)), .sql " ", .param (.named "_p1" (.int 6))] =
      .error (.parameter (.conflictingNamed "_p1")) := by
  refine ⟨?_, ?_, by decide +kernel, by decide +kernel, by decide +kernel, by decide +kernel⟩
  · intro h
    exact h 0 (.int 5) rfl _ (.tail _ (.head _)) (by decide +kernel)
  · have hparams : Sample.takenName.params (fun _ => true) =
        [.anonymous (.int 5), .named "_p1" (.int 6)] := rfl
    rw [hparams]
    rintro name (⟨value, value', hvalue, hvalue', hne⟩ | ⟨value, -, hbind⟩)
    · simp only [List.mem_cons, reduceCtorEq, ParamSlot.named.injEq, List.not_mem_nil, or_false,
        false_or] at hvalue hvalue'
      rw [hvalue.2, hvalue'.2] at hne
      exact hne rfl
    · simp at hbind

end Fragment

end RelMap
