import RelMap.Proofs.Sql.GapSearch
import RelMap.Proofs.Statement.CollectedValues

/-!
# Which parameters are accepted

Parameters are checked in one pass that stops at the first conflict. What it accepts does not depend
on the order: positions must agree where they repeat and be the numbers from 1 to some number, and a
name must stand for one value or for a bind variable.
-/

namespace RelMap

namespace Parameters

variable {dialect : Dialect} {slots : List ParamSlot} {slot : ParamSlot}

/-! ## Positions -/

def positions (slots : List ParamSlot) : List Nat :=
  slots.filterMap fun
    | .positional index _ => some index
    | _ => none

theorem mem_positions {index : Nat} :
    index ∈ positions slots ↔ ∃ value, .positional index value ∈ slots := by
  rw [positions, List.mem_filterMap]
  constructor
  · rintro ⟨_ | ⟨_, value⟩ | _ | _, hslot, hindex⟩ <;> cases hindex
    exact ⟨value, hslot⟩
  · rintro ⟨value, hslot⟩
    exact ⟨_, hslot, rfl⟩

/-- Positions agree and count from 1. -/
structure ConsistentPositions (slots : List ParamSlot) : Prop where
  /-- No parameter has a name. -/
  unnamed : ∀ slot ∈ slots, slot.name? = none
  /-- Equal positions have equal values. -/
  agree : ∀ index value value', .positional index value ∈ slots →
    .positional index value' ∈ slots → value = value'
  /-- The positions are the numbers from 1 to some number. -/
  gapless : ∃ n, ∀ index, index ∈ positions slots ↔ 1 ≤ index ∧ index ≤ n

structure Indexed (slots : List ParamSlot) (indexed : List (Nat × SqlValue)) : Prop where
  unnamed : ∀ slot ∈ slots, slot.name? = none
  exact : ∀ index value, indexed.lookup index = some value ↔ .positional index value ∈ slots
  distinct : (indexed.map Prod.fst).Nodup

namespace Indexed

variable {indexed : List (Nat × SqlValue)} {values : List SqlValue}

theorem nil : Indexed [] [] where
  unnamed := nofun
  exact _ _ := iff_of_false nofun nofun
  distinct := List.nodup_nil

theorem mem_indices_iff (h : Indexed slots indexed) {index : Nat} :
    index ∈ indexed.map Prod.fst ↔ index ∈ positions slots := by
  rw [mem_positions, ← not_iff_not, ← lookup_eq_none_iff, Option.eq_none_iff_forall_ne_some]
  simp only [ne_eq, h.exact, not_exists]

theorem append (h : Indexed slots indexed) (hname : slot.name? = none)
    (hknown : ∀ index value, .positional index value = slot →
      indexed.lookup index = some value) : Indexed (slots ++ [slot]) indexed where
  unnamed slot' hslot' := by
    rcases List.mem_append.mp hslot' with hold | hlast
    · exact h.unnamed slot' hold
    · rwa [List.mem_singleton.mp hlast]
  exact index value := by
    rw [List.mem_append, List.mem_singleton, ← h.exact, iff_self_or]
    exact hknown index value
  distinct := h.distinct

theorem append_fresh (h : Indexed slots indexed) {index : Nat} {value : SqlValue}
    (hfresh : indexed.lookup index = none) :
    Indexed (slots ++ [.positional index value]) (indexed ++ [(index, value)]) where
  unnamed slot hslot := by
    rcases List.mem_append.mp hslot with hold | hlast
    · exact h.unnamed slot hold
    · rw [List.mem_singleton.mp hlast]
      rfl
  exact index' value' := by
    rw [List.mem_append, List.mem_singleton, List.lookup_append, ParamSlot.positional.injEq]
    rcases eq_or_ne index' index with rfl | hne
    · have hnot : .positional index' value' ∉ slots := by
        rw [← h.exact, hfresh]
        exact nofun
      rw [hfresh, List.lookup_cons_self, Option.none_or, Option.some.injEq, or_iff_right hnot,
        eq_self, true_and, eq_comm]
    · have hbeq : (index' == index) = false := beq_false_of_ne hne
      rw [List.lookup_cons, hbeq, List.lookup_nil, Option.or_none, h.exact, iff_self_or]
      exact fun hsame => absurd hsame.1 hne
  distinct := by
    rw [List.map_append]
    exact List.nodup_append.mpr ⟨h.distinct, List.nodup_singleton _, by
      rintro index' hindex' _ hlast rfl
      rw [List.mem_singleton.mp hlast] at hindex'
      exact lookup_eq_none_iff.mp hfresh hindex'⟩

theorem addPositional (h : Indexed slots indexed) {indexed' : List (Nat × SqlValue)}
    {values' : List SqlValue}
    (hslot : addPositional (indexed, values) slot = .ok (indexed', values')) :
    Indexed (slots ++ [slot]) indexed' := by
  unfold Parameters.addPositional at hslot
  cases slot with
  | anonymous value =>
    cases hslot
    exact h.append rfl nofun
  | positional index value =>
    dsimp only at hslot
    split at hslot
    · next known hknown =>
      split at hslot
      · next hsame =>
        cases hslot
        refine h.append rfl ?_
        rintro _ _ ⟨⟩
        rw [hknown, hsame]
      · cases hslot
    · next hfresh =>
      cases hslot
      exact h.append_fresh hfresh
  | named name value | bindVar name => cases hslot

theorem exists_addPositional (h : Indexed slots indexed) (hname : slot.name? = none)
    (hagree : ∀ index value value', slot = .positional index value →
      .positional index value' ∈ slots → value' = value) :
    ∃ state, Parameters.addPositional (indexed, values) slot = .ok state := by
  unfold Parameters.addPositional
  cases slot with
  | anonymous value => exact ⟨_, rfl⟩
  | positional index value =>
    dsimp only
    split
    · next known hknown =>
      rw [if_pos (hagree index value known rfl ((h.exact index known).mp hknown))]
      exact ⟨_, rfl⟩
    · exact ⟨_, rfl⟩
  | named name value | bindVar name => cases hname

end Indexed

theorem indexed_of_fold {indexed : List (Nat × SqlValue)} {values : List SqlValue}
    (h : slots.foldlM addPositional ([], []) = .ok (indexed, values)) : Indexed slots indexed := by
  exact Except.foldlM_keeps (P := fun done state => Indexed done state.1)
    (fun _ _ _ _ hdone hslot => hdone.addPositional hslot) [] .nil h

theorem exists_fold_addPositional (hunnamed : ∀ slot ∈ slots, slot.name? = none)
    (hagree : ∀ index value value', .positional index value ∈ slots →
      .positional index value' ∈ slots → value = value') :
    ∃ state, slots.foldlM addPositional ([], []) = .ok state := by
  refine Except.exists_foldlM_ok (P := fun done state => Indexed done state.1)
    (fun _ _ _ _ hdone hslot => hdone.addPositional hslot) [] .nil ?_
  rintro first slot rest ⟨indexed, values⟩ rfl hfirst
  have hslot : slot ∈ first ++ slot :: rest := List.mem_append_right _ (.head _)
  refine hfirst.exists_addPositional (hunnamed slot hslot) ?_
  rintro index value value' rfl hknown
  exact hagree index value' value (List.mem_append_left _ hknown) hslot

theorem collect_positional_ok_iff :
    (∃ collected, collect slots .positional dialect = .ok collected) ↔
      ConsistentPositions slots := by
  constructor
  · rintro ⟨collected, h⟩
    obtain ⟨⟨indexed, values⟩, hfold, h⟩ := Except.bind_eq_ok h
    obtain ⟨_, hcheck, -⟩ := Except.bind_eq_ok h
    have hindexed := indexed_of_fold hfold
    obtain ⟨n, hn⟩ := checkIndices_eq_ok_iff.mp hcheck
    refine ⟨hindexed.unnamed, ?_, n, fun index => hindexed.mem_indices_iff.symm.trans (hn index)⟩
    intro index value value' hvalue hvalue'
    rw [← hindexed.exact] at hvalue hvalue'
    exact Option.some.inj (hvalue.symm.trans hvalue')
  · rintro ⟨hunnamed, hagree, n, hn⟩
    obtain ⟨⟨indexed, values⟩, hfold⟩ := exists_fold_addPositional hunnamed hagree
    have hindexed := indexed_of_fold hfold
    have hcheck : checkIndices (indexed.map Prod.fst) = .ok () :=
      checkIndices_eq_ok_iff.mpr ⟨n, fun index => hindexed.mem_indices_iff.trans (hn index)⟩
    refine ⟨(positional (values.map dialect.coerce), []), ?_⟩
    unfold collect
    dsimp only
    rw [hfold]
    change (do checkIndices (indexed.map Prod.fst); _) = _
    rw [hcheck]
    rfl

/-- The check of the indices looks at few numbers and stays within the range of the positions. -/
theorem loggedCheck_of_fold {indexed : List (Nat × SqlValue)} {values : List SqlValue}
    (h : slots.foldlM addPositional ([], []) = .ok (indexed, values)) :
    (loggedCheck (indexed.map Prod.fst)).2.length ≤ (positions slots).dedup.length + 1 ∧
      ∀ bound, (∀ index ∈ positions slots, index < bound) →
        ∀ candidate ∈ (loggedCheck (indexed.map Prod.fst)).2, candidate < bound := by
  have hindexed := indexed_of_fold h
  obtain ⟨hlength, hwithin⟩ := snd_loggedCheck (indexed.map Prod.fst)
  constructor
  · have hsubset : (indexed.map Prod.fst).dedup ⊆ (positions slots).dedup := by
      intro index hindex
      rw [List.mem_dedup] at hindex ⊢
      exact hindexed.mem_indices_iff.mp hindex
    have hle := ((List.nodup_dedup _).subperm hsubset).length_le
    omega
  · intro bound hbound candidate hcandidate
    obtain ⟨index, hindex, hle⟩ := hwithin candidate hcandidate
    exact Nat.lt_of_le_of_lt hle (hbound index (hindexed.mem_indices_iff.mp hindex))

/-! ## Names -/

/-- Names have one value or are to be bound. -/
structure ConsistentNames (dialect : Dialect) (slots : List ParamSlot) : Prop where
  /-- Every parameter has a name. -/
  named : ∀ slot ∈ slots, slot.name?.isSome
  /-- No name has a value and is a bind variable too. -/
  apart : ∀ name value, .named name value ∈ slots → .bindVar name ∉ slots
  /-- Equal names have equal values, as the dialect's drivers take them. -/
  agree : ∀ name value value', .named name value ∈ slots → .named name value' ∈ slots →
    dialect.coerce value = dialect.coerce value'

namespace Collected

variable {values : List (String × SqlValue)} {bindVars : List String}

theorem lookup_eq (h : Collected dialect slots values bindVars) {name : String} {value : SqlValue}
    (hslot : .named name value ∈ slots) : values.lookup name = some (dialect.coerce value) := by
  cases h.served _ hslot with
  | stored hlookup => exact hlookup

theorem mem_bindVars_iff (h : Collected dialect slots values bindVars) {name : String} :
    name ∈ bindVars ↔ .bindVar name ∈ slots := by
  constructor
  · intro hname
    obtain ⟨slot, hslot, hsame⟩ := (h.exact name).mp (List.mem_append_right _ hname)
    cases slot with
    | anonymous value | positional index value => cases hsame
    | named name' value =>
      cases hsame
      exact absurd rfl ((List.nodup_append.mp h.distinct).2.2 name
        (mem_of_lookup (h.lookup_eq hslot)) name hname)
    | bindVar name' =>
      cases hsame
      exact hslot
  · intro hslot
    cases h.served _ hslot with
    | bound hname => exact hname

theorem exists_of_lookup (h : Collected dialect slots values bindVars) {name : String}
    {known : SqlValue} (hknown : values.lookup name = some known) :
    ∃ value, .named name value ∈ slots ∧ known = dialect.coerce value := by
  have hmem := mem_of_lookup hknown
  obtain ⟨slot, hslot, hsame⟩ := (h.exact name).mp (List.mem_append_left _ hmem)
  cases slot with
  | anonymous value | positional index value => cases hsame
  | named name' value =>
    cases hsame
    exact ⟨value, hslot, Option.some.inj (hknown.symm.trans (h.lookup_eq hslot))⟩
  | bindVar name' =>
    cases hsame
    exact absurd rfl ((List.nodup_append.mp h.distinct).2.2 name hmem name
      (h.mem_bindVars_iff.mpr hslot))

theorem consistent (h : Collected dialect slots values bindVars) :
    ConsistentNames dialect slots where
  named slot hslot := by
    obtain ⟨name, hname, -⟩ := (h.served slot hslot).exists_name
    rw [hname]
    rfl
  apart name value hslot hbind := by
    have hmem := mem_of_lookup (h.lookup_eq hslot)
    exact (List.nodup_append.mp h.distinct).2.2 name hmem name (h.mem_bindVars_iff.mpr hbind) rfl
  agree name value value' hslot hslot' :=
    Option.some.inj ((h.lookup_eq hslot).symm.trans (h.lookup_eq hslot'))

theorem exists_addNamed (h : Collected dialect slots values bindVars)
    (hslots : ConsistentNames dialect (slots ++ [slot])) :
    ∃ state, Parameters.addNamed dialect (values, bindVars) slot = .ok state := by
  have hlast : slot ∈ slots ++ [slot] := List.mem_append_right _ (.head _)
  have hearlier {slot' : ParamSlot} (hslot' : slot' ∈ slots) : slot' ∈ slots ++ [slot] :=
    List.mem_append_left _ hslot'
  unfold Parameters.addNamed
  cases slot with
  | anonymous value | positional index value => cases hslots.named _ hlast
  | named name value =>
    have hunbound : name ∉ bindVars := by
      intro hname
      exact hslots.apart name value hlast (hearlier (h.mem_bindVars_iff.mp hname))
    dsimp only
    rw [if_neg hunbound]
    split
    · next known hknown =>
      obtain ⟨value', hvalue', rfl⟩ := h.exists_of_lookup hknown
      rw [if_pos (hslots.agree name value' value (hearlier hvalue') hlast)]
      exact ⟨_, rfl⟩
    · exact ⟨_, rfl⟩
  | bindVar name =>
    have hunknown : ¬ (values.lookup name).isSome := by
      intro hknown
      obtain ⟨known, hknown⟩ := Option.isSome_iff_exists.mp hknown
      obtain ⟨value, hvalue, -⟩ := h.exists_of_lookup hknown
      exact hslots.apart name value (hearlier hvalue) hlast
    dsimp only
    rw [if_neg hunknown]
    split <;> exact ⟨_, rfl⟩

end Collected

theorem ConsistentNames.of_append {rest : List ParamSlot}
    (h : ConsistentNames dialect (slots ++ rest)) : ConsistentNames dialect slots where
  named slot hslot := h.named slot (List.mem_append_left _ hslot)
  apart name value hslot hbind :=
    h.apart name value (List.mem_append_left _ hslot) (List.mem_append_left _ hbind)
  agree name value value' hslot hslot' :=
    h.agree name value value' (List.mem_append_left _ hslot) (List.mem_append_left _ hslot')

theorem collect_named_ok_iff :
    (∃ collected, collect slots .named dialect = .ok collected) ↔
      ConsistentNames dialect slots := by
  constructor
  · rintro ⟨⟨parameters, bindVars⟩, h⟩
    obtain ⟨values, -, hcollected⟩ := collect_named h
    exact hcollected.consistent
  · intro h
    have hfold : ∃ state, slots.foldlM (addNamed dialect) ([], []) = .ok state := by
      refine Except.exists_foldlM_ok (P := fun done state => Collected dialect done state.1 state.2)
        (fun _ _ _ _ hdone hslot => hdone.addNamed hslot) [] collected_nil ?_
      rintro first slot rest ⟨values, bindVars⟩ rfl hfirst
      rw [List.append_cons] at h
      exact hfirst.exists_addNamed h.of_append
    obtain ⟨⟨values, bindVars⟩, hfold⟩ := hfold
    refine ⟨(named values, bindVars), ?_⟩
    unfold collect
    dsimp only
    rw [hfold]
    rfl

/-! ## Bind variables -/

/-- The names are in the order in which they are to be bound for the first time. -/
def InAppearance (slots : List ParamSlot) (bindVars : List String) : Prop :=
  bindVars.Pairwise fun name name' =>
    slots.idxOf (.bindVar name) < slots.idxOf (.bindVar name')

/-- The bind variables of the parameters, once each, in order of first appearance. -/
structure BindVarsListed (slots : List ParamSlot) (bindVars : List String) : Prop where
  once : bindVars.Nodup
  exact : ∀ name, name ∈ bindVars ↔ .bindVar name ∈ slots
  ordered : InAppearance slots bindVars

theorem inAppearance_nil : InAppearance slots [] := List.Pairwise.nil

theorem InAppearance.append {bindVars : List String} (h : InAppearance slots bindVars)
    (hslots : ∀ name ∈ bindVars, ParamSlot.bindVar name ∈ slots) (slot : ParamSlot) :
    InAppearance (slots ++ [slot]) bindVars := by
  refine h.imp_of_mem ?_
  intro name name' hname hname' hlt
  rwa [List.idxOf_append_of_mem (hslots name hname), List.idxOf_append_of_mem (hslots name' hname')]

theorem InAppearance.addNamed {values values' : List (String × SqlValue)}
    {bindVars bindVars' : List String} (h : InAppearance slots bindVars)
    (hslots : ∀ name, name ∈ bindVars ↔ .bindVar name ∈ slots)
    (hslot : addNamed dialect (values, bindVars) slot = .ok (values', bindVars')) :
    InAppearance (slots ++ [slot]) bindVars' := by
  have hkept := h.append (fun name => (hslots name).mp) slot
  unfold Parameters.addNamed at hslot
  cases slot with
  | anonymous value | positional index value => cases hslot
  | named name value =>
    dsimp only at hslot
    split at hslot
    · cases hslot
    split at hslot
    · split at hslot <;> cases hslot
      exact hkept
    · cases hslot
      exact hkept
  | bindVar name =>
    dsimp only at hslot
    split at hslot
    · cases hslot
    split at hslot
    · cases hslot
      exact hkept
    · next hunbound =>
      cases hslot
      refine List.pairwise_append.mpr ⟨hkept, List.pairwise_singleton _ _, ?_⟩
      rintro name' hname' _ hlast
      rw [List.mem_singleton.mp hlast]
      have hold : ParamSlot.bindVar name' ∈ slots := (hslots name').mp hname'
      have hnew : ParamSlot.bindVar name ∉ slots := fun hslot => hunbound ((hslots name).mpr hslot)
      rw [List.idxOf_append_of_mem hold, List.idxOf_append_of_notMem hnew]
      exact Nat.lt_of_lt_of_le (List.idxOf_lt_length_of_mem hold) (Nat.le_add_right _ _)

theorem bindVarsListed_of_collect {style : ParamStyle} {parameters : Parameters}
    {bindVars : List String} (h : collect slots style dialect = .ok (parameters, bindVars)) :
    BindVarsListed slots bindVars := by
  cases style with
  | positional =>
    obtain ⟨-, -, -, rfl⟩ := collect_positional h
    have hslots := (collect_positional_ok_iff.mp ⟨_, h⟩).unnamed
    refine ⟨List.nodup_nil, fun name => iff_of_false nofun ?_, inAppearance_nil⟩
    intro hslot
    cases hslots _ hslot
  | named =>
    obtain ⟨⟨values, bindVars⟩, hfold, h⟩ := Except.bind_eq_ok h
    cases h
    obtain ⟨hcollected, hordered⟩ := Except.foldlM_keeps
      (P := fun done state => Collected dialect done state.1 state.2 ∧ InAppearance done state.2)
      (fun _ _ _ _ hdone hslot => ⟨hdone.1.addNamed hslot,
        hdone.2.addNamed (fun _ => hdone.1.mem_bindVars_iff) hslot⟩)
      [] ⟨collected_nil, inAppearance_nil⟩ hfold
    exact ⟨(List.nodup_append.mp hcollected.distinct).2.1,
      fun _ => hcollected.mem_bindVars_iff, hordered⟩

/-! ## Acceptance -/

/-- Exactly the consistent parameters are accepted in each style, after a search for a gap that is
short and stays in range, and bind variables come out in order of first appearance. -/
theorem accepts_exactly_consistent (slots : List ParamSlot) (dialect : Dialect) :
    ((∃ collected, collect slots .positional dialect = .ok collected) ↔
      ConsistentPositions slots) ∧
    (∀ indexed values, slots.foldlM addPositional ([], []) = .ok (indexed, values) →
      (loggedCheck (indexed.map Prod.fst)).1 = checkIndices (indexed.map Prod.fst) ∧
      (loggedCheck (indexed.map Prod.fst)).2.length ≤ (positions slots).dedup.length + 1 ∧
      ∀ bound, (∀ index ∈ positions slots, index < bound) →
        ∀ candidate ∈ (loggedCheck (indexed.map Prod.fst)).2, candidate < bound) ∧
    ((∃ collected, collect slots .named dialect = .ok collected) ↔
      ConsistentNames dialect slots) ∧
    ∀ style parameters bindVars, collect slots style dialect = .ok (parameters, bindVars) →
      BindVarsListed slots bindVars :=
  ⟨collect_positional_ok_iff, fun _ _ hfold => ⟨fst_loggedCheck _, loggedCheck_of_fold hfold⟩,
    collect_named_ok_iff, fun _ _ _ => bindVarsListed_of_collect⟩

end Parameters

namespace Sample

/-- Two positions, out of order and repeated, around a parameter without one. -/
def numbered : List ParamSlot :=
  [.positional 2 (.int 20), .anonymous .null, .positional 1 (.int 10), .positional 2 (.int 20)]

/-- Two bind variables around a name whose values are the same for one of the dialects. -/
def tagged : List ParamSlot :=
  [.bindVar "since", .named "done" (.boolean true), .bindVar "by", .named "done" (.int 1),
    .bindVar "since"]

end Sample

namespace Parameters

theorem accepts_exactly_consistent_samples :
    ConsistentPositions Sample.numbered ∧ ConsistentNames .mySql Sample.tagged ∧
      ¬ ConsistentNames .postgres Sample.tagged ∧
      BindVarsListed Sample.tagged ["since", "by"] := by
  have hnumbered : ∃ collected, collect Sample.numbered .positional .ansi = .ok collected ∧
      True := by
    decide +kernel
  have htagged : ∃ collected, collect Sample.tagged .named .mySql = .ok collected ∧
      collected.2 = ["since", "by"] := by
    decide +kernel
  have hrefused : collect Sample.tagged .named .postgres = .error (.conflictingNamed "done") := by
    decide +kernel
  obtain ⟨⟨parameters, _⟩, htagged, rfl⟩ := htagged
  obtain ⟨hpositions, -, -, -⟩ := accepts_exactly_consistent Sample.numbered .ansi
  obtain ⟨-, -, hnames, hlisted⟩ := accepts_exactly_consistent Sample.tagged .mySql
  obtain ⟨-, -, hnames', -⟩ := accepts_exactly_consistent Sample.tagged .postgres
  refine ⟨hpositions.mp (hnumbered.imp fun _ h => h.1), hnames.mp ⟨_, htagged⟩, ?_,
    hlisted _ _ _ htagged⟩
  rw [← hnames', hrefused]
  exact nofun

/-- A gap far below the greatest index that fits a machine word ends the search at once. -/
example : collect [.positional 1 .null, .positional (2 ^ 64 - 1) .null] .positional .ansi =
    .error (.positionalGap 2) := by
  decide +kernel

end Parameters

end RelMap
