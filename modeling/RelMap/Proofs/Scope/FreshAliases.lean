import Mathlib.Data.List.Dedup
import Mathlib.Data.List.Perm.Subperm
import RelMap.Proofs.Names
import RelMap.Proofs.Schema.Expansion
import RelMap.Proofs.Scope.Calls

/-!
# Fresh aliases

Proposals for an alias are made one by one, and all that are turned down are live and distinct. So
there is at most one more of them than live qualifiers, and the search ends with the first proposal
that can be taken, unless an empty or a repeated one comes before. The default aliases of an entity
are all different and never empty, so among them the search always finds the least.
-/

namespace RelMap

/-! ## Default aliases -/

theorem natText_ne_empty (n : Nat) : natText n ≠ "" := by
  intro h
  exact Nat.toDigits_ne_nil (String.ofList_eq_empty_iff.mp h)

theorem defaultAlias_injective (entity : EntityName) :
    Function.Injective (defaultAlias entity) := by
  intro a b h
  unfold defaultAlias at h
  rw [String.append_right_inj] at h
  split at h <;> split at h
  · next ha hb => rw [ha, hb]
  · exact absurd h.symm (natText_ne_empty b)
  · exact absurd h (natText_ne_empty a)
  · exact natText_injective h

theorem defaultAlias_ne_empty (entity : EntityName) (attempt : Nat) :
    defaultAlias entity attempt ≠ "" := by
  intro h
  rw [defaultAlias, String.append_assoc, String.append_eq_empty_iff] at h
  exact absurd h.1 (by decide)

namespace Resolver

/-! ## The search -/

/-- A proposal that can be taken: an alias, and not a live one. -/
def Usable (live : List String) (proposal : String) : Prop := proposal ≠ "" ∧ proposal ∉ live

/-- Proposal number `attempt` is empty, or was made before. -/
def Unfit (propose : Nat → String) (attempt : Nat) : Prop :=
  propose attempt = "" ∨ ∃ earlier < attempt, propose earlier = propose attempt

/-- The search for an alias with no bound to it. Proposals before number `attempt` have been turned
down, and `made` more are made before it ends. -/
inductive Search (entity : EntityName) (propose : Nat → String) (live : List String) :
    Nat → List String → Except AliasError String → Nat → Prop
  | empty {attempt : Nat} {proposed : List String} (hempty : propose attempt = "") :
    Search entity propose live attempt proposed (.error (.emptyProposal entity)) 1
  | repeated {attempt : Nat} {proposed : List String} (hname : propose attempt ≠ "")
    (hrepeated : propose attempt ∈ proposed) :
    Search entity propose live attempt proposed
      (.error (.repeatedProposal entity (propose attempt))) 1
  | taken {attempt : Nat} {proposed : List String} (hname : propose attempt ≠ "")
    (hnew : propose attempt ∉ proposed) (hfresh : propose attempt ∉ live) :
    Search entity propose live attempt proposed (.ok (propose attempt)) 1
  | goesOn {attempt : Nat} {proposed : List String} {outcome : Except AliasError String}
    {made : Nat} (hname : propose attempt ≠ "") (hnew : propose attempt ∉ proposed)
    (hlive : propose attempt ∈ live)
    (h : Search entity propose live (attempt + 1) (propose attempt :: proposed) outcome made) :
    Search entity propose live attempt proposed outcome (made + 1)

section

variable {entity : EntityName} {propose : Nat → String} {live proposed : List String}
  {attempt : Nat} {outcome : Except AliasError String} {made : Nat}

theorem length_le_of_live (hdistinct : proposed.Nodup) (hlive : proposed ⊆ live) :
    proposed.length ≤ live.dedup.length := by
  have hsubset : proposed ⊆ live.dedup := fun q hq => List.mem_dedup.mpr (hlive hq)
  exact (hdistinct.subperm hsubset).length_le

theorem exists_search {fuel : Nat} (hdistinct : proposed.Nodup) (hlive : proposed ⊆ live)
    (hlength : proposed.length = attempt) (hfuel : live.dedup.length < fuel + attempt) :
    ∃ made, attempt + made ≤ live.dedup.length + 1 ∧
      Search entity propose live attempt proposed
        (freshAlias entity propose live fuel attempt proposed) made := by
  have hbound := length_le_of_live hdistinct hlive
  induction fuel generalizing attempt proposed with
  | zero => omega
  | succ fuel ih =>
    rw [freshAlias]
    split
    · next hempty => exact ⟨1, by omega, .empty hempty⟩
    next hname =>
    split
    · next hrepeated => exact ⟨1, by omega, .repeated hname hrepeated⟩
    next hnew =>
    split
    · next hfresh => exact ⟨1, by omega, .taken hname hnew hfresh⟩
    next hlast =>
    have hlast := not_not.mp hlast
    have hdistinct' := List.nodup_cons.mpr ⟨hnew, hdistinct⟩
    have hlive' := List.cons_subset.mpr ⟨hlast, hlive⟩
    obtain ⟨made, hmade, hsearch⟩ := ih hdistinct' hlive' (by rw [List.length_cons, hlength])
      (by omega) (length_le_of_live hdistinct' hlive')
    exact ⟨made + 1, by omega, .goesOn hname hnew hlast hsearch⟩

/-- The proposal that decides the search, all before it being live and no repetitions. -/
structure Decides (entity : EntityName) (propose : Nat → String) (live : List String) (last : Nat)
    (outcome : Except AliasError String) : Prop where
  rejected : ∀ earlier < last, propose earlier ∈ live
  fit : ∀ earlier < last, ¬ Unfit propose earlier
  outcome : (∃ error, outcome = .error error ∧ error.kind = "InvalidStrategyAlias" ∧
      Unfit propose last) ∨
    (outcome = .ok (propose last) ∧ Usable live (propose last) ∧ ¬ Unfit propose last)

theorem unfit_iff (hproposed : ∀ q, q ∈ proposed ↔ ∃ earlier < attempt, propose earlier = q) :
    Unfit propose attempt ↔ propose attempt = "" ∨ propose attempt ∈ proposed := by
  rw [Unfit, hproposed]

theorem Search.exists_decides (h : Search entity propose live attempt proposed outcome made)
    (hproposed : ∀ q, q ∈ proposed ↔ ∃ earlier < attempt, propose earlier = q)
    (hlive : proposed ⊆ live) (hfit : ∀ earlier < attempt, ¬ Unfit propose earlier) :
    ∃ last, attempt + made = last + 1 ∧ Decides entity propose live last outcome := by
  have hearlier {attempt : Nat} {proposed : List String}
      (hproposed : ∀ q, q ∈ proposed ↔ ∃ earlier < attempt, propose earlier = q)
      (hlive : proposed ⊆ live) : ∀ earlier < attempt, propose earlier ∈ live :=
    fun earlier hlt => hlive ((hproposed _).mpr ⟨earlier, hlt, rfl⟩)
  induction h with
  | @empty attempt proposed hempty =>
    exact ⟨attempt, rfl, hearlier hproposed hlive, hfit, .inl ⟨_, rfl, rfl, .inl hempty⟩⟩
  | @repeated attempt proposed hname hrepeated =>
    exact ⟨attempt, rfl, hearlier hproposed hlive, hfit,
      .inl ⟨_, rfl, rfl, (unfit_iff hproposed).mpr (.inr hrepeated)⟩⟩
  | @taken attempt proposed hname hnew hfresh =>
    refine ⟨attempt, rfl, hearlier hproposed hlive, hfit, .inr ⟨rfl, ⟨hname, hfresh⟩, ?_⟩⟩
    rw [unfit_iff hproposed]
    exact not_or.mpr ⟨hname, hnew⟩
  | @goesOn attempt proposed outcome made hname hnew hlast _ ih =>
    have hproposed' : ∀ q, q ∈ propose attempt :: proposed ↔
        ∃ earlier < attempt + 1, propose earlier = q := by
      intro q
      rw [List.mem_cons, hproposed]
      constructor
      · rintro (rfl | ⟨earlier, hlt, hq⟩)
        · exact ⟨attempt, Nat.lt_succ_self attempt, rfl⟩
        · exact ⟨earlier, Nat.lt_succ_of_lt hlt, hq⟩
      · rintro ⟨earlier, hlt, hq⟩
        obtain hlt | rfl := Nat.lt_succ_iff_lt_or_eq.mp hlt
        · exact .inr ⟨earlier, hlt, hq⟩
        · exact .inl hq.symm
    have hfit' : ∀ earlier < attempt + 1, ¬ Unfit propose earlier := by
      intro earlier hlt
      obtain hlt | rfl := Nat.lt_succ_iff_lt_or_eq.mp hlt
      · exact hfit earlier hlt
      · rw [unfit_iff hproposed]
        exact not_or.mpr ⟨hname, hnew⟩
    obtain ⟨last, hcount, hdecides⟩ :=
      ih hproposed' (List.cons_subset.mpr ⟨hlast, hlive⟩) hfit'
    exact ⟨last, by omega, hdecides⟩

/-- The search fails exactly if an empty or a repeated proposal comes before all that can be
taken. -/
theorem Decides.failed_iff {last : Nat} (h : Decides entity propose live last outcome) :
    (∃ error, outcome = .error error ∧ error.kind = "InvalidStrategyAlias") ↔
      ∃ k, Unfit propose k ∧ ∀ j ≤ k, ¬ Usable live (propose j) := by
  constructor
  · rintro ⟨error, hfailed, -⟩
    rcases h.outcome with ⟨-, -, -, hunfit⟩ | ⟨htaken, -⟩
    · refine ⟨last, hunfit, fun j hj husable => ?_⟩
      obtain hlt | rfl := Nat.lt_or_eq_of_le hj
      · exact husable.2 (h.rejected j hlt)
      obtain hempty | ⟨earlier, hlt, hsame⟩ := hunfit
      · exact husable.1 hempty
      · exact husable.2 (hsame ▸ h.rejected earlier hlt)
    · rw [htaken] at hfailed
      cases hfailed
  · rintro ⟨k, hunfit, hnone⟩
    rcases h.outcome with ⟨error, hfailed, hkind, -⟩ | ⟨-, husable, hfit⟩
    · exact ⟨error, hfailed, hkind⟩
    · -- what was taken came after the unfit proposal, which would have ended the search
      rcases Nat.lt_trichotomy k last with hlt | rfl | hgt
      · exact absurd hunfit (h.fit k hlt)
      · exact absurd hunfit hfit
      · exact absurd husable (hnone last (Nat.le_of_lt hgt))

theorem Decides.taken {last : Nat} (h : Decides entity propose live last outcome)
    (hfit : ∀ k, ¬ Unfit propose k) : outcome = .ok (propose last) ∧ propose last ∉ live := by
  rcases h.outcome with ⟨-, -, -, hunfit⟩ | ⟨htaken, husable, -⟩
  · exact absurd hunfit (hfit last)
  · exact ⟨htaken, husable.2⟩

end

theorem not_unfit_defaultAlias (entity : EntityName) (k : Nat) :
    ¬ Unfit (defaultAlias entity) k := by
  rintro (hempty | ⟨earlier, hlt, hsame⟩)
  · exact defaultAlias_ne_empty entity k hempty
  · exact Nat.ne_of_lt hlt (defaultAlias_injective entity hsame)

/-! ## Live qualifiers -/

variable {r r' : Resolver} {scope outer : ScopeId} {naming : NamingStrategy} {entity : EntityInfo}
  {path aliasName : String}

theorem inside_of_mem_chain {goesOn : Scope → Bool} {fuel : Nat}
    (h : outer ∈ r.chain goesOn fuel scope) : r.Inside outer scope := by
  induction fuel generalizing scope with
  | zero => cases h
  | succ fuel ih =>
    rw [chain] at h
    split at h
    · cases h
    next s hs =>
    obtain rfl | h := List.mem_cons.mp h
    · exact .refl
    split at h
    · next parent hparent =>
      split at h
      · refine .step ?_ (ih h)
        rw [parent?, hs]
        exact hparent
      · cases h
    · cases h

theorem mem_liveQualifiers_iff (hr : r.WellNested) {q : String} :
    q ∈ r.liveQualifiers ↔
      ∃ scope, r.Inside scope r.current ∧ ∃ o ∈ r.occurrences scope, o.qualifier = q := by
  constructor
  · intro h
    obtain ⟨scope, hscope, hq⟩ := List.mem_flatMap.mp h
    exact ⟨scope, inside_of_mem_chain hscope, List.mem_map.mp hq⟩
  · rintro ⟨scope, hinside, o, ho, rfl⟩
    exact mem_liveQualifiers hr hinside ho

theorem isRegistered_iff {entity : EntityName} : r.isRegistered entity path = true ↔
    ∃ o ∈ r.occurrences r.current, o.place = (entity, path) := by
  rw [isRegistered, List.any_eq_true]
  refine exists_congr fun o => and_congr_right fun _ => ?_
  rw [isAt_iff, Occurrence.place, Prod.mk.injEq]
  refine and_congr_right fun _ => ⟨fun h => (h path rfl).symm, fun h p hp => ?_⟩
  cases hp
  exact h.symm

/-! ## Generated aliases -/

/-- A resolver that can come up: a new one, also after calls that fail, and whatever has been noted
about the use of tables. -/
inductive Reachable : Resolver → Prop
  | new : Reachable {}
  | call {r : Resolver} (h : Reachable r) (call : Call) : Reachable (call.after r)
  | noted {r : Resolver} (h : Reachable r) (scope : ScopeId) (f : TableUse → TableUse) :
    Reachable (r.modifyTableUse scope f)

theorem Reachable.sound (h : r.Reachable) : r.Sound := by
  induction h with
  | new => exact sound_new
  | call _ call ih => exact ih.after call
  | @noted r _ scope f ih =>
    have hstep : Step Outermost r _ := .use scope f
    exact ih.of_occurrences (ih.nested.step hstep) (SameTables.modifyTableUse r scope f).occurrences

theorem reachable_afterCalls (calls : List Call) : (afterCalls calls).Reachable :=
  List.foldlRecOn calls Call.after .new fun _ h call _ => h.call call

structure Generates (r : Resolver) (naming : NamingStrategy) (entity : EntityInfo) (path : String) :
    Prop where
  /-- Live is what is bound in the current scope or in one around it. -/
  live : ∀ q, q ∈ r.liveQualifiers ↔
    ∃ scope, r.Inside scope r.current ∧ ∃ o ∈ r.occurrences scope, o.qualifier = q
  /-- Nothing is proposed for an occurrence that is there already. -/
  registered : (∃ o ∈ r.occurrences r.current, o.place = (entity.name, path)) →
    (generateAlias naming entity path).run.run r =
      (.error (.duplicatePath entity.name path), r)
  /-- There is at most one more proposal than live qualifiers. -/
  searched : (¬ ∃ o ∈ r.occurrences r.current, o.place = (entity.name, path)) →
    ∃ outcome made, made ≤ r.liveQualifiers.dedup.length + 1 ∧
      Search entity.name (proposals naming entity path) r.liveQualifiers 0 [] outcome made ∧
      (generateAlias naming entity path).run.run r =
        (outcome, r.boundTo entity path outcome)
  /-- The alias is new, and only its occurrence is added. -/
  taken : ∀ aliasName r', (generateAlias naming entity path).run.run r = (.ok aliasName, r') →
    Usable r.liveQualifiers aliasName ∧ r' = r.register ⟨entity, path, aliasName⟩ ∧
      r'.occurrences r.current = r.occurrences r.current ++ [⟨entity, path, aliasName⟩] ∧
      ∀ scope ≠ r.current, r'.occurrences scope = r.occurrences scope
  /-- A strategy fails by an empty or a repeated proposal before all that can be taken. -/
  refused : ∀ strategy, naming.aliasName = some strategy →
    ((∃ error, (generateAlias naming entity path).run.run r = (.error error, r) ∧
        error.kind = "InvalidStrategyAlias") ↔
      (¬ ∃ o ∈ r.occurrences r.current, o.place = (entity.name, path)) ∧
        ∃ k, Unfit (strategy entity.name path) k ∧
          ∀ j ≤ k, ¬ Usable r.liveQualifiers (strategy entity.name path j))
  /-- Without a strategy the first default alias that is not live is taken. -/
  numbered : naming.aliasName = none →
    (¬ ∃ o ∈ r.occurrences r.current, o.place = (entity.name, path)) →
      ∃ n, (generateAlias naming entity path).run.run r = (.ok (defaultAlias entity.name n),
          r.register ⟨entity, path, defaultAlias entity.name n⟩) ∧
        defaultAlias entity.name n ∉ r.liveQualifiers ∧
        ∀ m < n, defaultAlias entity.name m ∈ r.liveQualifiers

theorem exists_decided (naming : NamingStrategy) (hnew : r.isRegistered entity.name path = false) :
    ∃ outcome last, last ≤ r.liveQualifiers.dedup.length ∧
      Search entity.name (proposals naming entity path) r.liveQualifiers 0 [] outcome (last + 1) ∧
      Decides entity.name (proposals naming entity path) r.liveQualifiers last outcome ∧
      (generateAlias naming entity path).run.run r =
        (outcome, r.boundTo entity path outcome) := by
  have hfuel : r.liveQualifiers.dedup.length < r.liveQualifiers.length + 1 + 0 :=
    Nat.lt_succ_of_le (List.dedup_sublist _).length_le
  obtain ⟨made, hmade, hsearch⟩ : ∃ made, 0 + made ≤ r.liveQualifiers.dedup.length + 1 ∧
      Search entity.name (proposals naming entity path) r.liveQualifiers 0 []
        (freshAlias entity.name (proposals naming entity path) r.liveQualifiers
          (r.liveQualifiers.length + 1) 0 []) made :=
    exists_search List.nodup_nil (List.nil_subset _) rfl hfuel
  have hnone : ∀ q, q ∈ [] ↔ ∃ earlier < 0, proposals naming entity path earlier = q := by simp
  obtain ⟨last, hcount, hdecides⟩ := hsearch.exists_decides hnone (List.nil_subset _) nofun
  obtain rfl : made = last + 1 := by omega
  refine ⟨_, last, by omega, hsearch, hdecides, ?_⟩
  rw [run_generateAlias, if_neg (Bool.eq_false_iff.mp hnew)]

theorem Sound.generates (hr : r.Sound) (naming : NamingStrategy) (entity : EntityInfo)
    (path : String) : r.Generates naming entity path where
  live q := mem_liveQualifiers_iff hr.nested
  registered hplace := by
    rw [run_generateAlias, if_pos (isRegistered_iff.mpr hplace)]
  searched hplace := by
    rw [← isRegistered_iff, Bool.not_eq_true] at hplace
    obtain ⟨outcome, last, hlast, hsearch, -, hrun⟩ := exists_decided naming hplace
    exact ⟨outcome, last + 1, Nat.succ_le_succ hlast, hsearch, hrun⟩
  taken aliasName r' h := by
    obtain ⟨hnew, -, hfresh, rfl⟩ := generateAlias_ok h
    obtain ⟨outcome, last, -, -, hdecides, hrun⟩ := exists_decided naming hnew
    refine ⟨?_, rfl, occurrences_register hr.nested.live, fun _ => occurrences_register_of_ne⟩
    rcases hdecides.outcome with ⟨error, rfl, -⟩ | ⟨rfl, husable, -⟩
    · cases hrun.symm.trans h
    · cases hrun.symm.trans h
      exact husable
  refused strategy hstrategy := by
    have hproposals : proposals naming entity path = strategy entity.name path := by
      rw [proposals, hstrategy]
    rw [← isRegistered_iff, Bool.not_eq_true, ← hproposals]
    cases hregistered : r.isRegistered entity.name path with
    | true =>
      rw [run_generateAlias, if_pos hregistered]
      refine iff_of_false ?_ (fun h => Bool.noConfusion h.1)
      rintro ⟨_, ⟨⟩, hkind⟩
      exact absurd hkind (by rw [AliasError.kind]; decide)
    | false =>
      obtain ⟨outcome, last, -, -, hdecides, hrun⟩ := exists_decided naming hregistered
      rw [hrun, and_iff_right rfl, ← hdecides.failed_iff]
      cases outcome with
      | ok aliasName => exact iff_of_false nofun nofun
      | error error => constructor <;> rintro ⟨_, ⟨⟩, hkind⟩ <;> exact ⟨error, rfl, hkind⟩
  numbered hnaming hplace := by
    rw [← isRegistered_iff, Bool.not_eq_true] at hplace
    have hproposals : proposals naming entity path = defaultAlias entity.name := by
      rw [proposals, hnaming]
    obtain ⟨outcome, last, -, -, hdecides, hrun⟩ := exists_decided naming hplace
    rw [hproposals] at hdecides
    obtain ⟨rfl, hfresh⟩ := hdecides.taken (not_unfit_defaultAlias entity.name)
    exact ⟨last, hrun, hfresh, hdecides.rejected⟩

/-! ### One occurrence after the other -/

theorem mem_liveQualifiers_register {o : Occurrence} (hr : r.Sound) (hr' : (r.register o).Sound)
    {q : String} :
    q ∈ (r.register o).liveQualifiers ↔ q ∈ r.liveQualifiers ∨ q = o.qualifier := by
  have hinside {scope : ScopeId} : (r.register o).Inside scope r.current ↔
      r.Inside scope r.current :=
    ⟨fun h => h.congr fun _ => parent?_register.symm, fun h => h.congr fun _ => parent?_register⟩
  rw [mem_liveQualifiers_iff hr.nested, mem_liveQualifiers_iff hr'.nested]
  change (∃ scope, (r.register o).Inside scope r.current ∧ _) ↔ _
  constructor
  · rintro ⟨scope, hscope, other, hother, hq⟩
    by_cases hcurrent : scope = r.current
    · subst hcurrent
      rw [occurrences_register hr.nested.live, List.mem_append, List.mem_singleton] at hother
      obtain hother | rfl := hother
      · exact .inl ⟨_, .refl, other, hother, hq⟩
      · exact .inr hq.symm
    · rw [occurrences_register_of_ne hcurrent] at hother
      exact .inl ⟨scope, hinside.mp hscope, other, hother, hq⟩
  · rintro (⟨scope, hscope, other, hother, hq⟩ | rfl)
    · refine ⟨scope, hinside.mpr hscope, other, ?_, hq⟩
      by_cases hcurrent : scope = r.current
      · subst hcurrent
        rw [occurrences_register hr.nested.live]
        exact List.mem_append_left _ hother
      · rwa [occurrences_register_of_ne hcurrent]
    · refine ⟨r.current, .refl, o, ?_, rfl⟩
      rw [occurrences_register hr.nested.live]
      exact List.mem_append_right _ (.head _)

theorem isRegistered_register {o : Occurrence} (hr : r.Sound)
    (hnew : r.isRegistered entity.name path = false) (hpath : path ≠ o.path) :
    (r.register o).isRegistered entity.name path = false := by
  rw [← Bool.not_eq_true, isRegistered_iff] at hnew ⊢
  rintro ⟨other, hother, hplace⟩
  change other ∈ (r.register o).occurrences r.current at hother
  rw [occurrences_register hr.nested.live, List.mem_append, List.mem_singleton] at hother
  obtain hother | rfl := hother
  · exact hnew ⟨other, hother, hplace⟩
  · exact hpath (congrArg Prod.snd hplace).symm

/-- If the live qualifiers are the first default aliases of an entity, its next occurrences get the
aliases that follow. -/
theorem exists_run_mapM_generateAlias (hnaming : naming.aliasName = none) {paths : List String}
    (hpaths : paths.Nodup) (hr : r.Sound) {k : Nat}
    (hnew : ∀ path ∈ paths, r.isRegistered entity.name path = false)
    (hlive : ∀ q, q ∈ r.liveQualifiers ↔ ∃ m < k, defaultAlias entity.name m = q) :
    ∃ r', (paths.mapM (generateAlias naming entity)).run.run r =
      (.ok ((List.range' k paths.length).map (defaultAlias entity.name)), r') := by
  induction paths generalizing r k with
  | nil => exact ⟨r, rfl⟩
  | cons path rest ih =>
    rw [List.nodup_cons] at hpaths
    have hplace := hnew path (.head _)
    rw [← Bool.not_eq_true, isRegistered_iff] at hplace
    obtain ⟨n, hrun, hfresh, hbefore⟩ := (hr.generates naming entity path).numbered hnaming hplace
    -- the least default alias that is not live is the next one
    obtain rfl : n = k := by
      rcases Nat.lt_trichotomy n k with hlt | heq | hgt
      · exact absurd ((hlive _).mpr ⟨n, hlt, rfl⟩) hfresh
      · exact heq
      · obtain ⟨m, hm, hsame⟩ := (hlive _).mp (hbefore k hgt)
        exact absurd (defaultAlias_injective _ hsame) (Nat.ne_of_lt hm)
    have hqualifier : entity.qualifier (defaultAlias entity.name n) = defaultAlias entity.name n :=
      if_neg (defaultAlias_ne_empty entity.name n)
    have hr' : (r.register ⟨entity, path, defaultAlias entity.name n⟩).Sound := by
      refine hr.register (hnew path (.head _)) fun other hother _ hsame => hfresh ?_
      have hmem := mem_liveQualifiers hr.nested .refl hother
      rw [hsame, Occurrence.qualifier, hqualifier] at hmem
      exact hmem
    have hnew' : ∀ other ∈ rest,
        (r.register ⟨entity, path, defaultAlias entity.name n⟩).isRegistered entity.name other =
          false := by
      intro other hother
      refine isRegistered_register hr (hnew other (.tail _ hother)) ?_
      rintro rfl
      exact hpaths.1 hother
    obtain ⟨r', hrest⟩ := ih hpaths.2 hr' hnew' (k := n + 1) fun q => by
      rw [mem_liveQualifiers_register hr hr', hlive, Occurrence.qualifier, hqualifier]
      constructor
      · rintro (⟨m, hm, hq⟩ | rfl)
        · exact ⟨m, Nat.lt_succ_of_lt hm, hq⟩
        · exact ⟨n, Nat.lt_succ_self n, rfl⟩
      · rintro ⟨m, hm, hq⟩
        obtain hlt | rfl := Nat.lt_succ_iff_lt_or_eq.mp hm
        · exact .inl ⟨m, hlt, hq⟩
        · exact .inr hq.symm
    refine ⟨r', ?_⟩
    rw [List.mapM_cons, ExceptT.run_bind_of_ok hrun, ExceptT.run_bind_of_ok hrest]
    rfl

/-- In every state an alias is searched for with at most one more proposal than there are live
qualifiers. The one that is taken is new, a strategy fails only by its own proposals, and default
aliases are taken in order, so that the occurrences of one entity in a new resolver are numbered. -/
theorem generates_of_reachable (hr : r.Reachable) (naming : NamingStrategy) (entity : EntityInfo)
    (path : String) {paths : List String} (hpaths : paths.Nodup) :
    r.Generates naming entity path ∧ (naming.aliasName = none →
      ∃ r', (paths.mapM (generateAlias naming entity)).run.run {} =
        (.ok ((List.range paths.length).map (defaultAlias entity.name)), r')) := by
  refine ⟨hr.sound.generates naming entity path, fun hnaming => ?_⟩
  have hnone : ({} : Resolver).liveQualifiers = [] := rfl
  rw [List.range_eq_range']
  refine exists_run_mapM_generateAlias hnaming hpaths sound_new (fun _ _ => rfl) fun q => ?_
  rw [hnone]
  exact iff_of_false List.not_mem_nil fun ⟨m, hm, _⟩ => absurd hm (Nat.not_lt_zero m)

/-- In a subquery of a query about persons, another person is called by the next alias. -/
theorem generates_personInside :
    (afterCalls [.set Sample.person.toEntityInfo "_p" "", .push true]).Reachable ∧
      ["", "boss"].Nodup ∧
      (afterCalls [.set Sample.person.toEntityInfo "_p" "", .push true]).Generates Sample.naming
        Sample.person.toEntityInfo "" ∧
      (generateAlias Sample.naming Sample.person.toEntityInfo "").run.run
          (afterCalls [.set Sample.person.toEntityInfo "_p" "", .push true]) =
        (.ok "_p1", (afterCalls [.set Sample.person.toEntityInfo "_p" "", .push true]).register
          ⟨Sample.person.toEntityInfo, "", "_p1"⟩) ∧
      ∃ r', (["", "boss"].mapM (generateAlias Sample.naming Sample.person.toEntityInfo)).run.run {} =
        (.ok ((List.range 2).map (defaultAlias "Person")), r') := by
  have hpaths : ["", "boss"].Nodup := by decide
  obtain ⟨hgenerates, hnumbered⟩ := generates_of_reachable
    (reachable_afterCalls [.set Sample.person.toEntityInfo "_p" "", .push true]) Sample.naming
    Sample.person.toEntityInfo "" hpaths
  exact ⟨reachable_afterCalls _, hpaths, hgenerates, rfl, hnumbered rfl⟩

end Resolver

end RelMap
