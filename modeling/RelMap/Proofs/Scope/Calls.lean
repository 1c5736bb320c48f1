import RelMap.Proofs.Scope.Binding
import RelMap.Proofs.Scope.Order

/-!
# Calls on a resolver

Whatever is called on a new resolver, in every scope an entity is bound at most once at a path, and
different entities have different qualifiers. So a look-up with a path is never ambiguous, and one
without a path that is names the paths that settle it.
-/

namespace RelMap.Resolver

variable {r r' : Resolver} {scope : ScopeId} {entity : EntityName} {path : Option String}
  {filter : ScopeFilter} {o : Occurrence}

/-! ## Calls -/

inductive Call where
  | push (correlated : Bool)
  | enter (scope : ScopeId)
  | pop
  | generate (naming : NamingStrategy) (entity : EntityInfo) (path : String)
  | set (entity : EntityInfo) (aliasName path : String)
  | use (entity : EntityInfo) (aliasName : String) (filter : ScopeFilter)

/-- A scope can be entered once it has been opened. -/
def Call.run : Call → Resolving AliasError Unit
  | push correlated => modify (·.push correlated)
  | enter scope => modify fun r => if scope < r.scopes.length then r.enter scope else r
  | pop => modify (·.pop)
  | generate naming entity path => do
    let _ ← generateAlias naming entity path
    return ()
  | set entity aliasName path => setAlias entity aliasName path
  | use entity aliasName filter => do
    let _ ← useAlias entity aliasName filter
    return ()

def Call.after (r : Resolver) (call : Call) : Resolver := (call.run.run.run r).2

def afterCalls (calls : List Call) : Resolver := calls.foldl Call.after {}

/-! ## What calls keep -/

def EntitiesApart (r : Resolver) : Prop :=
  ∀ scope, ∀ o ∈ r.occurrences scope, ∀ other ∈ r.occurrences scope,
    o.entity.name ≠ other.entity.name → o.qualifier ≠ other.qualifier

structure Sound (r : Resolver) : Prop where
  nested : r.WellNested
  places : r.PlacesDistinct
  apart : r.EntitiesApart

theorem sound_new : ({} : Resolver).Sound := by
  have hempty (scope : ScopeId) : ({} : Resolver).occurrences scope = [] := by
    cases scope <;> rfl
  refine ⟨⟨Nat.zero_lt_one, ?_⟩, ?_, ?_⟩
  · intro scope parent hparent
    cases scope with
    | zero => cases hparent
    | succ scope => cases hparent
  · intro scope
    rw [hempty]
    exact List.nodup_nil
  · intro scope o ho
    rw [hempty] at ho
    cases ho

theorem Sound.of_occurrences (hr : r.Sound) (hnested : r'.WellNested)
    (h : ∀ scope, r'.occurrences scope = r.occurrences scope) : r'.Sound := by
  refine ⟨hnested, ?_, ?_⟩
  · intro scope
    rw [h]
    exact hr.places scope
  · intro scope
    rw [h]
    exact hr.apart scope

theorem Sound.register (hr : r.Sound) (hnew : r.isRegistered o.entity.name o.path = false)
    (hapart : ∀ other ∈ r.occurrences r.current,
      other.entity.name ≠ o.entity.name → other.qualifier ≠ o.qualifier) :
    (r.register o).Sound := by
  have hstep : Step (fun _ => True) r (r.register o) := .name o hnew trivial
  obtain ⟨hnested, hplaces⟩ := PlacesDistinct.step hstep ⟨hr.nested, hr.places⟩
  refine ⟨hnested, hplaces, ?_⟩
  intro scope
  by_cases hscope : scope = r.current
  · subst hscope
    rw [occurrences_register hr.nested.live]
    intro a ha b hb hne
    rcases List.mem_append.mp ha with ha | ha <;> rcases List.mem_append.mp hb with hb | hb
    · exact hr.apart _ a ha b hb hne
    · cases List.mem_singleton.mp hb
      exact hapart a ha hne
    · cases List.mem_singleton.mp ha
      exact (hapart b hb hne.symm).symm
    · cases List.mem_singleton.mp ha
      cases List.mem_singleton.mp hb
      exact absurd rfl hne
  · rw [occurrences_register_of_ne hscope]
    exact hr.apart scope

/-- Every call checks first and changes the resolver last. -/
theorem Call.run_error {call : Call} {error : AliasError}
    (h : call.run.run.run r = (.error error, r')) : r' = r := by
  cases call with
  | push | enter | pop => cases h
  | generate naming entity path =>
    rcases ExceptT.bind_eq_error h with h | ⟨aliasName, between, -, h⟩
    · exact generateAlias_error h
    · cases h
  | set entity aliasName path => exact setAlias_error h
  | use entity aliasName filter =>
    rcases ExceptT.bind_eq_error h with h | ⟨scope, between, -, h⟩
    · exact (useAlias_error h).2
    · cases h

theorem Sound.run {call : Call} (hr : r.Sound) (h : call.run.run.run r = (.ok (), r')) :
    r'.Sound := by
  cases call with
  | push correlated =>
    cases h
    have hstep : Step Outermost r (r.push correlated) := .push correlated
    exact hr.of_occurrences (hr.nested.step hstep) fun _ => occurrences_push
  | enter scope =>
    cases h
    dsimp only
    split
    · next hlt => exact hr.of_occurrences (hr.nested.of_same (fun _ => rfl) rfl hlt) fun _ => rfl
    · exact hr
  | pop =>
    cases h
    have hstep : Step Outermost r r.pop := .pop
    exact hr.of_occurrences (hr.nested.step hstep) fun _ => rfl
  | generate naming entity path =>
    obtain ⟨aliasName, between, hrun, h⟩ := ExceptT.bind_eq_ok h
    cases h
    obtain ⟨hnew, -, hfresh, rfl⟩ := generateAlias_ok hrun
    refine hr.register hnew fun other hother _ hsame => hfresh ?_
    have hlive := mem_liveQualifiers hr.nested .refl hother
    rw [hsame] at hlive
    exact hlive
  | set entity aliasName path =>
    obtain ⟨hnew, hapart, rfl⟩ := setAlias_ok h
    exact hr.register hnew hapart
  | use entity aliasName filter =>
    obtain ⟨scope, between, hrun, h⟩ := ExceptT.bind_eq_ok h
    cases h
    obtain ⟨-, rfl⟩ := useAlias_ok hrun
    have hstep : Step Outermost r _ := .use scope (·.mark (entity.qualifier aliasName))
    exact hr.of_occurrences (hr.nested.step hstep) (SameTables.modifyTableUse r scope _).occurrences

theorem Sound.after (hr : r.Sound) (call : Call) : (call.after r).Sound := by
  cases hrun : call.run.run.run r with
  | mk outcome r' =>
    rw [Call.after, hrun]
    cases outcome with
    | error error => exact Call.run_error hrun ▸ hr
    | ok => exact hr.run hrun

theorem sound_afterCalls (calls : List Call) : (afterCalls calls).Sound :=
  List.foldlRecOn calls Call.after sound_new fun _ hr call _ => hr.after call

/-! ## Visible scopes -/

/-- The scopes visible from a scope, nearest first: the scope itself and, if it is correlated, those
visible from its parent. -/
inductive Sees (r : Resolver) : ScopeId → List ScopeId → Prop
  | only {scope : ScopeId} {s : Scope} (hs : r.scopes[scope]? = some s)
    (hends : s.correlated = false ∨ s.parent = none) : Sees r scope [scope]
  | through {scope parent : ScopeId} {s : Scope} {around : List ScopeId}
    (hs : r.scopes[scope]? = some s) (hcorrelated : s.correlated = true)
    (hparent : s.parent = some parent) (h : Sees r parent around) : Sees r scope (scope :: around)

theorem sees_chain (hr : r.WellNested) {fuel : Nat} (hscope : scope < r.scopes.length)
    (hfuel : scope < fuel) : r.Sees scope (r.chain (·.correlated) fuel scope) := by
  induction fuel generalizing scope with
  | zero => cases hfuel
  | succ fuel ih =>
    have hs := List.getElem?_eq_getElem hscope
    rw [chain, hs]
    dsimp only
    split
    · next parent hparent =>
      split
      · next hcorrelated =>
        have hlt : parent < scope := hr.older scope parent (by rw [parent?, hs]; exact hparent)
        have hfuel' := Nat.lt_of_lt_of_le hlt (Nat.le_of_lt_succ hfuel)
        exact .through hs hcorrelated hparent (ih (Nat.lt_trans hlt hscope) hfuel')
      · next hcorrelated => exact .only hs (.inl (Bool.eq_false_iff.mpr hcorrelated))
    · next hparent => exact .only hs (.inr hparent)

/-! ## Look-ups -/

def hasMatch (r : Resolver) (entity : EntityName) (path : Option String) (scope : ScopeId) : Bool :=
  (r.occurrences scope).any (isAt entity path)

def nearest? (r : Resolver) (entity : EntityName) (path : Option String) (filter : ScopeFilter) :
    Option ScopeId :=
  (r.visibleScopes filter).find? (r.hasMatch entity path)

def answerIn (r : Resolver) (entity : EntityName) (path : Option String) (scope : ScopeId) :
    Except AliasError (ScopeId × Occurrence) :=
  match (r.occurrences scope).filter (isAt entity path) with
  | [o] => .ok (scope, o)
  | many => .error (.ambiguous entity (Path.sorted (many.map (·.path))))

theorem hasMatch_eq_false_iff : r.hasMatch entity path scope = false ↔
    (r.occurrences scope).filter (isAt entity path) = [] := by
  rw [hasMatch, List.any_eq_false, List.filter_eq_nil_iff]

theorem findBinding_eq : r.findBinding entity path filter =
    match r.nearest? entity path filter with
    | none => .error (.notFound entity path)
    | some scope => r.answerIn entity path scope := by
  unfold findBinding nearest?
  induction r.visibleScopes filter with
  | nil => rfl
  | cons scope rest ih =>
    rw [bindingIn]
    cases hmatches : (r.occurrences scope).filter (isAt entity path) with
    | nil =>
      have hno := hasMatch_eq_false_iff.mpr hmatches
      rw [List.find?_cons_of_neg (Bool.eq_false_iff.mp hno)]
      exact ih
    | cons first others =>
      have hmatch : r.hasMatch entity path scope = true := by
        rw [← Bool.not_eq_false, hasMatch_eq_false_iff, hmatches]
        exact List.cons_ne_nil first others
      rw [List.find?_cons_of_pos hmatch]
      dsimp only
      rw [answerIn, hmatches]
      cases others <;> rfl

theorem findBinding_of_nearest? (h : r.nearest? entity path filter = some scope) :
    r.findBinding entity path filter = r.answerIn entity path scope := by
  rw [findBinding_eq, h]

theorem findBinding_eq_notFound (h : r.nearest? entity path filter = none) :
    r.findBinding entity path filter = .error (.notFound entity path) := by
  rw [findBinding_eq, h]

/-- A look-up succeeds exactly if the nearest scope with a match has just one. -/
theorem findBinding_eq_ok_iff : r.findBinding entity path filter = .ok (scope, o) ↔
    r.nearest? entity path filter = some scope ∧
      (r.occurrences scope).filter (isAt entity path) = [o] := by
  cases hnearest : r.nearest? entity path filter with
  | none =>
    rw [findBinding_eq_notFound hnearest]
    exact iff_of_false nofun nofun
  | some nearest =>
    rw [findBinding_of_nearest? hnearest, answerIn]
    constructor
    · intro h
      split at h
      · next hmatches =>
        cases h
        exact ⟨rfl, hmatches⟩
      · cases h
    · rintro ⟨hsame, hmatches⟩
      cases hsame
      rw [hmatches]

theorem exists_match (h : r.nearest? entity path filter = some scope) :
    ∃ o ∈ r.occurrences scope, o.entity.name = entity ∧ ∀ p ∈ path, p = o.path := by
  have hmatch : r.hasMatch entity path scope = true := List.find?_some h
  obtain ⟨o, ho, hat⟩ := List.any_eq_true.mp hmatch
  exact ⟨o, ho, isAt_iff.mp hat⟩

/-! ### With a path -/

theorem findBinding_at_eq_ok_iff (hr : r.PlacesDistinct) {path : String} :
    r.findBinding entity (some path) filter = .ok (scope, o) ↔
      r.nearest? entity (some path) filter = some scope ∧ o ∈ r.occurrences scope ∧
        o.place = (entity, path) := by
  rw [findBinding_eq_ok_iff, and_congr_right_iff]
  intro _
  constructor
  · intro hmatches
    have ho : o ∈ (r.occurrences scope).filter (isAt entity (some path)) := by
      rw [hmatches]
      exact .head _
    obtain ⟨ho, hat⟩ := List.mem_filter.mp ho
    obtain ⟨hname, hpath⟩ := isAt_iff.mp hat
    exact ⟨ho, Prod.ext hname (hpath path rfl).symm⟩
  · rintro ⟨ho, hplace⟩
    cases hplace
    exact filter_isAt_of_mem hr ho

theorem exists_findBinding_at (hr : r.PlacesDistinct) {path : String}
    (h : r.nearest? entity (some path) filter = some scope) :
    ∃ o ∈ r.occurrences scope, o.place = (entity, path) ∧
      r.findBinding entity (some path) filter = .ok (scope, o) := by
  obtain ⟨o, ho, hname, hpath⟩ := exists_match h
  have hplace : o.place = (entity, path) := Prod.ext hname (hpath path rfl).symm
  exact ⟨o, ho, hplace, (findBinding_at_eq_ok_iff hr).mpr ⟨h, ho, hplace⟩⟩

/-! ### Without a path -/

/-- A scope that decides without a path decides with each path it has. -/
theorem nearest?_at_of_mem (h : r.nearest? o.entity.name none filter = some scope)
    (ho : o ∈ r.occurrences scope) :
    r.nearest? o.entity.name (some o.path) filter = some scope := by
  unfold nearest? at h ⊢
  rw [List.find?_eq_some_iff_append] at h ⊢
  obtain ⟨-, nearer, further, hvisible, hnone⟩ := h
  refine ⟨?_, nearer, further, hvisible, ?_⟩
  · refine List.any_eq_true.mpr ⟨o, ho, isAt_iff.mpr ⟨rfl, ?_⟩⟩
    rintro _ ⟨⟩
    rfl
  · intro inner hinner
    have hno := hnone inner hinner
    rw [Bool.not_eq_true', hasMatch, List.any_eq_false] at hno ⊢
    intro other hother hat
    exact hno other hother (isAt_iff.mpr ⟨(isAt_iff.mp hat).1, nofun⟩)

def pathsIn (r : Resolver) (entity : EntityName) (scope : ScopeId) : List String :=
  ((r.occurrences scope).filter (isAt entity none)).map (·.path)

theorem mem_pathsIn {path : String} :
    path ∈ r.pathsIn entity scope ↔ ∃ o ∈ r.occurrences scope, o.place = (entity, path) := by
  unfold pathsIn
  rw [List.mem_map]
  constructor
  · rintro ⟨o, ho, rfl⟩
    obtain ⟨ho, hat⟩ := List.mem_filter.mp ho
    exact ⟨o, ho, Prod.ext (isAt_iff.mp hat).1 rfl⟩
  · rintro ⟨o, ho, hplace⟩
    cases hplace
    exact ⟨o, List.mem_filter.mpr ⟨ho, isAt_iff.mpr ⟨rfl, nofun⟩⟩, rfl⟩

theorem nodup_pathsIn (hr : r.PlacesDistinct) : (r.pathsIn entity scope).Nodup := by
  have hplaces : (((r.occurrences scope).filter (isAt entity none)).map Occurrence.place).Nodup :=
    (hr scope).sublist (List.filter_sublist.map _)
  have hsame : ((r.occurrences scope).filter (isAt entity none)).map Occurrence.place =
      (r.pathsIn entity scope).map (entity, ·) := by
    rw [pathsIn, List.map_map]
    apply List.map_congr_left
    intro o ho
    exact Prod.ext (isAt_iff.mp (List.mem_filter.mp ho).2).1 rfl
  rw [hsame] at hplaces
  exact hplaces.of_map

/-- The paths that settle a look-up without a path: those of the scope that decides, each of which
is found there. -/
structure Settles (r : Resolver) (entity : EntityName) (filter : ScopeFilter) (scope : ScopeId)
    (paths : List String) : Prop where
  several : 2 ≤ paths.length
  ordered : paths.Pairwise Path.Before
  exact : ∀ path, path ∈ paths ↔ ∃ o ∈ r.occurrences scope, o.place = (entity, path)
  found : ∀ path ∈ paths, ∃ o ∈ r.occurrences scope, o.place = (entity, path) ∧
    r.findBinding entity (some path) filter = .ok (scope, o)

theorem settles_sorted (hr : r.PlacesDistinct) (h : r.nearest? entity none filter = some scope)
    (hmany : ∀ o, (r.occurrences scope).filter (isAt entity none) ≠ [o]) :
    r.Settles entity filter scope (Path.sorted (r.pathsIn entity scope)) := by
  refine ⟨?_, Path.pairwise_sorted _, fun path => Path.mem_sorted.trans mem_pathsIn, ?_⟩
  · rw [Path.length_sorted (nodup_pathsIn hr), pathsIn, List.length_map]
    obtain ⟨o, ho, hname, -⟩ := exists_match h
    have ho : o ∈ (r.occurrences scope).filter (isAt entity none) :=
      List.mem_filter.mpr ⟨ho, isAt_iff.mpr ⟨hname, nofun⟩⟩
    match hmatches : (r.occurrences scope).filter (isAt entity none) with
    | [] =>
      rw [hmatches] at ho
      cases ho
    | [only] => exact absurd hmatches (hmany only)
    | _ :: _ :: _ => exact Nat.le_add_left 2 _
  · intro path hpath
    obtain ⟨o, ho, hplace⟩ := mem_pathsIn.mp (Path.mem_sorted.mp hpath)
    cases hplace
    exact exists_findBinding_at hr (nearest?_at_of_mem h ho)

/-! ## After any calls -/

structure Answers (r : Resolver) (entity : EntityName) (filter : ScopeFilter) : Prop where
  /-- With a path, the entry of the nearest visible scope that has one there. -/
  found_at : ∀ path scope o, r.findBinding entity (some path) filter = .ok (scope, o) ↔
    r.nearest? entity (some path) filter = some scope ∧ o ∈ r.occurrences scope ∧
      o.place = (entity, path)
  failed_at : ∀ path error, r.findBinding entity (some path) filter = .error error ↔
    r.nearest? entity (some path) filter = none ∧ error = .notFound entity (some path)
  /-- Without a path, the only entry in the nearest visible scope that has any. -/
  found : ∀ scope o, r.findBinding entity none filter = .ok (scope, o) ↔
    r.nearest? entity none filter = some scope ∧
      (r.occurrences scope).filter (isAt entity none) = [o]
  failed : ∀ error, r.findBinding entity none filter = .error error →
    (r.nearest? entity none filter = none ∧ error = .notFound entity none) ∨
    ∃ scope paths, r.nearest? entity none filter = some scope ∧
      error = .ambiguous entity paths ∧ r.Settles entity filter scope paths

theorem Sound.answers (hr : r.Sound) (entity : EntityName) (filter : ScopeFilter) :
    r.Answers entity filter where
  found_at path scope o := findBinding_at_eq_ok_iff hr.places
  failed_at path error := by
    cases hnearest : r.nearest? entity (some path) filter with
    | none =>
      rw [findBinding_eq_notFound hnearest, and_iff_right rfl, Except.error.injEq]
      exact eq_comm
    | some scope =>
      obtain ⟨o, -, -, hfound⟩ := exists_findBinding_at hr.places hnearest
      rw [hfound]
      exact iff_of_false nofun nofun
  found scope o := findBinding_eq_ok_iff
  failed error h := by
    cases hnearest : r.nearest? entity none filter with
    | none =>
      rw [findBinding_eq_notFound hnearest] at h
      cases h
      exact .inl ⟨rfl, rfl⟩
    | some scope =>
      rw [findBinding_of_nearest? hnearest, answerIn] at h
      split at h
      · cases h
      · next hmany =>
        cases h
        exact .inr ⟨scope, _, rfl, rfl, settles_sorted hr.places hnearest hmany⟩

/-- A call that fails leaves all scopes, entries and marks as they were. After any calls, failed ones
included, places are not bound twice in a scope and qualifiers not shared by entities, and the
nearest scope that is visible decides a look-up. -/
theorem answers_afterCalls (calls : List Call) :
    (∀ call error, (call.run.run.run (afterCalls calls)).1 = .error error →
      afterCalls (calls ++ [call]) = afterCalls calls) ∧
    (∀ scope, (((afterCalls calls).occurrences scope).map Occurrence.place).Nodup ∧
      ∀ o ∈ (afterCalls calls).occurrences scope, ∀ other ∈ (afterCalls calls).occurrences scope,
        o.entity.name ≠ other.entity.name → o.qualifier ≠ other.qualifier) ∧
    (∃ around, (afterCalls calls).Sees (afterCalls calls).current around ∧
      (afterCalls calls).visibleScopes .inner = [(afterCalls calls).current] ∧
      (afterCalls calls).visibleScopes .outer = around.tail ∧
      (afterCalls calls).visibleScopes .cascade = around) ∧
    ∀ entity filter, (afterCalls calls).Answers entity filter := by
  have hr := sound_afterCalls calls
  refine ⟨?_, fun scope => ⟨hr.places scope, hr.apart scope⟩, ?_, hr.answers⟩
  · intro call error h
    have hstep : afterCalls (calls ++ [call]) = call.after (afterCalls calls) := List.foldl_append
    rw [hstep]
    exact Call.run_error (Prod.ext h rfl)
  · exact ⟨_, sees_chain hr.nested hr.nested.live hr.nested.live, rfl, rfl, rfl⟩

end RelMap.Resolver
