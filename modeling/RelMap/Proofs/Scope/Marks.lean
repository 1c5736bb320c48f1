import RelMap.Proofs.Scope.Calls
import RelMap.Proofs.Schema.Expansion

/-!
# Marked occurrences

A look-up goes by entity and path, and the mark on what it has found by entity and qualifier. Main
statement: the mark is set in the nearest visible scope that has the entity under that qualifier and
nowhere else. This is the scope of the look-up unless a nearer one binds the entity to the same
qualifier, and only a look-up with a path gets past such a scope.
-/

namespace RelMap

section

variable {α : Type} [BEq α] [LawfulBEq α] {p : α → Bool} {items : List α} {a b : α}

theorem eq_false_of_mem_takeWhile (hfind : items.find? p = some a)
    (hb : b ∈ items.takeWhile (· != a)) : p b = false := by
  induction items with
  | nil => cases hfind
  | cons first rest ih =>
    by_cases hfirst : first = a
    · subst hfirst
      rw [List.takeWhile_cons_of_neg (by simp)] at hb
      cases hb
    · rw [List.takeWhile_cons_of_pos (by simpa using hfirst)] at hb
      have hno : p first = false := by
        rw [← Bool.not_eq_true]
        intro hyes
        rw [List.find?_cons_of_pos hyes] at hfind
        exact hfirst (Option.some.inj hfind)
      rcases List.mem_cons.mp hb with rfl | hb
      · exact hno
      · rw [List.find?_cons_of_neg (Bool.eq_false_iff.mp hno)] at hfind
        exact ih hfind hb

theorem eq_of_forall_takeWhile (hfind : items.find? p = some b) (ha : a ∈ items) (hp : p a = true)
    (hbefore : ∀ c ∈ items.takeWhile (· != a), p c = false) : b = a := by
  induction items with
  | nil => cases ha
  | cons first rest ih =>
    by_cases hfirst : first = a
    · subst hfirst
      rw [List.find?_cons_of_pos hp] at hfind
      exact (Option.some.inj hfind).symm
    · rw [List.takeWhile_cons_of_pos (by simpa using hfirst)] at hbefore
      rw [List.find?_cons_of_neg (Bool.eq_false_iff.mp (hbefore first (.head _)))] at hfind
      have hrest := (List.mem_cons.mp ha).resolve_left (Ne.symm hfirst)
      exact ih hfind hrest fun c hc => hbefore c (.tail _ hc)

end

namespace Resolver

variable {r r' : Resolver} {scope owner : ScopeId} {entity : EntityName} {path : Option String}
  {filter : ScopeFilter} {o : Occurrence}

/-- The scopes that a look-up consults before `scope`. -/
def nearer (r : Resolver) (filter : ScopeFilter) (scope : ScopeId) : List ScopeId :=
  (r.visibleScopes filter).takeWhile (· != scope)

/-- A nearer scope has the entity of the occurrence under the same qualifier. -/
def Shadowed (r : Resolver) (filter : ScopeFilter) (scope : ScopeId) (o : Occurrence) : Prop :=
  ∃ inner ∈ r.nearer filter scope, r.owns o.entity o.aliasName inner = true

/-- The occurrence is used: it is marked in the scope `owner` and nothing else changes. -/
structure UsedIn (r : Resolver) (filter : ScopeFilter) (o : Occurrence) (owner : ScopeId)
    (r' : Resolver) : Prop where
  run : (useAlias o.entity o.aliasName filter).run.run r = (.ok owner, r')
  visible : owner ∈ r.visibleScopes filter
  owns : r.owns o.entity o.aliasName owner = true
  marked : r'.tableUse owner = (r.tableUse owner).mark o.qualifier
  elsewhere : ∀ other, other ≠ owner → r'.tableUse other = r.tableUse other
  tables : r.SameTables r'
  current : r'.current = r.current

/-- What comes of using an occurrence that a look-up for `path` has found in `scope`. -/
structure UsedAsFound (r : Resolver) (path : Option String) (filter : ScopeFilter)
    (scope : ScopeId) (o : Occurrence) (owner : ScopeId) (r' : Resolver) : Prop
    extends r.UsedIn filter o owner r' where
  owner_iff : owner = scope ↔ ¬ r.Shadowed filter scope o
  without_path : path = none → owner = scope

theorem owns_self (ho : o ∈ r.occurrences scope) : r.owns o.entity o.aliasName scope = true := by
  refine List.any_eq_true.mpr ⟨o, ho, ?_⟩
  simp [Occurrence.qualifier]

theorem exists_of_owns {entity : EntityInfo} {aliasName : String}
    (h : r.owns entity aliasName scope = true) :
    ∃ other ∈ r.occurrences scope, other.entity.name = entity.name := by
  obtain ⟨other, hother, hsame⟩ := List.any_eq_true.mp h
  rw [Bool.and_eq_true, beq_iff_eq] at hsame
  exact ⟨other, hother, hsame.1⟩

theorem exists_usedAsFound (hscope : scope ∈ r.visibleScopes filter)
    (ho : o ∈ r.occurrences scope) (hpath : path = none → ¬ r.Shadowed filter scope o) :
    ∃ owner r', r.UsedAsFound path filter scope o owner r' := by
  have hself := owns_self ho
  have hsome : ((r.visibleScopes filter).find? (r.owns o.entity o.aliasName)).isSome :=
    List.find?_isSome.mpr ⟨scope, hscope, hself⟩
  obtain ⟨owner, hfind⟩ := Option.isSome_iff_exists.mp hsome
  have howns : r.owns o.entity o.aliasName owner = true := List.find?_some hfind
  obtain ⟨other, hother, -⟩ := exists_of_owns howns
  have hiff : owner = scope ↔ ¬ r.Shadowed filter scope o := by
    constructor
    · rintro rfl ⟨inner, hinner, hshadow⟩
      rw [eq_false_of_mem_takeWhile hfind hinner] at hshadow
      cases hshadow
    · intro hclear
      refine eq_of_forall_takeWhile hfind hscope hself fun inner hinner => ?_
      rw [← Bool.not_eq_true]
      exact fun hshadow => hclear ⟨inner, hinner, hshadow⟩
  refine ⟨owner, r.modifyTableUse owner (·.mark o.qualifier), ⟨?_, ?_, howns, ?_, ?_, ?_, rfl⟩,
    hiff, fun hnone => hiff.mpr (hpath hnone)⟩
  · rw [run_useAlias, hfind]
    rfl
  · exact List.mem_of_find?_eq_some hfind
  · exact tableUse_modifyTableUse (lt_length_of_mem_occurrences hother)
  · exact fun other hne => tableUse_modifyTableUse_of_ne (Ne.symm hne)
  · exact .modifyTableUse r owner _

/-! ## Look-ups by entity -/

theorem not_shadowed_of_findBinding (h : r.findBinding entity none filter = .ok (scope, o)) :
    ¬ r.Shadowed filter scope o := by
  rintro ⟨inner, hinner, howns⟩
  obtain ⟨hnearest, -⟩ := findBinding_eq_ok_iff.mp h
  have hno : r.hasMatch entity none inner = false := eq_false_of_mem_takeWhile hnearest hinner
  obtain ⟨other, hother, hname⟩ := exists_of_owns howns
  have hentity : o.entity.name = entity := (isAt_iff.mp (findBinding_ok h).2.2).1
  have hat : isAt entity none other = true := isAt_iff.mpr ⟨hname.trans hentity, nofun⟩
  rw [hasMatch, List.any_eq_false] at hno
  exact hno other hother hat

theorem exists_usedAsFound_of_findBinding
    (h : r.findBinding entity path filter = .ok (scope, o)) :
    ∃ owner r', r.UsedAsFound path filter scope o owner r' := by
  obtain ⟨hscope, ho, -⟩ := findBinding_ok h
  apply exists_usedAsFound hscope ho
  rintro rfl
  exact not_shadowed_of_findBinding h

/-! ## Hosts of columns -/

variable {s : Schema}

theorem embeddingIn_ok {inline : EntityName} {scopes : List ScopeId} {e : Embedding}
    (h : r.embeddingIn s inline path scopes = .ok (scope, e)) :
    scopes.find? (fun scope => !(r.embeddings s inline path scope).isEmpty) = some scope ∧
      e ∈ r.embeddings s inline path scope := by
  induction scopes with
  | nil => cases h
  | cons first rest ih =>
    rw [embeddingIn] at h
    rw [List.find?_cons]
    cases hfirst : r.embeddings s inline path first with
    | nil =>
      rw [hfirst] at h
      exact ih h
    | cons only others =>
      rw [hfirst] at h
      cases others with
      | nil =>
        cases h
        exact ⟨rfl, hfirst ▸ .head _⟩
      | cons => cases h

theorem mem_embeddings {inline : EntityName} {e : Embedding} :
    e ∈ r.embeddings s inline path scope ↔ e.occurrence ∈ r.occurrences scope ∧
      (∃ table, s.entity? e.occurrence.entity.name = some table ∧
        e.path ∈ table.inlineOccurrences inline) ∧ ∀ p ∈ path, p = e.absolutePath := by
  have hpath : path.all (· == e.absolutePath) = true ↔ ∀ p ∈ path, p = e.absolutePath := by
    cases path <;> simp
  unfold embeddings
  rw [List.mem_filter, hpath, List.mem_flatMap, ← and_assoc]
  refine and_congr_left fun _ => ?_
  constructor
  · rintro ⟨o, ho, he⟩
    split at he
    · next table htable =>
      obtain ⟨place, hplace, rfl⟩ := List.mem_map.mp he
      exact ⟨ho, table, htable, hplace⟩
    · cases he
  · rintro ⟨ho, table, htable, hplace⟩
    refine ⟨e.occurrence, ho, ?_⟩
    rw [htable]
    exact List.mem_map.mpr ⟨e.path, hplace, rfl⟩

/-- Tables embed an inline entity wherever they occur, so without a path the nearest of them is the
host. -/
theorem not_shadowed_of_embeddingIn {inline : EntityName} {e : Embedding}
    (h : r.embeddingIn s inline none (r.visibleScopes filter) = .ok (scope, e)) :
    ¬ r.Shadowed filter scope e.occurrence := by
  rintro ⟨inner, hinner, howns⟩
  obtain ⟨hfind, he⟩ := embeddingIn_ok h
  have hno := eq_false_of_mem_takeWhile hfind hinner
  rw [Bool.not_eq_false', List.isEmpty_iff] at hno
  obtain ⟨other, hother, hname⟩ := exists_of_owns howns
  obtain ⟨-, ⟨table, htable, hplace⟩, -⟩ := mem_embeddings.mp he
  have hembedded : (⟨other, e.path⟩ : Embedding) ∈ r.embeddings s inline none inner :=
    mem_embeddings.mpr ⟨hother, ⟨table, by rw [hname, htable], hplace⟩, nofun⟩
  rw [hno] at hembedded
  cases hembedded

theorem exists_usedAsFound_of_columnHost {c : ColumnRef} {fieldPath : String}
    (h : r.columnHost s c = .ok ((scope, o), fieldPath)) :
    ∃ owner r', r.UsedAsFound c.path c.scope scope o owner r' := by
  unfold columnHost at h
  obtain ⟨e, -, h⟩ := Except.bind_eq_ok h
  split at h
  · obtain ⟨⟨host, embedding⟩, hembedding, h⟩ := Except.bind_eq_ok h
    cases h
    have hembedding := Except.mapError_eq_ok hembedding
    obtain ⟨hfind, he⟩ := embeddingIn_ok hembedding
    apply exists_usedAsFound (List.mem_of_find?_eq_some hfind) (mem_embeddings.mp he).1
    intro hnone
    rw [hnone] at hembedding
    exact not_shadowed_of_embeddingIn hembedding
  · obtain ⟨found, hfound, h⟩ := Except.bind_eq_ok h
    cases h
    exact exists_usedAsFound_of_findBinding (Except.mapError_eq_ok hfound)

theorem run_resolveColumn_of_host {c : ColumnRef} {fieldPath : String} {table : Entity}
    {span : Span} (hhost : r.columnHost s c = .ok ((scope, o), fieldPath))
    (htable : s.entity o.entity.name = .ok table) (hspan : table.fieldSpan fieldPath = .ok span)
    (huse : (useAlias o.entity o.aliasName c.scope).run.run r = (.ok owner, r')) :
    (resolveColumn s c).run.run r =
      (.ok ⟨⟨scope, o, owner⟩, table, fieldPath, span.slice (s.columns table)⟩, r') := by
  rw [run_resolveColumn]
  simp only [hhost, htable, hspan, Except.mapError, ExceptT.mk_pure_ok_bind]
  rw [ExceptT.run_bind_of_ok (ExceptT.run_adapt_of_ok huse)]
  rfl

/-! ## Where the mark is set -/

/-- Whatever a look-up finds can be used, also the table that a column of an inline entity is found
in. The mark is set in the nearest visible scope that has the entity under that qualifier, and in no
other; this is the scope of the look-up exactly if no nearer one shadows the occurrence. -/
theorem useAlias_marks_nearest_owner (r : Resolver) :
    (∀ entity path filter scope o, r.findBinding entity path filter = .ok (scope, o) →
      ∃ owner r', r.UsedAsFound path filter scope o owner r') ∧
    ∀ s c scope o fieldPath, r.columnHost s c = .ok ((scope, o), fieldPath) →
      ∃ owner r', r.UsedAsFound c.path c.scope scope o owner r' ∧
        ∀ table span, s.entity o.entity.name = .ok table → table.fieldSpan fieldPath = .ok span →
          (resolveColumn s c).run.run r =
            (.ok ⟨⟨scope, o, owner⟩, table, fieldPath, span.slice (s.columns table)⟩, r') := by
  constructor
  · intro entity path filter scope o h
    exact exists_usedAsFound_of_findBinding h
  · intro s c scope o fieldPath h
    obtain ⟨owner, r', hused⟩ := exists_usedAsFound_of_columnHost h
    exact ⟨owner, r', hused, fun table span htable hspan =>
      run_resolveColumn_of_host h htable hspan hused.run⟩

end Resolver

/-! ## Two persons under one alias -/

namespace Sample

/-- A query inside another one. The person is bound in the inner one first and her boss around it
later, to the same alias: what is bound in a scope inside is not live. -/
def bossAround : Resolver := Resolver.afterCalls [
  .push true, .generate naming person.toEntityInfo "", .enter 0,
  .generate naming person.toEntityInfo "boss", .enter 1]

def boss : Occurrence := ⟨person.toEntityInfo, "boss", "_p"⟩

def bossStreet (filter : ScopeFilter) : ColumnRef :=
  { entity := "Address", field := "street", path := some "boss.home", scope := filter }

end Sample

namespace Resolver

/-- Looked up from outside the inner query the boss is marked where she is found. -/
theorem useAlias_marks_boss :
    Sample.bossAround.findBinding "Person" (some "boss") .outer = .ok (0, Sample.boss) ∧
    Sample.bossAround.columnHost Sample.schema (Sample.bossStreet .outer) =
      .ok ((0, Sample.boss), "home.street") ∧
    (∃ r', Sample.bossAround.UsedAsFound (some "boss") .outer 0 Sample.boss 0 r') ∧
    ∃ r', Sample.bossAround.UsedAsFound (some "boss.home") .outer 0 Sample.boss 0 r' := by
  have hbinding : Sample.bossAround.findBinding "Person" (some "boss") .outer =
      .ok (0, Sample.boss) := by decide +kernel
  have hhost : Sample.bossAround.columnHost Sample.schema (Sample.bossStreet .outer) =
      .ok ((0, Sample.boss), "home.street") := by decide +kernel
  have hclear : ¬ Sample.bossAround.Shadowed .outer 0 Sample.boss := by
    rintro ⟨inner, hinner, -⟩
    have hnone : Sample.bossAround.nearer .outer 0 = [] := by decide +kernel
    rw [hnone] at hinner
    cases hinner
  obtain ⟨hfound, hhosted⟩ := useAlias_marks_nearest_owner Sample.bossAround
  obtain ⟨owner, r', hused⟩ := hfound _ _ _ _ _ hbinding
  obtain ⟨host, r'', hused', -⟩ := hhosted _ _ _ _ _ hhost
  cases hused.owner_iff.mpr hclear
  cases hused'.owner_iff.mpr hclear
  exact ⟨hbinding, hhost, ⟨r', hused⟩, r'', hused'⟩

/-- Looked up from inside she is found around the inner query, by path and as the host of a column,
and the mark is set on the person in it. -/
theorem exists_mark_in_nearer_scope :
    ∃ r' b, Sample.bossAround.findBinding "Person" (some "boss") .cascade = .ok (0, Sample.boss) ∧
      (useAlias Sample.boss.entity Sample.boss.aliasName .cascade).run.run Sample.bossAround =
        (.ok 1, r') ∧
      Sample.boss.qualifier ∉ (r'.tableUse 0).referenced ∧
      Sample.bossAround.columnHost Sample.schema (Sample.bossStreet .cascade) =
        .ok ((0, Sample.boss), "home.street") ∧
      (resolveColumn Sample.schema (Sample.bossStreet .cascade)).run.run Sample.bossAround =
        (.ok b, r') ∧
      b.scope = 1 := by
  have hrun : (useAlias Sample.boss.entity Sample.boss.aliasName .cascade).run.run
      Sample.bossAround = (.ok 1, Sample.bossAround.modifyTableUse 1 (·.mark "_p")) := by rfl
  have hhost : Sample.bossAround.columnHost Sample.schema (Sample.bossStreet .cascade) =
      .ok ((0, Sample.boss), "home.street") := by decide +kernel
  have htable : Sample.schema.entity Sample.boss.entity.name = .ok Sample.person := rfl
  have hspan : Sample.person.fieldSpan "home.street" = .ok ⟨3, 4⟩ := by decide +kernel
  have hcolumn := run_resolveColumn_of_host hhost htable hspan hrun
  exact ⟨_, _, by decide +kernel, hrun, by decide +kernel, hhost, hcolumn, rfl⟩

end Resolver

end RelMap
