import RelMap.Proofs.Scope.Marks

/-!
# Ambiguous columns of inline entities

A column of an inline entity belongs to the tables that embed the entity, which may do so several
times. Without a path such a column is ambiguous, and the paths of the embeddings are reported. A
reported path settles the matter if just one embedding has it. Two tables that embed the entity at
the same path cannot be told apart by it.
-/

namespace RelMap

namespace Resolver

variable {r r' : Resolver} {s : Schema} {c : ColumnRef} {inline : EntityName}
  {path : Option String} {filter : ScopeFilter} {scope : ScopeId} {e : Embedding}

/-! ## Embeddings -/

def embeds (s : Schema) (r : Resolver) (inline : EntityName) (path : Option String)
    (scope : ScopeId) : Bool :=
  !(r.embeddings s inline path scope).isEmpty

theorem embeds_eq_false_iff :
    r.embeds s inline path scope = false ↔ r.embeddings s inline path scope = [] := by
  rw [embeds, Bool.not_eq_false', List.isEmpty_iff]

def nearestEmbedding? (s : Schema) (r : Resolver) (inline : EntityName) (path : Option String)
    (filter : ScopeFilter) : Option ScopeId :=
  (r.visibleScopes filter).find? (r.embeds s inline path)

def embeddingAnswer (s : Schema) (r : Resolver) (inline : EntityName) (path : Option String)
    (scope : ScopeId) : Except AliasError (ScopeId × Embedding) :=
  match r.embeddings s inline path scope with
  | [e] => .ok (scope, e)
  | many => .error (.ambiguous inline (Path.sorted (many.map (·.absolutePath))))

theorem embeddingIn_eq : r.embeddingIn s inline path (r.visibleScopes filter) =
    match r.nearestEmbedding? s inline path filter with
    | none => .error (.notFound inline path)
    | some scope => r.embeddingAnswer s inline path scope := by
  unfold nearestEmbedding?
  induction r.visibleScopes filter with
  | nil => rfl
  | cons scope rest ih =>
    rw [embeddingIn]
    cases hembeddings : r.embeddings s inline path scope with
    | nil =>
      have hno := embeds_eq_false_iff.mpr hembeddings
      rw [List.find?_cons_of_neg (Bool.eq_false_iff.mp hno)]
      exact ih
    | cons first others =>
      have hyes : r.embeds s inline path scope = true := by
        rw [← Bool.not_eq_false, embeds_eq_false_iff, hembeddings]
        exact List.cons_ne_nil first others
      rw [List.find?_cons_of_pos hyes]
      dsimp only
      rw [embeddingAnswer, hembeddings]
      cases others <;> rfl

theorem embeddings_at (p : String) : r.embeddings s inline (some p) scope =
    (r.embeddings s inline none scope).filter fun e => p == e.absolutePath := by
  unfold embeddings
  dsimp only
  rw [List.filter_filter]
  congr 1
  funext e
  exact (Bool.and_true _).symm

/-- A scope that decides without a path decides with the path of each embedding it has. -/
theorem nearestEmbedding?_at_of_mem (h : r.nearestEmbedding? s inline none filter = some scope)
    (he : e ∈ r.embeddings s inline none scope) :
    r.nearestEmbedding? s inline (some e.absolutePath) filter = some scope := by
  unfold nearestEmbedding? at h ⊢
  rw [List.find?_eq_some_iff_append] at h ⊢
  obtain ⟨-, nearer, further, hvisible, hnone⟩ := h
  refine ⟨?_, nearer, further, hvisible, ?_⟩
  · have hmem : e ∈ r.embeddings s inline (some e.absolutePath) scope := by
      rw [embeddings_at, List.mem_filter, beq_iff_eq]
      exact ⟨he, rfl⟩
    rw [← Bool.not_eq_false, embeds_eq_false_iff]
    exact List.ne_nil_of_mem hmem
  · intro inner hinner
    have hempty := hnone inner hinner
    rw [Bool.not_eq_true', embeds_eq_false_iff] at hempty ⊢
    rw [embeddings_at, hempty]
    rfl

/-! ## Hosts -/

theorem columnHost_inline {table : Entity} (htable : s.entity? c.entity = some table)
    (hinline : table.kind = .inline) : r.columnHost s c =
      ((r.embeddingIn s c.entity c.path (r.visibleScopes c.scope)).mapError .aliasing).map
        fun (scope, e) => ((scope, e.occurrence), Path.join e.path c.field) := by
  unfold columnHost
  rw [Schema.entity_of_entity? htable]
  dsimp only [liftM, monadLift, MonadLift.monadLift, Except.mapError, bind, Except.bind]
  rw [if_pos hinline]
  cases r.embeddingIn s c.entity c.path (r.visibleScopes c.scope) <;> rfl

/-- A column that has a host can only lack its field. -/
theorem resolveColumn_ne_aliasing {o : Occurrence} {fieldPath : String}
    (h : r.columnHost s c = .ok ((scope, o), fieldPath)) (error : AliasError) :
    ((resolveColumn s c).run.run r).1 ≠ .error (.aliasing error) := by
  obtain ⟨owner, r', hused⟩ := exists_usedAsFound_of_columnHost h
  cases htable : s.entity o.entity.name with
  | error lost =>
    rw [run_resolveColumn]
    simp only [h, htable, Except.mapError, ExceptT.mk_pure_ok_bind]
    exact nofun
  | ok table =>
    cases hspan : table.fieldSpan fieldPath with
    | error lost =>
      rw [run_resolveColumn]
      simp only [h, htable, hspan, Except.mapError, ExceptT.mk_pure_ok_bind]
      exact nofun
    | ok span =>
      rw [run_resolveColumn_of_host h htable hspan hused.run]
      exact nofun

theorem resolveColumn_error_of_host {error : Error} (h : r.columnHost s c = .error error) :
    (resolveColumn s c).run.run r = (.error error, r) := by
  rw [run_resolveColumn, h]
  rfl

/-- The column resolves to the embedding. It fails only if the table has no such field there, and
using the table is recorded otherwise. -/
structure Selects (s : Schema) (r : Resolver) (c : ColumnRef) (scope : ScopeId) (e : Embedding) :
    Prop where
  at_path : ∀ p ∈ c.path, p = e.absolutePath
  host : r.columnHost s c = .ok ((scope, e.occurrence), Path.join e.path c.field)
  no_alias_error : ∀ error, ((resolveColumn s c).run.run r).1 ≠ .error (.aliasing error)
  resolved : ∃ owner r', r.UsedAsFound c.path c.scope scope e.occurrence owner r' ∧
    ∀ table span, s.entity e.occurrence.entity.name = .ok table →
      table.fieldSpan (Path.join e.path c.field) = .ok span →
      (resolveColumn s c).run.run r = (.ok ⟨⟨scope, e.occurrence, owner⟩, table,
        Path.join e.path c.field, span.slice (s.columns table)⟩, r')

theorem selects_of_host (hpath : ∀ p ∈ c.path, p = e.absolutePath)
    (h : r.columnHost s c = .ok ((scope, e.occurrence), Path.join e.path c.field)) :
    r.Selects s c scope e where
  at_path := hpath
  host := h
  no_alias_error := resolveColumn_ne_aliasing h
  resolved := by
    obtain ⟨owner, r', hused⟩ := exists_usedAsFound_of_columnHost h
    exact ⟨owner, r', hused, fun table span htable hspan =>
      run_resolveColumn_of_host h htable hspan hused.run⟩

/-! ## Reported paths -/

/-- Looked up again at a path the column goes to the only embedding there. If there are more of them
it is ambiguous again, with just that path to choose from. -/
inductive Retried (s : Schema) (r : Resolver) (c : ColumnRef) (scope : ScopeId) (p : String) : Prop
  | settled (e : Embedding) (only : r.embeddings s c.entity (some p) scope = [e])
    (selects : r.Selects s { c with path := some p } scope e)
  | unsettled (several : 2 ≤ (r.embeddings s c.entity (some p) scope).length)
    (again : (resolveColumn s { c with path := some p }).run.run r =
      (.error (.aliasing (.ambiguous c.entity [p])), r))

/-- What a column of an inline entity without a path gets for an answer when it is ambiguous. -/
structure InlineAmbiguity (s : Schema) (r : Resolver) (c : ColumnRef) (entity : EntityName)
    (paths : List String) (scope : ScopeId) : Prop where
  entity : entity = c.entity
  decides : r.nearestEmbedding? s c.entity none c.scope = some scope
  several : 2 ≤ (r.embeddings s c.entity none scope).length
  ordered : paths.Pairwise Path.Before
  /-- The paths are those of the embeddings in the scope that decides. -/
  exact : ∀ p, p ∈ paths ↔ ∃ e ∈ r.embeddings s c.entity none scope, e.absolutePath = p
  retried : ∀ p ∈ paths, r.Retried s c scope p
  /-- There is something to choose from, and any choice will do, exactly if the embeddings have
  different paths. -/
  actionable_iff : (2 ≤ paths.length ∧
      ∀ p ∈ paths, ∃ e, r.Selects s { c with path := some p } scope e) ↔
    ((r.embeddings s c.entity none scope).map (·.absolutePath)).Nodup

theorem length_embeddings_at (p : String) : (r.embeddings s inline (some p) scope).length =
    ((r.embeddings s inline none scope).map (·.absolutePath)).count p := by
  rw [embeddings_at, List.count_eq_countP, List.countP_map, List.countP_eq_length_filter]
  congr 2
  funext e
  exact BEq.comm

theorem embeddingAnswer_cases (h : r.embeds s inline path scope = true) :
    (∃ e, r.embeddings s inline path scope = [e] ∧
      r.embeddingAnswer s inline path scope = .ok (scope, e)) ∨
    2 ≤ (r.embeddings s inline path scope).length ∧
      r.embeddingAnswer s inline path scope = .error (.ambiguous inline
        (Path.sorted ((r.embeddings s inline path scope).map (·.absolutePath)))) := by
  rw [← Bool.not_eq_false, embeds_eq_false_iff] at h
  unfold embeddingAnswer
  match hembeddings : r.embeddings s inline path scope with
  | [] => exact absurd hembeddings h
  | [e] => exact .inl ⟨e, rfl, rfl⟩
  | _ :: _ :: _ => exact .inr ⟨Nat.le_add_left 2 _, rfl⟩

theorem resolveColumn_ambiguous {table : Entity} {paths : List String}
    (htable : s.entity? c.entity = some table) (hinline : table.kind = .inline)
    (hdecides : r.nearestEmbedding? s c.entity c.path c.scope = some scope)
    (hmany : 2 ≤ (r.embeddings s c.entity c.path scope).length)
    (hordered : paths.Pairwise Path.Before)
    (hexact : ∀ p, p ∈ paths ↔ p ∈ (r.embeddings s c.entity c.path scope).map (·.absolutePath)) :
    (resolveColumn s c).run.run r = (.error (.aliasing (.ambiguous c.entity paths)), r) := by
  apply resolveColumn_error_of_host
  rw [columnHost_inline htable hinline, embeddingIn_eq, hdecides]
  dsimp only
  rcases embeddingAnswer_cases (List.find?_some hdecides) with ⟨e, honly, -⟩ | ⟨-, hanswer⟩
  · rw [honly] at hmany
    exact absurd hmany (Nat.not_succ_le_self 1)
  · rw [hanswer, Path.sorted_eq_of_mem_iff hordered hexact]
    rfl

theorem retried_of_mem {table : Entity} (htable : s.entity? c.entity = some table)
    (hinline : table.kind = .inline)
    (hdecides : r.nearestEmbedding? s c.entity none c.scope = some scope)
    (he : e ∈ r.embeddings s c.entity none scope) : r.Retried s c scope e.absolutePath := by
  have hagain := nearestEmbedding?_at_of_mem hdecides he
  have hpaths : ∀ e' ∈ r.embeddings s c.entity (some e.absolutePath) scope,
      e.absolutePath = e'.absolutePath := fun e' he' => (mem_embeddings.mp he').2.2 _ rfl
  rcases embeddingAnswer_cases (List.find?_some hagain) with ⟨e', honly, hanswer⟩ | ⟨hmany, -⟩
  · have hhost := columnHost_inline (r := r) (c := { c with path := some e.absolutePath }) htable
      hinline
    rw [embeddingIn_eq, hagain] at hhost
    dsimp only at hhost
    rw [hanswer] at hhost
    refine .settled e' honly (selects_of_host ?_ hhost)
    rintro _ ⟨⟩
    exact hpaths e' (honly ▸ .head _)
  · refine .unsettled hmany (resolveColumn_ambiguous (c := { c with path := some e.absolutePath })
      htable hinline hagain hmany (List.pairwise_singleton _ _) fun p => ?_)
    rw [List.mem_singleton, List.mem_map]
    constructor
    · rintro rfl
      obtain ⟨e', he'⟩ := List.exists_mem_of_length_pos (Nat.lt_of_lt_of_le Nat.zero_lt_two hmany)
      exact ⟨e', he', (hpaths e' he').symm⟩
    · rintro ⟨e', he', rfl⟩
      exact (hpaths e' he').symm

theorem exists_inlineAmbiguity {table : Entity} (htable : s.entity? c.entity = some table)
    (hinline : table.kind = .inline) (hpath : c.path = none) {entity : EntityName}
    {paths : List String}
    (h : ((resolveColumn s c).run.run r).1 = .error (.aliasing (.ambiguous entity paths))) :
    ∃ scope, r.InlineAmbiguity s c entity paths scope := by
  have hhost : r.columnHost s c = .error (.aliasing (.ambiguous entity paths)) := by
    cases hhost : r.columnHost s c with
    | ok found => exact absurd h (resolveColumn_ne_aliasing hhost _)
    | error lost =>
      rw [resolveColumn_error_of_host hhost] at h
      exact congrArg _ (Except.error.inj h)
  rw [columnHost_inline htable hinline, hpath, embeddingIn_eq] at hhost
  cases hdecides : r.nearestEmbedding? s c.entity none c.scope with
  | none =>
    rw [hdecides] at hhost
    cases hhost
  | some scope =>
    rw [hdecides] at hhost
    dsimp only at hhost
    rcases embeddingAnswer_cases (List.find?_some hdecides) with ⟨e, -, hanswer⟩ | ⟨hmany, hanswer⟩
    · rw [hanswer] at hhost
      cases hhost
    rw [hanswer] at hhost
    cases hhost
    have hexact (p : String) : p ∈ Path.sorted ((r.embeddings s c.entity none scope).map
        (·.absolutePath)) ↔ ∃ e ∈ r.embeddings s c.entity none scope, e.absolutePath = p :=
      Path.mem_sorted.trans List.mem_map
    have hretried : ∀ p ∈ Path.sorted ((r.embeddings s c.entity none scope).map (·.absolutePath)),
        r.Retried s c scope p := by
      intro p hp
      obtain ⟨e, he, rfl⟩ := (hexact p).mp hp
      exact retried_of_mem htable hinline hdecides he
    refine ⟨scope, rfl, hdecides, hmany, Path.pairwise_sorted _, hexact, hretried, ?_⟩
    constructor
    · rintro ⟨-, hselects⟩
      -- a path that two embeddings share would be ambiguous again
      rw [List.nodup_iff_count_le_one]
      intro p
      by_cases hp : p ∈ (r.embeddings s c.entity none scope).map (·.absolutePath)
      · rw [← length_embeddings_at]
        rcases hretried p (Path.mem_sorted.mpr hp) with ⟨e, honly, -⟩ | ⟨-, hagain⟩
        · rw [honly]
          exact Nat.le_refl 1
        · obtain ⟨e, he⟩ := hselects p (Path.mem_sorted.mpr hp)
          exact absurd (congrArg Prod.fst hagain) (he.no_alias_error _)
      · rw [List.count_eq_zero_of_not_mem hp]
        exact Nat.zero_le 1
    · intro hdistinct
      refine ⟨?_, fun p hp => ?_⟩
      · rw [Path.length_sorted hdistinct, List.length_map]
        exact hmany
      · rcases hretried p hp with ⟨e, -, hselects⟩ | ⟨htwice, -⟩
        · exact ⟨e, hselects⟩
        · have honce := List.nodup_iff_count_le_one.mp hdistinct p
          rw [← length_embeddings_at] at honce
          omega

/-! ## Ambiguous columns -/

/-- A column of an inline entity without a path that is ambiguous is reported with the paths of the
embeddings. There are several of them and each settles the matter exactly if the embeddings have
different paths. A reference that cannot be resolved is not recorded, whatever the reason. -/
theorem ambiguous_inline_columns (r : Resolver) (s : Schema) (c : ColumnRef) :
    (∀ table entity paths, s.entity? c.entity = some table → table.kind = .inline →
      c.path = none →
      ((resolveColumn s c).run.run r).1 = .error (.aliasing (.ambiguous entity paths)) →
      ∃ scope, r.InlineAmbiguity s c entity paths scope) ∧
    ∀ error r', (resolveColumn s c).run.run r = (.error error, r') → r' = r :=
  ⟨fun _ _ _ htable hinline hpath h => exists_inlineAmbiguity htable hinline hpath h,
    fun _ _ h => resolveColumn_error h⟩

end Resolver

/-! ## Places

A client has two places, a firm and a depot have one each. -/

namespace Sample

def placeSpec : SchemaSpec where
  naming := naming
  entities := [
    .ofInline "Place" [.scalar "street" .text],
    .ofTable "Client" [(FieldSpec.scalar "id" .int).asPrimaryKey, .composite "address" "Place",
      .composite "work" "Place"],
    .ofTable "Firm" [(FieldSpec.scalar "id" .int).asPrimaryKey, .composite "address" "Place"],
    .ofTable "Depot" [(FieldSpec.scalar "id" .int).asPrimaryKey, .composite "address" "Place"]]

def inlinePlace : Entity := ⟨⟨"Place", "Place", .inline⟩, [.scalar { name := "street" } .text]⟩

def client : Entity := ⟨⟨"Client", "Client", .table⟩,
  [.scalar { name := "id", primaryKey := true } .int,
    .inline { name := "address" } inlinePlace.toEntityInfo inlinePlace.fields,
    .inline { name := "work" } inlinePlace.toEntityInfo inlinePlace.fields]⟩

def firm : Entity := ⟨⟨"Firm", "Firm", .table⟩,
  [.scalar { name := "id", primaryKey := true } .int,
    .inline { name := "address" } inlinePlace.toEntityInfo inlinePlace.fields]⟩

def depot : Entity := ⟨⟨"Depot", "Depot", .table⟩,
  [.scalar { name := "id", primaryKey := true } .int,
    .inline { name := "address" } inlinePlace.toEntityInfo inlinePlace.fields]⟩

def places : Schema := ⟨[inlinePlace, client, firm, depot], naming,
  [⟨inlinePlace.toEntityInfo, [⟨{ name := "street" }, .scalar .text⟩]⟩,
    ⟨client.toEntityInfo, [⟨{ name := "id", primaryKey := true }, .scalar .int⟩,
      ⟨{ name := "address" }, .inline "Place"⟩, ⟨{ name := "work" }, .inline "Place"⟩]⟩,
    ⟨firm.toEntityInfo, [⟨{ name := "id", primaryKey := true }, .scalar .int⟩,
      ⟨{ name := "address" }, .inline "Place"⟩]⟩,
    ⟨depot.toEntityInfo, [⟨{ name := "id", primaryKey := true }, .scalar .int⟩,
      ⟨{ name := "address" }, .inline "Place"⟩]⟩]⟩

theorem toSchema_placeSpec : placeSpec.toSchema = .ok places := by
  cbv

/-- The root tables bound to generated aliases in one scope. -/
def rootsOf (tables : List Entity) : Resolver :=
  .afterCalls (tables.map fun table => .generate naming table.toEntityInfo "")

def street (path : Option String) : ColumnRef :=
  { entity := "Place", field := "street", path, scope := .cascade }

theorem street_ambiguous {tables : List Entity} {path : Option String} {paths : List String}
    (embedded : List String)
    (hdecides : (rootsOf tables).nearestEmbedding? places "Place" path .cascade = some 0)
    (hembedded : ((rootsOf tables).embeddings places "Place" path 0).map (·.absolutePath) = embedded)
    (hpaths : 2 ≤ embedded.length ∧ paths.Pairwise Path.Before ∧
      (∀ p ∈ paths, p ∈ embedded) ∧ ∀ p ∈ embedded, p ∈ paths) :
    (Resolver.resolveColumn places (street path)).run.run (rootsOf tables) =
      (.error (.aliasing (.ambiguous "Place" paths)), rootsOf tables) := by
  obtain ⟨hmany, hordered, hlisted, hall⟩ := hpaths
  subst hembedded
  rw [List.length_map] at hmany
  have hplace : places.entity? (street path).entity = some inlinePlace := rfl
  exact Resolver.resolveColumn_ambiguous hplace rfl hdecides hmany hordered
    fun p => ⟨hlisted p, hall p⟩

end Sample

namespace Resolver

/-- The streets of a client alone can be told apart by the paths that are reported. -/
theorem ambiguous_inline_columns_client :
    Sample.placeSpec.toSchema = .ok Sample.places ∧
    ((resolveColumn Sample.places (Sample.street none)).run.run
      (Sample.rootsOf [Sample.client])).1 =
        .error (.aliasing (.ambiguous "Place" ["address", "work"])) ∧
    ∀ p ∈ ["address", "work"], ∃ e,
      (Sample.rootsOf [Sample.client]).Selects Sample.places (Sample.street (some p)) 0 e := by
  have hdecides : (Sample.rootsOf [Sample.client]).nearestEmbedding? Sample.places "Place" none
      .cascade = some 0 := by
    decide +kernel
  have hembedded : ((Sample.rootsOf [Sample.client]).embeddings Sample.places "Place" none 0).map
      (·.absolutePath) = ["address", "work"] := by
    decide +kernel
  have herror : ((resolveColumn Sample.places (Sample.street none)).run.run
      (Sample.rootsOf [Sample.client])).1 =
        .error (.aliasing (.ambiguous "Place" ["address", "work"])) :=
    congrArg Prod.fst (Sample.street_ambiguous _ hdecides hembedded (by decide +kernel))
  obtain ⟨hreported, -⟩ :=
    ambiguous_inline_columns (Sample.rootsOf [Sample.client]) Sample.places (Sample.street none)
  obtain ⟨scope, hambiguity⟩ := hreported Sample.inlinePlace "Place" _ rfl rfl rfl herror
  cases hambiguity.decides.symm.trans hdecides
  have hdistinct : (((Sample.rootsOf [Sample.client]).embeddings Sample.places "Place" none 0).map
      (·.absolutePath)).Nodup := by
    rw [hembedded]
    decide
  exact ⟨Sample.toSchema_placeSpec, herror, (hambiguity.actionable_iff.mpr hdistinct).2⟩

/-- With a firm beside the client the address is reported, but stays ambiguous when it is asked for.
Of a firm and a depot one path is reported, which does not help either. -/
theorem exists_unsettled_address :
    Sample.placeSpec.toSchema = .ok Sample.places ∧
    (let r := Sample.rootsOf [Sample.client, Sample.firm]
    (resolveColumn Sample.places (Sample.street none)).run.run r =
      (.error (.aliasing (.ambiguous "Place" ["address", "work"])), r) ∧
    (resolveColumn Sample.places (Sample.street (some "address"))).run.run r =
      (.error (.aliasing (.ambiguous "Place" ["address"])), r)) ∧
    ((resolveColumn Sample.places (Sample.street none)).run.run
        (Sample.rootsOf [Sample.firm, Sample.depot])).1 =
      .error (.aliasing (.ambiguous "Place" ["address"])) := by
  refine ⟨Sample.toSchema_placeSpec, ⟨?_, ?_⟩, ?_⟩
  · exact Sample.street_ambiguous ["address", "work", "address"]
      (by decide +kernel) (by decide +kernel) (by decide +kernel)
  · exact Sample.street_ambiguous ["address", "address"]
      (by decide +kernel) (by decide +kernel) (by decide +kernel)
  · exact congrArg Prod.fst (Sample.street_ambiguous ["address", "address"]
      (by decide +kernel) (by decide +kernel) (by decide +kernel))

end Resolver

end RelMap
