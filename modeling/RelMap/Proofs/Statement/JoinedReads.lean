import RelMap.Proofs.Statement.Captures
import RelMap.Proofs.Statement.PlannedJoins
import RelMap.Proofs.Statement.Written

/-!
# Where composites are read from

A full select reads the composite behind a foreign key from the nearest occurrence at its path. That
is the occurrence joined on the key, if the selected table brings its joins along and no scope nearer
to the select has an occurrence at the same path. Else the composite of another table may be read,
since paths do not tell the roots of a query apart.
-/

namespace RelMap

open Compiling Resolver Select

/-! ## Reading -/

/-- How the occurrence that a composite is read from goes with the host and its foreign key. -/
abbrev Reading := Mention → Column → KeyColumn → Mention → Prop

namespace Field

mutual

/-- The columns of the field are listed from the host, and those of composites behind foreign keys
from other occurrences. The first column of the field is number `start` of the host's columns. -/
def ReadFrom (naming : NamingStrategy) (reading : Reading) (host : Host) (start : Nat)
    (listed : List ListedColumn) : Field → Prop
  | .inline _ _ fields => AllReadFrom naming reading host start listed fields
  | .foreignKey _ target key fields => ∃ column m, host.columns[start]? = some column ∧
    m.occurrence.entity = target ∧ reading host.mention column key m ∧
    AllReadFrom naming reading ⟨m, columnsOf naming {} fields, m.occurrence.path⟩ 0 listed fields
  | f => listed = host.list ((⟨start, start + f.width⟩ : Span).slice host.columns)
termination_by structural f => f

def AllReadFrom (naming : NamingStrategy) (reading : Reading) (host : Host) (start : Nat)
    (listed : List ListedColumn) : List Field → Prop
  | [] => listed = []
  | f :: rest => ∃ first others, listed = first ++ others ∧
    ReadFrom naming reading host start first f ∧
    AllReadFrom naming reading host (start + f.width) others rest
termination_by structural fs => fs

end

variable {s : Schema} {naming : NamingStrategy} {reading reading' : Reading}
  {mentions : List Mention}

theorem AllReadFrom.mention_mem {host : Host} {start : Nat} {listed : List ListedColumn}
    {fields : List Field} {info : FieldInfo} {typ : ScalarType}
    (hscalar : .scalar info typ ∈ fields)
    (hcolumns : start + widths fields ≤ host.columns.length)
    (h : AllReadFrom naming reading host start listed fields) :
    host.mention ∈ listed.map ListedColumn.mention := by
  induction fields generalizing start listed with
  | nil => cases hscalar
  | cons f rest ih =>
    obtain ⟨first, others, rfl, hfirst, hothers⟩ := h
    rw [widths] at hcolumns
    rw [List.map_append, List.mem_append]
    rcases List.mem_cons.mp hscalar with rfl | hscalar
    · left
      have hlt : start < host.columns.length :=
        Nat.lt_of_lt_of_le (Nat.lt_add_of_pos_right (Nat.add_pos_left Nat.zero_lt_one _)) hcolumns
      change first = host.list ((⟨start, start + 1⟩ : Span).slice host.columns) at hfirst
      rw [hfirst, Span.slice, Span.width_mk_add, List.drop_eq_getElem_cons hlt]
      exact .head _
    · right
      exact ih hscalar (by rw [Nat.add_assoc]; exact hcolumns) hothers

mutual

/-- Only occurrences that are mentioned in the list are read from. -/
theorem ReadFrom.mono {host : Host} {start : Nat} {listed : List ListedColumn} (f : Field)
    (hreading : ∀ host column key, ∀ m ∈ mentions, reading host column key m →
      reading' host column key m)
    (hkeyed : f.Keyed s) (hlisted : listed.map ListedColumn.mention ⊆ mentions)
    (h : ReadFrom naming reading host start listed f) :
    ReadFrom naming reading' host start listed f := by
  cases f with
  | scalar info typ | ref info target key | converted info converter => exact h
  | inline info target fields => exact AllReadFrom.mono fields hreading hkeyed hlisted h
  | foreignKey info target key fields =>
    obtain ⟨column, m, hcolumn, hentity, hm, hall⟩ := h
    obtain ⟨⟨keyInfo, hkey, -⟩, hkeyed⟩ := hkeyed
    have hmentioned := AllReadFrom.mention_mem (List.mem_of_find?_eq_some hkey)
      (by rw [Nat.zero_add]; exact Nat.le_of_eq (length_columnsOf naming {} fields).symm) hall
    exact ⟨column, m, hcolumn, hentity, hreading _ _ _ _ (hlisted hmentioned) hm,
      AllReadFrom.mono fields hreading hkeyed hlisted hall⟩
termination_by structural f

theorem AllReadFrom.mono {host : Host} {start : Nat} {listed : List ListedColumn}
    (fields : List Field)
    (hreading : ∀ host column key, ∀ m ∈ mentions, reading host column key m →
      reading' host column key m)
    (hkeyed : AllKeyed s fields) (hlisted : listed.map ListedColumn.mention ⊆ mentions)
    (h : AllReadFrom naming reading host start listed fields) :
    AllReadFrom naming reading' host start listed fields := by
  cases fields with
  | nil => exact h
  | cons f rest =>
    obtain ⟨first, others, rfl, hfirst, hothers⟩ := h
    rw [List.map_append, List.append_subset] at hlisted
    exact ⟨first, others, rfl, ReadFrom.mono f hreading hkeyed.1 hlisted.1 hfirst,
      AllReadFrom.mono rest hreading hkeyed.2 hlisted.2 hothers⟩
termination_by structural fields

end

mutual

/-- If composites are only read in the scope of their host, the whole list is. -/
theorem ReadFrom.owner_eq {host : Host} {start : Nat} {listed : List ListedColumn} (f : Field)
    (hreading : ∀ host column key m, reading host column key m → m.owner = host.owner)
    (h : ReadFrom naming reading host start listed f) :
    ∀ c ∈ listed, c.mention.owner = host.mention.owner := by
  cases f with
  | scalar info typ | ref info target key | converted info converter =>
    cases h
    intro c hc
    obtain ⟨column, -, rfl⟩ := List.mem_map.mp hc
    rfl
  | inline info target fields => exact AllReadFrom.owner_eq fields hreading h
  | foreignKey info target key fields =>
    obtain ⟨column, m, -, -, hm, hall⟩ := h
    intro c hc
    rw [AllReadFrom.owner_eq fields hreading hall c hc]
    exact hreading _ _ _ _ hm
termination_by structural f

theorem AllReadFrom.owner_eq {host : Host} {start : Nat} {listed : List ListedColumn}
    (fields : List Field)
    (hreading : ∀ host column key m, reading host column key m → m.owner = host.owner)
    (h : AllReadFrom naming reading host start listed fields) :
    ∀ c ∈ listed, c.mention.owner = host.mention.owner := by
  cases fields with
  | nil =>
    cases h
    exact fun c hc => nomatch hc
  | cons f rest =>
    obtain ⟨first, others, rfl, hfirst, hothers⟩ := h
    intro c hc
    rcases List.mem_append.mp hc with hc | hc
    · exact ReadFrom.owner_eq f hreading hfirst c hc
    · exact AllReadFrom.owner_eq rest hreading hothers c hc
termination_by structural fields

end

end Field

/-! ## Selects -/

structure Sees (r : Resolver) (scope : ScopeId) (state : CompileState) : Prop where
  distinct : r.PlacesDistinct
  tables : r.SameTables state.resolver
  unshadowed : state.resolver.Unshadowed scope

namespace Sees

variable {r : Resolver} {scope : ScopeId} {state state' : CompileState} {o : Occurrence}

theorem of_marks {ms : List Mention} (h : Sees r scope state) (hmarks : Marks ms state state') :
    Sees r scope state' where
  distinct := h.distinct
  tables := h.tables.trans hmarks.tables
  unshadowed := h.unshadowed.of_sameTables hmarks.tables hmarks.advances.current

theorem findBinding (h : Sees r scope state) (ho : o ∈ r.occurrences scope) :
    state.resolver.findBinding o.entity.name (some o.path) .cascade = .ok (scope, o) := by
  have hdistinct : state.resolver.PlacesDistinct := by
    intro scope
    rw [h.tables.occurrences]
    exact h.distinct scope
  rw [← h.tables.occurrences] at ho
  exact findBinding_of_mem h.unshadowed hdistinct ho

theorem mention (h : Sees r scope state) (ho : o ∈ r.occurrences scope) {m : Mention}
    (hm : (mention (scope, o) .cascade).run state = .ok (m, state')) :
    m = ⟨scope, o, scope⟩ := by
  obtain ⟨howner, hoccurrence, huse, -⟩ := mention_ok hm
  rw [← h.tables.occurrences] at ho
  have hrecorded := useAlias_of_mem h.unshadowed ho huse
  obtain ⟨owner, occurrence, recorded⟩ := m
  rw [Mention.mk.injEq]
  exact ⟨howner, hoccurrence, hrecorded⟩

end Sees

/-- The composite is read in the scope of the host, from the occurrence that is planned to be joined
on the key. -/
def PlannedReading (r : Resolver) (scope : ScopeId) (joins : List AutoJoin) : Reading :=
  fun host column key m => host.owner = scope ∧ m = ⟨scope, m.occurrence, scope⟩ ∧
    PlannedIn r scope joins host.occurrence column key m.occurrence

structure Select.Host.StandsIn (host : Host) (scope : ScopeId) (state : CompileState) : Prop where
  owner : host.mention.owner = scope
  path : host.path = host.mention.occurrence.path
  marked : host.mention.Marked state.resolver

namespace Select

variable {naming : NamingStrategy} {r : Resolver} {scope : ScopeId} {joins : List AutoJoin}

mutual

theorem fullField_readFrom {host : Host} {inlinePath : String} {start : Nat}
    {listed : List ListedColumn} {state state' : CompileState} (f : Field)
    (hsees : Sees r scope state) (hhost : host.StandsIn scope state)
    (hlinked : f.Linked naming (PlannedIn r scope joins) host.mention.occurrence host.columns
      inlinePath start)
    (h : (fullField naming host inlinePath start f).run state = .ok (listed, state')) :
    f.ReadFrom naming (PlannedReading r scope joins) host start listed := by
  cases f with
  | scalar info typ | ref info target key | converted info converter =>
    cases h
    rfl
  | inline info target fields => exact fullFields_readFrom fields hsees hhost hlinked h
  | foreignKey info target key fields =>
    obtain ⟨column, joined, hcolumn, rfl, hpath, hplanned, hall⟩ := hlinked
    obtain ⟨found, m, marked, hfound, hm, hfields⟩ := fullField_foreignKey_ok h
    rw [hhost.path, ← hpath] at hfound hfields
    cases (hsees.findBinding hplanned.1).symm.trans hfound
    have hmarks := mention_marks hm
    cases hsees.mention hplanned.1 hm
    refine ⟨column, ⟨scope, joined, scope⟩, hcolumn, rfl, ⟨hhost.owner, rfl, hplanned⟩, ?_⟩
    exact fullFields_readFrom fields (hsees.of_marks hmarks)
      ⟨rfl, rfl, hmarks.marked _ (.head _)⟩ hall hfields
termination_by structural f

theorem fullFields_readFrom {host : Host} {inlinePath : String} {start : Nat}
    {listed : List ListedColumn} {state state' : CompileState} (fields : List Field)
    (hsees : Sees r scope state) (hhost : host.StandsIn scope state)
    (hlinked : Field.AllLinked naming (PlannedIn r scope joins) host.mention.occurrence host.columns
      inlinePath start fields)
    (h : (fullFields naming host inlinePath start fields).run state = .ok (listed, state')) :
    Field.AllReadFrom naming (PlannedReading r scope joins) host start listed fields := by
  cases fields with
  | nil =>
    cases h
    rfl
  | cons f rest =>
    rw [fullFields] at h
    obtain ⟨first, between, hfirst, h⟩ := StateT.bind_eq_ok h
    obtain ⟨others, between', hothers, h⟩ := StateT.bind_eq_ok h
    cases h
    have hmarks := fullField_marks f hhost.marked hfirst
    have hstill := (hmarks.advances.grows.tableUse host.mention.recorded).1 hhost.marked
    exact ⟨first, others, rfl, fullField_readFrom f hsees hhost hlinked.1 hfirst,
      fullFields_readFrom rest (hsees.of_marks hmarks) ⟨hhost.owner, hhost.path, hstill⟩
        hlinked.2 hothers⟩
termination_by structural fields

end

theorem columns_readFrom {s : Schema} {e : Entity} {found : ScopeId × Occurrence}
    {listed : List ListedColumn} {state state' : CompileState} (hsees : Sees r found.1 state)
    (hfound : found.2 ∈ r.occurrences found.1) (he : s.entity? found.2.entity.name = some e)
    (hlinked : found.2.Linked s (PlannedIn r found.1 joins))
    (h : (columns s e found .full).run state = .ok (listed, state')) :
    Field.AllReadFrom s.naming (PlannedReading r found.1 joins)
      ⟨⟨found.1, found.2, found.1⟩, s.columns e, found.2.path⟩ 0 listed e.fields := by
  unfold columns at h
  obtain ⟨m, marked, hm, h⟩ := StateT.bind_eq_ok h
  have hmarks := mention_marks hm
  cases hsees.mention hfound hm
  obtain ⟨fields, he', hall⟩ := hlinked
  rw [he] at he'
  cases he'
  exact fullFields_readFrom fields (hsees.of_marks hmarks)
    ⟨rfl, rfl, hmarks.marked _ (.head _)⟩ hall h

end Select

/-! ## Joins in the statement -/

/-- The composite is read from an occurrence in the scope of the host, and its join is written with
the condition that the column of the host equals the key. -/
def JoinWritten (format : SqlFormat) (r : Resolver) (tokens : List Token)
    (keep : ConditionKey → Bool) : Reading :=
  fun host column key m => m.owner = host.owner ∧ m.occurrence ∈ r.occurrences m.owner ∧
    ∃ j : AutoJoin, j.scope = m.owner ∧ j.Joins host.occurrence column key m.occurrence ∧
      Fragment.tokens keep (j.join.render format) <:+: tokens

/-- A root table has bound the occurrence in its scope, or joined it automatically. -/
def BoundByRoot (s : Schema) (es : List Element) (o : Occurrence) (owner : ScopeId) : Prop :=
  ∃ address name aliasName reached bound,
    (Registration.walk s).Reaches es {} address (.element (.fromTable name aliasName true)) reached ∧
    (Registration.element s (.fromTable name aliasName true)).run reached = .ok ((), bound) ∧
    reached.resolver.current = owner ∧ o ∈ bound.resolver.occurrences owner ∧
    o ∉ reached.resolver.occurrences owner

section

variable {spec : SchemaSpec} {s : Schema} {es : List Element} {registered finished : CompileState}
  {dialect : Dialect} {passage : Passage}

/-- What a root table has bound is linked by joins that are written with the statement. -/
theorem BoundByRoot.linked (hs : spec.toSchema = .ok s) (hjoinless : Element.allJoinless es = true)
    (hregister : (Registration.elements s es).run {} = .ok ((), registered))
    (hemit : (Emission.elements s ⟨dialect, true⟩ true es).run registered.emitting =
      .ok (passage, finished)) {o : Occurrence} {owner : ScopeId} (h : BoundByRoot s es o owner) :
    ∃ joins, o.Linked s (PlannedIn registered.resolver owner joins) ∧
      ∀ j ∈ joins, Emission.plannedJoin ⟨dialect, true⟩ j ∈ passage := by
  obtain ⟨address, name, aliasName, reached, bound, hreaches, hbound, rfl, ho, hnew⟩ := h
  have haround : ∃ done, Registration.Around s (fun _ => True) {} registered _ reached done :=
    Registration.around_of_reaches hreaches true (.inside live_initial) (.inl fun _ => trivial)
      hregister
  obtain ⟨done, haround⟩ := haround
  have hnested := Steps.wellNested haround.first wellNested_initial
  cases hbound.symm.trans haround.run
  have hrun := hbound
  rw [Registration.element] at hrun
  obtain ⟨e, he, hfrom⟩ := entity_bind_ok hrun
  cases Schema.name_of_entity? he
  obtain ⟨joins, hjoins, hlinked⟩ := Registration.registerFrom_plans he
    (Schema.allCoherent_of_entity? hs he) (Schema.allKeyed_of_entity? hs he) hnested hfrom
  have hsteps : Steps (fun _ => True) reached.resolver bound.resolver :=
    Registration.registerFrom_steps (.inr trivial) hfrom
  have hlater := Steps.occurrences_subset haround.last (Steps.wellNested hsteps hnested)
    reached.resolver.current
  refine ⟨joins, ?_, Emission.writes_planned_joins hjoinless hregister hemit hreaches hbound hjoins⟩
  exact ((hlinked o ho).resolve_left hnew).mono (PlannedIn.mono hlater (List.Subset.refl _))

end

/-- In a query without further joins, a full select of an occurrence that a root table has bound
reads all composites from the scope of the root table, and the joins that belong to them are written,
unless a scope before that one has an occurrence at the place or under the name of one of its own. -/
theorem full_selects_read_joined {spec : SchemaSpec} {s : Schema} {es : List Element}
    {options : CompileOptions} {statement : CompiledStatement} (hs : spec.toSchema = .ok s)
    (hjoinless : Element.allJoinless es = true) (h : s.compile options es = .ok statement) :
    ∃ registered passage state style,
      (Registration.elements s es).run {} = .ok ((), registered) ∧
      s.emit options.dialect es = .ok (passage, state) ∧
      (options.observers = [] →
        statement.sql = (passage.fragment.render style (Schema.keeps state.resolver)).sql) ∧
      let format : SqlFormat := ⟨options.dialect, true⟩
      let keep := Schema.keeps state.resolver
      ∀ address entity path visited, (Emission.walk s format).Reaches es registered.emitting address
          (.element (.select entity .full path)) visited →
        ∃ found e listed visited',
          visited.resolver.findBinding entity path .cascade = .ok found ∧
          s.entity? entity = some e ∧
          (Select.list s entity .full path).run visited = .ok (listed, visited') ∧
          Passage.referring (listed.map ListedColumn.mention) (.ofText "SELECT " ++
            operandList format (listed.map ListedColumn.operand)) <:+: passage ∧
          (visited.resolver.Unshadowed found.1 → BoundByRoot s es found.2 found.1 →
            Field.AllReadFrom s.naming
              (JoinWritten format registered.resolver (Fragment.tokens keep passage.fragment) keep)
              ⟨⟨found.1, found.2, found.1⟩, s.columns e, found.2.path⟩ 0 listed e.fields) := by
  obtain ⟨passage, state, style, hemit, -, hsql⟩ := Schema.emit_of_compile h
  obtain ⟨registered, hregister, hwalk⟩ := Schema.emit_walks hemit
  obtain ⟨_, -, -, hcovered⟩ := Schema.emit_ok hemit
  refine ⟨registered, passage, state, style, hregister, hemit, hsql, ?_⟩
  intro format keep address entity path visited hreaches
  obtain ⟨separate, p, done, hselect, hpart⟩ :=
    Emission.written_of_reaches hreaches hjoinless hwalk
  rw [Emission.element] at hselect
  unfold Select.emit at hselect
  obtain ⟨listed, _, hlist, hselect⟩ := StateT.bind_eq_ok hselect
  cases hselect
  obtain ⟨found, e, hfound, he, hcolumns⟩ := Select.list_ok hlist
  refine ⟨found, e, listed, done, hfound, he, hlist, hpart, ?_⟩
  intro hunshadowed hroot
  obtain ⟨joins, hlinked, hwritten⟩ := hroot.linked hs hjoinless hregister hwalk
  obtain ⟨-, htables⟩ := matched_of_reaches_emitting hregister hreaches
  obtain ⟨-, ho, hat⟩ := Resolver.findBinding_ok hfound
  rw [htables.occurrences] at ho
  have hread := Select.columns_readFrom
    ⟨placesDistinct_of_registers hregister, htables, hunshadowed⟩ ho
    (by rw [(isAt_iff.mp hat).1, he]) hlinked hcolumns
  refine Field.AllReadFrom.mono e.fields ?_ (Schema.allKeyed_of_entity? hs he)
    (List.Subset.refl _) hread
  rintro host column key m hm ⟨howner, hself, hbound, j, hj, hscope, hjoins⟩
  have howner' : m.owner = found.1 := congrArg Mention.owner hself
  have hrecorded : m.recorded = found.1 := congrArg Mention.recorded hself
  -- outside all automatic joins, what is mentioned is marked in the scope that records it
  have hmentioned : (⟨m, []⟩ : Placed Mention) ∈ passage.mentions := by
    apply Passage.mentions_subset hpart
    rw [Passage.mentions_referring]
    exact List.mem_map_of_mem hm
  have hkeep := (hcovered _ hmentioned).keeps fun _ hk => (List.not_mem_nil hk).elim
  rw [Mention.key, hrecorded, ← hscope, ← hjoins.joined] at hkeep
  refine ⟨howner'.trans howner.symm, howner' ▸ hbound, j, hscope.trans howner'.symm, hjoins, ?_⟩
  exact Emission.tokens_plannedJoin (hwritten j hj) hkeep

/-- Orders for which there is a row of another table. The query inside lists the order around it. -/
def Sample.ordersWith (other : EntityName) : List Element := [
  .select "Order" .nested none, .fromTable "Order" none true, .sql " WHERE EXISTS ",
  .subquery [.select "Order" .full none, .fromTable other none true] true]

theorem full_selects_read_joined_ordersWith :
    Sample.shopSpec.toSchema = .ok Sample.shop ∧
    Element.allJoinless (Sample.ordersWith "Item") = true ∧
    ∃ statement, Sample.shop.compile {} (Sample.ordersWith "Item") = .ok statement ∧
      ∃ registered passage state visited, ∃ found : ScopeId × Occurrence, ∃ listed,
        (Registration.elements Sample.shop (Sample.ordersWith "Item")).run {} =
          .ok ((), registered) ∧
        Sample.shop.emit .ansi (Sample.ordersWith "Item") = .ok (passage, state) ∧
        (Emission.walk Sample.shop ⟨.ansi, true⟩).Reaches (Sample.ordersWith "Item")
          registered.emitting [3, 0] (.element (.select "Order" .full none)) visited ∧
        visited.resolver.Unshadowed found.1 ∧
        BoundByRoot Sample.shop (Sample.ordersWith "Item") found.2 found.1 ∧
        Field.AllReadFrom Sample.shop.naming
          (JoinWritten ⟨.ansi, true⟩ registered.resolver
            (Fragment.tokens (Schema.keeps state.resolver) passage.fragment)
            (Schema.keeps state.resolver))
          ⟨⟨found.1, found.2, found.1⟩, Sample.shop.columns (Sample.ofCustomer "Order"),
            found.2.path⟩ 0 listed (Sample.ofCustomer "Order").fields := by
  let order : Occurrence := ⟨(Sample.ofCustomer "Order").toEntityInfo, "", "_o"⟩
  have hcompile : ∃ statement,
      Sample.shop.compile {} (Sample.ordersWith "Item") = .ok statement ∧
      statement.sql =
        "SELECT \"_o\".\"id\", \"_o\".\"customer_id\" FROM \"Order\" AS \"_o\"" ++
        " INNER JOIN \"Customer\" AS \"_c\" ON \"_o\".\"customer_id\" = \"_c\".\"id\"" ++
        " WHERE EXISTS (SELECT \"_o\".\"id\", \"_c\".\"id\" FROM \"Item\" AS \"_i\")" := by
    decide +kernel
  have hbound : ∃ bound, (Registration.element Sample.shop (.fromTable "Order" none true)).run {} =
      .ok bound ∧ order ∈ bound.2.resolver.occurrences 0 := by
    decide +kernel
  have hvisited : ∃ walked,
      (Registration.elements Sample.shop (Sample.ordersWith "Item")).run {} = .ok walked ∧
      ∃ listed, (Emission.element Sample.shop ⟨.ansi, true⟩ false
          (.select "Order" .nested none)).run walked.2.emitting = .ok listed ∧
      ∃ rooted, (Emission.element Sample.shop ⟨.ansi, true⟩ false
          (.fromTable "Order" none true)).run listed.2 = .ok rooted ∧
        rooted.2.subqueries = [1] ∧
        let r := (rooted.2.entered 1 []).resolver
        r.findBinding "Order" none .cascade = .ok (0, order) ∧ r.visibleScopes .cascade = [1, 0] ∧
        ∀ other ∈ r.occurrences 1, ∀ o ∈ r.occurrences 0, other.entity.name ≠ o.entity.name := by
    decide +kernel
  obtain ⟨statement, h, -⟩ := hcompile
  obtain ⟨⟨_, bound⟩, hbound, hmember⟩ := hbound
  obtain ⟨⟨_, walked⟩, hwalked, listed, hlisted, rooted, hrooted, hnext, hfound, hvisible,
    hnames⟩ := hvisited
  have hroot : BoundByRoot Sample.shop (Sample.ordersWith "Item") order 0 :=
    ⟨[1], "Order", none, {}, bound, .later rfl (.here _ _ _), hbound, rfl, hmember,
      fun hold => nomatch hold⟩
  have hunshadowed : (rooted.2.entered 1 []).resolver.Unshadowed 0 := by
    refine ⟨[1], [], hvisible, ?_⟩
    intro inner hinner other hother o ho hname
    cases List.mem_singleton.mp hinner
    exact absurd hname (hnames other hother o ho)
  obtain ⟨registered, passage, state, style, hregister, hemit, -, hselects⟩ :=
    full_selects_read_joined Sample.toSchema_shopSpec (by decide) h
  cases hregister.symm.trans hwalked
  have hreaches : (Emission.walk Sample.shop ⟨.ansi, true⟩).Reaches (Sample.ordersWith "Item")
      walked.emitting [3, 0] (.element (.select "Order" .full none)) (rooted.2.entered 1 []) :=
    .later ⟨_, _, hlisted⟩ (.later ⟨_, _, hrooted⟩ (.later ⟨true, _, rfl⟩
      (.subquery ⟨1, [], hnext, rfl⟩ (.here _ _ _))))
  obtain ⟨found, e, listed', _, hfound', he, -, -, hread⟩ := hselects _ _ _ _ hreaches
  cases hfound.symm.trans hfound'
  have horder : Sample.shop.entity? "Order" = some (Sample.ofCustomer "Order") := rfl
  cases horder.symm.trans he
  exact ⟨Sample.toSchema_shopSpec, by decide, statement, h, walked, passage, state, _, (0, order),
    listed', hwalked, hemit, hreaches, hunshadowed, hroot, hread hunshadowed hroot⟩

/-- If the other table has a customer, too, the query inside lists the order with that one: both
customers are at the same path, and the nearer one is found. The customer that belongs to the order
is not even joined. -/
theorem exists_foreign_read :
    Sample.shopSpec.toSchema = .ok Sample.shop ∧
    Element.allJoinless (Sample.ordersWith "Visit") = true ∧
    (∃ statement, Sample.shop.compile {} (Sample.ordersWith "Visit") = .ok statement ∧
      statement.sql =
        "SELECT \"_o\".\"id\", \"_o\".\"customer_id\" FROM \"Order\" AS \"_o\" WHERE EXISTS " ++
        "(SELECT \"_o\".\"id\", \"_c1\".\"id\" FROM \"Visit\" AS \"_v\" INNER JOIN " ++
        "\"Customer\" AS \"_c1\" ON \"_v\".\"customer_id\" = \"_c1\".\"id\")") ∧
    ∃ registered visited listed visited' o,
      (Registration.elements Sample.shop (Sample.ordersWith "Visit")).run {} =
        .ok ((), registered) ∧
      (Emission.walk Sample.shop ⟨.ansi, true⟩).Reaches (Sample.ordersWith "Visit")
        registered.emitting [3, 0] (.element (.select "Order" .full none)) visited ∧
      visited.resolver.findBinding "Order" none .cascade = .ok (0, o) ∧
      (Select.list Sample.shop "Order" .full none).run visited = .ok (listed, visited') ∧
      ∀ format r tokens keep, ¬ Field.AllReadFrom Sample.shop.naming
        (JoinWritten format r tokens keep)
        ⟨⟨0, o, 0⟩, Sample.shop.columns (Sample.ofCustomer "Order"), ""⟩ 0 listed
        (Sample.ofCustomer "Order").fields := by
  let order : Occurrence := ⟨(Sample.ofCustomer "Order").toEntityInfo, "", "_o"⟩
  have hvisited : ∃ walked,
      (Registration.elements Sample.shop (Sample.ordersWith "Visit")).run {} = .ok walked ∧
      ∃ listed, (Emission.element Sample.shop ⟨.ansi, true⟩ false
          (.select "Order" .nested none)).run walked.2.emitting = .ok listed ∧
      ∃ rooted, (Emission.element Sample.shop ⟨.ansi, true⟩ false
          (.fromTable "Order" none true)).run listed.2 = .ok rooted ∧
        rooted.2.subqueries = [1] ∧
        (rooted.2.entered 1 []).resolver.findBinding "Order" none .cascade = .ok (0, order) ∧
      ∃ selected, (Select.list Sample.shop "Order" .full none).run (rooted.2.entered 1 []) =
          .ok selected ∧
        ∃ c ∈ selected.1, c.mention.owner ≠ 0 := by
    decide +kernel
  obtain ⟨⟨_, registered⟩, hregister, listed, hlisted, rooted, hrooted, hnext, hfound,
    ⟨listed', visited'⟩, hselected, c, hc, howner⟩ := hvisited
  refine ⟨Sample.toSchema_shopSpec, by decide, by decide +kernel, registered, _, listed', visited',
    order, hregister, .later ⟨_, _, hlisted⟩ (.later ⟨_, _, hrooted⟩ (.later ⟨true, _, rfl⟩
      (.subquery ⟨1, [], hnext, rfl⟩ (.here _ _ _)))), hfound, hselected, ?_⟩
  intro format r tokens keep hread
  exact howner (hread.owner_eq _ (fun _ _ _ _ hm => hm.1) c hc)

end RelMap
