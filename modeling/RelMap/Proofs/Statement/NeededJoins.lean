import RelMap.Proofs.Statement.Captures
import RelMap.Proofs.Statement.MentionedJoins
import RelMap.Proofs.Statement.ShownElements

/-!
# Joins that are needed

An automatic join that is written is needed: its alias is used outside of its own text, by something
else that is written. For this, what an automatic join mentions has to be recorded in its own scope
or inside, since only references of the current scope are deferred to it.
-/

namespace RelMap

open Compiling

variable {s : Schema} {format : SqlFormat} {passage : Passage}

/-! ## Needed aliases -/

/-- Something else that is written uses the alias of the join, outside of the join's own text. -/
def Passage.Needs (format : SqlFormat) (keep : ConditionKey → Bool) (p : Passage)
    (key : ConditionKey) : Prop :=
  ∃ u ∈ p.citations, u.Kept keep ∧ key ∉ u.around ∧ u.item.mention.key = key ∧
    .text (format.dialect.quote key.aliasName) ∈ Fragment.tokens keep u.item.text ∧
    Fragment.tokens keep u.item.text <:+: Fragment.tokens keep p.fragment

instance (format : SqlFormat) (keep : ConditionKey → Bool) (p : Passage) (key : ConditionKey) :
    Decidable (p.Needs format keep key) :=
  inferInstanceAs (Decidable (∃ u ∈ p.citations,
    u.Kept keep ∧ key ∉ u.around ∧ u.item.mention.key = key ∧
      .text (format.dialect.quote key.aliasName) ∈ Fragment.tokens keep u.item.text ∧
      Fragment.tokens keep u.item.text <:+: Fragment.tokens keep p.fragment))

theorem Passage.Uses.needs {keep : ConditionKey → Bool} {around : List ConditionKey}
    {key : ConditionKey} (h : passage.Uses format around key) (hkept : ∀ k ∈ around, keep k = true)
    (hkey : key ∉ around) : passage.Needs format keep key := by
  obtain ⟨u, hu, rfl, hmention, hspells⟩ := h
  exact ⟨u, hu, hkept, hkey, hmention, hspells.mem_tokens keep, tokens_citations passage hu hkept⟩

theorem Shown.exists_scopeShown {lo hi : ScopeId} {q : Queued} {r r' : Resolver}
    (h : Shown format lo hi r.effect q r r' passage) (scope : ScopeId) :
    ∃ e outer, (∀ a, ¬ e.notes a) ∧ ScopeShown format scope e outer q r r' passage := by
  by_cases hscope : lo ≤ scope ∧ scope < hi
  · obtain ⟨outer, hshown⟩ := h.opened scope hscope.1 hscope.2
    exact ⟨_, outer, fun _ => id, hshown⟩
  · exact ⟨_, [], fun _ => id, h.beyond scope hscope⟩

/-- A chain of dependencies to a reference is shown by its first step that is not a dependency of a
join on itself. -/
theorem ScopeShown.needs_of_required {scope : ScopeId} {e : Effect} {outer : List ConditionKey}
    {q : Queued} {r r' : Resolver} {a : String}
    (h : ScopeShown format scope e outer q r r' passage) (hnotes : ∀ b, ¬ e.notes b)
    (hreferenced : (r.tableUse scope).referenced = [])
    (hdependencies : ∀ d ∈ (r.tableUse scope).dependencies,
      ∃ j ∈ q.autoJoins.flatten, j.scope = scope ∧ j.DependsBy d)
    (hkept : ∀ k ∈ outer, Schema.keeps r' k = true) (ha : (r'.tableUse scope).isRequired a = true) :
    passage.Needs format (Schema.keeps r') ⟨scope, a⟩ := by
  obtain ⟨b, hb, hchain⟩ := TableUse.isRequired_iff.mp ha
  clear ha
  induction hchain using Relation.ReflTransGen.head_induction_on with
  | refl =>
    have huses := (h.referenced b hb).resolve_left (by rw [hreferenced]; exact List.not_mem_nil)
    exact huses.2.needs hkept fun hmem => h.apart _ hmem rfl
  | @head a c hstep hrest ih =>
    have hdependency : a = c ∨ passage.Holds format scope outer (a, c) := by
      rcases h.dependencies (a, c) hstep with hd | hself | ⟨hnote, -⟩ | hholds
      · obtain ⟨j, hj, hscope, hdepends⟩ := hdependencies _ hd
        exact .inr (h.planned j hj hscope _ hdepends)
      · exact .inl hself
      · exact absurd hnote (hnotes c)
      · exact .inr hholds
    by_cases hself : a = c
    · rw [hself]
      exact ih
    · have hrequired : Schema.keeps r' ⟨scope, c⟩ = true :=
        TableUse.isRequired_iff.mpr ⟨b, hb, hrest⟩
      refine (hdependency.resolve_left hself).uses.needs ?_ ?_
      · exact List.forall_mem_append.mpr ⟨hkept, List.forall_mem_singleton.mpr hrequired⟩
      · intro hmem
        rcases List.mem_append.mp hmem with hmem | hmem
        · exact h.apart _ hmem rfl
        · exact hself (congrArg ConditionKey.aliasName (List.mem_singleton.mp hmem))

namespace Schema

theorem tableUse_initial (scope : ScopeId) : ({} : CompileState).resolver.tableUse scope = {} := by
  cases scope <;> rfl

theorem poised_emitting {elements : List Element} {registered : CompileState} {q : Queued}
    (hregister : (Registration.elements s elements).run {} = .ok ((), registered))
    (hq : Registered q {} registered) : Poised {} registered q registered.emitting where
  live := live_initial
  registered := hq
  ready := ready_emitting hq
  stays := .of_links rfl
  nested := by
    have hsteps : Resolver.Steps (fun _ => True) ({} : CompileState).resolver registered.resolver :=
      Registration.elements_steps elements true (.inside live_initial) (.inl fun _ => trivial)
        hregister
    exact (hsteps.wellNested wellNested_initial).of_same (fun _ => rfl) rfl
      (hq.advances.grows.lt_length live_initial)

/-- The passage that is emitted for a tidy query shows all that is required in any scope. -/
theorem emit_needs {spec : SchemaSpec} (hs : spec.toSchema = .ok s) (hcolumned : s.Columned)
    {elements : List Element} (htidy : Element.allTidy elements = true) {dialect : Dialect}
    {state : CompileState} (hemit : s.emit dialect elements = .ok (passage, state))
    (hconfined : passage.Confined) {j : Placed JoinPart} (hj : j ∈ passage.joins)
    (hwritten : j.Written (keeps state.resolver)) :
    passage.Needs ⟨dialect, true⟩ (keeps state.resolver) j.item.key := by
  obtain ⟨registered, hregister, hrun⟩ := emit_walks hemit
  obtain ⟨queued, hqueued, hplots⟩ :=
    Registration.elements_plotting hs elements {} () registered hregister
  have hstep : InStep 0 [] (Registration.elements s elements)
      (Emission.elements s ⟨dialect, true⟩ true elements) := elements_inStep elements 0 true
  obtain ⟨q, hq, -⟩ := hstep {} registered live_initial rfl hregister
  have hautoJoins : q.autoJoins = queued :=
    (congrArg Queued.autoJoins hq.queued).symm.trans hqueued
  have hshown := elements_shows hs hcolumned rfl elements true htidy {} registered q
    registered.emitting passage state hregister (poised_emitting hregister hq) hrun hconfined
  obtain ⟨e, outer, hnotes, hscope⟩ := hshown.exists_scopeShown j.item.scope
  have hkept : ∀ k ∈ outer, keeps state.resolver k = true := by
    rw [← (hscope.joins j hj rfl).2]
    exact hwritten.1
  have hinitial := tableUse_initial j.item.scope
  refine hscope.needs_of_required hnotes ?_ ?_ hkept hwritten.2
  · exact (hplots.referenced _).trans (congrArg TableUse.referenced hinitial)
  · intro d hd
    rw [hautoJoins]
    apply (hplots.dependencies _ d hd).resolve_left
    rw [hinitial]
    exact List.not_mem_nil

/-- In a tidy query, an automatic join that is written with the statement is needed, wherever it is,
as long as the automatic joins are confined to their scopes. -/
theorem compile_writes_needed_joins {spec : SchemaSpec} (hs : spec.toSchema = .ok s)
    (hcolumned : s.Columned) {options : CompileOptions} {elements : List Element}
    (htidy : Element.allTidy elements = true) {statement : CompiledStatement}
    (h : s.compile options elements = .ok statement) :
    ∃ passage state style, s.emit options.dialect elements = .ok (passage, state) ∧
      (options.observers = [] →
        statement.sql = (passage.fragment.render style (keeps state.resolver)).sql) ∧
      (passage.Confined → ∀ j ∈ passage.joins, j.Written (keeps state.resolver) →
        passage.Needs ⟨options.dialect, true⟩ (keeps state.resolver) j.item.key) := by
  obtain ⟨passage, state, style, hemit, -, hsql⟩ := emit_of_compile h
  exact ⟨passage, state, style, hemit, hsql, fun hconfined _ hj hwritten =>
    emit_needs hs hcolumned htidy hemit hconfined hj hwritten⟩

end Schema

/-! ## Visits and items -/

namespace Sample

def visitOrders : List Element := [
  .select "Order" .nested none, .fromTable "Order" none true,
  .join ⟨.left, .entity "Visit", none, none,
    .template [.column ⟨"Visit", "id", none, .cascade⟩, .sql " = ",
      .column ⟨"Customer", "id", some "customer", .cascade⟩], true⟩,
  .sql " WHERE ", .column ⟨"Visit", "id", none, .cascade⟩, .sql " > 1"]

/-- Orders as long as there are items. The visits that are joined to them automatically are not
used, but their condition mentions the customer of the order around. -/
def itemOrders : List Element := [
  .select "Order" .nested none, .fromTable "Order" none true, .sql " WHERE EXISTS ",
  .subquery [.sql "SELECT 1 ", .fromTable "Item" none false,
    .join ⟨.inner, .entity "Visit", none, none,
      .template [.column ⟨"Customer", "id", some "customer", .outer⟩, .sql " = 1"], true⟩] true]

end Sample

namespace Schema

theorem compile_visitOrders_writes_needed_joins :
    ∃ statement, Sample.shop.compile {} Sample.visitOrders = .ok statement ∧
      ∃ passage state style,
        Sample.shop.emit ({} : CompileOptions).dialect Sample.visitOrders = .ok (passage, state) ∧
        (({} : CompileOptions).observers = [] →
          statement.sql = (passage.fragment.render style (keeps state.resolver)).sql) ∧
        passage.Confined ∧
        (∀ j ∈ passage.joins, j.Written (keeps state.resolver) →
          passage.Needs ⟨({} : CompileOptions).dialect, true⟩ (keeps state.resolver) j.item.key) ∧
        ∀ aliasName ∈ ["_c", "_v"], ∃ j ∈ passage.joins, j.item.key = ⟨0, aliasName⟩ ∧
          j.Written (keeps state.resolver) := by
  have hrun : ∃ statement, Sample.shop.compile {} Sample.visitOrders = .ok statement ∧
      statement.sql = "SELECT \"_o\".\"id\", \"_o\".\"customer_id\" FROM \"Order\" AS \"_o\" " ++
        "INNER JOIN \"Customer\" AS \"_c\" ON \"_o\".\"customer_id\" = \"_c\".\"id\" " ++
        "LEFT JOIN \"Visit\" AS \"_v\" ON \"_v\".\"id\" = \"_c\".\"id\" " ++
        "WHERE \"_v\".\"id\" > 1" := by
    decide +kernel
  have hconfined : ∃ result,
      Sample.shop.emit ({} : CompileOptions).dialect Sample.visitOrders = .ok result ∧
      result.1.Confined ∧ ∀ aliasName ∈ ["_c", "_v"], ∃ j ∈ result.1.joins,
        j.item.key = ⟨0, aliasName⟩ ∧ j.Written (keeps result.2.resolver) := by
    decide +kernel
  obtain ⟨statement, h, -⟩ := hrun
  obtain ⟨passage, state, style, hemit, hsql, hneeded⟩ :=
    compile_writes_needed_joins Sample.toSchema_shopSpec (by decide) (by decide) h
  obtain ⟨result, hresult, hconfined, hwritten⟩ := hconfined
  rw [hemit] at hresult
  cases hresult
  exact ⟨statement, h, passage, state, style, hemit, hsql, hconfined, hneeded hconfined, hwritten⟩

/-- The condition of the visits is left out of the statement, and nothing else mentions the customer
of the orders, who is joined to them all the same. -/
theorem exists_unneeded_join :
    Sample.shopSpec.toSchema = .ok Sample.shop ∧
    (∃ statement, Sample.shop.compile {} Sample.itemOrders = .ok statement ∧
      statement.sql =
        "SELECT \"_o\".\"id\", \"_o\".\"customer_id\" FROM \"Order\" AS \"_o\" " ++
        "INNER JOIN \"Customer\" AS \"_c\" ON \"_o\".\"customer_id\" = \"_c\".\"id\" " ++
        "WHERE EXISTS (SELECT 1 FROM \"Item\" AS \"_i\")") ∧
    ∃ result, Sample.shop.emit .ansi Sample.itemOrders = .ok result ∧
      ∃ j ∈ result.1.joins, j.Written (keeps result.2.resolver) ∧
        j.item.key = ⟨0, "_c"⟩ ∧
        ¬ result.1.Needs ⟨.ansi, true⟩ (keeps result.2.resolver) j.item.key :=
  ⟨Sample.toSchema_shopSpec, by decide +kernel, by decide +kernel⟩

end Schema

end RelMap
