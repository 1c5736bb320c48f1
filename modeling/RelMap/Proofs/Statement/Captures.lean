import RelMap.Proofs.Statement.Bindings
import RelMap.Proofs.Statement.Lockstep

/-!
# Qualifiers that are captured

A generated alias differs from the qualifiers that are bound around it when it is generated. So a
reference from a nested query means what it says if its table was bound before the query was opened;
a table that the enclosing query binds later may get an alias that is taken inside.
-/

namespace RelMap

open Resolver

/-- A scope between the current one and the owner of an occurrence takes the qualifier of the
occurrence. -/
def Resolver.Captured (r : Resolver) (owner : ScopeId) (o : Occurrence) : Prop :=
  ∃ scope, scope ≠ owner ∧ r.Inside owner scope ∧ r.Inside scope r.current ∧
    ∃ other ∈ r.occurrences scope, other.qualifier = o.qualifier

variable {s : Schema}

/-- The occurrence was bound in its scope when the query of the scope `inner` was opened there. -/
def BoundBefore (s : Schema) (es : List Element) (o : Occurrence) (owner inner : ScopeId) : Prop :=
  ∃ address c opening, (Registration.walk s).Reaches es {} address c opening ∧
    c.query?.isSome = true ∧ opening.resolver.current = owner ∧
    opening.resolver.scopes.length = inner ∧ o ∈ opening.resolver.occurrences owner

section

variable {es : List Element} {registered : CompileState}

theorem wellNested_initial : ({} : CompileState).resolver.WellNested := by
  refine ⟨live_initial, ?_⟩
  intro scope parent hparent
  cases scope with
  | zero => cases hparent
  | succ scope => cases hparent

theorem occurrences_initial (scope : ScopeId) :
    ({} : CompileState).resolver.occurrences scope = [] := by
  cases scope <;> rfl

theorem steps_of_registers (h : (Registration.elements s es).run {} = .ok ((), registered)) :
    Steps (fun _ => True) ({} : CompileState).resolver registered.resolver :=
  Registration.elements_steps es true (.inside live_initial) (.inl fun _ => trivial) h

theorem placesDistinct_of_registers
    (h : (Registration.elements s es).run {} = .ok ((), registered)) :
    registered.resolver.PlacesDistinct := by
  have hdistinct : ({} : CompileState).resolver.PlacesDistinct := by
    intro scope
    rw [occurrences_initial]
    exact List.nodup_nil
  have hkept := Steps.keeps (steps_of_registers h) (fun _ _ => PlacesDistinct.step)
    ⟨wellNested_initial, hdistinct⟩
  exact hkept.2

/-- What was bound around a query when it was opened has its qualifiers for itself. -/
theorem keepsApart_of_boundBefore (hgenerates : Element.allGenerate false es = true)
    (h : (Registration.elements s es).run {} = .ok ((), registered)) {o : Occurrence}
    {owner inner : ScopeId} (ho : BoundBefore s es o owner inner) :
    ∃ qualifiers, o.qualifier ∈ qualifiers ∧
      registered.resolver.KeepsApart inner owner qualifiers := by
  obtain ⟨address, c, opening, hreaches, hquery, rfl, rfl, ho⟩ := ho
  have hout : Registration.Free Outermost ({} : CompileState).resolver :=
    ⟨rfl, fun _ h => h⟩
  obtain ⟨done, hdone⟩ := Registration.around_of_reaches hreaches false
    ⟨live_initial, fun _ => hout⟩ (.inr hgenerates) h
  obtain ⟨⟨body, correlated⟩, hbody⟩ := Option.isSome_iff_exists.mp hquery
  have hsteps := (hdone.inside body correlated hbody).trans hdone.last
  have hnested := Steps.wellNested hdone.first wellNested_initial
  have hopened : (opening.opened correlated).resolver.KeepsApart _ _ _ :=
    KeepsApart.push hnested correlated
  exact ⟨_, List.mem_map_of_mem ho, Steps.keeps hsteps (fun _ _ => KeepsApart.step) hopened⟩

theorem not_captured_of_boundBefore (hgenerates : Element.allGenerate false es = true)
    (h : (Registration.elements s es).run {} = .ok ((), registered)) {r : Resolver} {o : Occurrence}
    {owner : ScopeId} (hsame : registered.resolver.SameTables r)
    (ho : ∀ inner, r.parent? inner = some owner → r.Inside inner r.current →
      BoundBefore s es o owner inner) : ¬ r.Captured owner o := by
  rintro ⟨scope, hne, howner, hinside, other, hother, hqualifier⟩
  obtain ⟨inner, hparent, hscope⟩ := howner.exists_child hne
  have hbefore := ho inner hparent (hscope.trans hinside)
  obtain ⟨qualifiers, hmem, hapart⟩ := keepsApart_of_boundBefore hgenerates h hbefore
  have hscope' : registered.resolver.Inside inner scope :=
    hscope.congr fun scope => (hsame.parent? scope).symm
  rw [hsame.occurrences] at hother
  apply hapart.apart scope hscope' other hother
  rw [hqualifier]
  exact hmem

theorem qualifiersDistinct_of_generates (hgenerates : Element.allGenerate true es = true)
    (h : (Registration.elements s es).run {} = .ok ((), registered)) :
    registered.resolver.QualifiersDistinct := by
  have hsteps : Steps (fun _ => False) ({} : CompileState).resolver registered.resolver :=
    Registration.elements_steps es true (.inside live_initial) (.inr hgenerates) h
  have hdistinct : ({} : CompileState).resolver.QualifiersDistinct := by
    intro scope
    rw [occurrences_initial]
    exact List.nodup_nil
  have hkept := Steps.keeps hsteps (fun _ _ => QualifiersDistinct.step)
    ⟨wellNested_initial, hdistinct⟩
  exact hkept.2

end

/-- A reference to an occurrence from a nested query is not captured if the occurrence was bound
before the query was opened. If all aliases are generated, the qualifiers of a scope differ. -/
theorem references_not_captured {es : List Element} {options : CompileOptions}
    {statement : CompiledStatement} (hgenerates : Element.allGenerate false es = true)
    (h : s.compile options es = .ok statement) :
    ∃ registered, (Registration.elements s es).run {} = .ok ((), registered) ∧
      (∀ address c visited,
        (Emission.walk s ⟨options.dialect, true⟩).Reaches es registered.emitting address c visited →
        let r := visited.resolver
        ∀ filter, ∀ found ∈ r.visibleOccurrences filter,
          (∀ inner, r.parent? inner = some found.1 → r.Inside inner r.current →
            BoundBefore s es found.2 found.1 inner) →
          ¬ r.Captured found.1 found.2) ∧
      (Element.allGenerate true es = true →
        ∀ scope, ((registered.resolver.occurrences scope).map Occurrence.qualifier).Nodup) := by
  obtain ⟨passage, state, style, hemit, -⟩ := Schema.emit_of_compile h
  obtain ⟨registered, hregister, -⟩ := Schema.emit_ok hemit
  refine ⟨registered, hregister, ?_, ?_⟩
  · intro address c visited hreaches r filter found hfound hbefore
    obtain ⟨-, hsame⟩ := matched_of_reaches_emitting hregister hreaches
    exact not_captured_of_boundBefore hgenerates hregister hsame hbefore
  · intro hall
    exact qualifiersDistinct_of_generates hall hregister

/-! ## Orders and those before them -/

namespace Sample

def ordersBefore : List Element := [
  .sql "SELECT count(*) ", .fromTable "Order" none false, .sql " WHERE ",
  .column ⟨"Order", "id", none, .outer⟩, .sql " > ", .column ⟨"Order", "id", none, .inner⟩]

def firstOrders : List Element := [
  .sql "SELECT * ", .fromTable "Order" none false, .sql " WHERE 3 > ",
  .subquery ordersBefore true]

/-- The ranks of the orders. The query inside comes before the table of the query around it. -/
def ranks : List Element := [
  .sql "SELECT ", .subquery ordersBefore true, .sql " ", .fromTable "Order" none false]

end Sample

theorem references_not_captured_firstOrders :
    Element.allGenerate false Sample.firstOrders = true ∧
    Element.allGenerate true Sample.firstOrders = true ∧
    ∃ statement, Sample.shop.compile {} Sample.firstOrders = .ok statement ∧
      ∃ registered,
        (Registration.elements Sample.shop Sample.firstOrders).run {} = .ok ((), registered) ∧
        (∀ scope,
          ((registered.resolver.occurrences scope).map Occurrence.qualifier).Nodup) ∧
        ∃ visited, (Emission.walk Sample.shop ⟨.ansi, true⟩).Reaches Sample.firstOrders
            registered.emitting [3, 3] (.element (.column ⟨"Order", "id", none, .outer⟩)) visited ∧
          ∃ found ∈ visited.resolver.visibleOccurrences .outer,
            BoundBefore Sample.shop Sample.firstOrders found.2 found.1 1 ∧
            ¬ visited.resolver.Captured found.1 found.2 := by
  have hgenerates : Element.allGenerate true Sample.firstOrders = true := by decide
  have hgenerates' : Element.allGenerate false Sample.firstOrders = true := by decide
  let order := (Sample.ofCustomer "Order").toEntityInfo
  have hopened : ∃ bound, (Registration.element Sample.shop (.fromTable "Order" none false)).run {} =
      .ok bound ∧ bound.2.resolver.current = 0 ∧ bound.2.resolver.scopes.length = 1 ∧
        (⟨order, "", "_o"⟩ : Occurrence) ∈ bound.2.resolver.occurrences 0 := by
    decide +kernel
  obtain ⟨⟨_, bound⟩, hbound, hcurrent, hlength, ho⟩ := hopened
  have hbefore : BoundBefore Sample.shop Sample.firstOrders ⟨order, "", "_o"⟩ 0 1 :=
    ⟨[3], _, bound, .later rfl (.later hbound (.later rfl (.here _ _ _))), rfl, hcurrent, hlength,
      ho⟩
  have hcompile : ∃ statement, Sample.shop.compile {} Sample.firstOrders = .ok statement ∧
      statement.sql = "SELECT * FROM \"Order\" AS \"_o\" WHERE 3 > " ++
        "(SELECT count(*) FROM \"Order\" AS \"_o1\" WHERE \"_o\".\"id\" > \"_o1\".\"id\")" := by
    decide +kernel
  obtain ⟨statement, h, -⟩ := hcompile
  obtain ⟨registered, hregister, hcaptured, hdistinct⟩ := references_not_captured hgenerates' h
  have hvisited : ∃ walked, (Registration.elements Sample.shop Sample.firstOrders).run {} =
        .ok walked ∧
      ∃ rooted, (Emission.element Sample.shop ⟨.ansi, true⟩ false
          (.fromTable "Order" none false)).run walked.2.emitting = .ok rooted ∧
        rooted.2.subqueries = [1] ∧
      ∃ visited, (Emission.element Sample.shop ⟨.ansi, true⟩ false
          (.fromTable "Order" none false)).run (rooted.2.entered 1 []) = .ok visited ∧
        (0, ⟨order, "", "_o"⟩) ∈ visited.2.resolver.visibleOccurrences .outer ∧
        visited.2.resolver.current = 1 ∧ visited.2.resolver.parent? 1 = some 0 ∧
        visited.2.resolver.parent? 0 = none := by
    decide +kernel
  obtain ⟨walked, hwalked, rooted, hrooted, hnext, visited, hvisited, hfound,
    hcurrent, hparent, hroot⟩ := hvisited
  cases hwalked.symm.trans hregister
  have hreaches : (Emission.walk Sample.shop ⟨.ansi, true⟩).Reaches Sample.firstOrders
      registered.emitting [3, 3] (.element (.column ⟨"Order", "id", none, .outer⟩)) visited.2 :=
    .later ⟨true, _, rfl⟩ (.later ⟨_, _, hrooted⟩ (.later ⟨true, _, rfl⟩
      (.subquery ⟨1, [], hnext, rfl⟩ (.later ⟨true, _, rfl⟩ (.later ⟨_, _, hvisited⟩
        (.later ⟨true, _, rfl⟩ (.here _ _ _)))))))
  refine ⟨hgenerates', hgenerates, statement, h, registered, hregister, hdistinct hgenerates,
    visited.2, hreaches, _, hfound, hbefore, ?_⟩
  apply hcaptured _ _ _ hreaches _ _ hfound
  intro inner hinner hinside
  have hinner' : inner = 1 := by
    rw [hcurrent] at hinside
    rcases hinside.eq_or_parent? with heq | ⟨parent, hparent', hinside⟩
    · exact heq.symm
    · cases hparent.symm.trans hparent'
      rcases hinside.eq_or_parent? with rfl | ⟨parent, hparent', -⟩
      · cases hroot.symm.trans hinner
      · cases hroot.symm.trans hparent'
  rw [hinner']
  exact hbefore

/-- The query takes the alias that the table of the query around it gets later on, so that a
reference from the one to the other is captured. -/
theorem exists_captured_reference :
    Sample.shopSpec.toSchema = .ok Sample.shop ∧
    Element.allGenerate true Sample.ranks = true ∧
    (∃ statement, Sample.shop.compile {} Sample.ranks = .ok statement ∧
      statement.sql = "SELECT (SELECT count(*) FROM \"Order\" AS \"_o\" " ++
        "WHERE \"_o\".\"id\" > \"_o\".\"id\") FROM \"Order\" AS \"_o\"") ∧
    ∃ result, Sample.shop.emit .ansi Sample.ranks = .ok result ∧
      ∃ m ∈ result.1.mentions, m.item.owner = 0 ∧
        (result.2.resolver.enter 1).Captured 0 m.item.occurrence := by
  have hresult : ∃ result, Sample.shop.emit .ansi Sample.ranks = .ok result ∧
      ∃ m ∈ result.1.mentions, m.item.owner = 0 ∧ result.2.resolver.parent? 1 = some 0 ∧
        ∃ other ∈ result.2.resolver.occurrences 1, other.qualifier = m.item.occurrence.qualifier := by
    decide +kernel
  obtain ⟨result, hemit, m, hm, howner, hparent, hother⟩ := hresult
  refine ⟨Sample.toSchema_shopSpec, by decide, by decide +kernel, result, hemit, m, hm, howner, ?_⟩
  exact ⟨1, by decide, .step hparent .refl, .refl, hother⟩

end RelMap
