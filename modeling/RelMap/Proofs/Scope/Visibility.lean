import Mathlib.Data.List.Find
import RelMap.Proofs.Scope.Nesting

/-!
# Visibility

Look-ups start at the current scope and leave a scope for the one around it only if it is correlated.
Two resolvers that agree on the scopes up to there answer alike and mark alike, whatever is bound or
marked in the scopes beyond.
-/

namespace RelMap.Resolver

variable {r r' : Resolver} {scope other : ScopeId} {entity : EntityName} {path : Option String}
  {filter : ScopeFilter}

/-! ## Scopes in reach -/

/-- The scopes from the current one up to and including the nearest that is not correlated. -/
inductive Reaches (r : Resolver) : ScopeId → Prop
  | current : Reaches r r.current
  | around {scope parent : ScopeId} {s : Scope} (h : Reaches r scope)
    (hs : r.scopes[scope]? = some s) (hcorrelated : s.correlated = true)
    (hparent : s.parent = some parent) : Reaches r parent

theorem reaches_of_mem_chain {fuel : Nat} (h : r.Reaches scope)
    (hother : other ∈ r.chain (·.correlated) fuel scope) : r.Reaches other := by
  induction fuel generalizing scope with
  | zero => cases hother
  | succ fuel ih =>
    rw [chain] at hother
    split at hother
    · cases hother
    · next s hs =>
      rcases List.mem_cons.mp hother with rfl | hother
      · exact h
      split at hother
      · next parent hparent =>
        split at hother
        · next hcorrelated => exact ih (.around h hs hcorrelated hparent) hother
        · cases hother
      · cases hother

theorem reaches_of_mem_visibleScopes (h : scope ∈ r.visibleScopes filter) : r.Reaches scope := by
  cases filter with
  | inner =>
    cases List.mem_singleton.mp h
    exact .current
  | outer => exact reaches_of_mem_chain .current (List.mem_of_mem_tail h)
  | cascade => exact reaches_of_mem_chain .current h

theorem SameTree.reaches (h : r.SameTree r') (hscope : r'.Reaches scope) : r.Reaches scope := by
  induction hscope with
  | current =>
    rw [h.current]
    exact .current
  | @around scope parent s' _ hs' hcorrelated hparent ih =>
    have hget := h.getElem? scope
    rw [hs', Option.map_some, eq_comm, Option.map_eq_some_iff] at hget
    obtain ⟨s, hs, hlink⟩ := hget
    obtain ⟨hsameParent, hsameCorrelated⟩ := Prod.mk.inj hlink
    exact .around ih hs (hsameCorrelated.trans hcorrelated) (hsameParent.trans hparent)

/-! ## The same view -/

/-- The scopes stand in the same tree, and those in reach of a look-up are equal. -/
structure SameView (r r' : Resolver) : Prop extends SameTree r r' where
  reached : ∀ scope, r.Reaches scope → r'.scopes[scope]? = r.scopes[scope]?

namespace SameView

theorem occurrences (h : r.SameView r') (hscope : scope ∈ r.visibleScopes filter) :
    r'.occurrences scope = r.occurrences scope := by
  unfold Resolver.occurrences
  rw [h.reached scope (reaches_of_mem_visibleScopes hscope)]

theorem bindingIn (h : r.SameView r') {scopes : List ScopeId}
    (hscopes : scopes ⊆ r.visibleScopes filter) :
    r'.bindingIn entity path scopes = r.bindingIn entity path scopes := by
  induction scopes with
  | nil => rfl
  | cons first rest ih =>
    obtain ⟨hfirst, hrest⟩ := List.cons_subset.mp hscopes
    rw [Resolver.bindingIn, Resolver.bindingIn, h.occurrences hfirst, ih hrest]

theorem findBinding (h : r.SameView r') :
    r'.findBinding entity path filter = r.findBinding entity path filter := by
  rw [Resolver.findBinding, Resolver.findBinding, h.visibleScopes]
  exact h.bindingIn (List.Subset.refl _)

theorem visibleOccurrences (h : r.SameView r') :
    r'.visibleOccurrences filter = r.visibleOccurrences filter := by
  rw [Resolver.visibleOccurrences, Resolver.visibleOccurrences, h.visibleScopes]
  apply List.flatMap_congr
  intro scope hscope
  rw [h.occurrences hscope]

theorem embeddingIn (h : r.SameView r') {s : Schema} {scopes : List ScopeId}
    (hscopes : scopes ⊆ r.visibleScopes filter) :
    r'.embeddingIn s entity path scopes = r.embeddingIn s entity path scopes := by
  induction scopes with
  | nil => rfl
  | cons first rest ih =>
    obtain ⟨hfirst, hrest⟩ := List.cons_subset.mp hscopes
    rw [Resolver.embeddingIn, Resolver.embeddingIn, embeddings, embeddings, h.occurrences hfirst,
      ih hrest]

theorem columnHost (h : r.SameView r') (s : Schema) (c : ColumnRef) :
    r'.columnHost s c = r.columnHost s c := by
  unfold Resolver.columnHost
  rw [h.visibleScopes, h.embeddingIn (List.Subset.refl _), h.findBinding]

theorem find?_owns (h : r.SameView r') (entity : EntityInfo) (aliasName : String) :
    (r'.visibleScopes filter).find? (r'.owns entity aliasName) =
      (r.visibleScopes filter).find? (r.owns entity aliasName) := by
  rw [h.visibleScopes]
  apply List.find?_congr
  intro scope hscope
  rw [owns, owns, h.occurrences hscope]

theorem modifyTableUse (h : r.SameView r') (scope : ScopeId) (f : TableUse → TableUse) :
    (r.modifyTableUse scope f).SameView (r'.modifyTableUse scope f) := by
  have htree := (SameTables.modifyTableUse r scope f).sameTree rfl
  have htree' := (SameTables.modifyTableUse r' scope f).sameTree rfl
  refine ⟨⟨h.current, htree'.links.trans (h.links.trans htree.links.symm)⟩, ?_⟩
  intro other hother
  unfold Resolver.modifyTableUse
  rw [getElem?_modifyScope, getElem?_modifyScope, h.reached other (htree.reaches hother)]

end SameView

/-! ## Calls that mark -/

/-- Steps from two resolvers fail alike and leave them as they are, or they give the same answer and
mark the same qualifier in the same scope, one in reach, and then the resolvers still have the same
view. -/
def Alike {ε α : Type} (r r' : Resolver) (x x' : Resolving ε α) : Prop :=
  (∃ e, x.run.run r = (.error e, r) ∧ x'.run.run r' = (.error e, r')) ∨
    ∃ answer scope qualifier, r.Reaches scope ∧
      x.run.run r = (.ok answer, r.modifyTableUse scope (·.mark qualifier)) ∧
      x'.run.run r' = (.ok answer, r'.modifyTableUse scope (·.mark qualifier)) ∧
      (r.modifyTableUse scope (·.mark qualifier)).SameView
        (r'.modifyTableUse scope (·.mark qualifier))

/-- A check before the steps that does not look at the resolvers fails for both or for neither. -/
theorem Alike.check_bind {ε α β : Type} {x : Except ε β} {f f' : β → Resolving ε α}
    (h : ∀ b, Alike r r' (f b) (f' b)) :
    Alike r r' (ExceptT.mk (pure x) >>= f) (ExceptT.mk (pure x) >>= f') := by
  cases x with
  | error e => exact .inl ⟨e, rfl, rfl⟩
  | ok b => exact h b

namespace SameView

theorem useAlias (h : r.SameView r') (entity : EntityInfo) (aliasName : String)
    (filter : ScopeFilter) :
    Alike r r' (useAlias entity aliasName filter) (useAlias entity aliasName filter) := by
  unfold Alike
  rw [run_useAlias, run_useAlias, h.find?_owns]
  split
  · next scope hfind =>
    have hscope := reaches_of_mem_visibleScopes (List.mem_of_find?_eq_some hfind)
    exact .inr ⟨scope, scope, _, hscope, rfl, rfl, h.modifyTableUse scope _⟩
  · exact .inl ⟨_, rfl, rfl⟩

theorem resolveColumn (h : r.SameView r') (s : Schema) (c : ColumnRef) :
    Alike r r' (resolveColumn s c) (resolveColumn s c) := by
  unfold Alike
  rw [run_resolveColumn, run_resolveColumn, h.columnHost]
  refine Alike.check_bind fun ((owner, o), fieldPath) => ?_
  refine .check_bind fun table => .check_bind fun span => ?_
  rcases h.useAlias o.entity o.aliasName c.scope with ⟨e, hrun, hrun'⟩ |
    ⟨answer, scope, qualifier, hscope, hrun, hrun', hview⟩
  · exact .inl ⟨_, ExceptT.run_bind_of_error (ExceptT.run_adapt_of_error hrun),
      ExceptT.run_bind_of_error (ExceptT.run_adapt_of_error hrun')⟩
  · exact .inr ⟨_, scope, qualifier, hscope, ExceptT.run_bind_of_ok (ExceptT.run_adapt_of_ok hrun),
      ExceptT.run_bind_of_ok (ExceptT.run_adapt_of_ok hrun'), hview⟩

end SameView

/-! ## What is out of reach -/

/-- Whatever is bound or marked in the scopes beyond the nearest that is not correlated, look-ups and
uses of aliases answer the same, and they mark only scopes up to there, in the same way. Those that
fail mark nothing. -/
theorem enclosing_queries_unseen (h : r.SameView r') (s : Schema) :
    (∀ entity path filter, r'.findBinding entity path filter = r.findBinding entity path filter) ∧
    (∀ filter, r'.visibleOccurrences filter = r.visibleOccurrences filter) ∧
    (∀ entity aliasName filter,
      Alike r r' (useAlias entity aliasName filter) (useAlias entity aliasName filter)) ∧
    ∀ c, Alike r r' (resolveColumn s c) (resolveColumn s c) :=
  ⟨fun _ _ _ => h.findBinding, fun _ => h.visibleOccurrences, h.useAlias, h.resolveColumn s⟩

namespace Sample

def order : EntityInfo := ⟨"Order", "order", .table⟩

def visit : Entity := ⟨⟨"Visit", "visit", .table⟩, [.scalar { name := "id" } .int]⟩

/-- A correlated scope in one that is not, with a visit there and `outer` around. -/
def inVisits (outer : Scope) : Resolver :=
  ⟨[outer, ⟨some 0, false, [⟨visit.toEntityInfo, "", "_v"⟩], {}⟩, ⟨some 1, true, [], {}⟩], 2⟩

theorem sameView_inVisits {outer outer' : Scope} (h : outer'.link = outer.link) :
    (inVisits outer).SameView (inVisits outer') := by
  refine ⟨⟨rfl, ?_⟩, ?_⟩
  · exact congrArg (· :: _) h
  · intro scope hscope
    have hnear : scope = 2 ∨ scope = 1 := by
      induction hscope with
      | current => exact .inl rfl
      | around _ hs hcorrelated hparent ih =>
        rcases ih with rfl | rfl
        · cases hs
          cases hparent
          exact .inr rfl
        · cases hs
          cases hcorrelated
    rcases hnear with rfl | rfl <;> rfl

end Sample

open Resolver.Sample in
/-- An order around the visits is not seen from inside of them. -/
theorem enclosing_order_unseen :
    let r := inVisits ⟨none, false, [⟨order, "", "_o"⟩], { referenced := ["_o"] }⟩
    let r' := inVisits ⟨none, false, [], {}⟩
    let column : ColumnRef := { entity := "Visit", field := "id" }
    r.SameView r' ∧ r.occurrences 0 ≠ r'.occurrences 0 ∧
      r'.findBinding "Order" none .outer = r.findBinding "Order" none .outer ∧
      r'.findBinding "Visit" none .outer = r.findBinding "Visit" none .outer ∧
      Alike r r' (resolveColumn ⟨[visit], {}, []⟩ column) (resolveColumn ⟨[visit], {}, []⟩ column) ∧
      ((resolveColumn ⟨[visit], {}, []⟩ column).run.run r).2 =
        r.modifyTableUse 1 (·.mark "_v") := by
  intro r r' column
  have hview : r.SameView r' := sameView_inVisits rfl
  obtain ⟨hfind, -, -, hcolumn⟩ := enclosing_queries_unseen hview ⟨[visit], {}, []⟩
  exact ⟨hview, by decide, hfind _ _ _, hfind _ _ _, hcolumn column, by decide +kernel⟩

end RelMap.Resolver
