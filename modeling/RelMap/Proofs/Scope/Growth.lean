import RelMap.Proofs.Scope.Lookup
import RelMap.Proofs.Scope.Requirement

/-!
# What resolvers keep

Operations on a resolver add scopes, occurrences, references and dependencies. None of them moves a
scope or takes back what is recorded about it.
-/

namespace RelMap

/-- The scope has the same place and at least the same table use. -/
structure Scope.Grows (s s' : Scope) : Prop where
  parent : s'.parent = s.parent
  referenced : s.tableUse.referenced ⊆ s'.tableUse.referenced
  dependencies : s.tableUse.dependencies ⊆ s'.tableUse.dependencies

theorem Scope.Grows.refl (s : Scope) : s.Grows s :=
  ⟨rfl, List.Subset.refl _, List.Subset.refl _⟩

namespace Resolver

variable {r r' r'' : Resolver} {scope other : ScopeId}

def parent? (r : Resolver) (scope : ScopeId) : Option ScopeId :=
  (r.scopes[scope]?).bind (·.parent)

def Live (r : Resolver) : Prop := r.current < r.scopes.length

/-- Every scope is still there and grows. -/
def Grows (r r' : Resolver) : Prop :=
  ∀ (scope : ScopeId) (s : Scope), r.scopes[scope]? = some s →
    ∃ s', r'.scopes[scope]? = some s' ∧ s.Grows s'

namespace Grows

theorem of_scopes (h : r'.scopes = r.scopes) : r.Grows r' := by
  intro scope s hs
  exact ⟨s, h ▸ hs, .refl s⟩

theorem trans (h : r.Grows r') (h' : r'.Grows r'') : r.Grows r'' := by
  intro scope s hs
  obtain ⟨s', hs', hgrows⟩ := h scope s hs
  obtain ⟨s'', hs'', hgrows'⟩ := h' scope s' hs'
  refine ⟨s'', hs'', hgrows'.parent.trans hgrows.parent, ?_, ?_⟩
  · exact List.Subset.trans hgrows.referenced hgrows'.referenced
  · exact List.Subset.trans hgrows.dependencies hgrows'.dependencies

theorem lt_length (h : r.Grows r') (hscope : scope < r.scopes.length) :
    scope < r'.scopes.length := by
  obtain ⟨s', hs', -⟩ := h scope _ (List.getElem?_eq_getElem hscope)
  exact (List.getElem?_eq_some_iff.mp hs').1

theorem live (h : r.Grows r') (hcurrent : r'.current = r.current) (hr : r.Live) : r'.Live := by
  unfold Live
  rw [hcurrent]
  exact h.lt_length hr

theorem parent? (h : r.Grows r') (hparent : r.parent? scope = some other) :
    r'.parent? scope = some other := by
  unfold Resolver.parent? at hparent ⊢
  obtain ⟨s, hs, hparent⟩ := Option.bind_eq_some_iff.mp hparent
  obtain ⟨s', hs', hgrows⟩ := h scope s hs
  rw [hs', ← hparent]
  exact hgrows.parent

theorem tableUse (h : r.Grows r') (scope : ScopeId) :
    (r.tableUse scope).referenced ⊆ (r'.tableUse scope).referenced ∧
      (r.tableUse scope).dependencies ⊆ (r'.tableUse scope).dependencies := by
  unfold Resolver.tableUse
  cases hs : r.scopes[scope]? with
  | none => exact ⟨List.nil_subset _, List.nil_subset _⟩
  | some s =>
    obtain ⟨s', hs', hgrows⟩ := h scope s hs
    rw [hs']
    exact ⟨hgrows.referenced, hgrows.dependencies⟩

end Grows

/-! ## Changes of one scope -/

variable {f : Scope → Scope} {g : TableUse → TableUse}

theorem getElem?_modifyScope :
    (r.modifyScope scope f).scopes[other]? =
      if scope = other then (r.scopes[other]?).map f else r.scopes[other]? := by
  unfold modifyScope
  rw [List.getElem?_modify]
  cases r.scopes[other]? <;> split <;> rfl

theorem grows_modifyScope (hf : ∀ s ∈ r.scopes[scope]?, s.Grows (f s)) :
    r.Grows (r.modifyScope scope f) := by
  intro other s hs
  by_cases h : scope = other
  · subst h
    refine ⟨f s, ?_, hf s hs⟩
    rw [getElem?_modifyScope, if_pos rfl, hs]
    rfl
  · refine ⟨s, ?_, .refl s⟩
    rw [getElem?_modifyScope, if_neg h, hs]

theorem grows_register (o : Occurrence) : r.Grows (r.register o) :=
  grows_modifyScope fun _ _ => ⟨rfl, List.Subset.refl _, List.Subset.refl _⟩

theorem tableUse_modifyTableUse_of_ne (h : scope ≠ other) :
    (r.modifyTableUse scope g).tableUse other = r.tableUse other := by
  unfold tableUse modifyTableUse
  rw [getElem?_modifyScope, if_neg h]

theorem tableUse_modifyTableUse (h : scope < r.scopes.length) :
    (r.modifyTableUse scope g).tableUse scope = g (r.tableUse scope) := by
  unfold tableUse modifyTableUse
  rw [getElem?_modifyScope, if_pos rfl, List.getElem?_eq_getElem h]
  rfl

theorem grows_modifyTableUse
    (hreferenced : ∀ u : TableUse, u.referenced ⊆ (g u).referenced)
    (hdependencies : ∀ u : TableUse, u.dependencies ⊆ (g u).dependencies) :
    r.Grows (r.modifyTableUse scope g) :=
  grows_modifyScope fun s _ => ⟨rfl, hreferenced s.tableUse, hdependencies s.tableUse⟩

theorem grows_mark {aliasName : String} : r.Grows (r.modifyTableUse scope (·.mark aliasName)) := by
  apply grows_modifyTableUse
  · intro u a ha
    exact TableUse.mem_referenced_mark.mpr (.inl ha)
  · intro u
    rw [TableUse.dependencies_mark]
    exact List.Subset.refl _

theorem grows_addDependency {aliasName dependent : String} :
    r.Grows (r.modifyTableUse scope (·.addDependency aliasName dependent)) := by
  apply grows_modifyTableUse
  · exact fun u => List.Subset.refl _
  · exact fun u => List.subset_append_left _ _

theorem mem_dependencies_addDependency (h : r.Live) {aliasName dependent : String} :
    (aliasName, dependent) ∈ ((r.modifyTableUse r.current
      (·.addDependency aliasName dependent)).tableUse r.current).dependencies := by
  rw [tableUse_modifyTableUse h]
  exact List.mem_append_right _ (.head _)

/-! ## Scopes -/

theorem parent?_push {correlated : Bool} :
    (r.push correlated).parent? r.scopes.length = some r.current := by
  simp [parent?, push]

theorem live_push {correlated : Bool} : (r.push correlated).Live := by
  simp [Live, push]

theorem grows_push {correlated : Bool} : r.Grows (r.push correlated) := by
  intro scope s hs
  obtain ⟨hlt, -⟩ := List.getElem?_eq_some_iff.mp hs
  refine ⟨s, ?_, .refl s⟩
  rw [← hs]
  exact List.getElem?_append_left hlt

theorem grows_enter : r.Grows (r.enter scope) := .of_scopes rfl

theorem grows_pop : r.Grows r.pop := .of_scopes rfl

theorem current_pop_of_parent? (h : r.parent? r.current = some other) : r.pop.current = other := by
  unfold pop
  unfold parent? at h
  rw [h]
  rfl

/-! ## Bindings -/

/-- An alias is bound unless its occurrence is there already or another entity goes by it. -/
theorem run_setAlias (r : Resolver) (entity : EntityInfo) (aliasName path : String) :
    (setAlias entity aliasName path).run.run r =
      if r.isRegistered entity.name path then (.error (.duplicatePath entity.name path), r)
      else
        match (r.occurrences r.current).find? fun o =>
            o.qualifier == entity.qualifier aliasName && o.entity.name != entity.name with
        | some other => (.error (.aliasInUse (entity.qualifier aliasName) other.entity.name), r)
        | none => (.ok (), r.register ⟨entity, path, aliasName⟩) := by
  have hget : (get : Resolving AliasError Resolver).run.run r = (.ok r, r) := rfl
  unfold setAlias
  rw [ExceptT.run_bind_of_ok hget]
  split
  · rfl
  · dsimp only
    generalize List.find? _ _ = clash
    cases clash <;> rfl

theorem setAlias_ok {entity : EntityInfo} {aliasName path : String}
    (h : (setAlias entity aliasName path).run.run r = (.ok (), r')) :
    r.isRegistered entity.name path = false ∧
      (∀ other ∈ r.occurrences r.current, other.entity.name ≠ entity.name →
        other.qualifier ≠ entity.qualifier aliasName) ∧
      r' = r.register ⟨entity, path, aliasName⟩ := by
  rw [run_setAlias] at h
  split at h
  · cases h
  next hnew =>
  split at h
  · cases h
  next hnone =>
  cases h
  refine ⟨Bool.eq_false_iff.mpr hnew, ?_, rfl⟩
  intro other hother hname hsame
  have hclash := List.find?_eq_none.mp hnone other hother
  simp [hname, hsame] at hclash

theorem setAlias_error {entity : EntityInfo} {aliasName path : String} {error : AliasError}
    (h : (setAlias entity aliasName path).run.run r = (.error error, r')) : r' = r := by
  rw [run_setAlias] at h
  split at h
  · cases h
    rfl
  · split at h <;> cases h
    rfl

def proposals (naming : NamingStrategy) (entity : EntityInfo) (path : String) : Nat → String :=
  match naming.aliasName with
  | some strategy => strategy entity.name path
  | none => defaultAlias entity.name

/-- The resolver once the search for an alias is over: the occurrence is bound if one is found. -/
def boundTo (r : Resolver) (entity : EntityInfo) (path : String) :
    Except AliasError String → Resolver
  | .ok aliasName => r.register ⟨entity, path, aliasName⟩
  | .error _ => r

theorem run_generateAlias (r : Resolver) (naming : NamingStrategy) (entity : EntityInfo)
    (path : String) :
    (generateAlias naming entity path).run.run r =
      if r.isRegistered entity.name path then (.error (.duplicatePath entity.name path), r)
      else
        let outcome := freshAlias entity.name (proposals naming entity path) r.liveQualifiers
          (r.liveQualifiers.length + 1) 0 []
        (outcome, r.boundTo entity path outcome) := by
  have hget : (get : Resolving AliasError Resolver).run.run r = (.ok r, r) := rfl
  unfold generateAlias proposals
  rw [ExceptT.run_bind_of_ok hget]
  cases naming.aliasName <;>
  · dsimp only
    split
    · rfl
    · generalize freshAlias _ _ _ _ _ _ = outcome
      cases outcome <;> rfl

theorem freshAlias_ok {entity : EntityName} {propose : Nat → String} {live proposed : List String}
    {fuel attempt : Nat} {aliasName : String}
    (h : freshAlias entity propose live fuel attempt proposed = .ok aliasName) :
    aliasName ≠ "" ∧ aliasName ∉ live := by
  induction fuel generalizing attempt proposed with
  | zero => cases h
  | succ fuel ih =>
    rw [freshAlias] at h
    split at h
    · cases h
    · next hempty =>
      split at h
      · cases h
      · split at h
        · next hlive =>
          cases h
          exact ⟨hempty, hlive⟩
        · exact ih h

theorem generateAlias_ok {naming : NamingStrategy} {entity : EntityInfo} {path aliasName : String}
    (h : (generateAlias naming entity path).run.run r = (.ok aliasName, r')) :
    r.isRegistered entity.name path = false ∧ aliasName ≠ "" ∧
      entity.qualifier aliasName ∉ r.liveQualifiers ∧
      r' = r.register ⟨entity, path, aliasName⟩ := by
  rw [run_generateAlias] at h
  split at h
  · cases h
  next hnew =>
  obtain ⟨hfresh, rfl⟩ := Prod.ext_iff.mp h
  change freshAlias _ _ _ _ _ _ = _ at hfresh
  obtain ⟨hempty, hlive⟩ := freshAlias_ok hfresh
  refine ⟨Bool.eq_false_iff.mpr hnew, hempty, ?_, ?_⟩
  · rw [EntityInfo.qualifier, if_neg hempty]
    exact hlive
  · dsimp only
    rw [hfresh]
    rfl

theorem generateAlias_error {naming : NamingStrategy} {entity : EntityInfo} {path : String}
    {error : AliasError} (h : (generateAlias naming entity path).run.run r = (.error error, r')) :
    r' = r := by
  rw [run_generateAlias] at h
  split at h
  · cases h
    rfl
  · obtain ⟨hfresh, rfl⟩ := Prod.ext_iff.mp h
    change freshAlias _ _ _ _ _ _ = _ at hfresh
    dsimp only
    rw [hfresh]
    rfl

end RelMap.Resolver
