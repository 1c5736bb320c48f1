import RelMap.Proofs.Scope.Growth
import RelMap.Proofs.Statement.Passages
import RelMap.Statement.Compile

/-!
# References that are recorded

A mention is covered if the scope that records it has marked its alias, or knows that a join around
the mention depends on it. Then the alias is required whenever the mention is written.
-/

namespace RelMap

/-- The join for the mentioned occurrence, as far as the recording scope can tell. -/
def Mention.key (m : Mention) : ConditionKey := ⟨m.recorded, m.occurrence.qualifier⟩

def Mention.Marked (r : Resolver) (m : Mention) : Prop :=
  m.occurrence.qualifier ∈ (r.tableUse m.recorded).referenced

/-- The mention is part of the join for an alias, which it is a mention of or depends on. -/
def Mention.HangsOn (r : Resolver) (m : Mention) (k : ConditionKey) : Prop :=
  k.scope = m.recorded ∧ (k.aliasName = m.occurrence.qualifier ∨
    (m.occurrence.qualifier, k.aliasName) ∈ (r.tableUse m.recorded).dependencies)

namespace Placed

variable {r r' : Resolver} {m : Placed Mention} {keys : List ConditionKey}

def Covered (r : Resolver) (m : Placed Mention) : Prop :=
  m.item.Marked r ∨ ∃ k ∈ m.around, m.item.HangsOn r k

theorem Covered.mono (h : m.Covered r) (hr : r.Grows r') : m.Covered r' := by
  obtain ⟨hreferenced, hdependencies⟩ := hr.tableUse m.item.recorded
  rcases h with hmarked | ⟨k, hk, hscope, hname⟩
  · exact .inl (hreferenced hmarked)
  · exact .inr ⟨k, hk, hscope, hname.imp_right fun hd => hdependencies hd⟩

theorem Covered.within (h : m.Covered r) : (m.within keys).Covered r := by
  rcases h with hmarked | ⟨k, hk, hangs⟩
  · exact .inl hmarked
  · exact .inr ⟨k, List.mem_append_right _ hk, hangs⟩

theorem Covered.keeps (h : m.Covered r) (hkept : m.Kept (Schema.keeps r)) :
    Schema.keeps r m.item.key = true := by
  rcases h with hmarked | ⟨k, hk, hscope, hname⟩
  · exact TableUse.isRequired_of_mem_referenced hmarked
  · have hrequired := hkept k hk
    unfold Schema.keeps at hrequired
    rw [hscope] at hrequired
    rcases hname with hname | hdependency
    · rw [hname] at hrequired
      exact hrequired
    · exact TableUse.isRequired_of_dependency hdependency hrequired

/-- Inside a join, a mark may be traded for a dependency of the join. -/
theorem Covered.inside {key : ConditionKey} (h : m.Covered r)
    (hdependencies : (r.tableUse m.item.recorded).dependencies ⊆
      (r'.tableUse m.item.recorded).dependencies)
    (hmarked : m.item.Marked r → m.item.Marked r' ∨ m.item.HangsOn r' key) :
    (m.within [key]).Covered r' := by
  rcases h with h | ⟨k, hk, hscope, hname⟩
  · rcases hmarked h with h | hangs
    · exact .inl h
    · exact .inr ⟨key, .head _, hangs⟩
  · exact .inr ⟨k, .tail _ hk, hscope, hname.imp_right fun hd => hdependencies hd⟩

/-- Deferring the references since `before` to a join leaves what is mentioned inside it covered. -/
theorem Covered.deferSince {scope : ScopeId} {before : List String} {aliasName : String}
    (h : m.Covered r) (hscope : scope < r.scopes.length) :
    (m.within [⟨scope, aliasName⟩]).Covered
      (r.modifyTableUse scope (·.deferSince before aliasName)) := by
  by_cases hrecorded : scope = m.item.recorded
  · have huse : (r.modifyTableUse scope (·.deferSince before aliasName)).tableUse m.item.recorded =
        (r.tableUse m.item.recorded).deferSince before aliasName := by
      rw [← hrecorded]
      exact Resolver.tableUse_modifyTableUse hscope
    apply h.inside
    · rw [huse]
      exact TableUse.dependencies_deferSince
    · intro hmarked
      unfold Mention.Marked Mention.HangsOn
      rw [huse]
      rcases TableUse.deferSince_of_mem_referenced hmarked with hkept | hself | hdependency
      · exact .inl hkept
      · exact .inr ⟨hrecorded, .inl hself.symm⟩
      · exact .inr ⟨hrecorded, .inr hdependency⟩
  · have huse : (r.modifyTableUse scope (·.deferSince before aliasName)).tableUse m.item.recorded =
        r.tableUse m.item.recorded := Resolver.tableUse_modifyTableUse_of_ne hrecorded
    apply h.inside
    · rw [huse]
      exact List.Subset.refl _
    · intro hmarked
      left
      unfold Mention.Marked
      rw [huse]
      exact hmarked

end Placed

theorem Resolver.Grows.deferSince {r r' : Resolver} {scope : ScopeId} {aliasName : String}
    (h : r.Grows r') : r.Grows (r'.modifyTableUse scope
      (·.deferSince (r.tableUse scope).referenced aliasName)) := by
  intro other s hs
  obtain ⟨s', hs', hgrows⟩ := h other s hs
  unfold Resolver.modifyTableUse
  rw [Resolver.getElem?_modifyScope, hs']
  by_cases hother : scope = other
  · rw [if_pos hother]
    refine ⟨_, rfl, hgrows.parent, ?_, ?_⟩
    · intro a ha
      refine TableUse.mem_referenced_deferSince.mpr ⟨hgrows.referenced ha, ?_⟩
      unfold Resolver.tableUse
      rw [hother, hs]
      exact ha
    · exact List.Subset.trans hgrows.dependencies TableUse.dependencies_deferSince
  · rw [if_neg hother]
    exact ⟨s', rfl, hgrows⟩

end RelMap
