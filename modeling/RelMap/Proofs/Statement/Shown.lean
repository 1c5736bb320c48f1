import RelMap.Proofs.Statement.PlannedSources
import RelMap.Proofs.Statement.Recording

/-!
# What is recorded is shown

Emission records references and dependencies for what it writes. Each of them is shown by a passage
that uses the alias: a reference right in the scope, and a dependency in the join that it is for.
-/

namespace RelMap

open Compiling

/-! ## Automatic joins of a scope -/

namespace Passage

variable {format : SqlFormat} {p q : Passage} {scope other : ScopeId} {joined : Occurrence}
  {outer : List ConditionKey} {d : String × String}

/-- What the automatic joins mention is recorded in their own scopes or in scopes inside, and no
automatic join is a part of another one in the same scope. -/
def Confined (p : Passage) : Prop :=
  ∀ j ∈ p.joins, (∀ m ∈ j.item.parts.mentions, j.item.scope ≤ m.item.recorded) ∧
    ∀ inner ∈ j.item.parts.joins, inner.item.scope ≠ j.item.scope

instance (p : Passage) : Decidable p.Confined :=
  inferInstanceAs (Decidable (∀ j ∈ p.joins,
    (∀ m ∈ j.item.parts.mentions, j.item.scope ≤ m.item.recorded) ∧
      ∀ inner ∈ j.item.parts.joins, inner.item.scope ≠ j.item.scope))

theorem confined_append : (p ++ q).Confined ↔ p.Confined ∧ q.Confined := by
  unfold Confined
  rw [joins_append]
  exact List.forall_mem_append

theorem confined_parenthesized : p.parenthesized.Confined ↔ p.Confined := by
  unfold Confined
  rw [joins_parenthesized]

theorem joins_referring (ms : List Mention) (f : Fragment) : (referring ms f).joins = [] := by
  induction ms with
  | nil => rfl
  | cons m rest ih => exact ih

/-- The joins inside are confined as well, since they are joins of the passage. -/
theorem Confined.inside (h : Confined [.autoJoin scope joined p]) :
    p.Confined ∧ (∀ m ∈ p.mentions, scope ≤ m.item.recorded) ∧
      ∀ j ∈ p.joins, j.item.scope ≠ scope := by
  unfold Confined at h
  rw [joins_autoJoin, List.forall_mem_cons, List.forall_mem_map] at h
  exact ⟨h.2, h.1⟩

/-- Some automatic join of the scope is a part of the passage. -/
def Hosts (p : Passage) (scope : ScopeId) : Prop := ∃ j ∈ p.joins, j.item.scope = scope

/-- The passage has an automatic join of the scope that uses the alias which it depends on. -/
structure Holds (format : SqlFormat) (p : Passage) (scope : ScopeId) (outer : List ConditionKey)
    (d : String × String) : Prop where
  hosts : p.Hosts scope
  uses : p.Uses format (outer ++ [⟨scope, d.2⟩]) ⟨scope, d.1⟩

theorem Hosts.append_left (h : p.Hosts scope) : Hosts (p ++ q) scope := by
  obtain ⟨j, hj, hscope⟩ := h
  refine ⟨j, ?_, hscope⟩
  rw [joins_append]
  exact List.mem_append_left _ hj

theorem Hosts.append_right (h : q.Hosts scope) : Hosts (p ++ q) scope := by
  obtain ⟨j, hj, hscope⟩ := h
  refine ⟨j, ?_, hscope⟩
  rw [joins_append]
  exact List.mem_append_right _ hj

theorem Hosts.autoJoin (h : p.Hosts scope) : Hosts [.autoJoin other joined p] scope := by
  obtain ⟨j, hj, hscope⟩ := h
  refine ⟨j.within [⟨other, joined.qualifier⟩], ?_, hscope⟩
  rw [joins_autoJoin]
  exact .tail _ (List.mem_map_of_mem hj)

theorem hosts_autoJoin : Hosts [.autoJoin scope joined p] scope := by
  refine ⟨⟨⟨scope, joined, p⟩, []⟩, ?_, rfl⟩
  rw [joins_autoJoin]
  exact .head _

namespace Holds

theorem append_left (h : p.Holds format scope outer d) : Holds format (p ++ q) scope outer d :=
  ⟨h.hosts.append_left, h.uses.append_left⟩

theorem append_right (h : q.Holds format scope outer d) : Holds format (p ++ q) scope outer d :=
  ⟨h.hosts.append_right, h.uses.append_right⟩

theorem autoJoin (h : p.Holds format scope outer d) :
    Holds format [.autoJoin other joined p] scope (⟨other, joined.qualifier⟩ :: outer) d :=
  ⟨h.hosts.autoJoin, h.uses.autoJoin⟩

end Holds

end Passage

/-! ## Effects on scopes -/

/-- What emission may do in a scope: write automatic joins, mark occurrences, and note what a join
depends on that it is writing. -/
structure Effect where
  hosts : Prop
  marks : Prop
  notes : String → Prop

namespace Effect

def nothing : Effect := ⟨False, False, fun _ => False⟩

/-- All that comes to an end inside the query of the scope. -/
def inQuery : Effect := ⟨True, True, fun _ => False⟩

structure Within (e e' : Effect) : Prop where
  hosts : e.hosts → e'.hosts
  marks : e.marks → e'.marks
  notes : ∀ a, e.notes a → e'.notes a

theorem Within.nothing (e : Effect) : Effect.nothing.Within e := ⟨nofun, nofun, fun _ => nofun⟩

end Effect

/-- What is recorded in a scope is shown by the passage, right inside the joins `outer`. -/
structure ScopeShown (format : SqlFormat) (scope : ScopeId) (e : Effect)
    (outer : List ConditionKey) (q : Queued) (r r' : Resolver) (p : Passage) :
    Prop where
  apart : ∀ k ∈ outer, k.scope ≠ scope
  joins : ∀ j ∈ p.joins, j.item.scope = scope → e.hosts ∧ j.around = outer
  referenced : ∀ a ∈ (r'.tableUse scope).referenced,
    a ∈ (r.tableUse scope).referenced ∨ e.marks ∧ p.Uses format outer ⟨scope, a⟩
  /-- A join does not need itself, so that a dependency on itself need not be shown. -/
  dependencies : ∀ d ∈ (r'.tableUse scope).dependencies,
    d ∈ (r.tableUse scope).dependencies ∨ d.1 = d.2 ∨
      e.notes d.2 ∧ p.Uses format outer ⟨scope, d.1⟩ ∨ p.Holds format scope outer d
  planned : ∀ j ∈ q.autoJoins.flatten, j.scope = scope → ∀ d, j.DependsBy d →
    p.Holds format scope outer d

namespace ScopeShown

variable {format : SqlFormat} {scope : ScopeId} {e e' : Effect} {outer : List ConditionKey}
  {q q' : Queued} {r r' r'' : Resolver} {p p' : Passage}

theorem mono (h : ScopeShown format scope e outer q r r' p) (he : e.Within e') :
    ScopeShown format scope e' outer q r r' p where
  apart := h.apart
  joins := fun j hj hscope => (h.joins j hj hscope).imp_left he.hosts
  referenced := fun a ha => (h.referenced a ha).imp_right (And.imp_left he.marks)
  dependencies := fun d hd => (h.dependencies d hd).imp_right
    (Or.imp_right (Or.imp_left (And.imp_left (he.notes d.2))))
  planned := h.planned

theorem congr (h : ScopeShown format scope e outer q r r' p)
    (huse : r''.tableUse scope = r'.tableUse scope) :
    ScopeShown format scope e outer q r r'' p where
  apart := h.apart
  joins := h.joins
  referenced := fun a ha => h.referenced a (huse ▸ ha)
  dependencies := fun d hd => h.dependencies d (huse ▸ hd)
  planned := h.planned

/-- The joins of a scope in which nothing happens may be inside of whatever. -/
theorem of_nothing (h : ScopeShown format scope .nothing outer q r r' p)
    {outer' : List ConditionKey} (hapart : ∀ k ∈ outer', k.scope ≠ scope) :
    ScopeShown format scope e outer' q r r' p := by
  have hnone {outer' : List ConditionKey} {d : String × String}
      (hd : p.Holds format scope outer d) : p.Holds format scope outer' d := by
    obtain ⟨j, hj, hscope⟩ := hd.hosts
    exact (h.joins j hj hscope).1.elim
  refine ⟨hapart, fun j hj hscope => (h.joins j hj hscope).1.elim, ?_, ?_, ?_⟩
  · intro a ha
    exact (h.referenced a ha).imp_right fun hmarked => hmarked.1.elim
  · intro d hd
    rcases h.dependencies d hd with hd | hself | ⟨hnotes, -⟩ | hd
    · exact .inl hd
    · exact .inr (.inl hself)
    · exact hnotes.elim
    · exact .inr (.inr (.inr (hnone hd)))
  · exact fun j hj hscope d hd => hnone (h.planned j hj hscope d hd)

theorem append (h : ScopeShown format scope e outer q r r' p)
    (h' : ScopeShown format scope e outer q' r' r'' p') :
    ScopeShown format scope e outer (q ++ q') r r'' (p ++ p') where
  apart := h.apart
  joins := by
    intro j hj
    rw [Passage.joins_append, List.mem_append] at hj
    exact hj.elim (h.joins j) (h'.joins j)
  referenced := by
    intro a ha
    rcases h'.referenced a ha with ha | ⟨hmarks, huses⟩
    · exact (h.referenced a ha).imp_right fun ⟨hmarks, huses⟩ => ⟨hmarks, huses.append_left⟩
    · exact .inr ⟨hmarks, huses.append_right⟩
  dependencies := by
    intro d hd
    rcases h'.dependencies d hd with hd | hself | ⟨hnotes, huses⟩ | hd
    · rcases h.dependencies d hd with hd | hself | ⟨hnotes, huses⟩ | hd
      · exact .inl hd
      · exact .inr (.inl hself)
      · exact .inr (.inr (.inl ⟨hnotes, huses.append_left⟩))
      · exact .inr (.inr (.inr hd.append_left))
    · exact .inr (.inl hself)
    · exact .inr (.inr (.inl ⟨hnotes, huses.append_right⟩))
    · exact .inr (.inr (.inr hd.append_right))
  planned := by
    intro j hj hscope d hd
    have hflatten : (q ++ q').autoJoins.flatten = q.autoJoins.flatten ++ q'.autoJoins.flatten :=
      List.flatten_append
    rw [hflatten, List.mem_append] at hj
    rcases hj with hj | hj
    · exact (h.planned j hj hscope d hd).append_left
    · exact (h'.planned j hj hscope d hd).append_right

theorem parenthesized {inner : ScopeId}
    (h : ScopeShown format scope e outer q (r.enter inner) r' p) :
    ScopeShown format scope e outer (.opening inner q) r r'.pop p.parenthesized where
  apart := h.apart
  joins := by
    rw [Passage.joins_parenthesized]
    exact h.joins
  referenced := fun a ha =>
    (h.referenced a ha).imp_right fun ⟨hmarks, huses⟩ => ⟨hmarks, huses.parenthesized⟩
  dependencies := fun d hd => (h.dependencies d hd).imp_right (Or.imp_right
    (Or.imp (And.imp_right Passage.Uses.parenthesized) fun hd => hd.append_right.append_left))
  planned := fun j hj hscope d hd => (h.planned j hj hscope d hd).append_right.append_left

/-- Inside an automatic join of another scope, everything is where it was. -/
theorem autoJoin {other : ScopeId} {joined : Occurrence}
    (h : ScopeShown format scope .inQuery outer q r r' p) (hother : other ≠ scope) :
    ScopeShown format scope .inQuery (⟨other, joined.qualifier⟩ :: outer) q r r'
      [.autoJoin other joined p] where
  apart := List.forall_mem_cons.mpr ⟨hother, h.apart⟩
  joins := by
    intro j hj hscope
    rw [Passage.joins_autoJoin, List.mem_cons] at hj
    rcases hj with rfl | hj
    · exact absurd hscope hother
    · obtain ⟨inner, hinner, rfl⟩ := List.mem_map.mp hj
      exact ⟨trivial, congrArg (_ :: ·) (h.joins inner hinner hscope).2⟩
  referenced := fun a ha =>
    (h.referenced a ha).imp_right fun ⟨hmarks, huses⟩ => ⟨hmarks, huses.autoJoin⟩
  dependencies := fun d hd => (h.dependencies d hd).imp_right (Or.imp_right
    (Or.imp (And.imp_right Passage.Uses.autoJoin) Passage.Holds.autoJoin))
  planned := fun j hj hscope d hd => (h.planned j hj hscope d hd).autoJoin

end ScopeShown

/-! ## Parts of a query -/

/-- What is recorded in any scope is shown. From `lo` to `hi` are the scopes of the queries inside,
which may be anywhere in the passage; for the others there are the effects `e`. -/
structure Shown (format : SqlFormat) (lo hi : ScopeId) (e : ScopeId → Effect) (q : Queued)
    (r r' : Resolver) (p : Passage) : Prop where
  le : lo ≤ hi
  older : ∀ scope, lo ≤ scope → (e scope).Within .nothing
  beyond : ∀ scope, ¬ (lo ≤ scope ∧ scope < hi) →
    ScopeShown format scope (e scope) [] q r r' p
  opened : ∀ scope, lo ≤ scope → scope < hi →
    ∃ outer, ScopeShown format scope .inQuery outer q r r' p

namespace Shown

variable {format : SqlFormat} {lo mid hi : ScopeId} {e e' : ScopeId → Effect} {q q' : Queued}
  {r r' r'' : Resolver} {p p' : Passage}

theorem mono (h : Shown format lo hi e q r r' p)
    (he : ∀ scope, (e scope).Within (e' scope))
    (holder : ∀ scope, lo ≤ scope → (e' scope).Within .nothing) :
    Shown format lo hi e' q r r' p where
  le := h.le
  older := holder
  beyond := fun scope hscope => (h.beyond scope hscope).mono (he scope)
  opened := h.opened

theorem append (h : Shown format lo mid e q r r' p)
    (h' : Shown format mid hi e q' r' r'' p') :
    Shown format lo hi e (q ++ q') r r'' (p ++ p') where
  le := Nat.le_trans h.le h'.le
  older := h.older
  beyond := by
    intro scope hscope
    have hfirst := h.beyond scope fun hin => hscope ⟨hin.1, Nat.lt_of_lt_of_le hin.2 h'.le⟩
    have hsecond := h'.beyond scope fun hin => hscope ⟨Nat.le_trans h.le hin.1, hin.2⟩
    exact hfirst.append hsecond
  opened := by
    intro scope hlo hhi
    -- the scope was opened for one part, and in the other part nothing happens in it
    rcases Nat.lt_or_ge scope mid with hmid | hmid
    · obtain ⟨outer, hshown⟩ := h.opened scope hlo hmid
      have hbeyond := h'.beyond scope fun hin => Nat.not_le_of_lt hmid hin.1
      have hother := hbeyond.mono (h.older scope hlo)
      exact ⟨outer, hshown.append (hother.of_nothing hshown.apart)⟩
    · obtain ⟨outer, hshown⟩ := h'.opened scope hmid hhi
      have hbeyond := h.beyond scope fun hin => Nat.not_lt_of_le hmid hin.2
      have hother := hbeyond.mono (h.older scope hlo)
      exact ⟨outer, (hother.of_nothing hshown.apart).append hshown⟩

/-- The other scopes are opened elsewhere if all is shown outside of any automatic join. -/
theorem of_scopes (hle : lo ≤ hi) (holder : ∀ scope, lo ≤ scope → (e scope).Within .nothing)
    (h : ∀ scope, ScopeShown format scope (e scope) [] q r r' p) :
    Shown format lo hi e q r r' p where
  le := hle
  older := holder
  beyond := fun scope _ => h scope
  opened := fun scope hlo _ => ⟨[], ((h scope).mono (holder scope hlo)).mono (.nothing _)⟩

theorem of_refers {near : ScopeId → Prop} {ms : List Mention} {state state' : CompileState}
    (h : Refers near ms state state')
    (hle : lo ≤ hi) (holder : ∀ scope, lo ≤ scope → (e scope).Within .nothing)
    (hmarks : ∀ scope, near scope → (e scope).marks)
    (huses : ∀ m ∈ ms, p.Uses format [] m.key) (hjoins : p.joins = [])
    (hplanned : q.autoJoins = []) :
    Shown format lo hi e q state.resolver state'.resolver p := by
  apply of_scopes hle holder
  intro scope
  refine ⟨nofun, ?_, ?_, ?_, ?_⟩
  · rw [hjoins]
    exact List.forall_mem_nil _
  · intro a ha
    rw [or_iff_not_imp_left]
    intro hnew
    constructor
    · apply hmarks
      by_contra hfar
      rw [h.apart scope hfar] at ha
      exact hnew ha
    · obtain ⟨m, hm, hkey⟩ := (h.referenced scope a ha).resolve_left hnew
      exact hkey ▸ huses m hm
  · intro d hd
    rw [h.dependencies scope] at hd
    exact .inl hd
  · rw [hplanned]
    exact List.forall_mem_nil _

theorem of_unchanged (hle : lo ≤ hi)
    (holder : ∀ scope, lo ≤ scope → (e scope).Within .nothing) (hjoins : p.joins = [])
    (hplanned : q.autoJoins = []) : Shown format lo hi e q r r p := by
  refine of_scopes hle holder fun scope => ⟨nofun, ?_, fun _ => .inl, fun _ => .inl, ?_⟩
  · rw [hjoins]
    exact List.forall_mem_nil _
  · rw [hplanned]
    exact List.forall_mem_nil _

theorem ofFragment_append (h : Shown format lo hi e q r r' p) (f : Fragment) :
    Shown format lo hi e q r r' (.ofFragment f ++ p) :=
  append (q := .nothing) (of_unchanged (Nat.le_refl _) h.older rfl rfl) h

theorem append_ofFragment (h : Shown format lo hi e q r r' p) (f : Fragment) :
    Shown format lo hi e q r r' (p ++ .ofFragment f) := by
  have hnothing : Shown format hi hi e .nothing r' r' (.ofFragment f) :=
    of_unchanged (Nat.le_refl _) (fun scope hscope => h.older scope (Nat.le_trans h.le hscope))
      rfl rfl
  have happend := h.append hnothing
  rw [Queued.append_nothing] at happend
  exact happend

end Shown

end RelMap
