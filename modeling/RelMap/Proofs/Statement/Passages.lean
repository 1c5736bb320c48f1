import RelMap.Statement.Passage

/-!
# Passages and what they place

Where a passage has its mentions and its automatic joins, and which of them end up in the statement:
those inside no automatic join that is left out.
-/

namespace RelMap

/-- Something in a passage, with the keys of the automatic joins around it, outermost first. -/
structure Placed (α : Type) where
  item : α
  around : List ConditionKey

namespace Placed

variable {α : Type}

def within (keys : List ConditionKey) (p : Placed α) : Placed α :=
  { p with around := keys ++ p.around }

/-- All the automatic joins around it are written. -/
def Kept (keep : ConditionKey → Bool) (p : Placed α) : Prop := ∀ k ∈ p.around, keep k = true

instance (keep : ConditionKey → Bool) (p : Placed α) : Decidable (p.Kept keep) :=
  inferInstanceAs (Decidable (∀ k ∈ p.around, keep k = true))

end Placed

structure JoinPart where
  scope : ScopeId
  joined : Occurrence
  parts : Passage

def JoinPart.key (j : JoinPart) : ConditionKey := ⟨j.scope, j.joined.qualifier⟩

/-- The join is written itself, and so are the ones around it. -/
def Placed.Written (keep : ConditionKey → Bool) (j : Placed JoinPart) : Prop :=
  j.Kept keep ∧ keep j.item.key = true

instance (keep : ConditionKey → Bool) (j : Placed JoinPart) : Decidable (j.Written keep) :=
  inferInstanceAs (Decidable (j.Kept keep ∧ keep j.item.key = true))

theorem Fragment.tokens_append {keep : ConditionKey → Bool} {f g : Fragment} :
    Fragment.tokens keep (f ++ g) = Fragment.tokens keep f ++ Fragment.tokens keep g := by
  induction f with
  | nil => rfl
  | cons p rest ih =>
    rw [List.cons_append, Fragment.tokens, Fragment.tokens, ih, List.append_assoc]

namespace Passage

variable {p q : Passage} {scope : ScopeId} {joined : Occurrence}

/-! ## Text -/

theorem fragment_append (p q : Passage) : (p ++ q).fragment = p.fragment ++ q.fragment := by
  induction p with
  | nil => rfl
  | cons part rest ih => rw [List.cons_append, fragment, fragment, ih, List.append_assoc]

theorem fragment_ofFragment (f : Fragment) : (ofFragment f).fragment = f := by
  rw [ofFragment, fragment, partFragment, fragment, List.append_nil]

/-- Mentions leave no trace in the text. -/
theorem fragment_referring (mentions : List Mention) (f : Fragment) :
    (referring mentions f).fragment = f := by
  induction mentions with
  | nil => exact fragment_ofFragment f
  | cons m rest ih => exact ih

theorem tokens_autoJoin {keep : ConditionKey → Bool}
    (h : keep ⟨scope, joined.qualifier⟩ = true) :
    Fragment.tokens keep (partFragment (.autoJoin scope joined p)) =
      Fragment.tokens keep p.fragment := by
  rw [partFragment, Fragment.tokens, Fragment.tokens, Fragment.pieceTokens, if_pos h,
    List.append_nil]

/-! ## Mentions -/

mutual

def partMentions : Part → List (Placed Mention)
  | .fragment _ => []
  | .mention m => [⟨m, []⟩]
  | .autoJoin scope joined parts =>
    (mentions parts).map (.within [⟨scope, joined.qualifier⟩])
termination_by structural p => p

def mentions : Passage → List (Placed Mention)
  | [] => []
  | p :: rest => partMentions p ++ mentions rest
termination_by structural ps => ps

end

theorem mentions_append : (p ++ q).mentions = p.mentions ++ q.mentions := by
  induction p with
  | nil => rfl
  | cons part rest ih =>
    rw [List.cons_append, mentions, mentions, ih, List.append_assoc]

theorem mentions_subset (h : p <:+: q) : p.mentions ⊆ q.mentions := by
  obtain ⟨front, back, rfl⟩ := h
  rw [mentions_append, mentions_append]
  exact List.Subset.trans (List.subset_append_right _ _) (List.subset_append_left _ _)

theorem mentions_referring (ms : List Mention) (f : Fragment) :
    (referring ms f).mentions = ms.map (⟨·, []⟩) := by
  induction ms with
  | nil => rfl
  | cons m rest ih =>
    rw [List.map_cons, ← ih]
    rfl

theorem mentions_parenthesized : p.parenthesized.mentions = p.mentions := by
  rw [parenthesized, mentions_append, mentions_append]
  exact List.append_nil _

theorem mentions_autoJoin :
    mentions [.autoJoin scope joined p] =
      p.mentions.map (.within [⟨scope, joined.qualifier⟩]) := by
  rw [mentions, partMentions, mentions, List.append_nil]

/-! ## Automatic joins -/

mutual

def partJoins : Part → List (Placed JoinPart)
  | .fragment _ => []
  | .mention _ => []
  | .autoJoin scope joined parts =>
    ⟨⟨scope, joined, parts⟩, []⟩ :: (joins parts).map (.within [⟨scope, joined.qualifier⟩])
termination_by structural p => p

def joins : Passage → List (Placed JoinPart)
  | [] => []
  | p :: rest => partJoins p ++ joins rest
termination_by structural ps => ps

end

theorem joins_append : (p ++ q).joins = p.joins ++ q.joins := by
  induction p with
  | nil => rfl
  | cons part rest ih =>
    rw [List.cons_append, joins, joins, ih, List.append_assoc]

theorem joins_subset (h : p <:+: q) : p.joins ⊆ q.joins := by
  obtain ⟨front, back, rfl⟩ := h
  rw [joins_append, joins_append]
  exact List.Subset.trans (List.subset_append_right _ _) (List.subset_append_left _ _)

theorem joins_parenthesized : p.parenthesized.joins = p.joins := by
  rw [parenthesized, joins_append, joins_append]
  exact List.append_nil _

theorem joins_autoJoin :
    joins [.autoJoin scope joined p] =
      ⟨⟨scope, joined, p⟩, []⟩ :: p.joins.map (.within [⟨scope, joined.qualifier⟩]) := by
  rw [joins, partJoins, joins, List.append_nil]

mutual

theorem tokens_partJoins {keep : ConditionKey → Bool} (part : Part) {j : Placed JoinPart}
    (hj : j ∈ partJoins part) (hwritten : j.Written keep) :
    Fragment.tokens keep j.item.parts.fragment <:+: Fragment.tokens keep (partFragment part) := by
  cases part with
  | fragment f | mention m => cases hj
  | autoJoin scope joined parts =>
    rw [partJoins, List.mem_cons] at hj
    have hkey : keep ⟨scope, joined.qualifier⟩ = true := by
      rcases hj with rfl | hj
      · exact hwritten.2
      · obtain ⟨inner, -, rfl⟩ := List.mem_map.mp hj
        exact hwritten.1 _ (.head _)
    rw [tokens_autoJoin hkey]
    rcases hj with rfl | hj
    · exact List.infix_rfl
    · obtain ⟨inner, hinner, rfl⟩ := List.mem_map.mp hj
      have hkept : inner.Kept keep := fun k hk => hwritten.1 k (.tail _ hk)
      have hinfix := tokens_joins parts hinner ⟨hkept, hwritten.2⟩
      exact hinfix
termination_by structural part

theorem tokens_joins {keep : ConditionKey → Bool} (p : Passage) {j : Placed JoinPart}
    (hj : j ∈ p.joins) (hwritten : j.Written keep) :
    Fragment.tokens keep j.item.parts.fragment <:+: Fragment.tokens keep p.fragment := by
  cases p with
  | nil => cases hj
  | cons part rest =>
    rw [joins, List.mem_append] at hj
    rw [fragment, Fragment.tokens_append]
    rcases hj with hj | hj
    · have hinfix := tokens_partJoins part hj hwritten
      exact hinfix.trans (List.infix_append' [] _ _)
    · have hinfix := tokens_joins rest hj hwritten
      exact hinfix.trans (List.suffix_append _ _).isInfix
termination_by structural p

end

end Passage

end RelMap
