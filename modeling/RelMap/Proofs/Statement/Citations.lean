import RelMap.Proofs.Statement.Coverage

/-!
# Citations

A mention stands before the text that it is for. A passage uses an alias where it mentions an
occurrence by that name and the text behind the mention spells the name.
-/

namespace RelMap

/-- A mention with the text that it is for. -/
structure Citation where
  mention : Mention
  text : Fragment

/-- The qualifier is written, and not as a part of a conditional piece. -/
def Fragment.Spells (format : SqlFormat) (f : Fragment) (qualifier : String) : Prop :=
  .text (format.dialect.quote qualifier) ∈ f

namespace Fragment.Spells

variable {format : SqlFormat} {f g : Fragment} {qualifier : String}

theorem append_left (h : f.Spells format qualifier) : Spells format (f ++ g) qualifier :=
  List.mem_append_left _ h

theorem append_right (h : g.Spells format qualifier) : Spells format (f ++ g) qualifier :=
  List.mem_append_right _ h

theorem mem_tokens (h : f.Spells format qualifier) (keep : ConditionKey → Bool) :
    .text (format.dialect.quote qualifier) ∈ Fragment.tokens keep f := by
  induction h with
  | head rest => exact .head _
  | tail piece _ ih =>
    rw [Fragment.tokens]
    exact List.mem_append_right _ ih

end Fragment.Spells

namespace Passage

variable {p q : Passage} {scope : ScopeId} {joined : Occurrence}

/-- The text at the beginning of a passage, behind any mentions. -/
def heading? : Passage → Option Fragment
  | .fragment f :: _ => some f
  | .mention _ :: rest => heading? rest
  | _ => none

mutual

def partCitations (next : Option Fragment) : Part → List (Placed Citation)
  | .fragment _ => []
  | .mention m => next.toList.map fun f => ⟨⟨m, f⟩, []⟩
  | .autoJoin scope joined parts => (citations parts).map (.within [⟨scope, joined.qualifier⟩])
termination_by structural p => p

def citations : Passage → List (Placed Citation)
  | [] => []
  | p :: rest => partCitations (heading? rest) p ++ citations rest
termination_by structural ps => ps

end

theorem heading?_append {f : Fragment} (h : heading? p = some f) : heading? (p ++ q) = some f := by
  induction p with
  | nil => cases h
  | cons part rest ih =>
    cases part with
    | fragment g => exact h
    | mention m => exact ih h
    | autoJoin scope joined parts => cases h

theorem citations_append_left : p.citations ⊆ citations (p ++ q) := by
  induction p with
  | nil => exact List.nil_subset _
  | cons part rest ih =>
    rw [List.cons_append, citations, citations]
    apply List.append_subset.mpr ⟨_, List.Subset.trans ih (List.subset_append_right _ _)⟩
    cases part with
    | fragment f => exact List.nil_subset _
    | autoJoin scope joined parts => exact List.subset_append_left _ _
    | mention m =>
      cases hheading : heading? rest with
      | none => exact List.nil_subset _
      | some f =>
        rw [heading?_append hheading]
        exact List.subset_append_left _ _

theorem citations_append_right : q.citations ⊆ citations (p ++ q) := by
  induction p with
  | nil => exact List.Subset.refl _
  | cons part rest ih =>
    rw [List.cons_append, citations]
    exact List.Subset.trans ih (List.subset_append_right _ _)

theorem heading?_referring (ms : List Mention) (f : Fragment) :
    heading? (referring ms f) = some f := by
  induction ms with
  | nil => rfl
  | cons m rest ih => exact ih

theorem mem_citations_referring {ms : List Mention} {m : Mention} (hm : m ∈ ms) (f : Fragment) :
    ⟨⟨m, f⟩, []⟩ ∈ citations (referring ms f) := by
  induction hm with
  | head rest =>
    change _ ∈ partCitations (heading? (referring rest f)) (.mention m) ++
      citations (referring rest f)
    rw [heading?_referring]
    exact .head _
  | tail other _ ih => exact List.mem_append_right _ ih

theorem citations_autoJoin :
    citations [.autoJoin scope joined p] =
      p.citations.map (.within [⟨scope, joined.qualifier⟩]) := by
  rw [citations, partCitations, citations, List.append_nil]

mutual

theorem mention_mem_partMentions {part : Part} {next : Option Fragment} {u : Placed Citation}
    (hu : u ∈ partCitations next part) : ⟨u.item.mention, u.around⟩ ∈ partMentions part := by
  cases part with
  | fragment f => cases hu
  | mention m =>
    rw [partCitations, List.mem_map] at hu
    obtain ⟨f, -, rfl⟩ := hu
    exact .head _
  | autoJoin scope joined parts =>
    rw [partCitations, List.mem_map] at hu
    obtain ⟨inner, hinner, rfl⟩ := hu
    rw [partMentions]
    exact List.mem_map_of_mem (mention_mem_mentions hinner)
termination_by structural part

theorem mention_mem_mentions {p : Passage} {u : Placed Citation} (hu : u ∈ p.citations) :
    ⟨u.item.mention, u.around⟩ ∈ p.mentions := by
  cases p with
  | nil => cases hu
  | cons part rest =>
    rw [citations, List.mem_append] at hu
    rw [mentions, List.mem_append]
    exact hu.imp mention_mem_partMentions mention_mem_mentions
termination_by structural p

end

/-! ## Text of citations -/

theorem tokens_heading? {keep : ConditionKey → Bool} {f : Fragment} (h : p.heading? = some f) :
    Fragment.tokens keep f <:+: Fragment.tokens keep p.fragment := by
  induction p with
  | nil => cases h
  | cons part rest ih =>
    cases part with
    | fragment g =>
      cases h
      rw [fragment, Fragment.tokens_append]
      exact (List.prefix_append _ _).isInfix
    | mention m => exact ih h
    | autoJoin scope joined parts => cases h

mutual

theorem tokens_partCitations {keep : ConditionKey → Bool} (part : Part) {next : Option Fragment}
    {u : Placed Citation} (hu : u ∈ partCitations next part) (hkept : u.Kept keep) :
    next = some u.item.text ∨
      Fragment.tokens keep u.item.text <:+: Fragment.tokens keep (partFragment part) := by
  cases part with
  | fragment f => cases hu
  | mention m =>
    left
    rw [partCitations, List.mem_map] at hu
    obtain ⟨f, hf, rfl⟩ := hu
    exact Option.mem_toList.mp hf
  | autoJoin scope joined parts =>
    right
    rw [partCitations, List.mem_map] at hu
    obtain ⟨inner, hinner, rfl⟩ := hu
    have hkey : keep ⟨scope, joined.qualifier⟩ = true := hkept _ (.head _)
    rw [tokens_autoJoin hkey]
    have hinfix := tokens_citations parts hinner fun k hk => hkept k (.tail _ hk)
    exact hinfix
termination_by structural part

/-- The text of a citation is a part of the statement unless a join around it is left out. -/
theorem tokens_citations {keep : ConditionKey → Bool} (p : Passage) {u : Placed Citation}
    (hu : u ∈ p.citations) (hkept : u.Kept keep) :
    Fragment.tokens keep u.item.text <:+: Fragment.tokens keep p.fragment := by
  cases p with
  | nil => cases hu
  | cons part rest =>
    rw [citations, List.mem_append] at hu
    rw [fragment, Fragment.tokens_append]
    have hrest : Fragment.tokens keep (fragment rest) <:+:
        Fragment.tokens keep (partFragment part) ++ Fragment.tokens keep (fragment rest) :=
      (List.suffix_append _ _).isInfix
    rcases hu with hu | hu
    · rcases tokens_partCitations part hu hkept with hnext | hinfix
      · exact (tokens_heading? hnext).trans hrest
      · exact hinfix.trans (List.prefix_append _ _).isInfix
    · have hinfix := tokens_citations rest hu hkept
      exact hinfix.trans hrest
termination_by structural p

end

/-! ## Uses -/

variable {format : SqlFormat} {around : List ConditionKey} {key : ConditionKey}

/-- Inside exactly the automatic joins `around`, the passage refers to an occurrence by the alias of
the key, recorded in its scope. -/
def Uses (format : SqlFormat) (p : Passage) (around : List ConditionKey) (key : ConditionKey) :
    Prop :=
  ∃ u ∈ p.citations, u.around = around ∧ u.item.mention.key = key ∧
    u.item.text.Spells format key.aliasName

namespace Uses

theorem append_left (h : p.Uses format around key) : Uses format (p ++ q) around key := by
  obtain ⟨u, hu, huse⟩ := h
  exact ⟨u, citations_append_left hu, huse⟩

theorem append_right (h : q.Uses format around key) : Uses format (p ++ q) around key := by
  obtain ⟨u, hu, huse⟩ := h
  exact ⟨u, citations_append_right hu, huse⟩

theorem parenthesized (h : p.Uses format around key) : p.parenthesized.Uses format around key :=
  h.append_right.append_left

theorem autoJoin (h : p.Uses format around key) :
    Uses format [.autoJoin scope joined p] (⟨scope, joined.qualifier⟩ :: around) key := by
  obtain ⟨u, hu, haround, huse⟩ := h
  refine ⟨u.within [⟨scope, joined.qualifier⟩], ?_, ?_, huse⟩
  · rw [citations_autoJoin]
    exact List.mem_map_of_mem hu
  · exact congrArg (_ :: ·) haround

theorem referring {ms : List Mention} {m : Mention} {f : Fragment} (hm : m ∈ ms)
    (hspells : f.Spells format m.occurrence.qualifier) :
    (Passage.referring ms f).Uses format [] m.key :=
  ⟨_, mem_citations_referring hm f, rfl, rfl, hspells⟩

theorem exists_mention (h : p.Uses format around key) : ∃ m ∈ p.mentions, m.item.key = key := by
  obtain ⟨u, hu, -, hkey, -⟩ := h
  exact ⟨_, mention_mem_mentions hu, hkey⟩

end Uses

end Passage

end RelMap
