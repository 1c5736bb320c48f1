import RelMap.Proofs.Statement.Placeholders

/-!
# Text and placeholders

A fragment is rendered as the text around its parameters, with a placeholder for each of them. The
parts that are left out might as well not be there.
-/

namespace RelMap

/-! ## Texts around parameters -/

def Token.texts : List Token → List String
  | [] => [""]
  | .text content :: rest => (texts rest).modifyHead (content ++ ·)
  | .param _ :: rest => "" :: texts rest

def weave : List String → List String → String
  | text :: texts, placeholder :: placeholders => text ++ placeholder ++ weave texts placeholders
  | text :: _, [] => text
  | [], _ => ""

theorem weave_modifyHead (content : String) {texts : List String} (hne : texts ≠ [])
    (placeholders : List String) :
    weave (texts.modifyHead (content ++ ·)) placeholders = content ++ weave texts placeholders := by
  cases texts with
  | nil => exact absurd rfl hne
  | cons text rest =>
    cases placeholders with
    | nil => rfl
    | cons placeholder placeholders =>
      rw [List.modifyHead_cons, weave, weave, String.append_assoc, String.append_assoc,
        String.append_assoc]

namespace Token

theorem slots_param (slot : ParamSlot) (rest : List Token) :
    (param slot :: rest).filterMap slot? = slot :: rest.filterMap slot? := rfl

theorem length_texts (tokens : List Token) :
    (texts tokens).length = (tokens.filterMap slot?).length + 1 := by
  induction tokens with
  | nil => rfl
  | cons token rest ih =>
    cases token with
    | text content => exact List.length_modifyHead.trans ih
    | param slot => exact congrArg (· + 1) ih

/-- What is written comes in turn from the texts and from the parameters. -/
theorem join_sql (style : ParamStyle) (tokens : List Token) :
    String.join (tokens.map (·.sql style)) =
      weave (texts tokens)
        ((tokens.filterMap slot?).map fun slot => (Token.param slot).sql style) := by
  induction tokens with
  | nil => rfl
  | cons token rest ih =>
    rw [List.map_cons, String.join_cons, ih]
    cases token with
    | text content =>
      have hne : texts rest ≠ [] := List.ne_nil_of_length_eq_add_one (length_texts rest)
      exact (weave_modifyHead content hne _).symm
    | param slot =>
      rw [slots_param, List.map_cons, texts, weave, String.empty_append]

theorem texts_nameAnonymous (count : Nat) (tokens : List Token) :
    texts (nameAnonymous count tokens) = texts tokens := by
  induction tokens generalizing count with
  | nil => rfl
  | cons token rest ih =>
    cases token with
    | text content => exact congrArg (List.modifyHead (content ++ ·)) (ih count)
    | param slot => cases slot <;> exact congrArg ("" :: ·) (ih _)

end Token

/-! ## Placeholders -/

namespace ParamSlot

def isAnonymous : ParamSlot → Bool
  | anonymous _ => true
  | _ => false

/-- The name of a parameter behind others: its own, or a number among those without a name. -/
def placeholder (earlier : List ParamSlot) : ParamSlot → String
  | anonymous _ => "_p" ++ natText (earlier.countP isAnonymous + 1)
  | slot => slot.name?.getD ""

def withName (earlier : List ParamSlot) : ParamSlot → ParamSlot
  | anonymous value => named (placeholder earlier (anonymous value)) value
  | slot => slot

theorem name?_withName (earlier : List ParamSlot) (slot : ParamSlot) :
    (slot.withName earlier).name?.getD "" = slot.placeholder earlier := by
  cases slot <;> rfl

end ParamSlot

def placeholderNames (slots : List ParamSlot) : List String :=
  slots.mapIdx fun i slot => slot.placeholder (slots.take i)

theorem map_name?_withName (slots : List ParamSlot) :
    (slots.mapIdx fun i slot => slot.withName (slots.take i)).map (·.name?.getD "") =
      placeholderNames slots := by
  apply List.ext_getElem?
  intro i
  rw [placeholderNames, List.getElem?_map, List.getElem?_mapIdx, List.getElem?_mapIdx,
    Option.map_map]
  congr 1
  funext slot
  exact slot.name?_withName _

namespace Token

theorem nameAnonymous_param (earlier : List ParamSlot) (slot : ParamSlot) (rest : List Token) :
    nameAnonymous (earlier.countP ParamSlot.isAnonymous) (param slot :: rest) =
      param (slot.withName earlier) ::
        nameAnonymous ((earlier ++ [slot]).countP ParamSlot.isAnonymous) rest := by
  rw [List.countP_append, List.countP_singleton]
  cases slot <;> rfl

theorem slots_nameAnonymous (earlier : List ParamSlot) (tokens : List Token) :
    (nameAnonymous (earlier.countP ParamSlot.isAnonymous) tokens).filterMap slot? =
      (tokens.filterMap slot?).mapIdx fun i slot =>
        slot.withName (earlier ++ (tokens.filterMap slot?).take i) := by
  induction tokens generalizing earlier with
  | nil => rfl
  | cons token rest ih =>
    cases token with
    | text content => exact ih earlier
    | param slot =>
      rw [nameAnonymous_param, slots_param, slots_param, ih, List.mapIdx_cons, List.take_zero,
        List.append_nil]
      simp only [List.take_succ_cons, List.append_assoc, List.singleton_append]

end Token

namespace Fragment

variable {f : Fragment} {keep : ConditionKey → Bool}

def texts (keep : ConditionKey → Bool) (f : Fragment) : List String := Token.texts (tokens keep f)

theorem length_texts : (f.texts keep).length = (f.params keep).length + 1 :=
  Token.length_texts _

theorem slots_render_withName : (f.render .named keep).slots =
    (f.params keep).mapIdx fun i slot => slot.withName ((f.params keep).take i) :=
  Token.slots_nameAnonymous [] (tokens keep f)

theorem sql_render_positional : (f.render .positional keep).sql =
    weave (f.texts keep) ((f.params keep).map fun _ => "?") :=
  Token.join_sql .positional (tokens keep f)

theorem sql_render_named : (f.render .named keep).sql =
    weave (f.texts keep) ((placeholderNames (f.params keep)).map (":" ++ ·)) := by
  refine (Token.join_sql .named _).trans ?_
  have htexts : Token.texts (f.styledTokens .named keep) = f.texts keep :=
    Token.texts_nameAnonymous 0 _
  have hslots : (f.styledTokens .named keep).filterMap Token.slot? = _ := slots_render_withName
  rw [htexts, hslots, ← map_name?_withName, List.map_map]
  rfl

theorem sql_render_append (f g : Fragment) : ((f ++ g).render .positional keep).sql =
    (f.render .positional keep).sql ++ (g.render .positional keep).sql := by
  change String.join ((tokens keep (f ++ g)).map (·.sql .positional)) = _
  rw [tokens_append, List.map_append, String.join_append]
  rfl

theorem sql_render_ofText (text : String) : ((ofText text).render .positional keep).sql = text := by
  change String.join [text] = text
  rw [String.join_cons, String.join_nil, String.append_empty]

theorem sql_render_ofParam (slot : ParamSlot) :
    ((ofParam slot).render .positional keep).sql = "?" := by
  change String.join ["?"] = "?"
  rw [String.join_cons, String.join_nil, String.append_empty]

theorem sql_render_join (separator : String) (fragments : List Fragment) :
    ((join separator fragments).render .positional keep).sql =
      separator.intercalate (fragments.map fun f => (f.render .positional keep).sql) := by
  induction fragments with
  | nil => rfl
  | cons f rest ih =>
    cases rest with
    | nil => exact String.intercalate_singleton.symm
    | cons g rest =>
      have hjoin : join separator (f :: g :: rest) =
          f ++ ofText separator ++ join separator (g :: rest) := rfl
      rw [hjoin, sql_render_append, sql_render_append, sql_render_ofText, ih]
      exact String.intercalate_cons_cons.symm

theorem sql_render_parenthesized (f : Fragment) :
    (f.parenthesized.render .positional keep).sql =
      "(" ++ (f.render .positional keep).sql ++ ")" := by
  rw [parenthesized, sql_render_append, sql_render_append, sql_render_ofText, sql_render_ofText]

theorem sql_render_conditional (key : ConditionKey) (pieces : List Piece) :
    (render [.conditional key pieces] .positional keep).sql =
      if keep key then (render pieces .positional keep).sql else "" := by
  change String.join ((tokens keep [.conditional key pieces]).map (·.sql .positional)) = _
  rw [tokens, pieceTokens, tokens, List.append_nil]
  split <;> rfl

/-! ## Text alone -/

/-- The fragment is made of text alone. -/
def Textual (f : Fragment) : Prop := ∃ texts : List String, f = texts.map .text

namespace Textual

variable {g : Fragment}

theorem ofText (text : String) : (Fragment.ofText text).Textual := ⟨[text], rfl⟩

theorem append (hf : f.Textual) (hg : g.Textual) : Textual (f ++ g) := by
  obtain ⟨texts, rfl⟩ := hf
  obtain ⟨texts', rfl⟩ := hg
  exact ⟨texts ++ texts', List.map_append.symm⟩

theorem join {separator : String} {fragments : List Fragment} (h : ∀ f ∈ fragments, f.Textual) :
    (Fragment.join separator fragments).Textual := by
  induction fragments with
  | nil => exact ⟨[], rfl⟩
  | cons f rest ih =>
    rw [List.forall_mem_cons] at h
    cases rest with
    | nil => exact h.1
    | cons g rest => exact (h.1.append (ofText separator)).append (ih h.2)

theorem column (format : SqlFormat) (qualifier name : String) :
    (format.column qualifier name).Textual := by
  unfold SqlFormat.column
  split
  · exact ((ofText _).append (ofText ".")).append (ofText _)
  · exact ofText _

theorem tokens_eq (h : f.Textual) (keep keep' : ConditionKey → Bool) :
    tokens keep f = tokens keep' f := by
  obtain ⟨texts, rfl⟩ := h
  induction texts with
  | nil => rfl
  | cons text rest ih => exact congrArg (Token.text text :: ·) ih

theorem sql_render (h : f.Textual) : (f.render .positional keep).sql = f.toSql.1 := by
  unfold toSql render styledTokens
  rw [h.tokens_eq keep fun _ => true]

theorem params_eq_nil (h : f.Textual) : f.params keep = [] := by
  obtain ⟨texts, rfl⟩ := h
  induction texts with
  | nil => rfl
  | cons text rest ih => exact ih

end Textual

/-! ## Parts that are left out -/

mutual

def prunePiece (keep : ConditionKey → Bool) : Piece → List Piece
  | .text content => [.text content]
  | .param slot => [.param slot]
  | .conditional key pieces => if keep key then [.conditional key (prune keep pieces)] else []
termination_by structural p => p

def prune (keep : ConditionKey → Bool) : List Piece → List Piece
  | [] => []
  | p :: rest => prunePiece keep p ++ prune keep rest
termination_by structural ps => ps

end

mutual

theorem tokens_prunePiece (keep : ConditionKey → Bool) :
    ∀ p, tokens (fun _ => true) (prunePiece keep p) = pieceTokens keep p
  | .text _ | .param _ => rfl
  | .conditional key pieces => by
    rw [prunePiece, pieceTokens]
    split
    · rw [tokens, pieceTokens, if_pos rfl, tokens_prune keep pieces]
      exact List.append_nil _
    · rfl

theorem tokens_prune (keep : ConditionKey → Bool) :
    ∀ f, tokens (fun _ => true) (prune keep f) = tokens keep f
  | [] => rfl
  | p :: rest => by
    rw [prune, tokens_append, tokens_prunePiece keep p, tokens_prune keep rest]
    rfl

end

/-- A part that is left out leaves no text, no parameter and no number. -/
theorem render_prune (f : Fragment) (style : ParamStyle) (keep : ConditionKey → Bool) :
    render (prune keep f) style (fun _ => true) = f.render style keep := by
  unfold render styledTokens
  rw [tokens_prune]

end Fragment

end RelMap
