import Mathlib.Data.List.Basic
import RelMap.Proofs.Sql.QuotedNames
import RelMap.Proofs.Statement.Rendering
import RelMap.Sql.Predicate

/-!
# Readers

Readers take what they know from the front of a written statement, values of placeholders included.
Where several words can be next, none of them begins with another one, so the choice between them is
never open. Operands are read back one by one in this way.
-/

namespace RelMap

/-! ## What is written -/

/-- A text, and the values of the placeholders in it. -/
structure Script where
  text : List Char
  values : List SqlValue

namespace Script

def append (w w' : Script) : Script := ⟨w.text ++ w'.text, w.values ++ w'.values⟩

instance : Append Script := ⟨append⟩

@[simp] theorem text_append (w w' : Script) : (w ++ w').text = w.text ++ w'.text := rfl

theorem append_assoc (w w' w'' : Script) : w ++ w' ++ w'' = w ++ (w' ++ w'') :=
  congrArg₂ mk (List.append_assoc ..) (List.append_assoc ..)

def word (s : String) : Script := ⟨s.toList, []⟩

@[simp] theorem text_word (s : String) : (word s).text = s.toList := rfl

theorem word_append (s s' : String) : word (s ++ s') = word s ++ word s' :=
  congrArg (mk · []) String.toList_append

@[simp] theorem append_empty (w : Script) : w ++ word "" = w :=
  congrArg₂ mk (List.append_nil _) (List.append_nil _)

/-- Behind an identifier it is not taken for a part of it. -/
def Detached (d : Dialect) (w : Script) : Prop := w.text.head? ≠ some d.quoteChar

/-- It is not empty, and detached from an identifier in front of it. -/
def Separate (d : Dialect) (w : Script) : Prop := ∃ c, w.text.head? = some c ∧ c ≠ d.quoteChar

variable {d : Dialect} {w : Script}

theorem Separate.detached (h : w.Separate d) : w.Detached d := by
  obtain ⟨c, hw, hc⟩ := h
  intro hquote
  exact hc (Option.some.inj (hw.symm.trans hquote))

theorem Separate.append (h : w.Separate d) (w' : Script) : (w ++ w').Separate d := by
  obtain ⟨c, hw, hc⟩ := h
  exact ⟨c, by rw [text_append, List.head?_append, hw, Option.some_or], hc⟩

def punctuated (s : String) : Bool := s.toList.head?.any (· ∈ [' ', '.', ',', ')'])

theorem separate_word {s : String} (h : punctuated s) : (word s).Separate d := by
  obtain ⟨c, hs, hc⟩ := (Option.any_eq_true _ _).mp h
  refine ⟨c, hs, ?_⟩
  rintro rfl
  cases d <;> cases hc

end Script

namespace Fragment

def script (f : Fragment) : Script := ⟨f.toSql.1.toList, f.toSql.2⟩

theorem script_append (f g : Fragment) : (f ++ g).script = f.script ++ g.script := by
  have htext : (f ++ g).toSql.1 = f.toSql.1 ++ g.toSql.1 := sql_render_append f g
  have hvalues : (f ++ g).toSql.2 = f.toSql.2 ++ g.toSql.2 :=
    (congrArg (List.filterMap ParamSlot.value?) (params_append f g)).trans List.filterMap_append
  rw [script, htext, hvalues, String.toList_append]
  rfl

theorem script_ofText (text : String) : (ofText text).script = .word text := by
  have htext : (ofText text).toSql.1 = text := @sql_render_ofText (fun _ => true) text
  rw [script, htext]
  rfl

theorem script_ofParam (slot : ParamSlot) :
    (ofParam slot).script = .word "?" ++ ⟨[], slot.value?.toList⟩ := by
  have htext : (ofParam slot).toSql.1 = "?" := @sql_render_ofParam (fun _ => true) slot
  have hvalues : (ofParam slot).toSql.2 = slot.value?.toList := by cases slot <;> rfl
  rw [script, htext, hvalues]
  rfl

theorem script_parenthesized (f : Fragment) :
    f.parenthesized.script = .word "(" ++ f.script ++ .word ")" := by
  rw [parenthesized, script_append, script_append, script_ofText, script_ofText]

end Fragment

/-! ## Readers -/

abbrev Reader := StateT Script Option

namespace Reader

variable {α β : Type} {d : Dialect}

def word (s : String) : Reader Unit := fun w =>
  (s.toList.isPrefixOf? w.text).map fun text => ((), { w with text })

def identifier (d : Dialect) : Reader String := fun w =>
  (d.scanIdentifier w.text).map fun (name, text) => (name, { w with text })

def value : Reader SqlValue := fun w =>
  match w.values with
  | [] => none
  | v :: values => some (v, { w with values })

/-- Goes on as the entry says whose word is next. -/
def choice (entries : List (String × Reader α)) (otherwise : Reader α) : Reader α :=
  entries.foldr (fun entry r => (do word entry.1; entry.2) <|> r) otherwise

/-- The reader takes exactly what is written, in front of anything that is detached from it. -/
def Takes (d : Dialect) (r : Reader α) (w : Script) (a : α) : Prop :=
  ∀ rest : Script, rest.Detached d → r.run (w ++ rest) = some (a, rest)

theorem run_word (s : String) (w : Script) : (word s).run (.word s ++ w) = some ((), w) := by
  have hfront : s.toList.isPrefixOf? (s.toList ++ w.text) = some w.text :=
    List.isPrefixOf?_eq_some_iff_append_eq.mpr rfl
  change (s.toList.isPrefixOf? (s.toList ++ w.text)).map _ = _
  rw [hfront]
  rfl

theorem run_word_eq_none {s : String} {w : Script} (h : ¬ s.toList <+: w.text) :
    (word s).run w = none := by
  have hfront : s.toList.isPrefixOf? w.text = none := by
    rw [Option.eq_none_iff_forall_ne_some]
    intro text htext
    exact h ⟨text, List.isPrefixOf?_eq_some_iff_append_eq.mp htext⟩
  change (s.toList.isPrefixOf? w.text).map _ = _
  rw [hfront]
  rfl

namespace Takes

variable {r : Reader α} {w w' : Script} {a : α} {b : β}

theorem pure (a : α) : Takes d (pure a) (.word "") a := fun _ _ => rfl

theorem map (f : α → β) (h : Takes d r w a) : Takes d (f <$> r) w (f a) := by
  intro rest hrest
  rw [StateT.run_map, h rest hrest]
  rfl

theorem behind_word (s : String) (h : Takes d r w a) :
    Takes d (do word s; r) (.word s ++ w) a := by
  intro rest hrest
  rw [Script.append_assoc, StateT.run_bind, run_word]
  exact h rest hrest

/-- One reader after the other, where the second one takes something that is told apart. -/
theorem bind {k : α → Reader β} (h : Takes d r w a) (hk : Takes d (k a) w' b)
    (hw' : w'.Separate d) : Takes d (r >>= k) (w ++ w') b := by
  -- the first reader has the second part in front of it, never what follows both
  intro rest hrest
  rw [Script.append_assoc, StateT.run_bind, h _ (hw'.append rest).detached]
  exact hk rest hrest

end Takes

/-! ## Choices -/

/-- Neither word begins with the other. -/
def Apart (s t : String) : Prop := ¬ s.toList <+: t.toList ∧ ¬ t.toList <+: s.toList

instance (s t : String) : Decidable (Apart s t) := inferInstanceAs (Decidable (_ ∧ _))

theorem run_word_of_apart {s t : String} (h : Apart s t) (w : Script) :
    (word s).run (.word t ++ w) = none := by
  apply run_word_eq_none
  intro hs
  rcases List.prefix_or_prefix_of_prefix hs (List.prefix_append t.toList w.text) with hst | hts
  · exact h.1 hst
  · exact h.2 hts

variable {entries : List (String × Reader α)} {otherwise : Reader α}

theorem run_choice_cons (s : String) (r : Reader α) (w : Script) :
    (choice ((s, r) :: entries) otherwise).run w =
      ((do word s; r).run w <|> (choice entries otherwise).run w) := rfl

/-- What begins with a word apart from all the entries is left to the other reader. -/
theorem run_choice_of_apart {t : String} (h : ∀ s ∈ entries.map Prod.fst, Apart s t)
    (w : Script) :
    (choice entries otherwise).run (.word t ++ w) = otherwise.run (.word t ++ w) := by
  induction entries with
  | nil => rfl
  | cons entry rest ih =>
    obtain ⟨hentry, hrest⟩ := List.forall_mem_cons.mp h
    rw [run_choice_cons, StateT.run_bind, run_word_of_apart hentry, ih hrest]
    rfl

theorem Takes.choice_apart {t : String} {w : Script} {a : α}
    (hentries : ∀ s ∈ entries.map Prod.fst, Apart s t) (h : Takes d otherwise (.word t ++ w) a) :
    Takes d (choice entries otherwise) (.word t ++ w) a := by
  intro rest hrest
  rw [Script.append_assoc, run_choice_of_apart hentries, ← Script.append_assoc]
  exact h rest hrest

/-- Words apart from each other leave no choice. -/
theorem Takes.choice {s : String} {r : Reader α} {w : Script} {a : α}
    (hentries : (entries.map Prod.fst).Pairwise Apart) (hmem : (s, r) ∈ entries)
    (h : Takes d r w a) : Takes d (choice entries otherwise) (.word s ++ w) a := by
  intro rest hrest
  induction entries with
  | nil => cases hmem
  | cons entry entries ih =>
    obtain ⟨hentry, hothers⟩ := List.pairwise_cons.mp hentries
    rw [run_choice_cons]
    rcases List.mem_cons.mp hmem with rfl | hmem
    · rw [h.behind_word s rest hrest]
      rfl
    -- an entry in front of the one that is meant does not match
    · have happart : Apart entry.1 s := hentry s (List.mem_map_of_mem hmem)
      rw [ih hothers hmem, Script.append_assoc, StateT.run_bind, run_word_of_apart happart]
      rfl

theorem Takes.choice_word {s : String} {a : α}
    (hentries : (entries.map Prod.fst).Pairwise Apart) (hmem : (s, Pure.pure a) ∈ entries) :
    Takes d (Reader.choice entries otherwise) (.word s) a := by
  have h : Takes d (Reader.choice entries otherwise) (.word s ++ .word "") a :=
    .choice hentries hmem (.pure a)
  rwa [Script.append_empty] at h

/-! ## Operands -/

def column (d : Dialect) : Reader Operand := do
  let qualifier ← identifier d
  word "."
  .column qualifier <$> identifier d

def operand (d : Dialect) : Reader Operand :=
  choice [("NULL", pure .null), ("?", (Operand.param ∘ .anonymous) <$> value)] (column d)

theorem takes_identifier (d : Dialect) (name : String) :
    Takes d (identifier d) (.word (d.quote name)) name := by
  intro rest hrest
  change (d.scanIdentifier ((d.quote name).toList ++ rest.text)).map _ = _
  rw [d.scanIdentifier_quote name hrest]
  rfl

theorem takes_column (d : Dialect) (qualifier name : String) :
    Takes d (column d)
      (.word (d.quote qualifier) ++ (.word "." ++ .word (d.quote name)))
      (.column qualifier name) :=
  (takes_identifier d qualifier).bind
    (((takes_identifier d name).map (Operand.column qualifier)).behind_word ".")
    ((Script.separate_word (by decide)).append _)

end Reader

namespace Operand

def script (d : Dialect) (x : Operand) : Script := (x.render ⟨d, true⟩).script

/-- What the operand begins with when it is written. -/
def opening (d : Dialect) : Operand → String
  | column _ _ => .singleton d.quoteChar
  | param _ => "?"
  | null => "NULL"

def isAnonymous : Operand → Bool
  | param slot => slot.isAnonymous
  | column _ _ | null => Bool.true

variable (d : Dialect)

theorem script_column (qualifier name : String) : (column qualifier name).script d =
    .word (d.quote qualifier) ++ (.word "." ++ .word (d.quote name)) := by
  rw [script, render, SqlFormat.column, if_pos rfl, Fragment.script_append,
    Fragment.script_append, Script.append_assoc]
  unfold SqlFormat.identifier
  rw [Fragment.script_ofText, Fragment.script_ofText, Fragment.script_ofText]

theorem script_param (slot : ParamSlot) :
    (param slot).script d = .word "?" ++ ⟨[], slot.value?.toList⟩ :=
  Fragment.script_ofParam slot

theorem script_null : null.script d = .word "NULL" := Fragment.script_ofText "NULL"

theorem exists_script_eq (x : Operand) : ∃ w, x.script d = .word (x.opening d) ++ w := by
  cases x with
  | column qualifier name =>
    have hquote : Script.word (d.quote qualifier) = .word (.singleton d.quoteChar) ++
        ⟨Dialect.doubleQuotes d.quoteChar qualifier.toList ++ [d.quoteChar], []⟩ := by
      rw [Dialect.quote, Script.word, Script.word, String.toList_ofList, String.toList_singleton]
      rfl
    rw [script_column, hquote, Script.append_assoc]
    exact ⟨_, rfl⟩
  | param slot => exact ⟨_, script_param d slot⟩
  | null => exact ⟨.word "", (script_null d).trans (Script.append_empty _).symm⟩

/-- No word that stands in front of an operand, or in place of one, is mistaken for it. -/
theorem apart_opening (x : Operand) :
    ∀ s ∈ ["TRUE", "FALSE", "NOT(", "(", ")"], Reader.Apart s (x.opening d) := by
  cases x with
  | column qualifier name =>
    change ∀ s ∈ _, Reader.Apart s (.singleton d.quoteChar)
    cases d <;> decide
  | param slot =>
    change ∀ s ∈ _, Reader.Apart s "?"
    decide
  | null =>
    change ∀ s ∈ _, Reader.Apart s "NULL"
    decide

end Operand

namespace Reader

variable {d : Dialect}

theorem takes_operand {x : Operand} (hx : x.isAnonymous) : Takes d (operand d) (x.script d) x := by
  have hentries : ["NULL", "?"].Pairwise Apart := by decide
  cases x with
  | null =>
    rw [Operand.script_null]
    exact .choice_word hentries (.head _)
  | param slot =>
    cases slot with
    | anonymous v =>
      have hvalue : Takes d value ⟨[], [v]⟩ v := fun _ _ => rfl
      rw [Operand.script_param]
      exact .choice hentries (.tail _ (.head _)) (hvalue.map (Operand.param ∘ .anonymous))
    | positional _ _ | named _ _ | bindVar _ => cases hx
  | column qualifier name =>
    have happart : ∀ s ∈ ["NULL", "?"], Apart s (.singleton d.quoteChar) := by cases d <;> decide
    have hcolumn := takes_column d qualifier name
    obtain ⟨w, hw⟩ := Operand.exists_script_eq d (.column qualifier name)
    rw [← Operand.script_column] at hcolumn
    rw [hw] at hcolumn ⊢
    exact .choice_apart happart hcolumn

end Reader

end RelMap
