import RelMap.Sql.Fragment

/-!
# Quoted names

A quoted name is read up to the first quote that stands alone; two in a row are one that belongs to
the name. Read like this, every name comes back as it was, unless a quote follows right behind it.
Main statement: so does every column, and nothing but its text is read as the column.
-/

namespace RelMap.Dialect

/-- A name behind its opening quote, and what is left behind the closing one. -/
def scanName (quote : Char) : List Char → Option (List Char × List Char)
  | [] => none
  | c :: rest =>
    if c = quote then
      match rest with
      | [] => some ([], [])
      | c' :: rest' =>
        if c' = quote then (scanName quote rest').map (.map (quote :: ·) id)
        else some ([], c' :: rest')
    else (scanName quote rest).map (.map (c :: ·) id)

def scanIdentifier (d : Dialect) : List Char → Option (String × List Char)
  | [] => none
  | c :: rest =>
    if c = d.quoteChar then (scanName d.quoteChar rest).map (.map String.ofList id) else none

theorem scanName_cons_of_ne {quote c : Char} (h : c ≠ quote) (rest : List Char) :
    scanName quote (c :: rest) = (scanName quote rest).map (.map (c :: ·) id) := by
  cases rest <;> simp [scanName, h]

theorem scanName_doubleQuotes (quote : Char) (name : List Char) {rest : List Char}
    (h : rest.head? ≠ some quote) :
    scanName quote (doubleQuotes quote name ++ quote :: rest) = some (name, rest) := by
  induction name with
  | nil =>
    cases rest with
    | nil => simp [doubleQuotes, scanName]
    | cons c rest =>
      have hc : c ≠ quote := fun hc => h (congrArg some hc)
      simp [doubleQuotes, scanName, hc]
  | cons c name ih =>
    by_cases hc : c = quote
    · subst hc
      simp [doubleQuotes, scanName, ih]
    · simp [doubleQuotes, scanName_cons_of_ne hc, hc, ih]

theorem scanIdentifier_quote (d : Dialect) (name : String) {rest : List Char}
    (h : rest.head? ≠ some d.quoteChar) :
    d.scanIdentifier ((d.quote name).toList ++ rest) = some (name, rest) := by
  rw [quote, String.toList_ofList, quoteChars, List.cons_append, List.append_assoc, scanIdentifier,
    if_pos rfl, List.singleton_append, scanName_doubleQuotes d.quoteChar name.toList h,
    Option.map_some, Prod.map_apply, String.ofList_toList, id]

example : scanName '"' ['a', '"', '"', '"', '.'] = some (['a', '"'], ['.']) := by decide

/-! ## Nothing else is read -/

theorem eq_doubleQuotes_of_scanName {quote : Char} {text name rest : List Char}
    (h : scanName quote text = some (name, rest)) :
    text = doubleQuotes quote name ++ quote :: rest ∧ rest.head? ≠ some quote := by
  induction text using scanName.induct quote generalizing name with
  | case1 => cases h
  | case2 =>
    rw [scanName, if_pos rfl] at h
    cases h
    exact ⟨rfl, nofun⟩
  | case3 rest' ih =>
    -- Two quotes in a row are one of the name, which goes on behind them.
    rw [scanName, if_pos rfl, if_pos rfl] at h
    obtain ⟨⟨inner, _⟩, hscan, hname⟩ := Option.map_eq_some_iff.mp h
    cases hname
    obtain ⟨htext, hrest⟩ := ih hscan
    refine ⟨?_, hrest⟩
    rw [htext, doubleQuotes, if_pos rfl]
    rfl
  | case4 c' rest' hc' =>
    rw [scanName, if_pos rfl, if_neg hc'] at h
    cases h
    refine ⟨rfl, ?_⟩
    intro hhead
    exact hc' (Option.some.inj hhead)
  | case5 c rest' hc ih =>
    rw [scanName_cons_of_ne hc] at h
    obtain ⟨⟨inner, _⟩, hscan, hname⟩ := Option.map_eq_some_iff.mp h
    cases hname
    obtain ⟨htext, hrest⟩ := ih hscan
    refine ⟨?_, hrest⟩
    rw [htext, doubleQuotes, if_neg hc]
    rfl

theorem scanIdentifier_eq_some_iff {d : Dialect} {text rest : List Char} {name : String} :
    d.scanIdentifier text = some (name, rest) ↔
      text = (d.quote name).toList ++ rest ∧ rest.head? ≠ some d.quoteChar := by
  constructor
  · intro h
    unfold scanIdentifier at h
    split at h
    · cases h
    · next c text' =>
      split at h
      · next hc =>
        obtain ⟨⟨chars, _⟩, hscan, hname⟩ := Option.map_eq_some_iff.mp h
        cases hname
        obtain ⟨htext, hrest⟩ := eq_doubleQuotes_of_scanName hscan
        refine ⟨?_, hrest⟩
        rw [htext, hc, quote, String.toList_ofList, quoteChars, String.toList_ofList,
          List.cons_append, List.append_assoc, List.singleton_append, id]
      · cases h
  · rintro ⟨rfl, hrest⟩
    exact scanIdentifier_quote d name hrest

theorem quote_injective (d : Dialect) : Function.Injective d.quote := by
  intro name name' h
  have hend : ([] : List Char).head? ≠ some d.quoteChar := nofun
  have hname := d.scanIdentifier_quote name hend
  rw [h, d.scanIdentifier_quote name' hend] at hname
  cases hname
  rfl

/-! ## Columns -/

def scanColumn (d : Dialect) (text : List Char) : Option ((String × String) × List Char) := do
  let (qualifier, text) ← d.scanIdentifier text
  match text with
  | '.' :: text =>
    let (name, text) ← d.scanIdentifier text
    return ((qualifier, name), text)
  | _ => none

def columnText (d : Dialect) (qualifier name : String) : String :=
  d.quote qualifier ++ "." ++ d.quote name

variable {d : Dialect} {text rest : List Char} {qualifier name : String}

theorem point_ne_quoteChar (d : Dialect) : '.' ≠ d.quoteChar := by
  cases d <;> decide

theorem toList_columnText_append : (d.columnText qualifier name).toList ++ rest =
    (d.quote qualifier).toList ++ '.' :: ((d.quote name).toList ++ rest) := by
  have hpoint : ".".toList = ['.'] := rfl
  rw [columnText, String.toList_append, String.toList_append, hpoint, List.append_assoc,
    List.append_assoc]
  rfl

theorem scanColumn_columnText (hrest : rest.head? ≠ some d.quoteChar) :
    d.scanColumn ((d.columnText qualifier name).toList ++ rest) =
      some ((qualifier, name), rest) := by
  have hpoint : ('.' :: ((d.quote name).toList ++ rest)).head? ≠ some d.quoteChar :=
    fun h => d.point_ne_quoteChar (Option.some.inj h)
  rw [toList_columnText_append, scanColumn, d.scanIdentifier_quote qualifier hpoint]
  change (d.scanIdentifier ((d.quote name).toList ++ rest)).bind _ = _
  rw [d.scanIdentifier_quote name hrest]
  rfl

theorem scanColumn_eq_some_iff :
    d.scanColumn text = some ((qualifier, name), rest) ↔
      text = (d.columnText qualifier name).toList ++ rest ∧ rest.head? ≠ some d.quoteChar := by
  constructor
  · intro h
    obtain ⟨⟨first, text'⟩, hfirst, h⟩ := Option.bind_eq_some_iff.mp h
    dsimp only at h
    split at h
    · obtain ⟨⟨second, _⟩, hsecond, h⟩ := Option.bind_eq_some_iff.mp h
      cases h
      obtain ⟨htext, -⟩ := scanIdentifier_eq_some_iff.mp hfirst
      obtain ⟨htext', hrest⟩ := scanIdentifier_eq_some_iff.mp hsecond
      rw [toList_columnText_append, htext, htext']
      exact ⟨rfl, hrest⟩
    · cases h
  · rintro ⟨rfl, hrest⟩
    exact scanColumn_columnText hrest

theorem columnText_injective (d : Dialect) :
    Function.Injective fun c : String × String => d.columnText c.1 c.2 := by
  rintro ⟨qualifier, name⟩ ⟨qualifier', name'⟩ h
  change d.columnText qualifier name = d.columnText qualifier' name' at h
  have hend : ([] : List Char).head? ≠ some d.quoteChar := nofun
  have hcolumn : d.scanColumn ((d.columnText qualifier name).toList ++ []) =
      some ((qualifier, name), []) := scanColumn_columnText hend
  rw [h, scanColumn_columnText hend] at hcolumn
  cases hcolumn
  rfl

/-- In a statement of either style a qualified column is two identifiers with a point between
them, and an unqualified one the second of these. -/
theorem sql_column (d : Dialect) (qualifier name : String) (style : ParamStyle)
    (keep : ConditionKey → Bool) :
    (((⟨d, true⟩ : SqlFormat).column qualifier name).render style keep).sql =
        d.columnText qualifier name ∧
      (((⟨d, false⟩ : SqlFormat).column qualifier name).render style keep).sql = d.quote name := by
  cases style <;> exact ⟨rfl, rfl⟩

/-- No character of a name ends it early: in front of any text that does not begin with a quote,
and only there, a written column is read back, and different columns are written differently. -/
theorem columns_read_back (d : Dialect) (style : ParamStyle) (keep : ConditionKey → Bool) :
    (∀ qualifier name text rest, d.scanColumn text = some ((qualifier, name), rest) ↔
      text = (((⟨d, true⟩ : SqlFormat).column qualifier name).render style keep).sql.toList ++
        rest ∧ rest.head? ≠ some d.quoteChar) ∧
    (∀ qualifier name text rest, d.scanIdentifier text = some (name, rest) ↔
      text = (((⟨d, false⟩ : SqlFormat).column qualifier name).render style keep).sql.toList ++
        rest ∧ rest.head? ≠ some d.quoteChar) ∧
    Function.Injective d.quote ∧
    Function.Injective fun c : String × String =>
      (((⟨d, true⟩ : SqlFormat).column c.1 c.2).render style keep).sql := by
  refine ⟨?_, ?_, d.quote_injective, ?_⟩
  · intro qualifier name text rest
    rw [(d.sql_column qualifier name style keep).1]
    exact scanColumn_eq_some_iff
  · intro qualifier name text rest
    rw [(d.sql_column qualifier name style keep).2]
    exact scanIdentifier_eq_some_iff
  · simp only [(d.sql_column _ _ style keep).1]
    exact d.columnText_injective

end RelMap.Dialect
