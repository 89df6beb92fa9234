import SchemaMigration.Proofs.Parts
import SchemaMigration.Proofs.Reading
import SchemaMigration.Proofs.Sent

/-!
# The engine's own texts

What the engine sends is one of a few texts that are fixed but for checked names. Such a name is one
word to the lexer, whatever it says, so each of these texts is one statement, and of the kind that
it is meant to be.
-/

namespace SchemaMigration

/-! ## Names in a text -/

theorem isDigit_of_isAlpha {c : Char} (hc : c.isAlpha = true) : c.isDigit = false := by
  have hletter : 65 ≤ c.val := by
    rcases Bool.or_eq_true_iff.1 hc with hupper | hlower
    · exact (of_decide_eq_true hupper).1
    · exact Nat.le_trans (by decide) (of_decide_eq_true (Bool.and_eq_true_iff.1 hlower).1)
  simp only [Char.isDigit]
  grind

theorem scan_of_isAlpha {c : Char} (hc : c.isAlpha = true) (prev : Option Token)
    {text : List Char} (hmark : literalMark c text = none) :
    scan prev c text = .ok (.token (scanWord c text).1 (text.dropWhile isWordChar)) := by
  have hne (k : Char) (hk : k.isAlpha = false) : c ≠ k := by
    rintro rfl
    cases hk.symm.trans hc
  have hspace : isSpace c = false := by
    simp [isSpace, hne ' ' rfl, hne '\t' rfl, hne '\n' rfl, hne '\r' rfl, hne '\x0b' rfl,
      hne '\x0c' rfl]
  have hstart : isWordStart c = true := by
    simp [isWordStart, hc]
  have hdigit := isDigit_of_isAlpha hc
  unfold scan
  simp [hspace, hne ';' rfl, hne '\'' rfl, hne '"' rfl, hne '`' rfl, hne '#' rfl, hne '-' rfl,
    hne '/' rfl, hne '.' rfl, hdigit, hne '@' rfl, hne '?' rfl, hstart, hmark, scanWord]

/-- A word ends before these characters, and none of them makes it a mark of a literal. -/
def EndsWord (rest : List Char) : Prop :=
  ∀ c, rest.head? = some c → isWordChar c = false ∧ c ≠ '\'' ∧ c ≠ '"'

theorem isWordChar_of_isNameChar {c : Char} (hc : isNameChar c = true) : isWordChar c = true := by
  simp only [isNameChar, Char.isAlphanum, isWordChar, isWordStart] at *
  grind

theorem Identifier.reads (i : Identifier) (prev : Option Token) {rest : List Char}
    (h : EndsWord rest) :
    ∃ t : Token, t.isWord = true ∧ Reads prev (i.text.toList ++ rest) [t] rest := by
  have hsimple := i.simple
  generalize i.text.toList = text at hsimple
  cases text with
  | nil => cases hsimple
  | cons c cs =>
    simp only [isSimpleName, Bool.and_eq_true, List.all_eq_true] at hsimple
    obtain ⟨hc, hcs⟩ := hsimple
    have hword : ∀ a ∈ cs, isWordChar a = true := fun a ha => isWordChar_of_isNameChar (hcs a ha)
    have hrun : (cs ++ rest).dropWhile isWordChar = rest := by
      rw [List.dropWhile_append_of_pos hword]
      cases rest with
      | nil => rfl
      | cons d rest => rw [List.dropWhile_cons_of_neg (by simp [(h d rfl).1])]
    have hmark : literalMark c (cs ++ rest) = none := by
      have hhead : ∀ d, (cs ++ rest).head? = some d → d ≠ '\'' ∧ d ≠ '"' := by
        intro d hd
        cases cs with
        | nil => exact (h d hd).2
        | cons a cs =>
          obtain rfl : a = d := by simpa using hd
          have ha := hcs a List.mem_cons_self
          constructor
          · rintro rfl
            cases ha
          · rintro rfl
            cases ha
      unfold literalMark
      split
      · rename_i heq
        exact absurd rfl (hhead '\'' (by rw [heq]; rfl)).1
      · rename_i heq
        exact absurd rfl (hhead '"' (by rw [heq]; rfl)).2
      · rfl
    have hscan := scan_of_isAlpha hc prev hmark
    rw [hrun] at hscan
    refine ⟨(scanWord c (cs ++ rest)).1, ?_, .token hscan (.stop _ _)⟩
    unfold scanWord
    dsimp only
    split <;> rfl

theorem QualifiedName.reads (name : QualifiedName) (prev : Option Token) {rest : List Char}
    (h : EndsWord rest) :
    ∃ ts, .semicolon ∉ ts ∧ Reads prev (name.text.toList ++ rest) ts rest := by
  unfold text
  split
  · obtain ⟨t, ht, hreads⟩ := name.table.reads prev h
    refine ⟨[t], ?_, hreads⟩
    rw [List.mem_singleton]
    rintro rfl
    cases ht
  · rename_i schema _
    have hperiod : EndsWord ('.' :: (name.table.text.toList ++ rest)) := by
      rintro c hc
      cases hc
      decide
    obtain ⟨t, ht, hschema⟩ := schema.reads prev hperiod
    obtain ⟨u, hu, htable⟩ := name.table.reads (some .period) h
    have hpoint : scan (some t) '.' (name.table.text.toList ++ rest) =
        .ok (.token .period (name.table.text.toList ++ rest)) := by
      have hafter : scanPoint (some t) (name.table.text.toList ++ rest) =
          .ok (.period, name.table.text.toList ++ rest) := by
        rw [scanPoint_eq, if_pos]
        exact ht
      simp [scan, isSpace, hafter]
    refine ⟨[t] ++ .period :: [u], ?_, by simpa using hschema.trans (.token hpoint htable)⟩
    simp only [List.singleton_append, List.mem_cons, List.not_mem_nil, or_false, not_or]
    refine ⟨?_, by decide, ?_⟩
    · rintro rfl
      cases ht
    · rintro rfl
      cases hu

/-! ## One statement -/

/-- The text can be read, and is one statement of this kind. -/
def IsOne (sql : String) (kind : StatementKind) : Prop :=
  ∃ ts, tokens sql = .ok ts ∧ (statements ts).map Statement.kind = [kind]

/-- What a name can stand before: it is read in one way, and has no semicolon in it. -/
def Follows (after : List Char) : Prop :=
  EndsWord after ∧ ∃ ts, .semicolon ∉ ts ∧ ∀ prev, lex prev after = .ok ts

theorem follows_nil : Follows [] := by
  constructor
  · intro c hc
    cases hc
  · exact ⟨[], List.not_mem_nil, lex_nil⟩

section

variable {text after : List Char}

theorem endsWord_of_space (hspace : text.head? = some ' ') : EndsWord text := by
  intro c hc
  obtain rfl : ' ' = c := Option.some.inj (hspace.symm.trans hc)
  decide

theorem lex_of_space (hspace : text.head? = some ' ') (prev : Option Token) :
    lex prev text = lex none text := by
  obtain ⟨rest, rfl⟩ := List.head?_eq_some_iff.1 hspace
  have hblank (prev : Option Token) :
      lex prev (' ' :: rest) = (lex (some .blank) rest).map (.blank :: ·) := lex_token rfl
  rw [hblank, hblank]

end

/-! ## Parts of a text -/

/-- A fixed part of a text, by what stands around it. -/
inductive Part where
  /-- A name follows. The part is read as these tokens and a space. -/
  | head (ts : List Token)
  /-- A name stands before, and another part may follow. -/
  | middle
  /-- A name or another part stands before, and nothing follows. -/
  | tail
  /-- Nothing stands around it. It is a statement of this kind. -/
  | whole (kind : StatementKind)

namespace Part

/-- A text can be this part of another one. That can be computed, as the part itself is fixed. -/
def Fits (part : Part) (text : List Char) : Prop :=
  match part with
  | head ts => text.getLast? = some ' ' ∧ read? [' '] text.length none text = some ts
  | middle => text.head? = some ' ' ∧
      (read? [' '] text.length none (text ++ [' '])).map (fun ts => decide (.semicolon ∈ ts)) =
        some false
  | tail => text.head? = some ' ' ∧
      (read? [] text.length none text).map (fun ts => decide (.semicolon ∈ ts)) = some false
  | whole kind => (read? [] text.length none text).map
      (fun ts => (statements ts).map Statement.kind) = some [kind]

instance (part : Part) (text : List Char) : Decidable (part.Fits text) :=
  match part with
  | head _ => inferInstanceAs (Decidable (_ ∧ _))
  | middle => inferInstanceAs (Decidable (_ ∧ _))
  | tail => inferInstanceAs (Decidable (_ ∧ _))
  | whole _ => inferInstanceAs (Decidable (_ = _))

variable {text after : List Char} {ts : List Token} {kind : StatementKind}

theorem Fits.isOne (h : (whole kind).Fits text) : IsOne (String.ofList text) kind := by
  obtain ⟨ts, hts, hkind⟩ := Option.map_eq_some_iff.1 h
  refine ⟨ts, ?_, hkind⟩
  rw [tokens, String.toList_ofList]
  exact lex_of_read? hts

theorem Fits.follows (h : tail.Fits text) : Follows text := by
  obtain ⟨hspace, h⟩ := h
  obtain ⟨ts, hts, hmem⟩ := Option.map_eq_some_iff.1 h
  refine ⟨endsWord_of_space hspace, ts, by simpa using hmem, fun prev => ?_⟩
  rw [lex_of_space hspace, lex_of_read? hts]

theorem Fits.follows_append (h : middle.Fits text) (hafter : tail.Fits after) :
    Follows (text ++ after) := by
  obtain ⟨hspace, h⟩ := h
  obtain ⟨ts, hts, hmem⟩ := Option.map_eq_some_iff.1 h
  obtain ⟨-, us, hus, hlex⟩ := hafter.follows
  obtain ⟨rest, rfl⟩ := List.head?_eq_some_iff.1 hafter.1
  have hhead : (text ++ ' ' :: rest).head? = some ' ' := by
    rw [List.head?_append, hspace]
    rfl
  have hreads := (reads_of_read? hts).change rfl rest
  refine ⟨endsWord_of_space hhead, ts ++ us, ?_, fun prev => ?_⟩
  · simp only [decide_eq_false_iff_not] at hmem
    simp [hmem, hus]
  · rw [lex_of_space hhead, hreads.lex, hlex]
    rfl

/-- A text that ends with a space is read in the same way before any other. -/
theorem Fits.reads (h : (head ts).Fits text) (rest : List Char) :
    Reads none (text ++ rest) (ts ++ [.blank]) rest := by
  obtain ⟨hspace, h⟩ := h
  obtain ⟨before, rfl⟩ := List.getLast?_eq_some_iff.1 hspace
  have hreads := (reads_of_read? h).change rfl rest
  rw [List.append_assoc]
  exact hreads.trans (.token rfl (.stop _ _))

theorem Fits.isOne_of_name (h : (head ts).Fits text) (hsemicolon : .semicolon ∉ ts)
    (hlexemes : ts.filterMap Token.lexeme? ≠ [])
    (hkind : ∀ rest, Statement.kind (ts.filterMap Token.lexeme? ++ rest) = kind)
    (name : QualifiedName) (hafter : Follows after) :
    IsOne (String.ofList text ++ name.text ++ String.ofList after) kind := by
  obtain ⟨hends, us, hus, hlex⟩ := hafter
  obtain ⟨names, hnames, hname⟩ := name.reads (some .blank) hends
  have hreads := h.reads (name.text.toList ++ after)
  have htokens : tokens (String.ofList text ++ name.text ++ String.ofList after) =
      .ok (ts ++ .blank :: (names ++ us)) := by
    have hlast : ((ts ++ [Token.blank]).getLast? <|> none) = some .blank := by simp
    have := (hreads.trans (hlast ▸ hname)).lex
    rw [hlex] at this
    simpa [tokens, Except.map] using this
  refine ⟨_, htokens, ?_⟩
  rw [statements_of_not_mem (by simp [hsemicolon, hnames, hus])]
  simp [List.filterMap_append, hlexemes, hkind, Token.lexeme?]

end Part

/-! ## The texts -/

/-- The texts of questions about a schema. -/
def questionTexts : List String :=
  ["SELECT DATABASE()", Question.select "COUNT(*)" "tables" "",
    Question.select "COUNT(*)" "table_constraints" " AND constraint_type = 'PRIMARY KEY'",
    Question.select "COUNT(*)" "statistics" " AND index_name = ?",
    Question.select "COUNT(*)" "columns" " AND column_name = ?",
    Question.select "column_default" "columns" " AND column_name = ?",
    Question.select "constraint_type" "table_constraints" " AND constraint_name = ?",
    Question.select "COUNT(*)" "key_column_usage"
      " AND constraint_name = 'PRIMARY' AND column_name = ?"]

/-- All that the engine ever says for a driver, and what kind of statement each text is. -/
def Driver.templates (d : Driver) : List (String × StatementKind) :=
  (d.schemaOverride.toList.map fun schema => ("USE " ++ schema.text, .other)) ++
    (d.tracking.schema.toList.map fun schema =>
      ("CREATE SCHEMA IF NOT EXISTS " ++ schema.text, .schema true)) ++
    [(createTrackingSql d.tracking, .schema true),
      ("SELECT library, migration, done FROM " ++ d.tracking.text, .other),
      ("REPLACE INTO " ++ d.tracking.text ++
        " (library, migration, done, error, updated_at) VALUES (?, ?, ?, ?, now())", .data),
      ("SELECT GET_LOCK(?, -1)", .other), ("SELECT RELEASE_LOCK(?)", .other)] ++
    questionTexts.map fun text => (text, .other)

/-! ## What the texts are made of -/

/-- What all questions about a table have in common. -/
def questionFilter : String :=
  " WHERE table_schema = COALESCE(?, DATABASE()) AND table_name = ?"

/-- `SELECT`, what is selected, and `FROM`. -/
def selectTokens (what : List Token) : List Token :=
  [.keyword ⟨"SELECT"⟩, .blank] ++ what ++ [.blank, .keyword ⟨"FROM"⟩]

/-- The words that make a schema or a table, unless it is there. -/
def guardedTokens (what : String) : List Token :=
  [.keyword ⟨"CREATE"⟩, .blank, .keyword ⟨what⟩, .blank, .keyword ⟨"IF"⟩, .blank,
    .keyword ⟨"NOT"⟩, .blank, .keyword ⟨"EXISTS"⟩]

def countTokens : List Token := [.keyword ⟨"COUNT"⟩, .symbol, .symbol, .symbol]

def columnsTokens : List Token := [.name, .symbol, .blank, .name, .symbol, .blank, .name]

def replaceTokens : List Token := [.keyword ⟨"REPLACE"⟩, .blank, .keyword ⟨"INTO"⟩]

/-- The parts that the texts are put together from, but for what the tracking table consists of. -/
def parts : List (String × Part) :=
  [("USE ", .head [.keyword ⟨"USE"⟩]),
    ("CREATE SCHEMA IF NOT EXISTS ", .head (guardedTokens "SCHEMA")),
    ("CREATE TABLE IF NOT EXISTS ", .head (guardedTokens "TABLE")),
    ("SELECT library, migration, done FROM ", .head (selectTokens columnsTokens)),
    ("REPLACE INTO ", .head replaceTokens),
    (" (library, migration, done, error, updated_at) VALUES (?, ?, ?, ?, now())", .tail),
    ("SELECT GET_LOCK(?, -1)", .whole .other), ("SELECT RELEASE_LOCK(?)", .whole .other),
    ("SELECT DATABASE()", .whole .other),
    ("SELECT COUNT(*) FROM ", .head (selectTokens countTokens)),
    ("SELECT column_default FROM ", .head (selectTokens [.name])),
    ("SELECT constraint_type FROM ", .head (selectTokens [.name])),
    (questionFilter, .middle), (questionFilter, .tail),
    (" AND constraint_type = 'PRIMARY KEY'", .tail), (" AND index_name = ?", .tail),
    (" AND column_name = ?", .tail), (" AND constraint_name = ?", .tail),
    (" AND constraint_name = 'PRIMARY' AND column_name = ?", .tail)]

-- One computation for all parts, as the kernel then takes each keyword apart but once. It is on
-- lists of characters: that a string is made from such a list costs nothing, but the list of a
-- string has to be decoded.
theorem parts_fit : ∃ texts : List (List Char), parts.map Prod.fst = texts.map String.ofList ∧
    ∀ p ∈ (parts.map Prod.snd).zip texts, p.1.Fits p.2 :=
  ⟨[_, _, _, _, _, _, _, _, _, _, _, _, _, _, _, _, _, _, _], rfl, by decide +kernel⟩

theorem Part.exists_of_zip {ps : List (String × Part)} {texts : List (List Char)}
    (heq : ps.map Prod.fst = texts.map String.ofList)
    (hfits : ∀ p ∈ (ps.map Prod.snd).zip texts, p.1.Fits p.2) {sql : String} {part : Part}
    (h : (sql, part) ∈ ps) : ∃ text, sql = String.ofList text ∧ part.Fits text := by
  induction ps generalizing texts with
  | nil => cases h
  | cons p ps ih =>
    cases texts with
    | nil => cases heq
    | cons text texts =>
      obtain ⟨hsql, heq⟩ := List.cons.inj heq
      rcases List.mem_cons.1 h with rfl | h
      · exact ⟨text, hsql, hfits _ List.mem_cons_self⟩
      · exact ih heq (fun p hp => hfits p (List.mem_cons_of_mem _ hp)) h

theorem fits_of_mem {sql : String} {part : Part} (h : (sql, part) ∈ parts) :
    ∃ text, sql = String.ofList text ∧ part.Fits text := by
  obtain ⟨texts, heq, hfits⟩ := parts_fit
  exact Part.exists_of_zip heq hfits h

/-! ## Each text is one statement -/

theorem isOne_before {sql : String} {kind : StatementKind} (ts : List Token)
    (h : (sql, .head ts) ∈ parts) (hsemicolon : .semicolon ∉ ts)
    (hlexemes : ts.filterMap Token.lexeme? ≠ [])
    (hkind : ∀ rest, Statement.kind (ts.filterMap Token.lexeme? ++ rest) = kind)
    (name : QualifiedName) : IsOne (sql ++ name.text) kind := by
  obtain ⟨text, rfl, hfits⟩ := fits_of_mem h
  have hone := hfits.isOne_of_name hsemicolon hlexemes hkind name follows_nil
  rwa [String.ofList_nil, String.append_empty] at hone

theorem isOne_whole {sql : String} {kind : StatementKind} (h : (sql, .whole kind) ∈ parts) :
    IsOne sql kind := by
  obtain ⟨text, rfl, hfits⟩ := fits_of_mem h
  exact hfits.isOne

theorem isOne_use (schema : Identifier) : IsOne ("USE " ++ schema.text) .other :=
  isOne_before [.keyword ⟨"USE"⟩] (by simp [parts]) (by decide) (by decide) (fun _ => rfl)
    ⟨none, schema⟩

theorem isOne_createSchema (schema : Identifier) :
    IsOne ("CREATE SCHEMA IF NOT EXISTS " ++ schema.text) (.schema true) :=
  isOne_before (guardedTokens "SCHEMA") (by simp [parts]) (by decide) (by decide) (fun _ => rfl)
    ⟨none, schema⟩

theorem append_eq_ofList {a b : String} {l m : List Char} (ha : a = String.ofList l)
    (hb : b = String.ofList m) : a ++ b = String.ofList (l ++ m) := by
  rw [ha, hb, String.ofList_append]

theorem createTrackingSql_eq : ∃ text : List Char,
    (∀ table, createTrackingSql table =
      "CREATE TABLE IF NOT EXISTS " ++ table.text ++ String.ofList text) ∧
    Part.tail.Fits text ∧ text.count '?' = 0 := by
  apply Exists.intro
  refine ⟨fun table => ?_, ?_⟩
  · unfold createTrackingSql
    simp only [String.append_assoc]
    rw [← String.append_assoc]
    exact congrArg _ (append_eq_ofList rfl <| append_eq_ofList rfl <| append_eq_ofList rfl <|
      append_eq_ofList rfl <| append_eq_ofList rfl <| append_eq_ofList rfl <|
      append_eq_ofList rfl rfl)
  · decide +kernel

theorem isOne_createTracking (table : TrackingTable) :
    IsOne (createTrackingSql table) (.schema true) := by
  obtain ⟨rest, hsql, hrest, -⟩ := createTrackingSql_eq
  obtain ⟨text, htext, hfits⟩ := fits_of_mem
    (show ("CREATE TABLE IF NOT EXISTS ", .head (guardedTokens "TABLE")) ∈ parts by simp [parts])
  rw [hsql, htext]
  exact hfits.isOne_of_name (by decide) (by decide) (fun _ => rfl) table hrest.follows

theorem isOne_loadStatuses (table : TrackingTable) :
    IsOne ("SELECT library, migration, done FROM " ++ table.text) .other :=
  isOne_before (selectTokens columnsTokens) (by simp [parts]) (by decide) (by decide)
    (fun _ => rfl) table

theorem isOne_saveStatus (table : TrackingTable) :
    IsOne ("REPLACE INTO " ++ table.text ++
      " (library, migration, done, error, updated_at) VALUES (?, ?, ?, ?, now())") .data := by
  obtain ⟨text, htext, hfits⟩ := fits_of_mem
    (show ("REPLACE INTO ", .head replaceTokens) ∈ parts by simp [parts])
  obtain ⟨rest, hrest, htail⟩ := fits_of_mem
    (show (" (library, migration, done, error, updated_at) VALUES (?, ?, ?, ?, now())", .tail) ∈
      parts by simp [parts])
  rw [htext, hrest]
  exact hfits.isOne_of_name (by decide) (by decide) (fun _ => rfl) table htail.follows

theorem isOne_select {what condition : String} (ts : List Token)
    (h : ("SELECT " ++ what ++ " FROM ", .head (selectTokens ts)) ∈ parts)
    (hsemicolon : .semicolon ∉ ts) (source : Identifier)
    (hcondition : condition = "" ∨ (condition, .tail) ∈ parts) :
    IsOne (Question.select what source.text condition) .other := by
  have heq : Question.select what source.text condition = "SELECT " ++ what ++ " FROM " ++
      (⟨some ⟨"information_schema", rfl⟩, source⟩ : QualifiedName).text ++
      (questionFilter ++ condition) := by
    have hsource : " FROM information_schema." = " FROM " ++ ("information_schema" ++ ".") := rfl
    simp only [Question.select, QualifiedName.text, questionFilter, hsource, String.append_assoc]
  have hafter : ∃ rest, questionFilter ++ condition = String.ofList rest ∧ Follows rest := by
    rcases hcondition with rfl | hcondition
    · obtain ⟨rest, hrest, htail⟩ := fits_of_mem
        (show (questionFilter, .tail) ∈ parts by simp [parts])
      exact ⟨rest, by rw [String.append_empty, hrest], htail.follows⟩
    · obtain ⟨text, htext, hmiddle⟩ := fits_of_mem
        (show (questionFilter, .middle) ∈ parts by simp [parts])
      obtain ⟨rest, hrest, htail⟩ := fits_of_mem hcondition
      exact ⟨text ++ rest, append_eq_ofList htext hrest, hmiddle.follows_append htail⟩
  obtain ⟨text, htext, hfits⟩ := fits_of_mem h
  obtain ⟨rest, hrest, hafter⟩ := hafter
  rw [heq, htext, hrest]
  exact hfits.isOne_of_name (by simp [selectTokens, hsemicolon])
    (by simp [selectTokens, Token.lexeme?]) (fun _ => rfl) _ hafter

theorem isOne_question : ∀ text ∈ questionTexts, IsOne text .other := by
  have hcount {condition : String} (source : Identifier)
      (h : condition = "" ∨ (condition, .tail) ∈ parts) :
      IsOne (Question.select "COUNT(*)" source.text condition) .other :=
    isOne_select countTokens (by simp [parts]) (by decide) source h
  simp only [questionTexts, List.mem_cons, List.not_mem_nil, or_false]
  rintro text (rfl | rfl | rfl | rfl | rfl | rfl | rfl | rfl)
  · exact isOne_whole (by simp [parts])
  · exact hcount ⟨"tables", rfl⟩ (.inl rfl)
  · exact hcount ⟨"table_constraints", rfl⟩ (.inr (by simp [parts]))
  · exact hcount ⟨"statistics", rfl⟩ (.inr (by simp [parts]))
  · exact hcount ⟨"columns", rfl⟩ (.inr (by simp [parts]))
  · exact isOne_select [.name] (by simp [parts]) (by decide) ⟨"columns", rfl⟩
      (.inr (by simp [parts]))
  · exact isOne_select [.name] (by simp [parts]) (by decide) ⟨"table_constraints", rfl⟩
      (.inr (by simp [parts]))
  · exact hcount ⟨"key_column_usage", rfl⟩ (.inr (by simp [parts]))

theorem Driver.isOne_template {d : Driver} {text : String} {kind : StatementKind}
    (h : (text, kind) ∈ d.templates) : IsOne text kind := by
  simp only [templates, List.mem_append, List.mem_map, Option.mem_toList, List.mem_cons,
    Prod.mk.injEq, List.not_mem_nil, or_false] at h
  rcases h with ((⟨schema, -, rfl, rfl⟩ | ⟨schema, -, rfl, rfl⟩) | ⟨rfl, rfl⟩ | ⟨rfl, rfl⟩ |
    ⟨rfl, rfl⟩ | ⟨rfl, rfl⟩ | ⟨rfl, rfl⟩) | ⟨question, hq, rfl, rfl⟩
  · exact isOne_use schema
  · exact isOne_createSchema schema
  · exact isOne_createTracking d.tracking
  · exact isOne_loadStatuses d.tracking
  · exact isOne_saveStatus d.tracking
  · exact isOne_whole (by simp [parts])
  · exact isOne_whole (by simp [parts])
  · exact isOne_question question hq

/-! ## Placeholders -/

def placeholders (sql : String) : Nat := sql.toList.count '?'

theorem placeholders_append (a b : String) :
    placeholders (a ++ b) = placeholders a + placeholders b := by
  simp [placeholders, List.count_append]

theorem placeholders_of_count {sql : String} {text : List Char} {n : Nat}
    (hsql : sql = String.ofList text) (h : text.count '?' = n) : placeholders sql = n := by
  rw [placeholders, hsql, String.toList_ofList, h]

@[simp] theorem Identifier.placeholders (i : Identifier) :
    SchemaMigration.placeholders i.text = 0 := by
  have hsimple := i.simple
  unfold SchemaMigration.placeholders
  rw [List.count_eq_zero]
  intro hmem
  cases htext : i.text.toList with
  | nil =>
    rw [htext] at hmem
    cases hmem
  | cons c cs =>
    rw [htext] at hsimple hmem
    simp only [isSimpleName, Bool.and_eq_true, List.all_eq_true] at hsimple
    rcases List.mem_cons.1 hmem with rfl | hmem
    · cases hsimple.1
    · cases hsimple.2 '?' hmem

@[simp] theorem QualifiedName.placeholders (name : QualifiedName) :
    SchemaMigration.placeholders name.text = 0 := by
  unfold text
  split
  · exact name.table.placeholders
  · have hpoint : SchemaMigration.placeholders "." = 0 := rfl
    simp [placeholders_append, hpoint]

theorem placeholders_select (what source condition : String) (hwhat : placeholders what = 0)
    (hsource : placeholders source = 0) :
    placeholders (Question.select what source condition) = 2 + placeholders condition := by
  have hselect : placeholders "SELECT " = 0 := placeholders_of_count rfl rfl
  have hfrom : placeholders " FROM information_schema." = 0 := placeholders_of_count rfl rfl
  have hfilter : placeholders questionFilter = 2 := placeholders_of_count rfl rfl
  unfold questionFilter at hfilter
  simp only [Question.select, placeholders_append, hwhat, hsource, hselect, hfrom, hfilter]

theorem Question.params_length {q : Question} {default : Option Identifier} {argument : String}
    {params : List SqlValue} (hsubject : q.subject = some argument)
    (h : q.params default = .ok params) : params.length = 2 + q.detail.toList.length := by
  unfold Question.params at h
  rw [hsubject] at h
  cases hname : parseTableArgument argument with
  | error e =>
    simp only [hname] at h
    cases h
  | ok name =>
    simp only [hname] at h
    cases h
    simp only [List.length_cons, List.length_map]
    omega

theorem Question.placeholders {q : Question} {default : Option Identifier}
    {params : List SqlValue} (h : q.params default = .ok params) :
    SchemaMigration.placeholders q.sql = params.length := by
  have hselect {what source condition argument : String} (hsubject : q.subject = some argument)
      (hsql : q.sql = select what source condition)
      (hwhat : SchemaMigration.placeholders what = 0)
      (hsource : SchemaMigration.placeholders source = 0)
      (hcondition : SchemaMigration.placeholders condition = q.detail.toList.length) :
      SchemaMigration.placeholders q.sql = params.length := by
    rw [params_length hsubject h, hsql, placeholders_select _ _ _ hwhat hsource, hcondition]
  cases q with
  | database =>
    cases h
    exact placeholders_of_count rfl rfl
  | _ =>
    exact hselect rfl rfl (placeholders_of_count rfl rfl) (placeholders_of_count rfl rfl)
      (placeholders_of_count rfl rfl)

theorem placeholders_createTracking (table : TrackingTable) :
    placeholders (createTrackingSql table) = 0 := by
  obtain ⟨text, hsql, -, hcount⟩ := createTrackingSql_eq
  rw [hsql, placeholders_append, placeholders_append, table.placeholders,
    placeholders_of_count rfl hcount]
  exact placeholders_of_count rfl rfl

theorem placeholders_saveStatus (table : TrackingTable) :
    placeholders (Command.saveStatus table).text = 4 := by
  unfold Command.text
  rw [placeholders_append, placeholders_append, table.placeholders]
  have hbefore : placeholders "REPLACE INTO " = 0 := placeholders_of_count rfl rfl
  rw [hbefore, Nat.add_zero, Nat.zero_add]
  exact placeholders_of_count rfl rfl

/-! ## All that is sent -/

theorem Question.sql_mem (q : Question) : q.sql ∈ questionTexts := by
  cases q <;> simp [sql, questionTexts]

theorem Driver.Sends.template {d : Driver} {c : Call} {command : Command} {params : List SqlValue}
    (h : d.Sends c) (hs : c.statement? = some (command, params)) :
    (∃ kind, (command.text, kind) ∈ d.templates) ∧ placeholders command.text = params.length := by
  have hname {before name : String} (hbefore : placeholders before = 0)
      (hname : placeholders name = 0) : placeholders (before ++ name) = 0 := by
    rw [placeholders_append, hbefore, hname]
  unfold templates
  simp only [List.mem_append]
  cases h with
  | begin options => cases hs
  | commit s => cases hs
  | rollback s => cases hs
  | @useSchema schema s hschema =>
    cases hs
    rw [hschema]
    exact ⟨⟨_, .inl (.inl (.inl (.head _)))⟩,
      hname (placeholders_of_count rfl rfl) schema.placeholders⟩
  | @createSchema schema hschema =>
    cases hs
    rw [hschema]
    exact ⟨⟨_, .inl (.inl (.inr (.head _)))⟩,
      hname (placeholders_of_count rfl rfl) schema.placeholders⟩
  | createTracking =>
    cases hs
    exact ⟨⟨_, .inl (.inr (.head _))⟩, placeholders_createTracking d.tracking⟩
  | loadStatuses =>
    cases hs
    exact ⟨⟨_, .inl (.inr (.tail _ (.head _)))⟩,
      hname (placeholders_of_count rfl rfl) d.tracking.placeholders⟩
  | saveStatus s name done error =>
    cases hs
    exact ⟨⟨_, .inl (.inr (.tail _ (.tail _ (.head _))))⟩, placeholders_saveStatus d.tracking⟩
  | takeLock s lockName =>
    cases hs
    exact ⟨⟨_, .inl (.inr (.tail _ (.tail _ (.tail _ (.head _)))))⟩,
      placeholders_of_count rfl rfl⟩
  | freeLock s lockName =>
    cases hs
    exact ⟨⟨_, .inl (.inr (.tail _ (.tail _ (.tail _ (.tail _ (.head _))))))⟩,
      placeholders_of_count rfl rfl⟩
  | @ask default q _ hparams =>
    cases hs
    exact ⟨⟨_, .inr (List.mem_map_of_mem q.sql_mem)⟩, Question.placeholders hparams⟩

theorem Driver.create_sends_nothing (databaseType : String)
    (tracking : Except ConfigError TrackingTable) (options : Options) :
    (Driver.create databaseType tracking options).Only fun _ => False := by
  unfold create
  split
  · trivial
  · dsimp only
    split
    · trivial
    · trivial

/--
What an operation sends is the migration's own, or one of a few texts that are fixed but for checked
names, with all else bound to placeholders. And whatever those names are, each of the texts is one
statement, and of its own kind.
-/
theorem Task.sends_templates (d : Driver) :
    (∀ t : Task, t.IsOf d → t.program.Only fun c => d.Sends c ∨ t.Makes c) ∧
      (∀ default q, (SchemaMigration.ask default q).Only d.Sends) ∧
      (∀ databaseType tracking options,
        (Driver.create databaseType tracking options).Only fun _ => False) ∧
      (∀ c command params, d.Sends c → c.statement? = some (command, params) →
        (∃ kind, (command.text, kind) ∈ d.templates) ∧
          placeholders command.text = params.length) ∧
      ∀ text kind, (text, kind) ∈ d.templates → IsOne text kind :=
  ⟨fun _ h => Task.sends h, ask_sends d, Driver.create_sends_nothing,
    fun _ _ _ hc hs => hc.template hs, fun _ _ => Driver.isOne_template⟩

/-- Names that are keywords change nothing. -/
theorem Task.sends_templates_keywords :
    let d : Driver :=
      { options := {}, tracking := ⟨some ⟨"if", rfl⟩, ⟨"drop", rfl⟩⟩,
        schemaOverride := some ⟨"delete", rfl⟩ }
    (Task.ensure d).program.Only (fun c => d.Sends c ∨ (Task.ensure d).Makes c) ∧
      IsOne "USE delete" .other ∧ IsOne "CREATE SCHEMA IF NOT EXISTS if" (.schema true) ∧
      placeholders (Command.saveStatus d.tracking).text = 4 := by
  intro d
  obtain ⟨htask, -, -, hsent, hone⟩ := Task.sends_templates d
  refine ⟨htask (.ensure d) rfl, hone _ _ (by decide +kernel), hone _ _ (by decide +kernel), ?_⟩
  exact (hsent _ _ _ (.saveStatus 1 ⟨"lib", "drop table"⟩ true "") rfl).2

end SchemaMigration
