import SchemaMigration.Proofs.Parts

/-!
# Guards

A guard is found behind keywords alone. The lexer takes many a word for a keyword that may name an
object, so one can be found behind such a name, where it guards nothing: in the body of a trigger,
say. A name that is no keyword ends the search, whatever follows it.
-/

namespace SchemaMigration

/-! ## What is taken for a guard -/

/-- Keywords other than `IF`, and then `IF EXISTS` or `IF NOT EXISTS`. -/
inductive ComesToGuard : List Lexeme → Prop
  | positive (rest : List Lexeme) : ComesToGuard (.word "IF" :: .word "EXISTS" :: rest)
  | negative (rest : List Lexeme) :
      ComesToGuard (.word "IF" :: .word "NOT" :: .word "EXISTS" :: rest)
  | keyword {k : Keyword} {rest : List Lexeme} (hk : k.text ≠ "IF") (h : ComesToGuard rest) :
      ComesToGuard (.keyword k :: rest)

theorem isPrefixOf_iff {ls rest : List Lexeme} :
    ls.isPrefixOf rest = true ↔ ∃ after, rest = ls ++ after := by
  rw [List.isPrefixOf_iff_prefix]
  exact exists_congr fun after => eq_comm

theorem startsWithGuard_iff (rest : List Lexeme) : startsWithGuard rest = true ↔
    (∃ after, rest = .word "IF" :: .word "NOT" :: .word "EXISTS" :: after) ∨
      ∃ after, rest = .word "IF" :: .word "EXISTS" :: after := by
  unfold startsWithGuard
  rw [Bool.or_eq_true, isPrefixOf_iff, isPrefixOf_iff]
  rfl

theorem ComesToGuard.of_startsWithGuard {rest : List Lexeme} (h : startsWithGuard rest = true) :
    ComesToGuard rest := by
  rcases (startsWithGuard_iff rest).1 h with ⟨after, rfl⟩ | ⟨after, rfl⟩
  · exact .negative after
  · exact .positive after

theorem startsWithGuard_dropWhile_iff (rest : List Lexeme) :
    startsWithGuard (rest.dropWhile Lexeme.leadsToGuard) = true ↔ ComesToGuard rest := by
  constructor
  · intro h
    induction rest with
    | nil => cases h
    | cons l rest ih =>
      cases hl : l.leadsToGuard with
      | false =>
        rw [List.dropWhile_cons_of_neg (by simp [hl])] at h
        exact .of_startsWithGuard h
      | true =>
        rw [List.dropWhile_cons_of_pos hl] at h
        cases l with
        | keyword k => exact .keyword (by simpa [Lexeme.leadsToGuard] using hl) (ih h)
        | name | symbol => cases hl
  · intro h
    induction h with
    | positive rest => rfl
    | negative rest => rfl
    | @keyword k rest hk _ ih =>
      rw [List.dropWhile_cons_of_pos (by simpa [Lexeme.leadsToGuard] using hk)]
      exact ih

theorem hasGuard_iff (verb : Keyword) (rest : List Lexeme) : hasGuard verb rest = true ↔
    (verb.text = "CREATE" ∧ ∃ after, rest = .word "OR" :: .word "REPLACE" :: after) ∨
      (verb.text = "CREATE" ∨ verb.text = "DROP") ∧ ComesToGuard rest := by
  have hreplace : [Lexeme.word "OR", .word "REPLACE"].isPrefixOf rest = true ↔
      ∃ after, rest = .word "OR" :: .word "REPLACE" :: after := isPrefixOf_iff
  rw [← hreplace, ← startsWithGuard_dropWhile_iff]
  unfold hasGuard
  split
  · rename_i h
    simp [h]
  · rename_i h
    rw [or_iff_right h]
    split
    · rename_i hverb
      simp [hverb]
    · rename_i hverb
      simp [hverb]

/-! ## Statements that name an object -/

def objectTypes : List String :=
  ["TABLE", "VIEW", "INDEX", "TRIGGER", "EVENT", "PROCEDURE", "FUNCTION", "DATABASE", "SCHEMA"]

/-- It creates or drops an object, and names it directly after its type, where `rest` starts. -/
inductive Statement.NamesObject : Statement → List Lexeme → Prop
  | mk {verb type : String} {next : Lexeme} {rest : List Lexeme} (hverb : verb ∈ ["CREATE", "DROP"])
      (htype : type ∈ objectTypes) (hnext : next ≠ .word "IF") :
      NamesObject (.word verb :: .word type :: next :: rest) (next :: rest)

theorem comesToGuard_cons_iff {k : Keyword} {rest : List Lexeme} (hk : k.text ≠ "IF") :
    ComesToGuard (.keyword k :: rest) ↔ ComesToGuard rest := by
  constructor
  · intro h
    cases h with
    | positive rest | negative rest => exact absurd rfl hk
    | keyword _ h => exact h
  · exact .keyword hk

theorem ComesToGuard.head?_keyword {rest : List Lexeme} (h : ComesToGuard rest) :
    ∃ k, rest.head? = some (.keyword k) := by
  cases h with
  | positive rest | negative rest | keyword hk h => exact ⟨_, rfl⟩

theorem Analysis.ofKinds_schema (guarded : Bool) (before after : List StatementKind) :
    let others := ofKinds (before ++ after)
    ofKinds (before ++ .schema guarded :: after) =
      { others with
        schemaStatements := others.schemaStatements + 1
        unguardedStatements := others.unguardedStatements + if guarded then 0 else 1 } := by
  cases guarded <;> simp [ofKinds, Nat.add_assoc]

namespace Statement

variable {st : Statement} {rest : List Lexeme}

theorem NamesObject.kind_iff (h : st.NamesObject rest) :
    ∃ guarded, st.kind = .schema guarded ∧ (guarded = true ↔ ComesToGuard rest) := by
  obtain @⟨verb, type, next, rest, hverb, htype, -⟩ := h
  have hschema : verb ∈ schemaVerbs := by
    revert verb
    decide
  have htype' : type ≠ "OR" ∧ type ≠ "IF" := by
    revert type
    decide
  refine ⟨hasGuard ⟨verb⟩ (.word type :: next :: rest), ?_, ?_⟩
  · simp [kind, Lexeme.word, hschema]
  · have hcreates : verb = "CREATE" ∨ verb = "DROP" := by simpa using hverb
    rw [hasGuard_iff, Lexeme.word, comesToGuard_cons_iff htype'.2]
    simp [hcreates, Lexeme.word, htype'.1]

/--
It is counted as a schema change, and as one without a guard unless keywords alone lead from where
the object is named to what is taken for a guard. The name of the object must then be a keyword.
-/
theorem NamesObject.counted {sql : String} {ts : List Token} (ht : tokens sql = .ok ts)
    (hst : IsStatement ts st) (h : st.NamesObject rest) :
    st ∈ statements ts ∧
      (∀ before after, statements ts = before ++ st :: after →
        let others := Analysis.ofKinds ((before ++ after).map kind)
        (¬ ComesToGuard rest → analyze sql =
          { others with
            schemaStatements := others.schemaStatements + 1
            unguardedStatements := others.unguardedStatements + 1 }) ∧
        (ComesToGuard rest →
          analyze sql = { others with schemaStatements := others.schemaStatements + 1 })) ∧
      (¬ ComesToGuard rest → classify sql ≠ .safe) ∧
      (ComesToGuard rest → ∃ k, rest.head? = some (.keyword k)) := by
  obtain ⟨guarded, hkind, hguarded⟩ := h.kind_iff
  have hanalyze : analyze sql = .ofKinds ((statements ts).map kind) := by
    unfold analyze
    rw [ht]
    rfl
  refine ⟨hst.mem, ?_, ?_, ComesToGuard.head?_keyword⟩
  · intro before after hstatements others
    rw [hanalyze, hstatements, List.map_append, List.map_cons, hkind, Analysis.ofKinds_schema,
      ← List.map_append]
    constructor
    · intro hn
      rw [if_neg (mt hguarded.1 hn)]
    · intro hg
      rw [if_pos (hguarded.2 hg)]
      rfl
  · intro hn hsafe
    have hmem : .schema false ∈ (statements ts).map kind := by
      have hfalse : guarded = false := by simpa using mt hguarded.1 hn
      rw [← hfalse, ← hkind]
      exact List.mem_map_of_mem hst.mem
    rw [classify, hanalyze, Analysis.scriptClass_ofKinds, if_pos hmem] at hsafe
    split at hsafe <;> cases hsafe

end Statement

/-! ## A condition in the body of a trigger -/

def triggerText (trigger table : String) : String :=
  "CREATE TRIGGER " ++ trigger ++ " BEFORE INSERT ON " ++ table ++
    " FOR EACH ROW IF EXISTS (SELECT 1) THEN SET @x = 1; END IF"

/-- What is before the semicolon in the body. -/
def triggerTokens (trigger table : Token) : List Token :=
  [.keyword ⟨"CREATE"⟩, .blank, .keyword ⟨"TRIGGER"⟩, .blank, trigger, .blank, .keyword ⟨"BEFORE"⟩,
    .blank, .keyword ⟨"INSERT"⟩, .blank, .keyword ⟨"ON"⟩, .blank, table, .blank, .keyword ⟨"FOR"⟩,
    .blank, .keyword ⟨"EACH"⟩, .blank, .keyword ⟨"ROW"⟩, .blank, .keyword ⟨"IF"⟩, .blank,
    .keyword ⟨"EXISTS"⟩, .blank, .symbol, .keyword ⟨"SELECT"⟩, .blank, .symbol, .symbol, .blank,
    .keyword ⟨"THEN"⟩, .blank, .keyword ⟨"SET"⟩, .blank, .name, .blank, .symbol, .blank, .symbol]

def triggerEnd : List Token := [.blank, .keyword ⟨"END"⟩, .blank, .keyword ⟨"IF"⟩]

theorem isStatement_trigger {trigger table : Token} (htrigger : trigger ≠ .semicolon)
    (htable : table ≠ .semicolon) :
    IsStatement (triggerTokens trigger table ++ .semicolon :: triggerEnd)
      ((triggerTokens trigger table).filterMap Token.lexeme?) := by
  refine ⟨[], triggerTokens trigger table, .semicolon :: triggerEnd, rfl, ?_, Or.inl rfl,
    Or.inr ⟨triggerEnd, rfl⟩, rfl, by simp [triggerTokens, Token.lexeme?]⟩
  simp [triggerTokens, htrigger.symm, htable.symm]

/-- A trigger with a name that is no keyword is counted as unguarded. -/
theorem Statement.NamesObject.counted_trigger :
    let st : Statement := (triggerTokens .name .name).filterMap Token.lexeme?
    st.NamesObject (st.drop 2) ∧
      analyze (triggerText "t" "u") = { schemaStatements := 1, unguardedStatements := 1 } ∧
      classify (triggerText "t" "u") ≠ .safe := by
  intro st
  have ht : tokens (triggerText "t" "u") =
      .ok (triggerTokens .name .name ++ .semicolon :: triggerEnd) :=
    eq_ok_of_toOption (by decide +kernel)
  have hnames : st.NamesObject (st.drop 2) := .mk (by decide) (by decide) (by decide)
  have hrest : ¬ ComesToGuard (st.drop 2) := by
    intro h
    obtain ⟨k, hk⟩ := h.head?_keyword
    cases hk
  obtain ⟨-, hcounted, hsafe, -⟩ := hnames.counted ht (isStatement_trigger nofun nofun)
  refine ⟨hnames, ?_, hsafe hrest⟩
  exact (hcounted [] [[.word "END", .word "IF"]] (by decide +kernel)).1 hrest

/-- The same trigger is taken for guarded when its name and its table are keywords. -/
theorem Statement.NamesObject.guarded_in_body :
    ∃ ts, ∃ st : Statement, tokens (triggerText "audit" "account") = .ok ts ∧ IsStatement ts st ∧
      st.NamesObject (st.drop 2) ∧
      analyze (triggerText "audit" "account") =
        { schemaStatements := 1, unguardedStatements := 0 } ∧
      classify (triggerText "audit" "account") = .safe := by
  have ht : tokens (triggerText "audit" "account") =
      .ok (triggerTokens (.keyword ⟨"AUDIT"⟩) (.keyword ⟨"ACCOUNT"⟩) ++ .semicolon :: triggerEnd) :=
    eq_ok_of_toOption (by decide +kernel)
  refine ⟨_, _, ht, isStatement_trigger nofun nofun, ?_, by decide +kernel, by decide +kernel⟩
  exact .mk (by decide) (by decide) (by decide)

end SchemaMigration
