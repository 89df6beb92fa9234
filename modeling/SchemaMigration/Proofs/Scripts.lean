import SchemaMigration.Script.Analysis

/-!
# What a script does

The verbs that matter, as the server knows them, and the statements of a script as a reader sees
them: whatever stands between two semicolons. A script with a statement of either sort among any
others is classified as mixed.
-/

namespace SchemaMigration

theorem eq_ok_of_toOption {ε α : Type} {r : Except ε α} {a : α} (h : r.toOption = some a) :
    r = .ok a := by
  cases r with
  | error e => cases h
  | ok b => exact congrArg Except.ok (Option.some.inj h)

/-! ## Statements of a text -/

theorem mem_pieces {α : Type} {p : α → Bool} {before piece after : List α}
    (hpiece : ∀ a ∈ piece, p a = false)
    (hbefore : before = [] ∨ ∃ l a, p a = true ∧ before = l ++ [a])
    (hafter : after = [] ∨ ∃ a l, p a = true ∧ after = a :: l) :
    piece ∈ pieces p (before ++ piece ++ after) := by
  have hfirst : piece ∈ pieces p (piece ++ after) := by
    rcases hafter with rfl | ⟨a, l, ha, rfl⟩
    · rw [List.append_nil, pieces_of_not_separator hpiece]
      exact List.mem_singleton_self piece
    · rw [pieces_append_separator l hpiece ha]
      exact List.mem_cons_self
  rw [List.append_assoc]
  rcases hbefore with rfl | ⟨l, a, ha, rfl⟩
  · exact hfirst
  · rw [List.append_assoc, List.singleton_append, pieces_append_cons l _ ha]
    exact List.mem_append_right _ hfirst

/-- What stands between two semicolons, or between one and an end, if it says anything. -/
def IsStatement (tokens : List Token) (st : Statement) : Prop :=
  ∃ before part after, tokens = before ++ part ++ after ∧ .semicolon ∉ part ∧
    (before = [] ∨ ∃ l, before = l ++ [.semicolon]) ∧ (after = [] ∨ ∃ l, after = .semicolon :: l) ∧
    st = part.filterMap Token.lexeme? ∧ st ≠ []

theorem IsStatement.mem {tokens : List Token} {st : Statement} (h : IsStatement tokens st) :
    st ∈ statements tokens := by
  obtain ⟨before, part, after, rfl, hpart, hbefore, hafter, rfl, hne⟩ := h
  have hmem : part ∈ pieces (· = .semicolon) (before ++ part ++ after) := by
    apply mem_pieces
    · intro a ha
      have hne : a ≠ .semicolon := by
        rintro rfl
        exact hpart ha
      simpa using hne
    · rcases hbefore with rfl | ⟨l, rfl⟩
      · exact Or.inl rfl
      · exact Or.inr ⟨l, .semicolon, by simp, rfl⟩
    · rcases hafter with rfl | ⟨l, rfl⟩
      · exact Or.inl rfl
      · exact Or.inr ⟨.semicolon, l, by simp, rfl⟩
  unfold statements
  rw [List.mem_filter]
  exact ⟨List.mem_map_of_mem hmem, by simpa using hne⟩

/-! ## Verbs that matter -/

namespace Statement

/-- It changes the schema, or commits the transaction as a schema change does. -/
def Commits (st : Statement) : Prop :=
  ∃ verb ∈ ["CREATE", "ALTER", "DROP", "RENAME", "TRUNCATE", "GRANT", "REVOKE", "LOCK", "UNLOCK"],
    ∃ rest, st = .word verb :: rest

/-- It changes data itself, or names queries first and then changes data. -/
def ChangesData (st : Statement) : Prop :=
  let verbs := ["INSERT", "UPDATE", "DELETE", "REPLACE", "LOAD", "CALL", "MERGE"]
  (∃ verb ∈ verbs, ∃ rest, st = .word verb :: rest) ∨
    ∃ rest, st = .word "WITH" :: rest ∧ ∃ verb ∈ verbs, .word verb ∈ rest

theorem Commits.kind {st : Statement} (h : st.Commits) : ∃ guarded, st.kind = .schema guarded := by
  obtain ⟨verb, hverb, rest, rfl⟩ := h
  simp only [List.mem_cons, List.not_mem_nil, or_false] at hverb
  rcases hverb with rfl | rfl | rfl | rfl | rfl | rfl | rfl | rfl | rfl <;> exact ⟨_, rfl⟩

theorem ChangesData.kind {st : Statement} (h : st.ChangesData) : st.kind = .data := by
  rcases h with ⟨verb, hverb, rest, rfl⟩ | ⟨rest, rfl, verb, hverb, hmem⟩
  · simp only [List.mem_cons, List.not_mem_nil, or_false] at hverb
    rcases hverb with rfl | rfl | rfl | rfl | rfl | rfl | rfl <;> rfl
  · have hany : rest.any Lexeme.isDataVerb = true := by
      rw [List.any_eq_true]
      exact ⟨_, hmem, by simpa [Lexeme.word, Lexeme.isDataVerb, dataVerbs] using hverb⟩
    have hlookup : committingVerbs.lookup "WITH" = none := rfl
    simp [Statement.kind, Lexeme.word, schemaVerbs, hlookup, dataVerbs, hany]

end Statement

/-! ## Scripts that mix both -/

/-- The text can be read, and has statements of both sorts, anywhere and among any others. -/
def Mixes (sql : String) : Prop :=
  ∃ ts commits changes, tokens sql = .ok ts ∧
    IsStatement ts commits ∧ commits.Commits ∧ IsStatement ts changes ∧ changes.ChangesData

theorem Mixes.classify {sql : String} (h : Mixes sql) : classify sql = .mixed := by
  obtain ⟨ts, commits, changes, ht, hcommits, hcommits', hchanges, hchanges'⟩ := h
  obtain ⟨guarded, hkind⟩ := hcommits'.kind
  have hanalysis : analyze sql = .ofTokens ts := by
    unfold analyze
    rw [ht]
  have hschema : 0 < (Analysis.ofTokens ts).schemaStatements := by
    apply List.countP_pos_iff.2
    refine ⟨.schema guarded, List.mem_map.2 ⟨commits, hcommits.mem, hkind⟩, ?_⟩
    cases guarded <;> rfl
  have hdata : 0 < (Analysis.ofTokens ts).dataStatements := by
    apply List.countP_pos_iff.2
    exact ⟨.data, List.mem_map.2 ⟨changes, hchanges.mem, hchanges'.kind⟩, rfl⟩
  have hreadable : (Analysis.ofTokens ts).unreadable = false := rfl
  simp [SchemaMigration.classify, hanalysis, Analysis.scriptClass, hreadable, hschema, hdata]

theorem mixes_drop_call : Mixes "DROP TABLE t; CALL p" := by
  let drop : List Token := [.keyword ⟨"DROP"⟩, .blank, .keyword ⟨"TABLE"⟩, .blank, .name]
  let call : List Token := [.blank, .keyword ⟨"CALL"⟩, .blank, .name]
  have ht : tokens "DROP TABLE t; CALL p" = .ok (drop ++ .semicolon :: call) :=
    eq_ok_of_toOption (by decide +kernel)
  refine ⟨_, [.word "DROP", .word "TABLE", .name], [.word "CALL", .name], ht, ?_, ?_, ?_, ?_⟩
  · exact ⟨[], drop, .semicolon :: call, rfl, by decide, Or.inl rfl, Or.inr ⟨call, rfl⟩, rfl,
      by decide⟩
  · exact ⟨"DROP", by decide, _, rfl⟩
  · exact ⟨drop ++ [.semicolon], call, [], rfl, by decide, Or.inr ⟨drop, rfl⟩, Or.inl rfl, rfl,
      by decide⟩
  · exact Or.inl ⟨"CALL", by decide, _, rfl⟩

end SchemaMigration
