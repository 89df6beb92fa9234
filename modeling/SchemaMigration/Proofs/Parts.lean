import Mathlib.Algebra.GroupWithZero.Nat
import SchemaMigration.Proofs.Scripts

/-!
# Scripts made of parts

A script does what its parts do, each by itself. Semicolons and blanks add nothing, and neither does
the order of the parts. So a script is as safe as its parts are together, and leaving some of them
out never makes it less safe.
-/

namespace SchemaMigration

/-! ## Blanks -/

def significant (tokens : List Token) : List Token := tokens.filter (· ≠ .blank)

theorem pieces_cons_of_not_separator {α : Type} {p : α → Bool} {a : α} (l : List α)
    (ha : p a = false) :
    ∃ piece others, pieces p l = piece :: others ∧ pieces p (a :: l) = (a :: piece) :: others := by
  obtain ⟨piece, others, hl⟩ := List.exists_cons_of_ne_nil (pieces_ne_nil p l)
  exact ⟨piece, others, hl, by simp [pieces, ha, hl]⟩

theorem pieces_filter {α β : Type} {p keep : α → Bool} {f : α → Option β}
    (h : ∀ a, keep a = false → p a = false ∧ f a = none) (l : List α) :
    (pieces p (l.filter keep)).map (·.filterMap f) = (pieces p l).map (·.filterMap f) := by
  induction l with
  | nil => rfl
  | cons a l ih =>
    by_cases hkeep : keep a = true
    · rw [List.filter_cons_of_pos hkeep]
      by_cases hp : p a = true
      · simp [pieces, hp, ih]
      · simp only [Bool.not_eq_true] at hp
        obtain ⟨piece, others, hl, hcons⟩ := pieces_cons_of_not_separator l hp
        obtain ⟨piece', others', hl', hcons'⟩ := pieces_cons_of_not_separator (l.filter keep) hp
        rw [hl, hl'] at ih
        rw [hcons, hcons']
        simp only [List.map_cons, List.cons.injEq] at ih ⊢
        simp [List.filterMap_cons, ih.1, ih.2]
    · simp only [Bool.not_eq_true] at hkeep
      obtain ⟨hp, hf⟩ := h a hkeep
      obtain ⟨piece, others, hl, hcons⟩ := pieces_cons_of_not_separator l hp
      rw [List.filter_cons_of_neg (by simp [hkeep]), ih, hl, hcons]
      simp [hf]

theorem statements_significant (tokens : List Token) :
    statements (significant tokens) = statements tokens := by
  unfold statements significant
  rw [pieces_filter]
  intro t ht
  obtain rfl : t = .blank := by simpa using ht
  exact ⟨rfl, rfl⟩

/-! ## Semicolons -/

theorem statements_append_semicolon (before after : List Token) :
    statements (before ++ .semicolon :: after) = statements before ++ statements after := by
  unfold statements
  rw [pieces_append_cons before after (by simp), List.map_append, List.filter_append]

theorem statements_of_not_mem {part : List Token} (h : .semicolon ∉ part) :
    statements part = [part.filterMap Token.lexeme?].filter (· ≠ []) := by
  unfold statements
  rw [pieces_of_not_separator]
  · rfl
  · intro t ht
    have hne : t ≠ .semicolon := by
      rintro rfl
      exact h ht
    simpa using hne

/-- Parts in their order, with semicolons between any two of them and around them all. -/
inductive Joined : List (List Token) → List Token → Prop
  | nil : Joined [] []
  | last (part : List Token) : Joined [part] part
  | part {parts tokens} (part : List Token) (rest : Joined parts tokens) :
      Joined (part :: parts) (part ++ .semicolon :: tokens)
  | semicolon {parts tokens} (rest : Joined parts tokens) : Joined parts (.semicolon :: tokens)

theorem Joined.statements {parts : List (List Token)} {tokens : List Token}
    (h : Joined parts tokens) :
    SchemaMigration.statements tokens = parts.flatMap SchemaMigration.statements := by
  induction h with
  | nil => rfl
  | last part => simp
  | part part _ ih => rw [statements_append_semicolon, ih, List.flatMap_cons]
  | @semicolon parts tokens _ ih =>
    have hempty : SchemaMigration.statements [] = [] := rfl
    rw [← List.nil_append (.semicolon :: tokens), statements_append_semicolon, hempty, ih,
      List.nil_append]

/-- The text can be read, and says these parts. Blanks stand anywhere in it. -/
def ReadsAs (sql : String) (parts : List (List Token)) : Prop :=
  (∀ part ∈ parts, .semicolon ∉ part) ∧
    ∃ ts, tokens sql = .ok ts ∧ Joined (parts.map significant) (significant ts)

theorem ReadsAs.analyze {sql : String} {parts : List (List Token)} (h : ReadsAs sql parts) :
    analyze sql = .ofKinds ((parts.flatMap statements).map Statement.kind) := by
  obtain ⟨-, ts, ht, hjoined⟩ := h
  have hstatements : statements ts = parts.flatMap statements := by
    rw [← statements_significant, hjoined.statements, List.flatMap_map]
    simp only [statements_significant]
  unfold SchemaMigration.analyze
  rw [ht]
  exact congrArg (fun sts => Analysis.ofKinds (sts.map Statement.kind)) hstatements

/-! ## Counts and classes -/

namespace Analysis

variable {kinds kinds' : List StatementKind}

theorem unguarded_le_schema (kinds : List StatementKind) :
    (ofKinds kinds).unguardedStatements ≤ (ofKinds kinds).schemaStatements := by
  apply List.countP_mono_left
  intro k _ hk
  simp_all

theorem schemaStatements_pos :
    0 < (ofKinds kinds).schemaStatements ↔ ∃ guarded, .schema guarded ∈ kinds := by
  simp only [ofKinds, List.countP_pos_iff, decide_eq_true_eq]
  constructor
  · rintro ⟨k, hk, rfl | rfl⟩
    · exact ⟨true, hk⟩
    · exact ⟨false, hk⟩
  · rintro ⟨guarded, hk⟩
    refine ⟨_, hk, ?_⟩
    cases guarded <;> simp

theorem unguardedStatements_pos :
    0 < (ofKinds kinds).unguardedStatements ↔ .schema false ∈ kinds := by
  simp [ofKinds]

theorem dataStatements_pos : 0 < (ofKinds kinds).dataStatements ↔ .data ∈ kinds := by
  simp [ofKinds]

theorem scriptClass_ofKinds (kinds : List StatementKind) :
    (ofKinds kinds).scriptClass =
      if (∃ guarded, .schema guarded ∈ kinds) ∧ .data ∈ kinds then .mixed
      else if .schema false ∈ kinds then .unguarded
      else .safe := by
  have hreadable : (ofKinds kinds).unreadable = false := rfl
  simp only [scriptClass, hreadable, Bool.false_eq_true, if_false, schemaStatements_pos,
    dataStatements_pos, unguardedStatements_pos]

theorem scriptClass_congr (h : ∀ k, k ∈ kinds ↔ k ∈ kinds') :
    (ofKinds kinds).scriptClass = (ofKinds kinds').scriptClass := by
  simp only [scriptClass_ofKinds, h]

theorem permits_of_subset {hasSkipIf : Bool} (h : kinds' ⊆ kinds)
    (hp : (ofKinds kinds).scriptClass.permits hasSkipIf = true) :
    (ofKinds kinds').scriptClass.permits hasSkipIf = true := by
  rw [scriptClass_ofKinds] at hp ⊢
  split at hp
  · cases hp
  rename_i hmixed
  have hmixed' : ¬ ((∃ guarded, .schema guarded ∈ kinds') ∧ .data ∈ kinds') := by
    rintro ⟨⟨guarded, hs⟩, hd⟩
    exact hmixed ⟨⟨guarded, h hs⟩, h hd⟩
  rw [if_neg hmixed']
  split
  · rename_i hunguarded
    rwa [if_pos (h hunguarded)] at hp
  · rfl

end Analysis

theorem Analysis.ofTokens_of_not_mem {part : List Token} (h : .semicolon ∉ part) :
    Analysis.ofTokens part = .ofKinds [Statement.kind (part.filterMap Token.lexeme?)] := by
  unfold ofTokens
  rw [statements_of_not_mem h]
  cases hlexemes : part.filterMap Token.lexeme? with
  | nil => rfl
  | cons l ls => rfl

/--
A script counts what its parts count, added up. A script of some of its parts, in any order and any
number, is permitted wherever the whole is, and is of the same class when it has all of them.
-/
theorem ReadsAs.adds_up {sql : String} {parts : List (List Token)} (h : ReadsAs sql parts) :
    (∀ part ∈ parts, Analysis.ofTokens part =
        .ofKinds [Statement.kind (part.filterMap Token.lexeme?)]) ∧
      (SchemaMigration.analyze sql).schemaStatements =
        (parts.map fun part => (Analysis.ofTokens part).schemaStatements).sum ∧
      (SchemaMigration.analyze sql).unguardedStatements =
        (parts.map fun part => (Analysis.ofTokens part).unguardedStatements).sum ∧
      (SchemaMigration.analyze sql).dataStatements =
        (parts.map fun part => (Analysis.ofTokens part).dataStatements).sum ∧
      (SchemaMigration.analyze sql).unguardedStatements ≤
        (SchemaMigration.analyze sql).schemaStatements ∧
      (SchemaMigration.analyze sql).unreadable = false ∧
      ∀ sql' parts', ReadsAs sql' parts' → parts' ⊆ parts →
        (parts ⊆ parts' → classify sql' = classify sql) ∧
        ∀ hasSkipIf, (classify sql).permits hasSkipIf = true →
          (classify sql').permits hasSkipIf = true := by
  have hcount (p : StatementKind → Bool) :
      ((parts.flatMap statements).map Statement.kind).countP p =
        (parts.map fun part => ((statements part).map Statement.kind).countP p).sum := by
    simp [List.countP_map, List.countP_flatMap, Function.comp_def]
  rw [h.analyze]
  refine ⟨fun part hpart => Analysis.ofTokens_of_not_mem (h.1 part hpart), hcount _, hcount _,
    hcount _, Analysis.unguarded_le_schema _, rfl, ?_⟩
  intro sql' parts' h' hsub
  have hkinds {ps qs : List (List Token)} (hps : ps ⊆ qs) :
      (ps.flatMap statements).map Statement.kind ⊆ (qs.flatMap statements).map Statement.kind := by
    apply List.map_subset
    intro st hst
    obtain ⟨part, hpart, hmem⟩ := List.mem_flatMap.1 hst
    exact List.mem_flatMap.2 ⟨part, hps hpart, hmem⟩
  unfold classify
  rw [h.analyze, h'.analyze]
  constructor
  · intro hsuper
    exact Analysis.scriptClass_congr fun k => ⟨fun hk => hkinds hsub hk, fun hk => hkinds hsuper hk⟩
  · intro hasSkipIf hp
    exact Analysis.permits_of_subset (hkinds hsub) hp

/--
A script with a guarded change, one with its parts in another order and one of them twice, and one
that says the other part alone.
-/
theorem ReadsAs.adds_up_repeated :
    let drop : List Token :=
      [.keyword ⟨"DROP"⟩, .keyword ⟨"TABLE"⟩, .keyword ⟨"IF"⟩, .keyword ⟨"EXISTS"⟩, .name]
    let select : List Token := [.keyword ⟨"SELECT"⟩, .symbol]
    let whole := "DROP TABLE IF EXISTS t; /* ; */ ;SELECT 1"
    let turned := "SELECT 1;DROP TABLE IF EXISTS t;SELECT 1;"
    let part := "; SELECT 1;-- 2\n SELECT 1;"
    ReadsAs whole [drop, select] ∧ ReadsAs turned [select, drop, select] ∧
      ReadsAs part [select, select] ∧
      (SchemaMigration.analyze whole).schemaStatements = 1 ∧
      (SchemaMigration.analyze whole).unguardedStatements = 0 ∧
      (SchemaMigration.analyze whole).dataStatements = 0 ∧
      (SchemaMigration.analyze whole).unreadable = false ∧
      classify whole = .safe ∧ classify turned = .safe ∧ (classify part).permits false = true := by
  intro drop select whole turned part
  have hwhole : ReadsAs whole [drop, select] := by
    let ts : List Token :=
      [.keyword ⟨"DROP"⟩, .blank, .keyword ⟨"TABLE"⟩, .blank, .keyword ⟨"IF"⟩, .blank,
        .keyword ⟨"EXISTS"⟩, .blank, .name, .semicolon, .blank, .blank, .blank, .semicolon,
        .keyword ⟨"SELECT"⟩, .blank, .symbol]
    refine ⟨by decide, ts, eq_ok_of_toOption (by decide +kernel), ?_⟩
    exact .part drop (.semicolon (.last select))
  have hturned : ReadsAs turned [select, drop, select] := by
    let ts : List Token :=
      [.keyword ⟨"SELECT"⟩, .blank, .symbol, .semicolon, .keyword ⟨"DROP"⟩, .blank,
        .keyword ⟨"TABLE"⟩, .blank, .keyword ⟨"IF"⟩, .blank, .keyword ⟨"EXISTS"⟩, .blank, .name,
        .semicolon, .keyword ⟨"SELECT"⟩, .blank, .symbol, .semicolon]
    refine ⟨by decide, ts, eq_ok_of_toOption (by decide +kernel), ?_⟩
    exact .part select (.part drop (.part select .nil))
  have hpart : ReadsAs part [select, select] := by
    let ts : List Token :=
      [.semicolon, .blank, .keyword ⟨"SELECT"⟩, .blank, .symbol, .semicolon, .blank, .blank,
        .keyword ⟨"SELECT"⟩, .blank, .symbol, .semicolon]
    refine ⟨by decide, ts, eq_ok_of_toOption (by decide +kernel), ?_⟩
    exact .semicolon (.part select (.part select .nil))
  obtain ⟨-, hschema, hunguarded, hdata, -, hread, hsome⟩ := hwhole.adds_up
  have hsafe : classify whole = .safe := by decide +kernel
  refine ⟨hwhole, hturned, hpart, hschema, hunguarded, hdata, hread, hsafe, ?_, ?_⟩
  · exact ((hsome _ _ hturned (by decide)).1 (by decide)).trans hsafe
  · exact (hsome _ _ hpart (by decide)).2 false (by rw [hsafe]; rfl)

end SchemaMigration
