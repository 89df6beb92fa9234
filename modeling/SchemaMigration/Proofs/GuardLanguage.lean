import Mathlib.Computability.DFA
import SchemaMigration.Proofs.Guards

/-!
# The language of guards

What follows a verb is guarded exactly if it starts with a guard for that verb. Reading it from left
to right, some lexeme settles the matter, unless the statement ends before: the last one of a guard,
or the first that no guard can come after. A machine with seven states is enough to tell.
-/

namespace SchemaMigration

/-! ## Guards and what defeats them -/

/-- Keywords alone, and no `IF` among them. -/
def LeadsOn (run : List Lexeme) : Prop := ∀ l ∈ run, ∃ k : Keyword, l = .keyword k ∧ k.text ≠ "IF"

/-- The statement creates and replaces. -/
def Replaces (verb : Keyword) (rest : List Lexeme) : Prop :=
  verb.text = "CREATE" ∧ ∃ after, rest = .word "OR" :: .word "REPLACE" :: after

/-- What may stand after the verb to guard a statement, up to the end of the guard. -/
inductive Guards (verb : Keyword) : List Lexeme → Prop
  | replace (hverb : verb.text = "CREATE") : Guards verb [.word "OR", .word "REPLACE"]
  | positive {run : List Lexeme} (hverb : verb.text = "CREATE" ∨ verb.text = "DROP")
    (hrun : LeadsOn run) : Guards verb (run ++ [.word "IF", .word "EXISTS"])
  | negative {run : List Lexeme} (hverb : verb.text = "CREATE" ∨ verb.text = "DROP")
    (hrun : LeadsOn run) : Guards verb (run ++ [.word "IF", .word "NOT", .word "EXISTS"])

/-- Up to the first lexeme after which no guard but a replacement can come. -/
inductive Defeats : List Lexeme → Prop
  | instead {run : List Lexeme} {l : Lexeme} (hrun : LeadsOn run) (hl : ∀ k, l ≠ .keyword k) :
    Defeats (run ++ [l])
  | afterIf {run : List Lexeme} {l : Lexeme} (hrun : LeadsOn run) (hnot : l ≠ .word "NOT")
    (hexists : l ≠ .word "EXISTS") : Defeats (run ++ [.word "IF", l])
  | afterNot {run : List Lexeme} {l : Lexeme} (hrun : LeadsOn run) (hexists : l ≠ .word "EXISTS") :
    Defeats (run ++ [.word "IF", .word "NOT", l])

/-- It ends before there is a guard or anything that defeats one. -/
inductive EndsEarly : List Lexeme → Prop
  | run {run : List Lexeme} (hrun : LeadsOn run) : EndsEarly run
  | afterIf {run : List Lexeme} (hrun : LeadsOn run) : EndsEarly (run ++ [.word "IF"])
  | afterNot {run : List Lexeme} (hrun : LeadsOn run) :
    EndsEarly (run ++ [.word "IF", .word "NOT"])

/-! ## Runs of keywords -/

theorem leadsOn_nil : LeadsOn [] := nofun

theorem leadsOn_cons_iff {k : Keyword} {run : List Lexeme} :
    LeadsOn (.keyword k :: run) ↔ k.text ≠ "IF" ∧ LeadsOn run := by
  simp [LeadsOn]

theorem LeadsOn.comesToGuard_append_iff {run rest : List Lexeme} (h : LeadsOn run) :
    ComesToGuard (run ++ rest) ↔ ComesToGuard rest := by
  induction run with
  | nil => exact Iff.rfl
  | cons l run ih =>
    obtain ⟨k, rfl, -⟩ := h l List.mem_cons_self
    obtain ⟨hk, hrun⟩ := leadsOn_cons_iff.1 h
    rw [List.cons_append, comesToGuard_cons_iff hk, ih hrun]

theorem comesToGuard_iff_exists_run {rest : List Lexeme} : ComesToGuard rest ↔
    ∃ run after, LeadsOn run ∧
      (rest = run ++ .word "IF" :: .word "EXISTS" :: after ∨
        rest = run ++ .word "IF" :: .word "NOT" :: .word "EXISTS" :: after) := by
  constructor
  · intro h
    induction h with
    | positive after => exact ⟨[], after, leadsOn_nil, .inl rfl⟩
    | negative after => exact ⟨[], after, leadsOn_nil, .inr rfl⟩
    | keyword hk _ ih =>
      obtain ⟨run, after, hrun, heq⟩ := ih
      refine ⟨_ :: run, after, leadsOn_cons_iff.2 ⟨hk, hrun⟩, ?_⟩
      rcases heq with rfl | rfl
      · exact .inl rfl
      · exact .inr rfl
  · rintro ⟨run, after, hrun, rfl | rfl⟩
    · exact hrun.comesToGuard_append_iff.2 (.positive after)
    · exact hrun.comesToGuard_append_iff.2 (.negative after)

/-! ## What settles the matter -/

section

variable {verb : Keyword} {rest start after : List Lexeme}

theorem hasGuard_eq_true_iff : hasGuard verb rest = true ↔
    Replaces verb rest ∨ (verb.text = "CREATE" ∨ verb.text = "DROP") ∧ ComesToGuard rest :=
  hasGuard_iff verb rest

theorem hasGuard_iff_starts : hasGuard verb rest = true ↔
    ∃ start after, rest = start ++ after ∧ Guards verb start := by
  rw [hasGuard_eq_true_iff]
  constructor
  · rintro (⟨hverb, after, rfl⟩ | ⟨hverb, h⟩)
    · exact ⟨_, after, rfl, .replace hverb⟩
    · obtain ⟨run, after, hrun, rfl | rfl⟩ := comesToGuard_iff_exists_run.1 h
      · exact ⟨_, after, by simp, .positive hverb hrun⟩
      · exact ⟨_, after, by simp, .negative hverb hrun⟩
  · rintro ⟨start, after, rfl, h⟩
    cases h with
    | replace hverb => exact .inl ⟨hverb, after, rfl⟩
    | positive hverb hrun =>
      exact .inr ⟨hverb, comesToGuard_iff_exists_run.2 ⟨_, after, hrun, .inl (by simp)⟩⟩
    | negative hverb hrun =>
      exact .inr ⟨hverb, comesToGuard_iff_exists_run.2 ⟨_, after, hrun, .inr (by simp)⟩⟩

theorem comesToGuard_if_iff : ComesToGuard (.word "IF" :: rest) ↔
    ∃ after, rest = .word "EXISTS" :: after ∨ rest = .word "NOT" :: .word "EXISTS" :: after := by
  constructor
  · intro h
    cases h with
    | positive after => exact ⟨after, .inl rfl⟩
    | negative after => exact ⟨after, .inr rfl⟩
    | keyword hk _ => exact absurd rfl hk
  · rintro ⟨after, rfl | rfl⟩
    · exact .positive after
    · exact .negative after

theorem Defeats.not_comesToGuard (h : Defeats start) (after : List Lexeme) :
    ¬ComesToGuard (start ++ after) := by
  cases h with
  | instead hrun hl =>
    rw [List.append_assoc, hrun.comesToGuard_append_iff]
    intro hguard
    obtain ⟨k, hk⟩ := hguard.head?_keyword
    exact hl k (Option.some.inj hk)
  | afterIf hrun hnot hexists =>
    rw [List.append_assoc, hrun.comesToGuard_append_iff, List.cons_append, comesToGuard_if_iff]
    simp [hnot, hexists]
  | afterNot hrun hexists =>
    rw [List.append_assoc, hrun.comesToGuard_append_iff, List.cons_append, comesToGuard_if_iff]
    rintro ⟨after, h | h⟩
    · exact absurd (List.cons.inj h).1 (by decide)
    · exact hexists (List.cons.inj (List.cons.inj h).2).1

theorem Defeats.replaces_of_append (h : Defeats start)
    (hreplaces : Replaces verb (start ++ after)) : Replaces verb start := by
  obtain ⟨hverb, rest, hrest⟩ := hreplaces
  have hlength : 2 ≤ start.length := by
    cases h with
    | @instead run l hrun hl =>
      cases run with
      | nil => exact absurd (List.cons.inj hrest).1 (hl ⟨"OR"⟩)
      | cons r run => simp
    | afterIf hrun _ _ => simp
    | afterNot hrun _ => simp
  match start, hlength, hrest with
  | l :: l' :: start, _, hrest =>
    obtain ⟨rfl, htail⟩ := List.cons.inj hrest
    obtain ⟨rfl, -⟩ := List.cons.inj htail
    exact ⟨hverb, start, rfl⟩

theorem Defeats.hasGuard_eq_false (h : Defeats start) (hreplaces : ¬Replaces verb start) :
    hasGuard verb (start ++ after) = false := by
  rw [Bool.eq_false_iff, ne_eq, hasGuard_eq_true_iff]
  exact not_or.2 ⟨mt h.replaces_of_append hreplaces,
    fun hguard => h.not_comesToGuard after hguard.2⟩

theorem not_comesToGuard_of_other {before : List Lexeme} {l : Lexeme}
    (hbefore : .word "IF" ∉ before) (hl : ∀ k, l ≠ .keyword k) :
    ¬ComesToGuard (before ++ l :: after) := by
  induction before with
  | nil =>
    intro h
    obtain ⟨k, hk⟩ := h.head?_keyword
    exact hl k (Option.some.inj hk)
  | cons b before ih =>
    rw [List.mem_cons, not_or] at hbefore
    cases b with
    | keyword k =>
      have hk : k.text ≠ "IF" := by
        rintro hk
        obtain ⟨_⟩ := k
        cases hk
        exact hbefore.1 rfl
      rw [List.cons_append, comesToGuard_cons_iff hk]
      exact ih hbefore.2
    | name | symbol => exact fun h => nomatch h

theorem Defeats.cons {k : Keyword} (hk : k.text ≠ "IF") (h : Defeats start) :
    Defeats (.keyword k :: start) := by
  cases h with
  | instead hrun hl => exact .instead (leadsOn_cons_iff.2 ⟨hk, hrun⟩) hl
  | afterIf hrun hnot hexists => exact .afterIf (leadsOn_cons_iff.2 ⟨hk, hrun⟩) hnot hexists
  | afterNot hrun hexists => exact .afterNot (leadsOn_cons_iff.2 ⟨hk, hrun⟩) hexists

theorem EndsEarly.cons {k : Keyword} (hk : k.text ≠ "IF") (h : EndsEarly rest) :
    EndsEarly (.keyword k :: rest) := by
  cases h with
  | run hrun => exact .run (leadsOn_cons_iff.2 ⟨hk, hrun⟩)
  | afterIf hrun => exact .afterIf (leadsOn_cons_iff.2 ⟨hk, hrun⟩)
  | afterNot hrun => exact .afterNot (leadsOn_cons_iff.2 ⟨hk, hrun⟩)

theorem guard_cases_if (rest : List Lexeme) : ComesToGuard (.word "IF" :: rest) ∨
    (∃ start after, .word "IF" :: rest = start ++ after ∧ Defeats start) ∨
      EndsEarly (.word "IF" :: rest) := by
  match rest with
  | [] => exact .inr (.inr (.afterIf leadsOn_nil))
  | l :: rest =>
    by_cases hexists : l = .word "EXISTS"
    · exact .inl (hexists ▸ .positive rest)
    by_cases hnot : l = .word "NOT"
    · subst hnot
      match rest with
      | [] => exact .inr (.inr (.afterNot leadsOn_nil))
      | l :: rest =>
        by_cases hexists : l = .word "EXISTS"
        · exact .inl (hexists ▸ .negative rest)
        · exact .inr (.inl ⟨_, rest, rfl, .afterNot leadsOn_nil hexists⟩)
    · exact .inr (.inl ⟨_, rest, rfl, .afterIf leadsOn_nil hnot hexists⟩)

theorem guard_cases (rest : List Lexeme) : ComesToGuard rest ∨
    (∃ start after, rest = start ++ after ∧ Defeats start) ∨ EndsEarly rest := by
  induction rest with
  | nil => exact .inr (.inr (.run leadsOn_nil))
  | cons l rest ih =>
    cases l with
    | name | symbol => exact .inr (.inl ⟨_, rest, rfl, .instead leadsOn_nil nofun⟩)
    | keyword k =>
      by_cases hk : k.text = "IF"
      · obtain ⟨_⟩ := k
        cases hk
        exact guard_cases_if rest
      · rcases ih with h | ⟨start, after, rfl, h⟩ | h
        · exact .inl (.keyword hk h)
        · exact .inr (.inl ⟨_, after, rfl, h.cons hk⟩)
        · exact .inr (.inr (h.cons hk))

end

/-! ## A machine -/

/-- What a reader from left to right has to keep in mind. -/
inductive GuardState where
  /-- It creates, and nothing has been read. -/
  | opening
  | afterOr
  | leading
  | afterIf
  | afterNot
  | guarded
  | defeated
deriving DecidableEq

namespace GuardState

instance : Fintype GuardState where
  elems := {opening, afterOr, leading, afterIf, afterNot, guarded, defeated}
  complete s := by cases s <;> decide

/-- The next state as long as there have been keywords alone. -/
def lead (l : Lexeme) : GuardState :=
  if l = .word "IF" then afterIf else if l.leadsToGuard then leading else defeated

def next : GuardState → Lexeme → GuardState
  | opening, l => if l = .word "OR" then afterOr else lead l
  | afterOr, l => if l = .word "REPLACE" then guarded else lead l
  | leading, l => lead l
  | afterIf, l =>
    if l = .word "EXISTS" then guarded else if l = .word "NOT" then afterNot else defeated
  | afterNot, l => if l = .word "EXISTS" then guarded else defeated
  | guarded, _ => guarded
  | defeated, _ => defeated

def initial (verb : Keyword) : GuardState :=
  if verb.text = "CREATE" then opening else if verb.text = "DROP" then leading else defeated

variable {run rest start : List Lexeme}

theorem foldl_guarded (rest : List Lexeme) : rest.foldl next guarded = guarded := by
  induction rest with
  | nil => rfl
  | cons l rest ih => exact ih

theorem foldl_defeated (rest : List Lexeme) : rest.foldl next defeated = defeated := by
  induction rest with
  | nil => rfl
  | cons l rest ih => exact ih

theorem next_leading_keyword {k : Keyword} (hk : k.text ≠ "IF") :
    next leading (.keyword k) = leading := by
  have hne : Lexeme.keyword k ≠ .word "IF" := by
    intro h
    exact hk (congrArg Keyword.text (Lexeme.keyword.inj h))
  rw [next, lead, if_neg hne, if_pos (by simpa [Lexeme.leadsToGuard] using hk)]

theorem foldl_leading_run (h : LeadsOn run) : run.foldl next leading = leading := by
  induction run with
  | nil => rfl
  | cons l run ih =>
    obtain ⟨k, rfl, -⟩ := h l List.mem_cons_self
    obtain ⟨hk, hrun⟩ := leadsOn_cons_iff.1 h
    rw [List.foldl_cons, next_leading_keyword hk, ih hrun]

theorem foldl_leading_defeats (h : Defeats start) : start.foldl next leading = defeated := by
  cases h with
  | @instead _ l hrun hl =>
    rw [List.foldl_append, foldl_leading_run hrun]
    cases l with
    | keyword k => exact absurd rfl (hl k)
    | name | symbol => rfl
  | afterIf hrun hnot hexists =>
    rw [List.foldl_append, foldl_leading_run hrun]
    change next afterIf _ = _
    rw [next, if_neg hexists, if_neg hnot]
  | afterNot hrun hexists =>
    rw [List.foldl_append, foldl_leading_run hrun]
    change next afterNot _ = _
    rw [next, if_neg hexists]

theorem foldl_leading_endsEarly (h : EndsEarly rest) : rest.foldl next leading ≠ guarded := by
  cases h with
  | run hrun =>
    rw [foldl_leading_run hrun]
    nofun
  | afterIf hrun | afterNot hrun =>
    rw [List.foldl_append, foldl_leading_run hrun]
    nofun

theorem foldl_leading_iff : rest.foldl next leading = guarded ↔ ComesToGuard rest := by
  constructor
  · intro h
    rcases guard_cases rest with hguard | ⟨start, after, rfl, hdefeats⟩ | hends
    · exact hguard
    · rw [List.foldl_append, foldl_leading_defeats hdefeats, foldl_defeated] at h
      cases h
    · exact absurd h (foldl_leading_endsEarly hends)
  · intro h
    induction h with
    | positive after | negative after => exact foldl_guarded after
    | keyword hk _ ih => rwa [List.foldl_cons, next_leading_keyword hk]

theorem foldl_afterOr_iff : rest.foldl next afterOr = guarded ↔
    (∃ after, rest = .word "REPLACE" :: after) ∨ ComesToGuard rest := by
  cases rest with
  | nil => exact ⟨nofun, by rintro (⟨_, h⟩ | h) <;> cases h⟩
  | cons l rest =>
    by_cases hl : l = .word "REPLACE"
    · subst hl
      exact iff_of_true (foldl_guarded rest) (.inl ⟨rest, rfl⟩)
    · have hnext : next afterOr l = next leading l := if_neg hl
      rw [List.foldl_cons, hnext, ← List.foldl_cons, foldl_leading_iff]
      simp [hl]

theorem foldl_opening_iff : rest.foldl next opening = guarded ↔
    (∃ after, rest = .word "OR" :: .word "REPLACE" :: after) ∨ ComesToGuard rest := by
  cases rest with
  | nil => exact ⟨nofun, by rintro (⟨_, h⟩ | h) <;> cases h⟩
  | cons l rest =>
    by_cases hl : l = .word "OR"
    · subst hl
      have hguard : ComesToGuard (.word "OR" :: rest) ↔ ComesToGuard rest :=
        comesToGuard_cons_iff (by decide)
      rw [hguard, List.foldl_cons]
      change rest.foldl next afterOr = guarded ↔ _
      rw [foldl_afterOr_iff]
      simp
    · have hnext : next opening l = next leading l := if_neg hl
      rw [List.foldl_cons, hnext, ← List.foldl_cons, foldl_leading_iff]
      simp [hl]

theorem foldl_initial_iff (verb : Keyword) (rest : List Lexeme) :
    rest.foldl next (initial verb) = guarded ↔ hasGuard verb rest = true := by
  rw [hasGuard_eq_true_iff, initial, Replaces]
  split
  · rename_i hcreate
    rw [foldl_opening_iff]
    simp [hcreate]
  · rename_i hcreate
    split
    · rename_i hdrop
      rw [foldl_leading_iff]
      simp [hdrop]
    · rename_i hdrop
      rw [foldl_defeated]
      simp [hcreate, hdrop]

end GuardState

/-- The machine for what follows a verb. -/
def guardMachine (verb : Keyword) : DFA Lexeme GuardState where
  step := GuardState.next
  start := GuardState.initial verb
  accept := {.guarded}

theorem isRegular_hasGuard (verb : Keyword) :
    Language.IsRegular {rest | hasGuard verb rest = true} :=
  ⟨GuardState, inferInstance, guardMachine verb,
    Set.ext fun rest => GuardState.foldl_initial_iff verb rest⟩

/-! ## The language -/

/--
What follows a verb is guarded exactly if it starts with a guard, and this is a regular language.
Where there has been no `IF` yet, anything but a keyword defeats a guard, unless the statement
creates and replaces. Behind a guard nothing makes a difference any more, and neither does it behind
the first lexeme that defeats one. Every statement comes to the one or the other, or ends before.
-/
theorem hasGuard_recognises :
    (∀ (verb : Keyword) (rest : List Lexeme), hasGuard verb rest = true ↔
      Replaces verb rest ∨ (verb.text = "CREATE" ∨ verb.text = "DROP") ∧
        ∃ run after, LeadsOn run ∧
          (rest = run ++ .word "IF" :: .word "EXISTS" :: after ∨
            rest = run ++ .word "IF" :: .word "NOT" :: .word "EXISTS" :: after)) ∧
    (∀ verb : Keyword, Language.IsRegular {rest | hasGuard verb rest = true}) ∧
    (∀ (verb : Keyword) (before : List Lexeme) (l : Lexeme) (after : List Lexeme),
      .word "IF" ∉ before → (∀ k, l ≠ .keyword k) → ¬Replaces verb (before ++ l :: after) →
        hasGuard verb (before ++ l :: after) = false) ∧
    (∀ (verb : Keyword) (start after : List Lexeme), Guards verb start →
      hasGuard verb (start ++ after) = true) ∧
    (∀ (verb : Keyword) (start after : List Lexeme), Defeats start → ¬Replaces verb start →
      hasGuard verb (start ++ after) = false) ∧
    ∀ (verb : Keyword) (rest : List Lexeme), verb.text = "CREATE" ∨ verb.text = "DROP" →
      (∃ start after, rest = start ++ after ∧ (Guards verb start ∨ Defeats start)) ∨
        EndsEarly rest := by
  refine ⟨fun verb rest => ?_, isRegular_hasGuard, ?_, ?_, ?_, ?_⟩
  · rw [hasGuard_eq_true_iff, comesToGuard_iff_exists_run]
  · intro verb before l after hbefore hl hreplaces
    rw [Bool.eq_false_iff, ne_eq, hasGuard_eq_true_iff]
    exact not_or.2 ⟨hreplaces, fun h => not_comesToGuard_of_other hbefore hl h.2⟩
  · intro verb start after h
    exact hasGuard_iff_starts.2 ⟨start, after, rfl, h⟩
  · intro verb start after h hreplaces
    exact h.hasGuard_eq_false hreplaces
  · intro verb rest hverb
    rcases guard_cases rest with h | ⟨start, after, rfl, h⟩ | h
    · have hguard : hasGuard verb rest = true := hasGuard_eq_true_iff.2 (.inr ⟨hverb, h⟩)
      obtain ⟨start, after, rfl, hstart⟩ := hasGuard_iff_starts.1 hguard
      exact .inl ⟨start, after, rfl, .inl hstart⟩
    · exact .inl ⟨start, after, rfl, .inr h⟩
    · exact .inr h

/-- `IF NOT EXISTS` guards behind the type of the object, but not behind its name. -/
theorem hasGuard_recognises_table :
    let create : Keyword := ⟨"CREATE"⟩
    let table : List Lexeme := [.word "TABLE"]
    let guard : List Lexeme := [.word "IF", .word "NOT", .word "EXISTS"]
    (.word "IF" ∉ table ∧ (∀ k, Lexeme.name ≠ .keyword k) ∧
      ¬Replaces create (table ++ .name :: guard) ∧
      hasGuard create (table ++ .name :: guard) = false) ∧
    (Guards create (table ++ guard) ∧ hasGuard create (table ++ guard ++ [.name]) = true) ∧
    (Defeats (table ++ [.name]) ∧ ¬Replaces create (table ++ [.name]) ∧
      hasGuard create (table ++ [.name] ++ guard) = false) ∧
    (create.text = "CREATE" ∨ create.text = "DROP") ∧
    ((∃ start after, table = start ++ after ∧ (Guards create start ∨ Defeats start)) ∨
      EndsEarly table) := by
  intro create table guard
  have hif : .word "IF" ∉ table := by decide
  have hname : ∀ k, Lexeme.name ≠ .keyword k := nofun
  have hreplaces : ∀ rest, ¬Replaces create (table ++ rest) := by
    rintro rest ⟨-, after, h⟩
    exact absurd (List.cons.inj h).1 (by decide)
  have hrun : LeadsOn table := leadsOn_cons_iff.2 ⟨by decide, leadsOn_nil⟩
  have hguards : Guards create (table ++ guard) := .negative (.inl rfl) hrun
  have hdefeats : Defeats (table ++ [.name]) := .instead hrun hname
  obtain ⟨-, -, hother, hguarded, hdefeated, hends⟩ := hasGuard_recognises
  exact ⟨⟨hif, hname, hreplaces _, hother create table .name guard hif hname (hreplaces _)⟩,
    ⟨hguards, hguarded create _ _ hguards⟩,
    ⟨hdefeats, hreplaces _, hdefeated create _ guard hdefeats (hreplaces _)⟩,
    .inl rfl, hends create table (.inl rfl)⟩

end SchemaMigration
