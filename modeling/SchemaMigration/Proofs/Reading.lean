import SchemaMigration.Proofs.Lookahead

/-!
# Reading a part of a script

What the lexer reads up to a place in the text, with the characters after that place still there. A
place between two tokens cuts a script in two: the tokens of the whole are those up to there and
those of the rest. Up to a character that is no sign they do not depend on what follows it.
-/

namespace SchemaMigration

/-! ## One step of the lexer -/

theorem lex_nil (prev : Option Token) : lex prev [] = .ok [] := by
  rw [lex]

theorem lex_token {prev : Option Token} {c : Char} {text after : List Char} {t : Token}
    (h : scan prev c text = .ok (.token t after)) :
    lex prev (c :: text) = (lex (some t) after).map (t :: ·) := by
  rw [lex]
  split
  · rename_i heq
    cases h.symm.trans heq
  · rename_i heq
    cases h.symm.trans heq
    cases lex (some t) after <;> rfl
  · rename_i heq
    cases h.symm.trans heq

theorem lex_code {prev : Option Token} {c : Char} {text inside after : List Char}
    {us : List Token} (h : scan prev c text = .ok (.code inside after))
    (hinside : lex prev inside = .ok us) :
    lex prev (c :: text) = (lex (us.getLast? <|> prev) after).map (us ++ ·) := by
  rw [lex]
  split
  · rename_i heq
    cases h.symm.trans heq
  · rename_i heq
    cases h.symm.trans heq
  · rename_i heq
    cases h.symm.trans heq
    rw [hinside]
    simp only
    cases lex (us.getLast? <|> prev) after <;> rfl

/-! ## Up to a place -/

/--
These tokens are read off the front of the text, after the token before it. The place where that
ends is in no token and in no executable comment.
-/
inductive Reads : Option Token → List Char → List Token → List Char → Prop
  | stop (prev : Option Token) (text : List Char) : Reads prev text [] text
  | token {prev c text t after ts rest} (scanned : scan prev c text = .ok (.token t after))
      (others : Reads (some t) after ts rest) : Reads prev (c :: text) (t :: ts) rest
  | code {prev c text inside after us ts rest}
      (scanned : scan prev c text = .ok (.code inside after)) (lexed : lex prev inside = .ok us)
      (others : Reads (us.getLast? <|> prev) after ts rest) :
      Reads prev (c :: text) (us ++ ts) rest

namespace Reads

variable {prev : Option Token} {text rest : List Char} {ts : List Token}

theorem length_le (h : Reads prev text ts rest) : rest.length ≤ text.length := by
  induction h with
  | stop => exact Nat.le_refl _
  | token scanned _ ih | code scanned _ _ ih =>
    have := (scan_within scanned).rest
    simp only [Scanned.rest, List.length_cons] at *
    omega

theorem before_append (us ts : List Token) (prev : Option Token) :
    ((us ++ ts).getLast? <|> prev) = (ts.getLast? <|> (us.getLast? <|> prev)) := by
  simp [Option.orElse_eq_or, Option.or_assoc]

theorem lex (h : Reads prev text ts rest) :
    lex prev text = (SchemaMigration.lex (ts.getLast? <|> prev) rest).map (ts ++ ·) := by
  induction h with
  | stop prev text =>
    change _ = (SchemaMigration.lex prev text).map id
    cases SchemaMigration.lex prev text <;> rfl
  | @token prev _ _ t _ ts _ scanned _ ih =>
    have hbefore : ((t :: ts).getLast? <|> prev) = (ts.getLast? <|> some t) :=
      before_append [t] ts prev
    rw [lex_token scanned, ih, hbefore]
    cases SchemaMigration.lex (ts.getLast? <|> some t) _ <;> rfl
  | @code prev _ _ _ _ us ts _ scanned lexed _ ih =>
    rw [lex_code scanned lexed, ih, before_append us ts prev]
    cases SchemaMigration.lex (ts.getLast? <|> (us.getLast? <|> prev)) _ with
    | error e => rfl
    | ok others => exact congrArg Except.ok (List.append_assoc us ts others).symm

theorem trans {us : List Token} {last : List Char} (h : Reads prev text ts rest)
    (h' : Reads (ts.getLast? <|> prev) rest us last) : Reads prev text (ts ++ us) last := by
  induction h with
  | stop => exact h'
  | @token prev _ _ t _ ts _ scanned _ ih =>
    have hbefore : ((t :: ts).getLast? <|> prev) = (ts.getLast? <|> some t) :=
      before_append [t] ts prev
    rw [hbefore] at h'
    exact .token scanned (ih h')
  | @code prev _ _ _ _ us ts _ scanned lexed _ ih =>
    rw [before_append us ts prev] at h'
    rw [List.append_assoc]
    exact .code scanned lexed (ih h')

/-- The text after a place can be replaced, from the second character on. -/
theorem change {q : Char} {w x : List Char} (h : Reads prev (x ++ q :: w) ts (q :: w))
    (hq : isSign q = false) (w' : List Char) : Reads prev (x ++ q :: w') ts (q :: w') := by
  generalize htext : x ++ q :: w = text at h
  generalize hrest : q :: w = rest at h
  induction h generalizing x with
  | stop =>
    subst hrest
    obtain rfl : x = [] := by simpa using htext
    exact .stop _ _
  | token scanned others ih | code scanned lexed others ih =>
    subst hrest
    have hlength := others.length_le
    -- The first token cannot start at the place itself: the place is still there after it.
    cases x with
    | nil =>
      cases htext
      exact absurd hlength (Nat.not_le.2 (Nat.lt_succ_of_le (scan_within scanned).rest))
    | cons c x =>
      cases htext
      obtain ⟨y, hy⟩ := scan_local hq scanned hlength
      have hafter := Except.ok.inj (scanned.symm.trans (hy w))
      cases hafter
      first
        | exact .token (hy w') (ih rfl rfl)
        | exact .code (hy w') lexed (ih rfl rfl)

end Reads

/-! ## Texts that are given -/

/--
The tokens up to the place where `rest` is what is left, for a text that has no executable comment
before there. It is the lexer once more, in a form that the kernel can run.
-/
def read? (rest : List Char) : Nat → Option Token → List Char → Option (List Token)
  | 0, _, text => if text = rest then some [] else none
  | fuel + 1, prev, text =>
    if text = rest then some []
    else match text with
      | [] => none
      | c :: text =>
        match scan prev c text with
        | .ok (.token t after) => (read? rest fuel (some t) after).map (t :: ·)
        | .ok (.code _ _) | .error _ => none

theorem reads_of_read? {rest text : List Char} {fuel : Nat} {prev : Option Token}
    {ts : List Token} (h : read? rest fuel prev text = some ts) : Reads prev text ts rest := by
  induction fuel generalizing prev text ts with
  | zero =>
    unfold read? at h
    split at h
    · rename_i htext
      cases h
      exact htext ▸ .stop prev text
    · cases h
  | succ fuel ih =>
    unfold read? at h
    split at h
    · rename_i htext
      cases h
      exact htext ▸ .stop prev text
    split at h
    · cases h
    split at h
    · rename_i hscan
      obtain ⟨us, hus, rfl⟩ := Option.map_eq_some_iff.1 h
      exact .token hscan (ih hus)
    · cases h
    · cases h

theorem lex_of_read? {text : List Char} {fuel : Nat} {prev : Option Token} {ts : List Token}
    (h : read? [] fuel prev text = some ts) : lex prev text = .ok ts := by
  rw [(reads_of_read? h).lex, lex_nil]
  exact congrArg Except.ok (List.append_nil ts)

end SchemaMigration
