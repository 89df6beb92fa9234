import SchemaMigration.Script.Lexer

/-!
# How far the lexer looks

A token may depend on characters after it, but on very few. If a token ends before a character that
is no sign, the lexer did not look past that character: whatever follows it can be replaced, and the
token stays the same.
-/

namespace SchemaMigration

variable {q : Char} {w x : List Char}

/-! ## Runs of characters -/

theorem span_local {p : Char → Bool} (h : w.length < ((x ++ q :: w).dropWhile p).length) :
    ∃ z y, ∀ w', (x ++ q :: w').takeWhile p = z ∧ (x ++ q :: w').dropWhile p = y ++ q :: w' := by
  induction x with
  | nil =>
    by_cases hq : p q = true
    · have hle := length_dropWhile_le p w
      rw [List.nil_append, List.dropWhile_cons_of_pos hq] at h
      omega
    · exact ⟨[], [], fun w' => by simp [hq]⟩
  | cons a x ih =>
    by_cases ha : p a = true
    · rw [List.cons_append, List.dropWhile_cons_of_pos ha] at h
      obtain ⟨z, y, hzy⟩ := ih h
      exact ⟨a :: z, y, fun w' => by simp [ha, hzy w']⟩
    · exact ⟨[], a :: x, fun w' => by simp [ha]⟩

theorem dropWhile_local {p : Char → Bool} (h : w.length < ((x ++ q :: w).dropWhile p).length) :
    ∃ y, ∀ w', (x ++ q :: w').dropWhile p = y ++ q :: w' := by
  obtain ⟨z, y, hy⟩ := span_local h
  exact ⟨y, fun w' => (hy w').2⟩

/-- The text without its first character, if that is one of these. -/
def dropIf (p : Char → Bool) : List Char → List Char
  | [] => []
  | c :: rest => if p c then rest else c :: rest

theorem dropIf_local {p : Char → Bool} (h : w.length < (dropIf p (x ++ q :: w)).length) :
    ∃ y, ∀ w', dropIf p (x ++ q :: w') = y ++ q :: w' := by
  rcases x with _ | ⟨a, x⟩
  · by_cases hq : p q = true
    · simp [dropIf, hq] at h
    · exact ⟨[], fun w' => by simp [dropIf, hq]⟩
  · by_cases ha : p a = true
    · exact ⟨x, fun w' => by simp [dropIf, ha]⟩
    · exact ⟨a :: x, fun w' => by simp [dropIf, ha]⟩

theorem dropIf_local_of_not {p : Char → Bool} (hq : p q = false) (x : List Char) :
    ∃ y, ∀ w', dropIf p (x ++ q :: w') = y ++ q :: w' := by
  apply dropIf_local (w := [])
  cases x with
  | nil => simp [dropIf, hq]
  | cons a x =>
    simp only [List.cons_append, dropIf]
    split <;> simp

theorem dropIf_length_le (p : Char → Bool) (text : List Char) :
    (dropIf p text).length ≤ text.length := by
  cases text with
  | nil => simp [dropIf]
  | cons c rest =>
    simp only [dropIf]
    split <;> simp

/-! ## Quotes and comments -/

theorem afterQuote?_shorter {quote : Char} {escapes : Bool} {c : Char} {text rest : List Char}
    (h : afterQuote? quote escapes (c :: text) = some rest) : rest.length ≤ text.length := by
  unfold afterQuote? at h
  have := @afterQuote?_length
  grind

theorem afterQuote?_local {quote : Char} {escapes : Bool} {rest : List Char}
    (h : afterQuote? quote escapes (x ++ q :: w) = some rest) (hr : w.length < rest.length) :
    ∃ y, ∀ w', afterQuote? quote escapes (x ++ q :: w') = some (y ++ q :: w') := by
  fun_induction afterQuote? quote escapes x with
  | case1 =>
    have := afterQuote?_shorter h
    omega
  | case2 =>
    simp only [List.cons_append, List.nil_append, afterQuote?, if_true] at h ⊢
    split at h
    · have := afterQuote?_length h
      omega
    · rename_i hq
      exact ⟨[], fun w' => by simp [hq]⟩
  | case3 c hc =>
    simp only [List.cons_append, List.nil_append, afterQuote?, hc, if_false] at h
    split at h
    · have := afterQuote?_length h
      omega
    · have := afterQuote?_shorter h
      omega
  | case4 text ih =>
    simp only [List.cons_append, afterQuote?, if_true] at h ⊢
    exact ih h
  | case5 d text hd => exact ⟨d :: text, fun w' => by simp [afterQuote?, hd]⟩
  | case6 c d text hc hescape ih =>
    simp only [List.cons_append, afterQuote?, hc, if_false, hescape, if_true] at h ⊢
    exact ih h
  | case7 c d text hc hescape ih =>
    simp only [List.cons_append, afterQuote?, hc, if_false, hescape] at h ⊢
    exact ih h

theorem splitComment?_shorter {c : Char} {text content rest : List Char}
    (h : splitComment? (c :: text) = some (content, rest)) : rest.length ≤ text.length := by
  cases text with
  | nil => cases h
  | cons d text =>
    rw [splitComment?] at h
    split at h
    · cases h
      simp
    · simp only [Option.map_eq_some_iff, Prod.mk.injEq, Prod.exists] at h
      obtain ⟨content', rest', hsplit, -, rfl⟩ := h
      exact (splitComment?_length hsplit).2

theorem splitComment?_local {content rest : List Char}
    (h : splitComment? (x ++ q :: w) = some (content, rest)) (hr : w.length < rest.length) :
    ∃ y, ∀ w', splitComment? (x ++ q :: w') = some (content, y ++ q :: w') := by
  fun_induction splitComment? x generalizing content with
  | case1 =>
    have := splitComment?_shorter h
    omega
  | case2 c =>
    simp only [List.cons_append, List.nil_append, splitComment?] at h
    split at h
    · cases h
      omega
    · simp only [Option.map_eq_some_iff, Prod.mk.injEq, Prod.exists] at h
      obtain ⟨content', rest', hsplit, -, rfl⟩ := h
      have := splitComment?_shorter hsplit
      omega
  | case3 c d text hend =>
    simp only [List.cons_append, splitComment?, hend] at h ⊢
    cases h
    exact ⟨text, fun w' => by simp⟩
  | case4 c d text hend ih =>
    simp only [List.cons_append, splitComment?, hend, if_false] at h ⊢
    simp only [Option.map_eq_some_iff, Prod.mk.injEq, Prod.exists] at h
    obtain ⟨content', rest', hsplit, rfl, rfl⟩ := h
    obtain ⟨y, hy⟩ := ih hsplit
    exact ⟨y, fun w' => by rw [← List.cons_append, hy w']; rfl⟩

theorem afterLine_local (h : w.length < (afterLine (x ++ q :: w)).length) :
    ∃ y, ∀ w', afterLine (x ++ q :: w') = y ++ q :: w' := by
  unfold afterLine at h ⊢
  rw [List.length_drop] at h
  obtain ⟨y, hy⟩ := dropWhile_local (Nat.lt_of_lt_of_le h (Nat.sub_le _ _))
  simp only [hy] at h ⊢
  cases y with
  | nil =>
    simp at h
  | cons a y => exact ⟨y, fun w' => rfl⟩

/-! ## Numbers -/

/-- Signs alone are looked past: two hyphens may open a comment, and an exponent may have a sign. -/
def isSign (c : Char) : Bool := c = '+' || c = '-'

theorem afterExponent?_cons (e : Char) (rest : List Char) :
    afterExponent? (e :: rest) =
      if (e = 'e' ∨ e = 'E') ∧ (dropIf isSign rest).takeWhile Char.isDigit ≠ [] then
        some ((dropIf isSign rest).dropWhile Char.isDigit)
      else none := by
  cases rest with
  | nil => simp [afterExponent?, dropIf]
  | cons s rest =>
    have hdigits : (if s = '+' ∨ s = '-' then rest else s :: rest) = dropIf isSign (s :: rest) := by
      simp [dropIf, isSign]
    simp only [afterExponent?, hdigits]
    cases dropIf isSign (s :: rest) with
    | nil => simp
    | cons d digits =>
      by_cases hd : d.isDigit = true
      · simp [hd]
      · simp [hd]

theorem takeWhile_eq_nil_local (p : Char → Bool) (x w w' : List Char) :
    (x ++ q :: w).takeWhile p = [] ↔ (x ++ q :: w').takeWhile p = [] := by
  cases x with
  | nil => simp [List.takeWhile_cons]
  | cons a x => simp [List.takeWhile_cons]

theorem afterExponent?_shorter {c : Char} {text rest : List Char}
    (h : afterExponent? (c :: text) = some rest) : rest.length ≤ text.length := by
  have hdigits := length_dropWhile_le Char.isDigit
  unfold afterExponent? at h
  grind

theorem afterExponent?_local {rest : List Char} (hq : isSign q = false)
    (h : afterExponent? (x ++ q :: w) = some rest) (hr : w.length < rest.length) :
    ∃ y, ∀ w', afterExponent? (x ++ q :: w') = some (y ++ q :: w') := by
  cases x with
  | nil =>
    have := afterExponent?_shorter h
    omega
  | cons e x =>
    obtain ⟨y, hy⟩ := dropIf_local_of_not hq x
    simp only [List.cons_append, afterExponent?_cons, hy] at h ⊢
    split at h
    · rename_i hexponent
      cases h
      obtain ⟨z, hz⟩ := dropWhile_local hr
      refine ⟨z, fun w' => ?_⟩
      rw [ne_eq, takeWhile_eq_nil_local _ y w w'] at hexponent
      rw [if_pos hexponent, hz w']
    · cases h

theorem afterExponent?_local_none (hq : isSign q = false) (hx : x = [] → isWordChar q = false)
    (h : afterExponent? (x ++ q :: w) = none) (w' : List Char) :
    afterExponent? (x ++ q :: w') = none := by
  cases x with
  | nil =>
    have he : ¬ (q = 'e' ∨ q = 'E') := by
      rintro (rfl | rfl)
      · exact absurd (hx rfl) (by decide)
      · exact absurd (hx rfl) (by decide)
    simp [afterExponent?_cons, he]
  | cons e x =>
    obtain ⟨y, hy⟩ := dropIf_local_of_not hq x
    simp only [List.cons_append, afterExponent?_cons, hy] at h ⊢
    rw [ite_eq_right_iff] at h ⊢
    rw [ne_eq, takeWhile_eq_nil_local _ y w' w]
    simpa using h

theorem afterSuffix_eq (text : List Char) : afterSuffix text = dropIf (· = 'L') text := by
  unfold afterSuffix
  split
  · rfl
  · cases text with
    | nil => rfl
    | cons c rest =>
      have hc : c ≠ 'L' := by
        rintro rfl
        simp_all
      simp [dropIf, hc]

theorem afterSuffix_local (h : w.length < (afterSuffix (x ++ q :: w)).length) :
    ∃ y, ∀ w', afterSuffix (x ++ q :: w') = y ++ q :: w' := by
  simp only [afterSuffix_eq] at h ⊢
  exact dropIf_local h

theorem scanNumberEnd_shorter (afterPeriod : Bool) (text : List Char)
    (hq : isWordChar q = true) :
    (scanNumberEnd afterPeriod (q :: text)).2.length ≤ text.length := by
  have h1 := length_dropWhile_le isWordChar text
  have h2 := afterSuffix_length
  have h3 := @afterExponent?_shorter q text
  unfold scanNumberEnd
  rw [List.takeWhile_cons_of_pos hq, List.dropWhile_cons_of_pos hq]
  grind

theorem scanNumberEnd_local {afterPeriod : Bool} (hq : isSign q = false)
    (h : w.length < (scanNumberEnd afterPeriod (x ++ q :: w)).2.length) :
    ∃ t y, ∀ w', scanNumberEnd afterPeriod (x ++ q :: w') = (t, y ++ q :: w') := by
  have hx : x = [] → isWordChar q = false := by
    rintro rfl
    refine Bool.eq_false_iff.2 fun hword => ?_
    have := scanNumberEnd_shorter afterPeriod w hword
    simp only [List.nil_append] at h
    omega
  unfold scanNumberEnd at h ⊢
  cases he : afterExponent? (x ++ q :: w) with
  | some rest =>
    simp only [he] at h
    have hrest : w.length < rest.length := by
      have := afterSuffix_length rest
      split at h <;> simp only at h <;> omega
    obtain ⟨z, hz⟩ := afterExponent?_local hq he hrest
    have hw := he.symm.trans (hz w)
    cases hw
    simp only [hz]
    split at h
    · rename_i hperiod
      exact ⟨.name, z, fun w' => by simp [hperiod]⟩
    · rename_i hperiod
      obtain ⟨y, hy⟩ := afterSuffix_local h
      exact ⟨.symbol, y, fun w' => by simp [hperiod, hy w']⟩
  | none =>
    simp only [he] at h
    simp only [afterExponent?_local_none hq hx he]
    split at h
    · rename_i hnone
      obtain ⟨y, hy⟩ := afterSuffix_local h
      refine ⟨.symbol, y, fun w' => ?_⟩
      rw [if_pos ((takeWhile_eq_nil_local _ x w w').1 hnone), hy w']
    · rename_i hsome
      obtain ⟨y, hy⟩ := dropWhile_local h
      refine ⟨.name, y, fun w' => ?_⟩
      rw [if_neg (fun hnone => hsome ((takeWhile_eq_nil_local _ x w' w).1 hnone)), hy w']

theorem scanAfterDigits_local {prev : Option Token} (hq : isSign q = false)
    (h : w.length < (scanAfterDigits prev (x ++ q :: w)).2.length) :
    ∃ t y, ∀ w', scanAfterDigits prev (x ++ q :: w') = (t, y ++ q :: w') := by
  have hpoint (text : List Char) : scanAfterDigits prev ('.' :: text) =
      scanNumberEnd (prev = some .period) (text.dropWhile Char.isDigit) := rfl
  have hend {c : Char} (hc : c ≠ '.') (text : List Char) :
      scanAfterDigits prev (c :: text) = scanNumberEnd (prev = some .period) (c :: text) := by
    simp [scanAfterDigits, hc]
  cases x with
  | nil =>
    by_cases hperiod : q = '.'
    · subst hperiod
      rw [List.nil_append, hpoint] at h
      have := scanNumberEnd_length (prev = some .period) (w.dropWhile Char.isDigit)
      have := length_dropWhile_le Char.isDigit w
      omega
    · simp only [List.nil_append, hend hperiod] at h ⊢
      exact scanNumberEnd_local (x := []) hq h
  | cons c x =>
    by_cases hperiod : c = '.'
    · subst hperiod
      simp only [List.cons_append, hpoint] at h ⊢
      have hle := scanNumberEnd_length (prev = some .period) ((x ++ q :: w).dropWhile Char.isDigit)
      obtain ⟨y, hy⟩ := dropWhile_local (Nat.lt_of_lt_of_le h hle)
      simp only [hy] at h ⊢
      exact scanNumberEnd_local hq h
    · simp only [List.cons_append, hend hperiod] at h ⊢
      exact scanNumberEnd_local (x := c :: x) hq h

theorem scanDigits_local {prev : Option Token} {c : Char} (hq : isSign q = false)
    (h : w.length < (scanDigits prev c (x ++ q :: w)).2.length) :
    ∃ t y, ∀ w', scanDigits prev c (x ++ q :: w') = (t, y ++ q :: w') := by
  have hhex (text : List Char) :
      scanDigits prev '0' ('x' :: text) = (.symbol, text.dropWhile isHexDigit) := rfl
  have hdigits {c d : Char} (hc : ¬ (c = '0' ∧ d = 'x')) (text : List Char) :
      scanDigits prev c (d :: text) =
        scanAfterDigits prev ((d :: text).dropWhile Char.isDigit) := by
    unfold scanDigits
    split
    · rename_i heq
      cases heq
      exact absurd ⟨rfl, rfl⟩ hc
    · rfl
  have hrun {x : List Char} (h : w.length <
      (scanAfterDigits prev ((x ++ q :: w).dropWhile Char.isDigit)).2.length) :
      ∃ t y, ∀ w', scanAfterDigits prev ((x ++ q :: w').dropWhile Char.isDigit) =
        (t, y ++ q :: w') := by
    have hle := scanAfterDigits_length prev ((x ++ q :: w).dropWhile Char.isDigit)
    obtain ⟨y, hy⟩ := dropWhile_local (Nat.lt_of_lt_of_le h hle)
    simp only [hy] at h ⊢
    exact scanAfterDigits_local hq h
  cases x with
  | nil =>
    by_cases hc : c = '0' ∧ q = 'x'
    · obtain ⟨rfl, rfl⟩ := hc
      rw [List.nil_append, hhex] at h
      exact absurd h (Nat.not_lt.2 (length_dropWhile_le isHexDigit w))
    · simp only [List.nil_append, hdigits hc] at h ⊢
      exact hrun (x := []) h
  | cons d x =>
    by_cases hc : c = '0' ∧ d = 'x'
    · obtain ⟨rfl, rfl⟩ := hc
      simp only [List.cons_append, hhex] at h ⊢
      obtain ⟨y, hy⟩ := dropWhile_local h
      exact ⟨.symbol, y, fun w' => by rw [hy w']⟩
    · simp only [List.cons_append, hdigits hc] at h ⊢
      exact hrun (x := d :: x) h

theorem scanPoint_eq (prev : Option Token) (rest : List Char) :
    scanPoint prev rest =
      if afterWord prev then .ok (.period, rest)
      else if rest.head? = some '_' then .error .strayUnderscore
      else if rest.takeWhile Char.isDigit = [] then .ok (.period, rest)
      else .ok (scanNumberEnd (prev = some .period) (rest.dropWhile Char.isDigit)) := by
  unfold scanPoint
  split
  · simp
  · rename_i hne
    have hhead : rest.head? ≠ some '_' := by
      intro hhead
      obtain ⟨text, rfl⟩ := List.head?_eq_some_iff.1 hhead
      exact hne text rfl
    simp [hhead]

theorem scanPoint_local {prev : Option Token} {t : Token} {rest : List Char}
    (hq : isSign q = false) (h : scanPoint prev (x ++ q :: w) = .ok (t, rest))
    (hr : w.length < rest.length) :
    ∃ y, ∀ w', scanPoint prev (x ++ q :: w') = .ok (t, y ++ q :: w') := by
  simp only [scanPoint_eq] at h ⊢
  split at h
  · rename_i hword
    cases h
    exact ⟨x, fun w' => by rw [if_pos hword]⟩
  rename_i hword
  split at h
  · cases h
  rename_i hhead
  have hhead' (w' : List Char) : (x ++ q :: w').head? ≠ some '_' := by
    cases x <;> simpa using hhead
  split at h
  · rename_i hnone
    cases h
    refine ⟨x, fun w' => ?_⟩
    rw [if_neg hword, if_neg (hhead' w'), if_pos ((takeWhile_eq_nil_local _ x w w').1 hnone)]
  · rename_i hsome
    have hend := Except.ok.inj h
    have hle := scanNumberEnd_length (prev = some .period) ((x ++ q :: w).dropWhile Char.isDigit)
    rw [hend] at hle
    obtain ⟨y, hy⟩ := dropWhile_local (Nat.lt_of_lt_of_le hr hle)
    rw [hy] at hend
    obtain ⟨t', z, hz⟩ := scanNumberEnd_local hq (by rw [hend]; exact hr)
    refine ⟨z, fun w' => ?_⟩
    rw [if_neg hword, if_neg (hhead' w'),
      if_neg (fun hnone => hsome ((takeWhile_eq_nil_local _ x w' w).1 hnone)), hy w', hz w']
    cases hend.symm.trans (hz w)
    rfl

/-! ## Words and operators -/

/-- A variable of the server: the text follows two at signs. -/
def scanServerVariable : List Char → Token × List Char
  | [] => (.symbol, [])
  | c :: rest => if c = ' ' then (.symbol, c :: rest) else (.name, rest.dropWhile isWordChar)

theorem scanVariable_cons (c : Char) (rest : List Char) :
    scanVariable (c :: rest) =
      if c = '>' ∨ c = '?' then (.symbol, rest)
      else if c = '@' then scanServerVariable rest
      else if c = ' ' ∨ c = '\'' ∨ c = '"' ∨ c = '`' then (.symbol, c :: rest)
      else (.name, rest.dropWhile isWordChar) := by
  unfold scanVariable scanServerVariable
  split <;> grind

theorem scanServerVariable_length (rest : List Char) :
    (scanServerVariable rest).2.length ≤ rest.length := by
  have h1 := length_dropWhile_le isWordChar
  unfold scanServerVariable
  grind

theorem scanServerVariable_local (h : w.length < (scanServerVariable (x ++ q :: w)).2.length) :
    ∃ t y, ∀ w', scanServerVariable (x ++ q :: w') = (t, y ++ q :: w') := by
  have hw := length_dropWhile_le isWordChar w
  cases x with
  | nil =>
    by_cases hq : q = ' '
    · exact ⟨.symbol, [], fun w' => by simp [scanServerVariable, hq]⟩
    · simp only [List.nil_append, scanServerVariable, hq, if_false] at h
      omega
  | cons a x =>
    simp only [List.cons_append, scanServerVariable] at h ⊢
    split at h
    · rename_i ha
      exact ⟨.symbol, a :: x, fun w' => by simp [ha]⟩
    · rename_i ha
      obtain ⟨y, hy⟩ := dropWhile_local h
      exact ⟨.name, y, fun w' => by rw [if_neg ha, hy w']⟩

theorem scanVariable_local (h : w.length < (scanVariable (x ++ q :: w)).2.length) :
    ∃ t y, ∀ w', scanVariable (x ++ q :: w') = (t, y ++ q :: w') := by
  cases x with
  | nil =>
    simp only [List.nil_append, scanVariable_cons] at h ⊢
    split at h
    · exact absurd h (Nat.lt_irrefl _)
    rename_i hq
    split at h
    · exact absurd h (Nat.not_lt.2 (scanServerVariable_length w))
    rename_i hat
    split at h
    · rename_i hquote
      exact ⟨.symbol, [], fun w' => by rw [if_neg hq, if_neg hat, if_pos hquote]; rfl⟩
    · exact absurd h (Nat.not_lt.2 (length_dropWhile_le isWordChar w))
  | cons a x =>
    simp only [List.cons_append, scanVariable_cons] at h ⊢
    split at h
    · rename_i ha
      exact ⟨.symbol, x, fun w' => by rw [if_pos ha]⟩
    rename_i ha
    split at h
    · rename_i hat
      obtain ⟨t, y, hy⟩ := scanServerVariable_local h
      exact ⟨t, y, fun w' => by rw [if_neg ha, if_pos hat, hy w']⟩
    rename_i hat
    split at h
    · rename_i hquote
      exact ⟨.symbol, a :: x, fun w' => by rw [if_neg ha, if_neg hat, if_pos hquote]; rfl⟩
    · rename_i hquote
      obtain ⟨y, hy⟩ := dropWhile_local h
      exact ⟨.name, y, fun w' => by rw [if_neg ha, if_neg hat, if_neg hquote, hy w']⟩

theorem afterOperator_cons (c d : Char) (rest : List Char) :
    afterOperator c (d :: rest) =
      if c = '|' ∧ d = '|' then dropIf (· = '/') rest
      else if c = '|' ∧ d = '/' ∨ c = '^' ∧ d = '@' ∨ c = '<' ∧ (d = '@' ∨ d = '<') then rest
      else d :: rest := by
  by_cases hor : c = '|' ∧ d = '|'
  · obtain ⟨rfl, rfl⟩ := hor
    cases rest with
    | nil => rfl
    | cons e rest =>
      by_cases he : e = '/'
      · simp [afterOperator, dropIf, he]
      · simp [afterOperator, dropIf, he]
  · rw [if_neg hor]
    unfold afterOperator
    split <;> simp_all

theorem afterOperator_local {c : Char} (h : w.length < (afterOperator c (x ++ q :: w)).length) :
    ∃ y, ∀ w', afterOperator c (x ++ q :: w') = y ++ q :: w' := by
  cases x with
  | nil =>
    simp only [List.nil_append, afterOperator_cons] at h ⊢
    split at h
    · exact absurd h (Nat.not_lt.2 (dropIf_length_le _ w))
    rename_i hor
    split at h
    · exact absurd h (Nat.lt_irrefl _)
    rename_i hpair
    exact ⟨[], fun w' => by rw [if_neg hor, if_neg hpair]; rfl⟩
  | cons a x =>
    simp only [List.cons_append, afterOperator_cons] at h ⊢
    split at h
    · rename_i hor
      obtain ⟨y, hy⟩ := dropIf_local h
      exact ⟨y, fun w' => by rw [if_pos hor, hy w']⟩
    rename_i hor
    split at h
    · rename_i hpair
      exact ⟨x, fun w' => by rw [if_neg hor, if_pos hpair]⟩
    · rename_i hpair
      exact ⟨a :: x, fun w' => by rw [if_neg hor, if_neg hpair]; rfl⟩

theorem scanWord_local {c : Char} (h : w.length < (scanWord c (x ++ q :: w)).2.length) :
    ∃ t y, ∀ w', scanWord c (x ++ q :: w') = (t, y ++ q :: w') := by
  obtain ⟨z, y, hzy⟩ := span_local h
  simp only [scanWord, hzy]
  exact ⟨_, y, fun w' => rfl⟩

/-! ## One token -/

def Scanned.rest : Scanned → List Char
  | .token _ rest | .code _ rest => rest

/-- The same token or code with another text after it. -/
def Scanned.leaving (s : Scanned) (rest : List Char) : Scanned :=
  match s with
  | .token t _ => .token t rest
  | .code inside _ => .code inside rest

theorem scanString_local {quote : Char} {escapes : Bool} {s : Scanned}
    (h : scanString quote escapes (x ++ q :: w) = .ok s) (hs : w.length < s.rest.length) :
    ∃ y, ∀ w', scanString quote escapes (x ++ q :: w') = .ok (s.leaving (y ++ q :: w')) := by
  unfold scanString at h ⊢
  split at h
  · rename_i rest hrest
    cases h
    obtain ⟨y, hy⟩ := afterQuote?_local hrest hs
    exact ⟨y, fun w' => by rw [hy w']; rfl⟩
  · cases h

theorem scanQuotedName_local {s : Scanned} (h : scanQuotedName (x ++ q :: w) = .ok s)
    (hs : w.length < s.rest.length) :
    ∃ y, ∀ w', scanQuotedName (x ++ q :: w') = .ok (s.leaving (y ++ q :: w')) := by
  unfold scanQuotedName at h ⊢
  split at h
  · rename_i rest hrest
    cases h
    obtain ⟨y, hy⟩ := afterQuote?_local hrest hs
    exact ⟨y, fun w' => by rw [hy w']; rfl⟩
  · cases h

theorem scanComment_local {s : Scanned} (h : scanComment (x ++ q :: w) = .ok s)
    (hs : w.length < s.rest.length) :
    ∃ y, ∀ w', scanComment (x ++ q :: w') = .ok (s.leaving (y ++ q :: w')) := by
  unfold scanComment at h ⊢
  split at h
  · rename_i content rest hsplit
    cases h
    obtain ⟨y, hy⟩ := splitComment?_local hsplit hs
    exact ⟨y, fun w' => by rw [hy w']; rfl⟩
  · rename_i content rest hmark hsplit
    cases h
    obtain ⟨y, hy⟩ := splitComment?_local hsplit hs
    refine ⟨y, fun w' => ?_⟩
    rw [hy w']
    split
    · rename_i heq
      cases heq
      exact (hmark _ rfl).elim
    · rename_i heq
      cases heq
      rfl
    · rename_i heq
      cases heq
  · cases h

theorem scanHyphen_local (hq : q ≠ '-') (hs : w.length < (scanHyphen (x ++ q :: w)).rest.length) :
    ∃ y, ∀ w', scanHyphen (x ++ q :: w') = (scanHyphen (x ++ q :: w)).leaving (y ++ q :: w') := by
  have hother {c : Char} (hc : c ≠ '-') (text : List Char) :
      scanHyphen (c :: text) = .token .symbol (c :: text) := by
    simp [scanHyphen, hc]
  have hpair (c : Char) (text : List Char) : scanHyphen ('-' :: c :: text) =
      if isBlank c then .token .blank (afterLine (c :: text))
      else .token .symbol ('-' :: c :: text) := rfl
  have hcomment {c : Char} {x : List Char}
      (hs : w.length < (if isBlank c then Scanned.token .blank (afterLine (x ++ q :: w))
        else .token .symbol ('-' :: (x ++ q :: w))).rest.length) :
      ∃ y, ∀ w', (if isBlank c then Scanned.token .blank (afterLine (x ++ q :: w'))
          else .token .symbol ('-' :: (x ++ q :: w'))) =
        (if isBlank c then Scanned.token .blank (afterLine (x ++ q :: w))
          else .token .symbol ('-' :: (x ++ q :: w))).leaving (y ++ q :: w') := by
    by_cases hc : isBlank c = true
    · simp only [hc, if_true] at hs ⊢
      obtain ⟨y, hy⟩ := afterLine_local hs
      exact ⟨y, fun w' => by rw [hy w']; rfl⟩
    · simp only [hc] at hs ⊢
      exact ⟨'-' :: x, fun w' => rfl⟩
  cases x with
  | nil =>
    simp only [List.nil_append, hother hq]
    exact ⟨[], fun w' => rfl⟩
  | cons c x =>
    by_cases hc : c = '-'
    · subst hc
      cases x with
      | nil =>
        simp only [List.cons_append, List.nil_append, hpair] at hs ⊢
        exact hcomment (x := []) hs
      | cons d x =>
        simp only [List.cons_append, hpair] at hs ⊢
        exact hcomment (x := d :: x) hs
    · simp only [List.cons_append, hother hc]
      exact ⟨c :: x, fun w' => rfl⟩

theorem Scanned.Within.rest {s : Scanned} {n : Nat} (h : s.Within n) : s.rest.length ≤ n := by
  cases s with
  | token t rest => exact h
  | code inside rest => exact h.2

theorem scanSlash_local {s : Scanned}
    (h : (match x ++ q :: w with
      | '*' :: text => scanComment text
      | _ => .ok (.token .symbol (x ++ q :: w))) = .ok s) (hs : w.length < s.rest.length) :
    ∃ y, ∀ w', (match x ++ q :: w' with
      | '*' :: text => scanComment text
      | _ => .ok (.token .symbol (x ++ q :: w'))) = .ok (s.leaving (y ++ q :: w')) := by
  cases x with
  | nil =>
    by_cases hq : q = '*'
    · subst hq
      exact absurd hs (Nat.not_lt.2 (scanComment_within h).rest)
    · have hplain : s = .token .symbol (q :: w) := by
        simpa [hq] using h.symm
      subst hplain
      exact ⟨[], fun w' => by simp [hq, Scanned.leaving]⟩
  | cons a x =>
    by_cases ha : a = '*'
    · subst ha
      obtain ⟨y, hy⟩ := scanComment_local h hs
      exact ⟨y, hy⟩
    · have hplain : s = .token .symbol (a :: (x ++ q :: w)) := by
        simpa [ha] using h.symm
      subst hplain
      exact ⟨a :: x, fun w' => by simp [ha, Scanned.leaving]⟩

/-- The quote of a literal with this mark, and whether a backslash counts in it. -/
def literalRules (mark quote : Char) : Option (Char × Bool) :=
  (literalMark mark [quote]).map fun (quote, escapes, _) => (quote, escapes)

theorem literalMark_cons (mark quote : Char) (rest : List Char) :
    literalMark mark (quote :: rest) =
      (literalRules mark quote).map fun (quote, escapes) => (quote, escapes, rest) := by
  unfold literalRules literalMark
  grind

theorem scanMarked_local {c : Char} {s : Scanned}
    (h : (match literalMark c (x ++ q :: w) with
      | some (quote, escapes, text) => scanString quote escapes text
      | none => .ok (.token (scanWord c (x ++ q :: w)).1 (scanWord c (x ++ q :: w)).2)) = .ok s)
    (hs : w.length < s.rest.length) :
    ∃ y, ∀ w', (match literalMark c (x ++ q :: w') with
      | some (quote, escapes, text) => scanString quote escapes text
      | none => .ok (.token (scanWord c (x ++ q :: w')).1 (scanWord c (x ++ q :: w')).2)) =
        .ok (s.leaving (y ++ q :: w')) := by
  have hword {x : List Char} (h : (Except.ok
      (Scanned.token (scanWord c (x ++ q :: w)).1 (scanWord c (x ++ q :: w)).2) :
        Except LexError Scanned) = .ok s) :
      ∃ y, ∀ w', (Except.ok
        (Scanned.token (scanWord c (x ++ q :: w')).1 (scanWord c (x ++ q :: w')).2) :
          Except LexError Scanned) = .ok (s.leaving (y ++ q :: w')) := by
    cases h
    obtain ⟨t, y, hy⟩ := scanWord_local hs
    exact ⟨y, fun w' => by rw [hy w, hy w']; rfl⟩
  cases x with
  | nil =>
    simp only [List.nil_append, literalMark_cons c q] at h ⊢
    cases hmark : literalRules c q with
    | some rules =>
      rw [hmark] at h
      exact absurd hs (Nat.not_lt.2 (scanString_within h).rest)
    | none =>
      rw [hmark] at h
      exact hword (x := []) h
  | cons a x =>
    simp only [List.cons_append, literalMark_cons c a] at h ⊢
    cases hmark : literalRules c a with
    | some rules =>
      rw [hmark] at h
      exact scanString_local h hs
    | none =>
      rw [hmark] at h
      exact hword (x := a :: x) h

theorem scan_local {prev : Option Token} {c : Char} {s : Scanned} (hq : isSign q = false)
    (h : scan prev c (x ++ q :: w) = .ok s) (hs : w.length < s.rest.length) :
    ∃ y, ∀ w', scan prev c (x ++ q :: w') = .ok (s.leaving (y ++ q :: w')) := by
  unfold scan at h ⊢
  by_cases hc : isSpace c
  · simp only [if_pos hc] at h ⊢
    cases h
    exact ⟨x, fun w' => rfl⟩
  simp only [if_neg hc] at h ⊢; clear hc
  by_cases hc : c = ';'
  · simp only [if_pos hc] at h ⊢
    cases h
    exact ⟨x, fun w' => rfl⟩
  simp only [if_neg hc] at h ⊢; clear hc
  by_cases hc : c = '\'' ∨ c = '"'
  · simp only [if_pos hc] at h ⊢
    exact scanString_local h hs
  simp only [if_neg hc] at h ⊢; clear hc
  by_cases hc : c = '`'
  · simp only [if_pos hc] at h ⊢
    exact scanQuotedName_local h hs
  simp only [if_neg hc] at h ⊢; clear hc
  by_cases hc : c = '#'
  · simp only [if_pos hc] at h ⊢
    cases h
    obtain ⟨y, hy⟩ := afterLine_local hs
    exact ⟨y, fun w' => by rw [hy w']; rfl⟩
  simp only [if_neg hc] at h ⊢; clear hc
  by_cases hc : c = '-'
  · simp only [if_pos hc] at h ⊢
    cases h
    have hne : q ≠ '-' := by
      rintro rfl
      cases hq
    obtain ⟨y, hy⟩ := scanHyphen_local hne hs
    exact ⟨y, fun w' => by rw [hy w']⟩
  simp only [if_neg hc] at h ⊢; clear hc
  by_cases hc : c = '/'
  · simp only [if_pos hc] at h ⊢
    exact scanSlash_local h hs
  simp only [if_neg hc] at h ⊢; clear hc
  by_cases hc : c = '.'
  · simp only [if_pos hc] at h ⊢
    split at h
    · rename_i t rest hpoint
      cases h
      obtain ⟨y, hy⟩ := scanPoint_local hq hpoint hs
      exact ⟨y, fun w' => by rw [hy w']; rfl⟩
    · cases h
  simp only [if_neg hc] at h ⊢; clear hc
  by_cases hc : c.isDigit
  · simp only [if_pos hc] at h ⊢
    cases h
    obtain ⟨t, y, hy⟩ := scanDigits_local hq hs
    exact ⟨y, fun w' => by rw [hy w, hy w']; rfl⟩
  simp only [if_neg hc] at h ⊢; clear hc
  by_cases hc : c = '@'
  · simp only [if_pos hc] at h ⊢
    cases h
    obtain ⟨t, y, hy⟩ := scanVariable_local hs
    exact ⟨y, fun w' => by rw [hy w, hy w']; rfl⟩
  simp only [if_neg hc] at h ⊢; clear hc
  by_cases hc : c = '?'
  · simp only [if_pos hc] at h ⊢
    cases h
    obtain ⟨y, hy⟩ := dropWhile_local hs
    exact ⟨y, fun w' => by rw [hy w']; rfl⟩
  simp only [if_neg hc] at h ⊢; clear hc
  by_cases hc : isWordStart c
  · simp only [if_pos hc] at h ⊢
    exact scanMarked_local h hs
  simp only [if_neg hc] at h ⊢
  cases h
  obtain ⟨y, hy⟩ := afterOperator_local hs
  exact ⟨y, fun w' => by rw [hy w']; rfl⟩

end SchemaMigration
