import SchemaMigration.Script.Token
import SchemaMigration.Text.CharClass

/-!
# Reading a script as tokens

One token is taken off the front of the text at a time. What a point or a number is depends on the
token before it. An executable comment is code: its tokens stand in its place.
-/

namespace SchemaMigration

/-! ## Characters -/

def isSpace (c : Char) : Bool :=
  c = ' ' || c = '\t' || c = '\n' || c = '\r' || c = '\x0b' || c = '\x0c'

/-- Whether a word may start so. Everything beyond ASCII may. -/
def isWordStart (c : Char) : Bool := c.isAlpha || c = '_' || c = '$' || decide (128 ≤ c.toNat)

/-- Whether a word may go on so. -/
def isWordChar (c : Char) : Bool := isWordStart c || c.isDigit || c = '@'

def isHexDigit (c : Char) : Bool :=
  c.isDigit || (decide ('a' ≤ c) && decide (c ≤ 'f')) || (decide ('A' ≤ c) && decide (c ≤ 'F'))

/-! ## Quotes and comments -/

/--
The text after the closing quote. A doubled quote stays inside, and so does the character after a
backslash where those count.
-/
def afterQuote? (quote : Char) (escapes : Bool) : List Char → Option (List Char)
  | [] => none
  | [c] => if c = quote then some [] else none
  | c :: d :: rest =>
    if c = quote then
      if d = quote then afterQuote? quote escapes rest else some (d :: rest)
    else if escapes && c = '\\' then afterQuote? quote escapes rest
    else afterQuote? quote escapes (d :: rest)

/-- What stands before the end of a block comment, and what after it. -/
def splitComment? : List Char → Option (List Char × List Char)
  | [] => none
  | [_] => none
  | c :: d :: rest =>
    if c = '*' ∧ d = '/' then some ([], rest)
    else (splitComment? (d :: rest)).map fun (content, after) => (c :: content, after)

/-- What follows the first line break. -/
def afterLine (text : List Char) : List Char := (text.dropWhile (· ≠ '\n')).drop 1

/-! ## Numbers -/

/-- What follows an exponent, if one comes first. -/
def afterExponent? : List Char → Option (List Char)
  | [] => none
  | e :: rest =>
    if e = 'e' ∨ e = 'E' then
      let digits := match rest with
        | sign :: after => if sign = '+' ∨ sign = '-' then after else rest
        | [] => []
      match digits with
      | d :: _ => if d.isDigit then some (digits.dropWhile Char.isDigit) else none
      | [] => none
    else none

/-- A number may end in `L`. -/
def afterSuffix : List Char → List Char
  | 'L' :: rest => rest
  | text => text

/-- Goes on after the digits and the point of a number. A name may start like a number. -/
def scanNumberEnd (afterPeriod : Bool) (text : List Char) : Token × List Char :=
  match afterExponent? text with
  | some rest => if afterPeriod then (.name, rest) else (.symbol, afterSuffix rest)
  | none =>
    if text.takeWhile isWordChar = [] then (.symbol, afterSuffix text)
    else (.name, text.dropWhile isWordChar)

/-- A number without a point: the digits are gone already. -/
def scanAfterDigits (prev : Option Token) (text : List Char) : Token × List Char :=
  match text with
  | '.' :: rest => scanNumberEnd (prev = some .period) (rest.dropWhile Char.isDigit)
  | _ => scanNumberEnd (prev = some .period) text

/-- A number from its first digit on. -/
def scanDigits (prev : Option Token) (c : Char) (rest : List Char) : Token × List Char :=
  match c, rest with
  | '0', 'x' :: digits => (.symbol, digits.dropWhile isHexDigit)
  | _, _ => scanAfterDigits prev (rest.dropWhile Char.isDigit)

/-- Whether the token before is a word, so that a point after it leads to a part of a name. -/
def afterWord (prev : Option Token) : Bool := prev.any Token.isWord

/-- A point: part of a name after a word, the start of a number before digits. -/
def scanPoint (prev : Option Token) (rest : List Char) : Except LexProblem (Token × List Char) :=
  match rest with
  | '_' :: _ => if afterWord prev then .ok (.period, rest) else .error .strayUnderscore
  | _ =>
    if afterWord prev then .ok (.period, rest)
    else if rest.takeWhile Char.isDigit = [] then .ok (.period, rest)
    else .ok (scanNumberEnd (prev = some .period) (rest.dropWhile Char.isDigit))

/-! ## Words -/

/-- A word, which is a keyword or a name. -/
def scanWord (c : Char) (rest : List Char) : Token × List Char :=
  let word := c :: rest.takeWhile isWordChar
  let token := match Keyword.ofWord? word with
    | some k => .keyword k
    | none => .name
  (token, rest.dropWhile isWordChar)

/-- The text follows an at sign. Whatever comes next may be part of a variable's name. -/
def scanVariable : List Char → Token × List Char
  | [] => (.symbol, [])
  | '>' :: rest => (.symbol, rest)
  | '?' :: rest => (.symbol, rest)
  | '@' :: [] => (.symbol, [])
  | '@' :: ' ' :: rest => (.symbol, ' ' :: rest)
  | '@' :: _ :: rest => (.name, rest.dropWhile isWordChar)
  | c :: rest =>
    if c = ' ' ∨ c = '\'' ∨ c = '"' ∨ c = '`' then (.symbol, c :: rest)
    else (.name, rest.dropWhile isWordChar)

/-! ## One token -/

/-- What is taken off the front of the text. -/
inductive Scanned where
  | token (t : Token) (rest : List Char)
  /-- An executable comment: the code in it, and the text after it. -/
  | code (inside rest : List Char)

def scanString (quote : Char) (escapes : Bool) (text : List Char) : Except LexError Scanned :=
  match afterQuote? quote escapes text with
  | some rest => .ok (.token .symbol rest)
  -- The place of the problem is the opening quote.
  | none => .error ⟨.unterminatedString, text.length + 1, none⟩

def scanQuotedName (text : List Char) : Except LexError Scanned :=
  match afterQuote? '`' false text with
  | some rest => .ok (.token .name rest)
  | none => .error ⟨.unterminatedName, text.length + 1, none⟩

/-- The text follows the start of a block comment. A mark and a version number open code. -/
def scanComment (text : List Char) : Except LexError Scanned :=
  match splitComment? text with
  | some ('!' :: content, rest) => .ok (.code (content.dropWhile Char.isDigit) rest)
  | some (_, rest) => .ok (.token .blank rest)
  | none => .error ⟨.unterminatedComment, 0, none⟩

/-- Two hyphens open a comment only before white space. -/
def scanHyphen : List Char → Scanned
  | '-' :: c :: rest =>
    if isBlank c then .token .blank (afterLine (c :: rest)) else .token .symbol ('-' :: c :: rest)
  | rest => .token .symbol rest

/-- An operator, with the characters that it takes along and that would mean something alone. -/
def afterOperator (c : Char) (rest : List Char) : List Char :=
  match c, rest with
  | '|', '/' :: rest => rest
  | '|', '|' :: '/' :: rest => rest
  | '|', '|' :: rest => rest
  | '^', '@' :: rest => rest
  | '<', '@' :: rest => rest
  | '<', '<' :: rest => rest
  | _, rest => rest

/-- A letter that marks the text literal after it, with the rules of such literals. -/
def literalMark (c : Char) (rest : List Char) : Option (Char × Bool × List Char) :=
  match rest with
  | '\'' :: text =>
    if c = 'b' ∨ c = 'B' then some ('\'', false, text)
    else if c = 'n' ∨ c = 'N' ∨ c = 'x' ∨ c = 'X' then some ('\'', true, text)
    else none
  | '"' :: text => if c = 'b' ∨ c = 'B' then some ('"', false, text) else none
  | _ => none

/-- One token by the first character of it, `c`. -/
def scan (prev : Option Token) (c : Char) (rest : List Char) : Except LexError Scanned :=
  if isSpace c then .ok (.token .blank rest)
  else if c = ';' then .ok (.token .semicolon rest)
  else if c = '\'' ∨ c = '"' then scanString c true rest
  else if c = '`' then scanQuotedName rest
  else if c = '#' then .ok (.token .blank (afterLine rest))
  else if c = '-' then .ok (scanHyphen rest)
  else if c = '/' then
    match rest with
    | '*' :: text => scanComment text
    | _ => .ok (.token .symbol rest)
  else if c = '.' then
    match scanPoint prev rest with
    | .ok (t, rest) => .ok (.token t rest)
    | .error problem => .error ⟨problem, rest.length + 1, none⟩
  else if c.isDigit then
    let (t, rest) := scanDigits prev c rest
    .ok (.token t rest)
  else if c = '@' then
    let (t, rest) := scanVariable rest
    .ok (.token t rest)
  else if c = '?' then .ok (.token .symbol (rest.dropWhile isNumeric))
  else if isWordStart c then
    match literalMark c rest with
    | some (quote, escapes, text) => scanString quote escapes text
    | none =>
      let (t, rest) := scanWord c rest
      .ok (.token t rest)
  else .ok (.token .symbol (afterOperator c rest))

/-! ## Tokens are not empty -/

theorem length_dropWhile_le (p : Char → Bool) (l : List Char) :
    (l.dropWhile p).length ≤ l.length := (List.dropWhile_sublist p).length_le

theorem afterQuote?_length {quote : Char} {escapes : Bool} {text rest : List Char}
    (h : afterQuote? quote escapes text = some rest) : rest.length ≤ text.length := by
  fun_induction afterQuote? quote escapes text <;> grind

theorem splitComment?_length {text content rest : List Char}
    (h : splitComment? text = some (content, rest)) :
    content.length ≤ text.length ∧ rest.length ≤ text.length := by
  fun_induction splitComment? text generalizing content rest with
  | case1 => simp at h
  | case2 => simp at h
  | case3 c d after =>
    cases h
    simp only [List.length_cons, List.length_nil]
    omega
  | case4 c d after _ ih =>
    obtain ⟨⟨content', rest'⟩, hsplit, heq⟩ := Option.map_eq_some_iff.1 h
    cases heq
    have := ih hsplit
    simp only [List.length_cons] at *
    omega

theorem afterLine_length (text : List Char) : (afterLine text).length ≤ text.length := by
  have := length_dropWhile_le (· ≠ '\n') text
  simp only [afterLine, List.length_drop]
  omega

theorem afterExponent?_length {text rest : List Char} (h : afterExponent? text = some rest) :
    rest.length ≤ text.length := by
  have := length_dropWhile_le Char.isDigit
  unfold afterExponent? at h
  grind

theorem afterSuffix_length (text : List Char) : (afterSuffix text).length ≤ text.length := by
  unfold afterSuffix
  split <;> simp

theorem scanNumberEnd_length (afterPeriod : Bool) (text : List Char) :
    (scanNumberEnd afterPeriod text).2.length ≤ text.length := by
  have h1 := length_dropWhile_le isWordChar text
  have h2 := afterSuffix_length
  have h3 := @afterExponent?_length text
  unfold scanNumberEnd
  grind

theorem scanAfterDigits_length (prev : Option Token) (text : List Char) :
    (scanAfterDigits prev text).2.length ≤ text.length := by
  unfold scanAfterDigits
  split
  · rename_i rest
    have h1 := length_dropWhile_le Char.isDigit rest
    have h2 := scanNumberEnd_length (prev = some .period) (rest.dropWhile Char.isDigit)
    simp only [List.length_cons]
    omega
  · exact scanNumberEnd_length _ text

theorem scanDigits_length (prev : Option Token) (c : Char) (rest : List Char) :
    (scanDigits prev c rest).2.length ≤ rest.length := by
  unfold scanDigits
  split
  · rename_i digits
    have := length_dropWhile_le isHexDigit digits
    simp only [List.length_cons]
    omega
  · have h1 := length_dropWhile_le Char.isDigit rest
    have h2 := scanAfterDigits_length prev (rest.dropWhile Char.isDigit)
    omega

theorem scanPoint_length {prev : Option Token} {rest after : List Char} {t : Token}
    (h : scanPoint prev rest = .ok (t, after)) : after.length ≤ rest.length := by
  have h1 := length_dropWhile_le Char.isDigit rest
  have h2 := scanNumberEnd_length
  unfold scanPoint at h
  grind

theorem scanVariable_length (rest : List Char) : (scanVariable rest).2.length ≤ rest.length := by
  have h1 := length_dropWhile_le isWordChar
  unfold scanVariable
  grind

theorem afterOperator_length (c : Char) (rest : List Char) :
    (afterOperator c rest).length ≤ rest.length := by
  unfold afterOperator
  split <;> simp
  omega

theorem literalMark_length {c quote : Char} {escapes : Bool} {rest text : List Char}
    (h : literalMark c rest = some (quote, escapes, text)) : text.length ≤ rest.length := by
  unfold literalMark at h
  grind

/-- What is left to read is not longer than this. -/
def Scanned.Within (n : Nat) : Scanned → Prop
  | .token _ rest => rest.length ≤ n
  | .code inside rest => inside.length ≤ n ∧ rest.length ≤ n

theorem scanString_within {quote : Char} {escapes : Bool} {text : List Char} {s : Scanned}
    (h : scanString quote escapes text = .ok s) : s.Within text.length := by
  unfold scanString at h
  split at h
  · rename_i rest hrest
    cases h
    exact afterQuote?_length hrest
  · cases h

theorem scanQuotedName_within {text : List Char} {s : Scanned} (h : scanQuotedName text = .ok s) :
    s.Within text.length := by
  unfold scanQuotedName at h
  split at h
  · rename_i rest hrest
    cases h
    exact afterQuote?_length hrest
  · cases h

theorem scanComment_within {text : List Char} {s : Scanned} (h : scanComment text = .ok s) :
    s.Within text.length := by
  unfold scanComment at h
  split at h
  · rename_i content rest hsplit
    cases h
    have := splitComment?_length hsplit
    have := length_dropWhile_le Char.isDigit content
    simp only [List.length_cons] at *
    exact ⟨by omega, by omega⟩
  · rename_i content rest _ hsplit
    cases h
    exact (splitComment?_length hsplit).2
  · cases h

theorem scanHyphen_within (rest : List Char) : (scanHyphen rest).Within rest.length := by
  unfold scanHyphen
  split
  · rename_i c after
    split
    · have := afterLine_length (c :: after)
      simp only [Scanned.Within, List.length_cons] at *
      omega
    · simp [Scanned.Within]
  · simp [Scanned.Within]

/-- What is left after a token, and the code in a comment, are shorter than the text was. -/
theorem scan_within {prev : Option Token} {c : Char} {rest : List Char} {s : Scanned}
    (h : scan prev c rest = .ok s) : s.Within rest.length := by
  unfold scan at h
  by_cases hc : isSpace c
  · rw [if_pos hc] at h; cases h; exact Nat.le_refl _
  rw [if_neg hc] at h; clear hc
  by_cases hc : c = ';'
  · rw [if_pos hc] at h; cases h; exact Nat.le_refl _
  rw [if_neg hc] at h; clear hc
  by_cases hc : c = '\'' ∨ c = '"'
  · rw [if_pos hc] at h; exact scanString_within h
  rw [if_neg hc] at h; clear hc
  by_cases hc : c = '`'
  · rw [if_pos hc] at h; exact scanQuotedName_within h
  rw [if_neg hc] at h; clear hc
  by_cases hc : c = '#'
  · rw [if_pos hc] at h; cases h; exact afterLine_length rest
  rw [if_neg hc] at h; clear hc
  by_cases hc : c = '-'
  · rw [if_pos hc] at h; cases h; exact scanHyphen_within rest
  rw [if_neg hc] at h; clear hc
  by_cases hc : c = '/'
  · rw [if_pos hc] at h
    split at h
    · rename_i text
      have := scanComment_within h
      cases s <;> simp only [Scanned.Within, List.length_cons] at * <;> omega
    · cases h; exact Nat.le_refl _
  rw [if_neg hc] at h; clear hc
  by_cases hc : c = '.'
  · rw [if_pos hc] at h
    split at h
    · rename_i t after hpoint
      cases h
      exact scanPoint_length hpoint
    · cases h
  rw [if_neg hc] at h; clear hc
  by_cases hc : c.isDigit
  · rw [if_pos hc] at h; cases h; exact scanDigits_length prev c rest
  rw [if_neg hc] at h; clear hc
  by_cases hc : c = '@'
  · rw [if_pos hc] at h; cases h; exact scanVariable_length rest
  rw [if_neg hc] at h; clear hc
  by_cases hc : c = '?'
  · rw [if_pos hc] at h; cases h; exact length_dropWhile_le isNumeric rest
  rw [if_neg hc] at h; clear hc
  by_cases hc : isWordStart c
  · rw [if_pos hc] at h
    split at h
    · rename_i quote escapes text hmark
      have := scanString_within h
      have := literalMark_length hmark
      cases s <;> simp only [Scanned.Within] at * <;> omega
    · cases h; exact length_dropWhile_le isWordChar rest
  rw [if_neg hc] at h
  cases h
  exact afterOperator_length c rest

/-! ## All tokens -/

/-- The tokens of a text. The code of an executable comment is read in its place. -/
def lex (prev : Option Token) (text : List Char) : Except LexError (List Token) :=
  match text with
  | [] => .ok []
  | c :: rest =>
    match h : scan prev c rest with
    | .error e => .error e
    | .ok (.token t after) => do
      have := scan_within h
      let others ← lex (some t) after
      return t :: others
    | .ok (.code inside after) =>
      have := scan_within h
      match lex prev inside with
      | .error e => .error { e with comment := some (rest.length + 1, inside) }
      | .ok tokens => do
        let others ← lex (tokens.getLast? <|> prev) after
        return tokens ++ others
termination_by text.length
decreasing_by all_goals simp only [Scanned.Within, List.length_cons] at *; omega

def tokens (sql : String) : Except LexError (List Token) := lex none sql.toList

end SchemaMigration
