import SchemaMigration.Text.Numeral

/-!
# Parts of a text

A text is cut at separators, searched for another text, or read as a table.
-/

namespace SchemaMigration

/-! ## Pieces between separators -/

/-- The pieces of a list between its separators, one more than there are separators. -/
def pieces {α : Type} (isSeparator : α → Bool) : List α → List (List α)
  | [] => [[]]
  | a :: rest =>
    if isSeparator a then [] :: pieces isSeparator rest
    else match pieces isSeparator rest with
      | [] => [[a]]
      | piece :: others => (a :: piece) :: others

theorem pieces_ne_nil {α : Type} (p : α → Bool) (l : List α) : pieces p l ≠ [] := by
  cases l with
  | nil => simp [pieces]
  | cons a rest =>
    unfold pieces
    split
    · simp
    · split <;> simp

theorem pieces_of_not_separator {α : Type} {p : α → Bool} {l : List α} (h : ∀ a ∈ l, p a = false) :
    pieces p l = [l] := by
  induction l with
  | nil => rfl
  | cons a rest ih =>
    have ha : p a = false := h a (by simp)
    simp [pieces, ha, ih fun b hb => h b (by simp [hb])]

theorem pieces_append_separator {α : Type} {p : α → Bool} {l : List α} {a : α} (rest : List α)
    (h : ∀ b ∈ l, p b = false) (ha : p a = true) :
    pieces p (l ++ a :: rest) = l :: pieces p rest := by
  induction l with
  | nil => simp [pieces, ha]
  | cons b l ih =>
    have hb : p b = false := h b (by simp)
    simp [pieces, hb, ih fun c hc => h c (by simp [hc])]

theorem pieces_append_cons {α : Type} {p : α → Bool} {a : α} (l rest : List α) (ha : p a = true) :
    pieces p (l ++ a :: rest) = pieces p l ++ pieces p rest := by
  induction l with
  | nil => simp [pieces, ha]
  | cons b l ih =>
    by_cases hb : p b = true
    · simp [pieces, hb, ih]
    · obtain ⟨piece, others, hpieces⟩ := List.exists_cons_of_ne_nil (pieces_ne_nil p l)
      simp [pieces, hb, ih, hpieces]

/-! ## Texts in a text -/

/-- Whether a list has another as a part in one piece. -/
def occursIn {α : Type} [BEq α] (needle : List α) : List α → Bool
  | [] => needle.isEmpty
  | a :: rest => needle.isPrefixOf (a :: rest) || occursIn needle rest

def startsWithText (start s : String) : Bool := start.toList.isPrefixOf s.toList

theorem startsWithText_append (start rest : String) :
    startsWithText start (start ++ rest) = true := by
  simp [startsWithText]

def containsText (part s : String) : Bool := occursIn part.toList s.toList

/-!
## Tables of characters

A long table is written as one text: rows stand apart, and each has fields with colons between them
and hexadecimal numbers with commas between them.
-/

/-- The fields of a row, each a list of numbers. -/
abbrev TableRow := List (List Nat)

def readField (field : List Char) : List Nat := (pieces (· = ',') field).filterMap readHex?

def readRow (row : List Char) : TableRow := (pieces (· = ':') row).map readField

def readTable (text : String) : List TableRow :=
  ((pieces Char.isWhitespace text.toList).filter (· ≠ [])).map readRow

/-- A field with one number is a run of one. -/
def runOf? : List Nat → Option (Nat × Nat)
  | [n] => some (n, n)
  | [first, last] => some (first, last)
  | _ => none

/-- A table whose rows have one field each, a run. -/
def readRanges (text : String) : List (Nat × Nat) :=
  (readTable text).filterMap fun row =>
    match row with
    | [run] => runOf? run
    | _ => none

/-- A table of runs with a number for each. -/
def readRangeValues (text : String) : List ((Nat × Nat) × Nat) :=
  (readTable text).filterMap fun row =>
    match row with
    | [run, [value]] => (runOf? run).map (·, value)
    | _ => none

/-- The number that a table has for a character, or zero. -/
def valueIn (table : List ((Nat × Nat) × Nat)) (c : Char) : Nat :=
  match table.find? fun ((first, last), _) => first ≤ c.toNat && c.toNat ≤ last with
  | some (_, value) => value
  | none => 0

end SchemaMigration
