/-!
# Places in a YAML text

Characters by what they mean for layout, and where in the text a reader stands. Five characters
break lines; a carriage return and a line feed together break one.
-/

namespace SchemaMigration.Yaml

/-! ## Characters -/

def isBlank (c : Char) : Bool := c = ' ' || c = '\t'

def isBreak (c : Char) : Bool :=
  c = '\n' || c = '\r' || c = '\u0085' || c = '\u2028' || c = '\u2029'

/-- A line break in a value. Only the two separators stay what they are. -/
def breakValue (c : Char) : Char := if c = '\u2028' || c = '\u2029' then c else '\n'

def isLayout (c : Char) : Bool := isBlank c || isBreak c

def isWordChar (c : Char) : Bool := c.isAlphanum || c = '_' || c = '-'

def isFlowIndicator (c : Char) : Bool :=
  c = ',' || c = '[' || c = ']' || c = '\x7b' || c = '\x7d'

/-- No text may hold another character, escapes aside. -/
def isAllowed (c : Char) : Bool :=
  c = '\t' || c = '\n' || c = '\r' || (' ' ≤ c && c ≤ '~') || c = '\u0085' ||
    (0xa0 ≤ c.toNat && c.toNat ≤ 0xfffd) || 0x10000 ≤ c.toNat

/-- Whether a word is over: white space or nothing follows. -/
def endsWord : List Char → Bool
  | [] => true
  | c :: _ => isLayout c

def endsLine : List Char → Bool
  | [] => true
  | c :: _ => isBreak c

/-- Three dashes or three points, and nothing joined to them. -/
def startsWithMark (mark : Char) : List Char → Bool
  | a :: b :: c :: rest => a = mark && b = mark && c = mark && endsWord rest
  | _ => false

def startsWithDocumentMark (text : List Char) : Bool :=
  startsWithMark '-' text || startsWithMark '.' text

/-! ## Positions -/

/-- A place in the text: bytes from its start, lines, and columns, all from zero. -/
structure Position where
  index : Nat := 0
  line : Nat := 0
  column : Nat := 0
deriving DecidableEq

namespace Position

def byteCount (text : List Char) : Nat := text.foldl (fun n c => n + c.utf8Size) 0

def across (p : Position) (passed : List Char) : Position :=
  { p with index := p.index + byteCount passed, column := p.column + passed.length }

def down (p : Position) (passed : List Char) : Position :=
  ⟨p.index + byteCount passed, p.line + 1, 0⟩

end Position

/-- Where a reader stands, with what it has still to read. -/
structure Cursor where
  position : Position := {}
  rest : List Char
deriving DecidableEq

namespace Cursor

def column (c : Cursor) : Nat := c.position.column

/-- Passes so many characters of the line. -/
def skip (c : Cursor) (n : Nat) : Cursor := ⟨c.position.across (c.rest.take n), c.rest.drop n⟩

def skipWhile (c : Cursor) (p : Char → Bool) : Cursor := c.skip (c.rest.takeWhile p).length

/-- Passes a line break, if there is one. Gives what it stands for in a value. -/
def skipBreak (c : Cursor) : List Char × Cursor :=
  match c.rest with
  | '\r' :: '\n' :: rest => (['\n'], ⟨c.position.down ['\r', '\n'], rest⟩)
  | b :: rest => if isBreak b then ([breakValue b], ⟨c.position.down [b], rest⟩) else ([], c)
  | [] => ([], c)

/-- Passes blanks and a comment. Nothing if the line does not end then. -/
def endLine? (c : Cursor) : Option Cursor :=
  let c := c.skipWhile isBlank
  let c := if c.rest.head? = some '#' then c.skipWhile (!isBreak ·) else c
  if endsLine c.rest then some c.skipBreak.2 else none

end Cursor

end SchemaMigration.Yaml
