import SchemaMigration.Text.Numeral
import SchemaMigration.Yaml.Cursor

/-!
# Scalars in a YAML text

Five ways to write a text: plain, in quotes of two kinds, and as a block of lines that are kept or
folded. All but the blocks share one rule for white space between words: blanks stay as they are,
one line break is a space, and of more line breaks the first falls away.
-/

namespace SchemaMigration.Yaml

inductive ScalarStyle where
  | plain
  | singleQuoted
  | doubleQuoted
  | literal
  | folded
deriving DecidableEq

/-! ## Gaps -/

/-- White space between words: the blanks before the first line break, and the line breaks. -/
structure Gap where
  blanks : List Char := []
  breaks : List Char := []
deriving DecidableEq

namespace Gap

/-- What a gap stands for in a value. -/
def text (g : Gap) : List Char :=
  match g.breaks with
  | [] => g.blanks
  | ['\n'] => [' ']
  | '\n' :: more => more
  | breaks => breaks

def addBlank (g : Gap) (c : Char) : Gap :=
  if g.breaks = [] then { g with blanks := g.blanks ++ [c] } else g

def addBreak (g : Gap) (c : Char) : Gap := { g with breaks := g.breaks ++ [breakValue c] }

/-- Passes a gap. No tab may stand where a line is to be indented. -/
def pass (indent : Nat) (g : Gap) (p : Position) : List Char → Option (Gap × Cursor)
  | [] => some (g, ⟨p, []⟩)
  | '\r' :: '\n' :: rest => pass indent (g.addBreak '\n') (p.down ['\r', '\n']) rest
  | c :: rest =>
    if c = '\t' ∧ g.breaks ≠ [] ∧ p.column < indent then none
    else if isBlank c then pass indent (g.addBlank c) (p.across [c]) rest
    else if isBreak c then pass indent (g.addBreak c) (p.down [c]) rest
    else some (g, ⟨p, c :: rest⟩)

end Gap

/-- A scalar that was passed: its text, and where the reader stands after it. -/
structure ScannedScalar where
  text : List Char
  after : Cursor
  /-- Whether a line break was passed after the last word. -/
  endedLine : Bool := false

/-! ## Plain scalars -/

/-- A colon that ends a word of a plain scalar. -/
def isValueMark (rest : List Char) : Bool := endsWord rest

/-- Within brackets, a colon may not be followed by these at once. -/
def isStrayColon (c : Char) (rest : List Char) : Bool :=
  c = ':' && match rest with
    | next :: _ => isFlowIndicator next || next = '?'
    | [] => false

/-- A word of a plain scalar: how many characters it has. -/
def plainWord (inFlow : Bool) : List Char → Option Nat
  | [] => some 0
  | c :: rest =>
    if isLayout c then some 0
    else if inFlow && isStrayColon c rest then none
    else if c = ':' && isValueMark rest then some 0
    else if inFlow && isFlowIndicator c then some 0
    else (plainWord inFlow rest).map (· + 1)

/-- Words of a plain scalar, from where one may start after a gap. -/
def scanPlain (inFlow : Bool) (indent : Nat) (text : List Char) (g : Gap) (c : Cursor) :
    Option ScannedScalar :=
  let ended : ScannedScalar := ⟨text, c, g.breaks ≠ []⟩
  if c.column = 0 ∧ startsWithDocumentMark c.rest then some ended
  else if c.rest.head? = some '#' then some ended
  else
    match plainWord inFlow c.rest with
    | none => none
    | some 0 => some ended
    | some n =>
      let text := text ++ g.text ++ c.rest.take n
      let after := c.skip n
      match Gap.pass indent {} after.position after.rest with
      | none => none
      | some (g, next) =>
        if after.rest = next.rest then some ⟨text, after, false⟩
        else if !inFlow ∧ next.column < indent then some ⟨text, next, g.breaks ≠ []⟩
        -- A word and a gap take at least one character each.
        else if next.rest.length < c.rest.length then scanPlain inFlow indent text g next
        else none
termination_by c.rest.length

/-! ## Quoted scalars -/

/-- A part of a quoted scalar without white space: its text, and how many characters write it. -/
structure QuotedRun where
  text : List Char := []
  width : Nat := 0
  /-- Whether a line break follows that is escaped, and so stands for nothing. -/
  escapedBreak : Bool := false

/-- Puts a character in front, with the characters that write it. -/
def QuotedRun.before (r : QuotedRun) (text : List Char) (width : Nat) : QuotedRun :=
  { r with text := text ++ r.text, width := width + r.width }

/-- A quote is written twice. -/
def singleQuotedRun : List Char → QuotedRun
  | [] => {}
  | '\'' :: '\'' :: rest => (singleQuotedRun rest).before ['\''] 2
  | c :: rest => if isLayout c || c = '\'' then {} else (singleQuotedRun rest).before [c] 1

def escapedChar? (c : Char) : Option Char :=
  match c with
  | '0' => some '\x00'
  | 'a' => some '\x07'
  | 'b' => some '\x08'
  | 't' | '\t' => some '\t'
  | 'n' => some '\n'
  | 'v' => some '\x0b'
  | 'f' => some '\x0c'
  | 'r' => some '\r'
  | 'e' => some '\x1b'
  | ' ' => some ' '
  | '"' => some '"'
  | '/' => some '/'
  | '\\' => some '\\'
  | 'N' => some '\u0085'
  | '_' => some '\u00a0'
  | 'L' => some '\u2028'
  | 'P' => some '\u2029'
  | _ => none

def numberedChar? (digits : List Char) : Option Char := do
  let n ← readHex? digits
  if n.isValidChar then some (Char.ofNat n) else none

/-- Up to white space, a quote or an escaped line break. -/
def doubleQuotedRun : List Char → Option QuotedRun
  | [] => some {}
  | '\\' :: 'x' :: a :: b :: rest => do
    return (← doubleQuotedRun rest).before [← numberedChar? [a, b]] 4
  | '\\' :: 'u' :: a :: b :: c :: d :: rest => do
    return (← doubleQuotedRun rest).before [← numberedChar? [a, b, c, d]] 6
  | '\\' :: 'U' :: a :: b :: c :: d :: e :: f :: g :: h :: rest => do
    return (← doubleQuotedRun rest).before [← numberedChar? [a, b, c, d, e, f, g, h]] 10
  | '\\' :: c :: rest =>
    if isBreak c then some { width := 1, escapedBreak := true }
    else do return (← doubleQuotedRun rest).before [← escapedChar? c] 2
  | ['\\'] => none
  | c :: rest =>
    if isLayout c || c = '"' then some {}
    else do return (← doubleQuotedRun rest).before [c] 1

def quotedRun (double : Bool) (text : List Char) : Option QuotedRun :=
  if double then doubleQuotedRun text else some (singleQuotedRun text)

/-- A quoted scalar, from after its first quote. -/
def scanQuoted (double : Bool) (text : List Char) (c : Cursor) : Option ScannedScalar :=
  let quote := if double then '"' else '\''
  if c.column = 0 ∧ startsWithDocumentMark c.rest then none
  else
    match quotedRun double c.rest with
    | none => none
    | some run =>
      let text := text ++ run.text
      let c' := c.skip run.width
      let c' := if run.escapedBreak then c'.skipBreak.2 else c'
      if c'.rest.head? = some quote then some ⟨text, c'.skip 1, false⟩
      else
        match Gap.pass 0 {} c'.position c'.rest with
        | none => none
        | some (g, next) =>
          let gap := if run.escapedBreak then g.breaks else g.text
          -- Nothing is left to go on with at the end of the text.
          if next.rest.length < c.rest.length then scanQuoted double (text ++ gap) next
          else none
termination_by c.rest.length

/-! ## Blocks -/

/-- What becomes of the line breaks at the end of a block. -/
inductive Chomping where
  | strip
  | clip
  | keep
deriving DecidableEq

def chompingMark? (c : Char) : Option Chomping :=
  if c = '+' then some .keep else if c = '-' then some .strip else none

def indentMark? (c : Char) : Option Nat :=
  if c.isDigit ∧ c ≠ '0' then some (c.toNat - 48) else none

/-- The two marks of a block, in either order: how many characters they take. -/
def blockMarks : List Char → Chomping × Nat × Nat
  | a :: b :: _ =>
    match chompingMark? a, indentMark? a, chompingMark? b, indentMark? b with
    | some chomping, _, _, some indent => (chomping, indent, 2)
    | some chomping, _, _, none => (chomping, 0, 1)
    | none, some indent, some chomping, _ => (chomping, indent, 2)
    | none, some indent, none, _ => (.clip, indent, 1)
    | none, none, _, _ => (.clip, 0, 0)
  | [a] =>
    match chompingMark? a, indentMark? a with
    | some chomping, _ => (chomping, 0, 1)
    | none, some indent => (.clip, indent, 1)
    | none, none => (.clip, 0, 0)
  | [] => (.clip, 0, 0)

/-- Empty lines of a block: their breaks, and the deepest indentation before one or after them. -/
structure EmptyLines where
  breaks : List Char := []
  deepest : Nat := 0
  after : Cursor

/-- Passes empty lines. An indentation of zero is not known yet, and a tab is none. -/
def passEmptyLines (indent : Nat) (breaks : List Char) (deepest : Nat) (p : Position) :
    List Char → Option EmptyLines
  | [] => some ⟨breaks, deepest, p, []⟩
  | '\r' :: '\n' :: rest =>
    passEmptyLines indent (breaks ++ ['\n']) deepest (p.down ['\r', '\n']) rest
  | c :: rest =>
    let toIndent := indent = 0 ∨ p.column < indent
    if c = ' ' ∧ toIndent then
      passEmptyLines indent breaks (max deepest (p.column + 1)) (p.across [c]) rest
    else if c = '\t' ∧ toIndent then none
    else if isBreak c then
      passEmptyLines indent (breaks ++ [breakValue c]) deepest (p.down [c]) rest
    else some ⟨breaks, deepest, p, c :: rest⟩

/-- A block as far as it was read. -/
structure BlockState where
  text : List Char := []
  lastBreak : List Char := []
  emptyLines : List Char := []
  /-- Whether the last line starts with a blank, so that breaks around it stay. -/
  indented : Bool := false

/-- Adds a line. Where lines are folded, the break before it may count as a space. -/
def BlockState.addLine (st : BlockState) (folded : Bool) (line : List Char) : BlockState :=
  let indented := match line with
    | c :: _ => isBlank c
    | [] => false
  let joint :=
    if folded ∧ st.lastBreak = ['\n'] ∧ !st.indented ∧ !indented then
      if st.emptyLines = [] then [' '] else []
    else st.lastBreak
  { text := st.text ++ joint ++ st.emptyLines ++ line, indented }

/-- The lines of a block, which all start at its indentation. -/
def scanBlockLines (folded : Bool) (indent : Nat) (st : BlockState) (c : Cursor) :
    Option (BlockState × Cursor) :=
  if c.column = indent ∧ c.rest ≠ [] then
    let line := c.rest.takeWhile (!isBreak ·)
    let st := st.addLine folded line
    let (lastBreak, next) := (c.skip line.length).skipBreak
    match passEmptyLines indent [] 0 next.position next.rest with
    | none => none
    | some lines =>
      let st := { st with lastBreak, emptyLines := lines.breaks }
      -- No line is empty.
      if lines.after.rest.length < c.rest.length then
        scanBlockLines folded indent st lines.after
      else none
  else some (st, c)
termination_by c.rest.length

/-- A block, from after its first mark, within a collection of some indentation. -/
def scanBlock (folded : Bool) (outer : Int) (c : Cursor) : Option ScannedScalar := do
  let (chomping, increment, width) := blockMarks c.rest
  let c ← (c.skip width).endLine?
  let asked := if increment = 0 then 0 else (max outer 0).toNat + increment
  let lines ← passEmptyLines asked [] 0 c.position c.rest
  let indent := if asked = 0 then max lines.deepest (max (outer + 1).toNat 1) else asked
  let (st, after) ← scanBlockLines folded indent { emptyLines := lines.breaks } lines.after
  let text := match chomping with
    | .strip => st.text
    | .clip => st.text ++ st.lastBreak
    | .keep => st.text ++ st.lastBreak ++ st.emptyLines
  return ⟨text, after, false⟩

end SchemaMigration.Yaml
