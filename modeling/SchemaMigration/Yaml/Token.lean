import SchemaMigration.Yaml.Scalar
import SchemaMigration.Yaml.Tag

/-!
# Tokens of a YAML text

Layout becomes tokens of its own: a deeper line starts a block, a shallower one ends it. Whether a
scalar is a key shows only at the colon after it, so each place where a key may have started is
remembered, and the tokens that make it one are put there afterwards. No token is given out while it
may still turn out to be a key.
-/

namespace SchemaMigration.Yaml

/-- A mark, a scalar, or a change of layout. -/
inductive Token where
  | directive (d : Directive)
  | documentStart
  | documentEnd
  | streamEnd
  | blockSequence
  | blockMapping
  | blockEnd
  | flowSequence
  | flowSequenceEnd
  | flowMapping
  | flowMappingEnd
  | blockEntry
  | flowEntry
  | key
  | value
  | alias (name : String)
  | anchor (name : String)
  | tag (t : TagText)
  | scalar (style : ScalarStyle) (text : String)
deriving DecidableEq

/-- A place where a key may have started, and how many tokens come before it. -/
structure KeyPlace where
  tokens : Nat
  position : Position
  /-- Nothing but a key can stand there. -/
  required : Bool
deriving DecidableEq

structure Scan where
  cursor : Cursor
  tokens : List Token := []
  /-- The columns of the open blocks, innermost first. -/
  indents : List Nat := []
  keyAllowed : Bool := true
  /-- The last place for a key outside brackets. -/
  outerKey : Option KeyPlace := none
  /-- The last place for a key within each open bracket, innermost first. -/
  flowKeys : List (Option KeyPlace) := []
  ended : Bool := false

namespace Scan

/-- Whether a bracket is open. Layout means nothing then. -/
def inFlow (s : Scan) : Bool := s.flowKeys ≠ []

/-- The column of the innermost block. Outside all blocks it is before the first. -/
def indent (s : Scan) : Int :=
  match s.indents with
  | [] => -1
  | i :: _ => i

/-- The last place for a key within the innermost bracket. -/
def keyPlace (s : Scan) : Option KeyPlace :=
  match s.flowKeys with
  | [] => s.outerKey
  | k :: _ => k

def setKeyPlace (s : Scan) (k : Option KeyPlace) : Scan :=
  match s.flowKeys with
  | [] => { s with outerKey := k }
  | _ :: rest => { s with flowKeys := k :: rest }

def emit (s : Scan) (t : Token) : Scan := { s with tokens := s.tokens ++ [t] }

def moveTo (s : Scan) (c : Cursor) : Scan := { s with cursor := c }

def allowKey (s : Scan) (allowed : Bool) : Scan := { s with keyAllowed := allowed }

/-! ## Places for keys -/

/-- A key takes one line, and at most 1024 bytes of it. -/
def isStale (p : Position) (k : KeyPlace) : Bool :=
  k.position.line < p.line || k.position.index + 1024 < p.index

/-- Forgets a place that is too far behind. It is an error if a key had to be there. -/
def freshKey (p : Position) (k : Option KeyPlace) : Option (Option KeyPlace) :=
  match k with
  | none => some none
  | some k =>
    if isStale p k then if k.required then none else some none
    else some (some k)

def dropStaleKeys (s : Scan) : Option Scan := do
  let outerKey ← freshKey s.cursor.position s.outerKey
  let flowKeys ← s.flowKeys.mapM (freshKey s.cursor.position)
  return { s with outerKey, flowKeys }

/-- Forgets the last place. It is an error if a key had to be there. -/
def removeKey (s : Scan) : Option Scan :=
  match s.keyPlace with
  | some k => if k.required then none else some (s.setKeyPlace none)
  | none => some s

/-- Remembers that a key may start here. The first word of a line of a block must be one. -/
def saveKey (s : Scan) : Option Scan :=
  if s.keyAllowed then do
    let place : KeyPlace :=
      { tokens := s.tokens.length
        position := s.cursor.position
        required := !s.inFlow && s.indent = s.cursor.column }
    return (← s.removeKey).setKeyPlace (some place)
  else some s

/-! ## Blocks -/

/-- Opens a block at a column that is deeper than the innermost one. -/
def openBlock (s : Scan) (column place : Nat) (t : Token) : Scan :=
  if !s.inFlow ∧ s.indent < column then
    { s with indents := column :: s.indents, tokens := s.tokens.insertIdx place t }
  else s

/-- Closes all blocks that are deeper than a column. -/
def closeBlocks (s : Scan) (column : Int) : Scan :=
  if s.inFlow then s
  else
    let (closed, indents) := s.indents.span fun i : Nat => decide (column < (i : Int))
    { s with indents, tokens := s.tokens ++ closed.map fun _ => .blockEnd }

/-! ## Reading one token -/

/-- Passes blanks, comments and line breaks. A new line may start with a key. -/
def toNextToken : Nat → Scan → Scan
  | 0, s => s
  | fuel + 1, s =>
    let c := s.cursor
    let c := if c.column = 0 ∧ c.rest.head? = some '\ufeff' then c.skip 1 else c
    let c := c.skipWhile fun a => a = ' ' || (a = '\t' && (s.inFlow || !s.keyAllowed))
    let c := if c.rest.head? = some '#' then c.skipWhile (!isBreak ·) else c
    match c.skipBreak with
    | ([], _) => s.moveTo c
    | (_, next) => toNextToken fuel ((s.moveTo next).allowKey (s.keyAllowed || !s.inFlow))

def endStream (s : Scan) : Option Scan := do
  let s ← (s.closeBlocks (-1)).removeKey
  return { (s.allowKey false).emit .streamEnd with ended := true }

def readDirective (s : Scan) : Option Scan := do
  let s ← (s.closeBlocks (-1)).removeKey
  let (d, c) ← scanDirective s.cursor
  return ((s.allowKey false).moveTo c).emit (.directive d)

def readDocumentMark (s : Scan) (t : Token) : Option Scan := do
  let s ← (s.closeBlocks (-1)).removeKey
  return ((s.allowKey false).moveTo (s.cursor.skip 3)).emit t

/-- Opens a bracket, which may itself be a key. -/
def openFlow (s : Scan) (t : Token) : Option Scan := do
  let s ← s.saveKey
  let s := ({ s with flowKeys := none :: s.flowKeys }).allowKey true
  return (s.moveTo (s.cursor.skip 1)).emit t

def closeFlow (s : Scan) (t : Token) : Option Scan := do
  let s ← s.removeKey
  let s := ({ s with flowKeys := s.flowKeys.drop 1 }).allowKey false
  return (s.moveTo (s.cursor.skip 1)).emit t

def readFlowEntry (s : Scan) : Option Scan := do
  let s ← s.removeKey
  return ((s.allowKey true).moveTo (s.cursor.skip 1)).emit .flowEntry

/-- A block may open here if a key may start. -/
def startEntry (s : Scan) (t : Token) : Option Scan :=
  if s.inFlow then some s
  else if s.keyAllowed then some (s.openBlock s.cursor.column s.tokens.length t)
  else none

/-- A dash, which opens a sequence if none is open at its column. -/
def readBlockEntry (s : Scan) : Option Scan := do
  let s ← (← s.startEntry .blockSequence).removeKey
  return ((s.allowKey true).moveTo (s.cursor.skip 1)).emit .blockEntry

/-- A question mark, which opens a mapping if none is open at its column. -/
def readKey (s : Scan) : Option Scan := do
  let s ← (← s.startEntry .blockMapping).removeKey
  return ((s.allowKey (!s.inFlow)).moveTo (s.cursor.skip 1)).emit .key

/-- A colon makes a key of what started at the last place for one. -/
def readValue (s : Scan) : Option Scan := do
  let s ← match s.keyPlace with
    | some k =>
      let s := { s with tokens := s.tokens.insertIdx k.tokens .key }
      some (((s.openBlock k.position.column k.tokens .blockMapping).setKeyPlace none).allowKey
        false)
    | none => do
      let s ← s.startEntry .blockMapping
      some (s.allowKey (!s.inFlow))
  return (s.moveTo (s.cursor.skip 1)).emit .value

def readAnchor (s : Scan) (token : String → Token) : Option Scan := do
  let s ← s.saveKey
  let (name, c) ← scanAnchor (s.cursor.skip 1)
  return ((s.allowKey false).moveTo c).emit (token name)

def readTag (s : Scan) : Option Scan := do
  let s ← s.saveKey
  let (t, c) ← scanTag s.inFlow s.cursor
  return ((s.allowKey false).moveTo c).emit (.tag t)

def finishScalar (s : Scan) (style : ScalarStyle) (allowed : Bool) (scanned : ScannedScalar) :
    Scan :=
  ((s.allowKey allowed).moveTo scanned.after).emit (.scalar style (String.ofList scanned.text))

def readBlock (s : Scan) (folded : Bool) : Option Scan := do
  let s ← s.removeKey
  let scanned ← scanBlock folded s.indent (s.cursor.skip 1)
  return s.finishScalar (if folded then .folded else .literal) true scanned

def readQuoted (s : Scan) (double : Bool) : Option Scan := do
  let s ← s.saveKey
  let scanned ← scanQuoted double [] (s.cursor.skip 1)
  return s.finishScalar (if double then .doubleQuoted else .singleQuoted) false scanned

/-- A plain scalar. After a line break another key may start. -/
def readPlain (s : Scan) : Option Scan := do
  let s ← s.saveKey
  let scanned ← scanPlain s.inFlow (s.indent + 1).toNat [] {} s.cursor
  return s.finishScalar .plain scanned.endedLine scanned

/-- A plain scalar does not start with a mark, unless the mark cannot be one. -/
def startsPlain (inFlow : Bool) (c : Char) (rest : List Char) : Bool :=
  if c = '-' then !rest.head?.any isBlank
  else if c = '?' || c = ':' then !inFlow && !endsWord rest
  else !isLayout c && !isFlowIndicator c &&
    c ∉ ['#', '&', '*', '!', '|', '>', '\'', '"', '%', '@', '`']

/-- Reads a token by the character that it starts with. -/
def readToken (s : Scan) : Option Scan :=
  let c := s.cursor
  match c.rest with
  | [] => s.endStream
  | a :: rest =>
    if c.column = 0 ∧ a = '%' then s.readDirective
    else if c.column = 0 ∧ startsWithMark '-' c.rest then s.readDocumentMark .documentStart
    else if c.column = 0 ∧ startsWithMark '.' c.rest then s.readDocumentMark .documentEnd
    else if a = '[' then s.openFlow .flowSequence
    else if a = '\x7b' then s.openFlow .flowMapping
    else if a = ']' then s.closeFlow .flowSequenceEnd
    else if a = '\x7d' then s.closeFlow .flowMappingEnd
    else if a = ',' then s.readFlowEntry
    else if a = '-' ∧ endsWord rest then s.readBlockEntry
    else if a = '?' ∧ (s.inFlow ∨ endsWord rest) then s.readKey
    else if a = ':' ∧ (s.inFlow ∨ endsWord rest) then s.readValue
    else if a = '*' then s.readAnchor .alias
    else if a = '&' then s.readAnchor .anchor
    else if a = '!' then s.readTag
    else if a = '|' ∧ !s.inFlow then s.readBlock false
    else if a = '>' ∧ !s.inFlow then s.readBlock true
    else if a = '\'' then s.readQuoted false
    else if a = '"' then s.readQuoted true
    else if startsPlain s.inFlow a rest then s.readPlain
    else none

/-- Goes on to the next token and reads it. -/
def next (s : Scan) : Option Scan := do
  let s ← (s.toNextToken (s.cursor.rest.length + 1)).dropStaleKeys
  let s ← (s.closeBlocks s.cursor.column).readToken
  s.dropStaleKeys

/-- The tokens that cannot change any more. -/
def settled (s : Scan) : List Token :=
  let places := (s.outerKey :: s.flowKeys).filterMap fun k => k.map KeyPlace.tokens
  s.tokens.take (places.foldl min s.tokens.length)

/-- Every token takes a character, but for the last one. -/
def run : Nat → Scan → List Token
  | 0, s => s.settled
  | fuel + 1, s =>
    if s.ended then s.tokens
    else
      match s.next with
      | some s => run fuel s
      | none => s.settled

end Scan

/--
The tokens of a text. If the last one is not the end of the stream, the text cannot be read any
further. A text with a character that may not be there cannot be read at all.
-/
def tokens (text : List Char) : List Token :=
  if text.all isAllowed then Scan.run (text.length + 2) { cursor := { rest := text } } else []

end SchemaMigration.Yaml
