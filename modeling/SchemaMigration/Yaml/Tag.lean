import SchemaMigration.Text.Numeral
import SchemaMigration.Yaml.Cursor

/-!
# Tags, anchors and directives in a YAML text
-/

namespace SchemaMigration.Yaml

/-- The bytes of a tag. They need not be text. -/
abbrev TagBytes := List UInt8

/-- A tag as it is written: a handle, which stands for the start of the tag, and the rest. -/
structure TagText where
  handle : String
  suffix : TagBytes
deriving DecidableEq

/-- What marks a tag of the document's own. -/
def localMark : UInt8 := 33

/-- The tag of a type that every document has. -/
def commonTag (name : String) : TagBytes := ("tag:yaml.org,2002:" ++ name).toUTF8.toList

/-! ## Anchors -/

/-- Whether the name of an anchor may end here. -/
def endsAnchor : List Char → Bool
  | [] => true
  | c :: _ => isLayout c || c ∈ ['?', ':', ',', ']', '\x7d', '%', '@', '`']

def scanAnchor (c : Cursor) : Option (String × Cursor) :=
  let name := c.rest.takeWhile isWordChar
  let after := c.skip name.length
  if name ≠ [] ∧ endsAnchor after.rest then some (String.ofList name, after) else none

/-! ## Tags -/

def uriMarks : List Char :=
  [';', '/', '?', ':', '@', '&', '=', '+', '$', '.', '%', '!', '~', '*', '\'', '(', ')']

/-- A character of a tag. Only between angles and in a directive may it be a flow mark. -/
def isUriChar (anywhere : Bool) (c : Char) : Bool :=
  isWordChar c || c ∈ uriMarks || (anywhere && (c = ',' || c = '[' || c = ']'))

/-- How many bytes follow a first byte of a sequence. -/
def followers? (b : UInt8) : Option Nat :=
  if b < 0x80 then some 0
  else if b < 0xc0 then none
  else if b < 0xe0 then some 1
  else if b < 0xf0 then some 2
  else if b < 0xf8 then some 3
  else none

def isFollower (b : UInt8) : Bool := 0x80 ≤ b && b < 0xc0

/-- How many bytes a sequence still lacks after this one. -/
def owedAfter? (owed : Nat) (b : UInt8) : Option Nat :=
  if owed = 0 then followers? b else if isFollower b then some (owed - 1) else none

/--
The bytes that a tag writes, with those that are written by number. The latter come in whole
sequences: a first byte says how many follow it.
-/
def uriBytes (owed : Nat) : List Char → Option TagBytes
  | '%' :: a :: b :: rest => do
    let byte := UInt8.ofNat (← readHex? [a, b])
    return byte :: (← uriBytes (← owedAfter? owed byte) rest)
  | [] => if owed = 0 then some [] else none
  | c :: rest =>
    if c = '%' ∨ owed ≠ 0 then none
    else do return UInt8.ofNat c.toNat :: (← uriBytes 0 rest)

/-- The bytes of a tag, which has at least so many characters. It ends before a byte of zero. -/
def scanUri (anywhere : Bool) (least : Nat) (c : Cursor) : Option (TagBytes × Cursor) := do
  let text := c.rest.takeWhile (isUriChar anywhere)
  if text.length < least then none
  else return ((← uriBytes 0 text).takeWhile (· ≠ 0), c.skip text.length)

/-- An exclamation mark, and a word with another one, if there is such. -/
def scanHandle (c : Cursor) : Option (List Char × Cursor) :=
  match c.rest with
  | '!' :: rest =>
    let word := rest.takeWhile isWordChar
    let closed := if (rest.drop word.length).head? = some '!' then ['!'] else []
    let handle := '!' :: word ++ closed
    some (handle, c.skip handle.length)
  | _ => none

/-- Whether a handle is closed by a mark of its own. -/
def isNamedHandle (handle : List Char) : Bool :=
  handle.length ≥ 2 && handle.getLast? = some '!'

/-- A tag between angles, which has no handle. -/
def scanVerbatimTag (c : Cursor) : Option (TagText × Cursor) := do
  let (uri, after) ← scanUri true 1 (c.skip 2)
  if after.rest.head? = some '>' then some (⟨"", uri⟩, after.skip 1) else none

/-- A tag with a handle of its own, or with the shortest one. A lone mark is a whole tag. -/
def scanShortTag (c : Cursor) : Option (TagText × Cursor) := do
  let (handle, after) ← scanHandle c
  if isNamedHandle handle then
    let (uri, after) ← scanUri false 1 after
    return (⟨String.ofList handle, uri⟩, after)
  else
    let (uri, after) ← scanUri false 0 after
    let suffix := (handle.drop 1).map (UInt8.ofNat ·.toNat) ++ uri
    return (if suffix = [] then ⟨"", [localMark]⟩ else ⟨"!", suffix⟩, after)

/-- A tag up to white space, or to a comma within brackets. -/
def scanTag (inFlow : Bool) (c : Cursor) : Option (TagText × Cursor) := do
  let (tag, after) ← match c.rest with
    | _ :: '<' :: _ => scanVerbatimTag c
    | _ => scanShortTag c
  if endsWord after.rest || (inFlow && after.rest.head? = some ',') then some (tag, after)
  else none

/-! ## Directives -/

/-- What a text says of itself before a document. -/
inductive Directive where
  | version (major minor : Nat)
  | tag (handle : String) (start : TagBytes)
deriving DecidableEq

/-- At most nine digits. -/
def scanVersionNumber (c : Cursor) : Option (Nat × Cursor) :=
  let digits := c.rest.takeWhile Char.isDigit
  if digits = [] ∨ 9 < digits.length then none
  else some (digits.foldl (fun n d => 10 * n + (d.toNat - 48)) 0, c.skip digits.length)

def scanVersion (c : Cursor) : Option (Directive × Cursor) := do
  let (major, c) ← scanVersionNumber (c.skipWhile isBlank)
  if c.rest.head? = some '.' then
    let (minor, c) ← scanVersionNumber (c.skip 1)
    return (.version major minor, c)
  else none

/-- A handle that is declared is a lone mark, or closed by one. -/
def scanTagDirective (c : Cursor) : Option (Directive × Cursor) := do
  let (handle, c) ← scanHandle (c.skipWhile isBlank)
  if handle = ['!'] ∨ isNamedHandle handle then
    if c.rest.head?.any isBlank then
      let (start, c) ← scanUri true 1 (c.skipWhile isBlank)
      if endsWord c.rest then return (.tag (String.ofList handle) start, c) else none
    else none
  else none

/-- A directive on a line of its own. -/
def scanDirective (c : Cursor) : Option (Directive × Cursor) := do
  let name := (c.rest.drop 1).takeWhile isWordChar
  let c := c.skip (name.length + 1)
  if name = [] ∨ !endsWord c.rest then none
  else
    let (directive, c) ←
      if name = "YAML".toList then scanVersion c
      else if name = "TAG".toList then scanTagDirective c
      else none
    return (directive, ← c.endLine?)

end SchemaMigration.Yaml
