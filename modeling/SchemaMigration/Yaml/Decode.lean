import SchemaMigration.Config.Options
import SchemaMigration.Yaml.Event
import SchemaMigration.Yaml.Plain

/-!
# Reading values from a YAML document

A reader takes the events of one node and gives what follows them. An alias is read in its anchor's
place. The first thing that is wrong in the order of the text is the one that is told, and a text
that breaks off is wrong only where it does.
-/

namespace SchemaMigration.Yaml

/-!
## The first document

Its events, with each alias resolved to the anchor that it means. A text that breaks off, or goes on
with another document, has events too: what is wrong in them is found first.
-/

/-- Events whose aliases are resolved to numbers. -/
abbrev Events := List (Event Nat)

/-- The events of a document, and what its aliases mean. -/
structure Document where
  events : Events
  /-- The place among the events that each anchor's number means, the latest first. -/
  places : List (Nat × Nat)
  /-- Whether the text can be read to its end and holds nothing else. -/
  whole : Bool

/-- The anchors so far, with their numbers. -/
abbrev AnchorNames := List (String × Nat)

/--
The number of an anchor is how many names there are before it. One that takes a name again is
counted as the next, and so is the first with the next new name.
-/
def AnchorNames.add (names : AnchorNames) (name : String) : AnchorNames :=
  names.filter (·.1 ≠ name) ++ [(name, names.length)]

def Document.cons (e : Event Nat) (d : Document) : Document := { d with events := e :: d.events }

/-- Notes the place of an anchor, if there is one at an event. -/
def Document.withPlace (d : Document) (names : AnchorNames) (index : Nat) :
    Option String → Document
  | none => d
  | some _ => { d with places := d.places ++ [(names.length, index)] }

/-- Resolves aliases, up to one that means nothing. -/
def resolve (whole : Bool) (names : AnchorNames) (index : Nat) : List (Event String) → Document
  | [] => ⟨[], [], whole⟩
  | e :: rest =>
    let go (anchor : Option String) (e : Event Nat) : Document :=
      let after := match anchor with
        | some name => names.add name
        | none => names
      ((resolve whole after (index + 1) rest).cons e).withPlace names index anchor
    match e with
    | .alias name =>
      match names.lookup name with
      | none => ⟨[], [], false⟩
      | some number => go none (.alias number)
    | .scalar anchor s => go anchor (.scalar anchor s)
    | .sequence anchor tag => go anchor (.sequence anchor tag)
    | .sequenceEnd => go none .sequenceEnd
    | .mapping anchor tag => go anchor (.mapping anchor tag)
    | .mappingEnd => go none .mappingEnd

/-- Whether nothing comes after a document but its end. -/
def endsStream (rest : List Token) : Bool := rest.dropWhile (· = .documentEnd) = [.streamEnd]

namespace Document

def ofText (text : String) : Document :=
  match tokens text.toList with
  | [.streamEnd] => ⟨[], [], true⟩
  | ts =>
    let root := readRoot ts
    resolve (root.rest.any endsStream) [] 0 root.events

/-- Whether the text holds nothing at all. -/
def isVoid (d : Document) : Bool := d.events = [] && d.whole

/-- The events from an anchor on. -/
def target (d : Document) (number : Nat) : Events :=
  match d.places.lookup number with
  | none => []
  | some place => d.events.drop place

end Document

/-! ## What can be wrong -/

inductive Problem where
  /-- The text breaks off, or goes on after the document. -/
  | unreadable
  | unknownField (name : String) (known : List String)
  | duplicateField (name : String)
  | missingField (name : String)
  | unknownVariant (name : String) (known : List String)
  | wrongType (found expected : String)
  /-- A text that is not what its tag says. -/
  | wrongValue (found expected : String)
deriving DecidableEq

def inTicks (s : String) : String := "`" ++ s ++ "`"

/-- Names that could have been used instead. -/
def knownNames : List String → String
  | [a, b] => inTicks a ++ " or " ++ inTicks b
  | names => "one of " ++ ", ".intercalate (names.map inTicks)

def Problem.text : Problem → String
  | unreadable => "the text is not one YAML document"
  | unknownField name known =>
    "unknown field " ++ inTicks name ++ ", expected " ++ knownNames known
  | duplicateField name => "duplicate field " ++ inTicks name
  | missingField name => "missing field " ++ inTicks name
  | unknownVariant name known =>
    "unknown variant " ++ inTicks name ++ ", expected " ++ knownNames known
  | wrongType found expected => "invalid type: " ++ found ++ ", expected " ++ expected
  | wrongValue found expected => "invalid value: " ++ found ++ ", expected " ++ expected

/-- The keys that lead to a node, outermost first. -/
abbrev Path := List String

structure DecodeError where
  path : Path
  problem : Problem
deriving DecidableEq

def DecodeError.message (e : DecodeError) : String :=
  if e.path = [] then e.problem.text else ".".intercalate e.path ++ ": " ++ e.problem.text

/-! ## What a node is instead -/

def truthTag : TagBytes := commonTag "bool"

def integerTag : TagBytes := commonTag "int"

def floatTag : TagBytes := commonTag "float"

def nullTag : TagBytes := commonTag "null"

def isLocal (tag : TagBytes) : Bool := tag.head? = some localMark

/-- The name that a tag of the document's own has, if it is text. A lone mark names itself. -/
def localName? (tag : Option TagBytes) : Option String := do
  let tag ← tag
  let name := if tag.length = 1 then tag else tag.drop 1
  if isLocal tag then String.fromUTF8? ⟨name.toArray⟩ else none

namespace Scalar

def isPlain (s : Scalar) : Bool := s.style = .plain

def isEmpty (s : Scalar) : Bool := s.isPlain && s.text = ""

def textProblem (s : Scalar) (expected : String) : Problem :=
  .wrongType ("string " ++ quoted s.text) expected

/-- A scalar where something else is expected. Its tag may already be wrong about it. -/
def mismatch (s : Scalar) (expected : String) : Problem :=
  let tagged (value : Option PlainValue) (meant : String) : Problem :=
    match value with
    | some v => .wrongType v.describe expected
    | none => .wrongValue ("string " ++ quoted s.text) meant
  match s.tag with
  | none => if s.isPlain then .wrongType (PlainValue.ofText s.text).describe expected
    else s.textProblem expected
  | some tag =>
    if tag = truthTag then tagged ((truthWord? s.text).map .truth) "a boolean"
    else if tag = integerTag then
      tagged (((readInteger? s.text.toList).filter fitsInteger).map .integer) "an integer"
    else if tag = floatTag then tagged ((readFloat? s.text).map .number) "a float"
    else if tag = nullTag then tagged (if isNullWord s.text then some .null else none) "null"
    else if isLocal tag ∧ s.isPlain then
      .wrongType (PlainValue.ofText s.text).describe expected
    else s.textProblem expected

end Scalar

def Event.mismatch (e : Event Nat) (expected : String) : Problem :=
  match e with
  | .scalar _ s => s.mismatch expected
  | .sequence _ _ => .wrongType "sequence" expected
  | .mapping _ _ => .wrongType "map" expected
  | .alias _ | .sequenceEnd | .mappingEnd => .unreadable

/-! ## Nodes -/

/-- What reads a node: the keys that lead to it, and the events from it on. -/
abbrev Reader (α : Type) := Path → Events → Except DecodeError (α × Events)

/-- The first event of a node, the events after it, and what follows the node if it is an alias. -/
structure NodeView where
  head : Event Nat
  inner : Events
  outer : Option Events

/-- What follows the node, given what follows the events that it was read from. -/
def NodeView.after (v : NodeView) (rest : Events) : Events := v.outer.getD rest

namespace Document

variable (d : Document)

/-- Looks at a node. An alias shows what it stands for. -/
def view (path : Path) : Events → Except DecodeError NodeView
  | [] => .error ⟨path, .unreadable⟩
  | .alias number :: rest =>
    match d.target number with
    | [] => .error ⟨path, .unreadable⟩
    | e :: inner => .ok ⟨e, inner, some rest⟩
  | e :: rest => .ok ⟨e, rest, none⟩

/-- Any scalar is a text as it stands, whatever its tag. -/
def readText : Reader String := fun path events => do
  let v ← d.view path events
  match v.head with
  | .scalar _ s => return (s.text, v.after v.inner)
  | e => .error ⟨path, e.mismatch "a string"⟩

/-- A block that is kept may say of itself that it is a truth value. -/
def readTruth : Reader Bool := fun path events => do
  let v ← d.view path events
  match v.head with
  | .scalar _ s =>
    let may := s.isPlain || (s.style = .literal && s.tag = some truthTag)
    match truthWord? s.text with
    | some b =>
      if may then return (b, v.after v.inner)
      else .error ⟨path, s.mismatch "a boolean"⟩
    | none => .error ⟨path, s.mismatch "a boolean"⟩
  | e => .error ⟨path, e.mismatch "a boolean"⟩

/-- Whether a scalar stands for nothing. A tag other than that of nulls says that it does not. -/
def isAbsent (path : Path) (s : Scalar) : Except DecodeError Bool :=
  if !s.isPlain then .ok false
  else match s.tag with
    | none => .ok (s.text = "" || isNullWord s.text)
    | some tag =>
      if tag = nullTag then
        if isNullWord s.text then .ok true else .error ⟨path, s.mismatch "null"⟩
      else .ok false

/-- A node that stands for nothing, or one that can be read. -/
def readOptional {α : Type} (read : Reader α) : Reader (Option α) := fun path events => do
  let v ← d.view path events
  let absent ← match v.head with
    | .scalar _ s => isAbsent path s
    | _ => .ok false
  if absent then return (none, v.after v.inner)
  else
    let (a, rest) ← read path events
    return (some a, rest)

/--
One of some names: a scalar, or a tag with nothing under it. An unknown tag is told of where the
node stands, not at the node.
-/
def readVariant (names : List String) : Reader String := fun path events => do
  let v ← d.view path events
  let tagged (tag : String) : Except DecodeError (String × Events) :=
    if tag ∉ names then .error ⟨path.dropLast, .unknownVariant tag names⟩
    else match v.head with
      | .scalar _ s =>
        if s.isPlain ∧ (s.text = "" ∨ isNullWord s.text) then .ok (tag, v.after v.inner)
        else .error ⟨path, .wrongValue ("string " ++ quoted s.text) "null"⟩
      | e => .error ⟨path, e.mismatch "unit"⟩
  match v.head with
  | .scalar _ s =>
    match localName? s.tag with
    | some tag => tagged tag
    | none =>
      if s.text ∈ names then return (s.text, v.after v.inner)
      else .error ⟨path, .unknownVariant s.text names⟩
  | .mapping _ tag | .sequence _ tag =>
    match localName? tag with
    | some tag => tagged tag
    | none => .error ⟨path, v.head.mismatch "a YAML tag starting with '!'"⟩
  | _ => .error ⟨path, .unreadable⟩

/-! ## Records -/

/-- Passes one node, within so many open collections. -/
def skipNode : Nat → Events → Option Events
  | _, [] => none
  | depth, .sequence _ _ :: rest | depth, .mapping _ _ :: rest => skipNode (depth + 1) rest
  | depth, .sequenceEnd :: rest | depth, .mappingEnd :: rest =>
    if depth ≤ 1 then some rest else skipNode (depth - 1) rest
  | depth, .alias _ :: rest | depth, .scalar _ _ :: rest =>
    if depth = 0 then some rest else skipNode depth rest

/-- A record of fields that are read into a state, each at most once. -/
structure RecordShape (σ : Type) where
  name : String
  unknown : UnknownFields
  fields : List (String × (σ → Reader σ))

/-- A key that is an alias has no text of its own to be named by. -/
def keyName (v : NodeView) (text : String) : String := if v.outer.isSome then "?" else text

variable {σ : Type}

/-- Reads fields up to the end of their mapping. The fuel bounds how many there are. -/
def readFields (shape : RecordShape σ) (path : Path) :
    Nat → List String → σ → Events → Except DecodeError (σ × Events)
  | 0, _, _, _ => .error ⟨path, .unreadable⟩
  | _ + 1, _, st, .mappingEnd :: rest => .ok (st, rest)
  | fuel + 1, seen, st, events => do
    let v ← d.view path events
    match v.head with
    | .scalar _ s =>
      let rest := v.after v.inner
      match shape.fields.lookup s.text with
      | some read =>
        if s.text ∈ seen then .error ⟨path, .duplicateField s.text⟩
        else
          let (st, rest) ← read st (path ++ [keyName v s.text]) rest
          readFields shape path fuel (s.text :: seen) st rest
      | none =>
        if shape.unknown = .skipped then
          match skipNode 0 rest with
          | none => .error ⟨path, .unreadable⟩
          | some rest => readFields shape path fuel seen st rest
        else .error ⟨path, .unknownField s.text (shape.fields.map (·.1))⟩
    | e => .error ⟨path, e.mismatch "field identifier"⟩

/-- A mapping, or nothing at all, which has no fields. -/
def readRecord (shape : RecordShape σ) (start : σ) : Reader σ := fun path events => do
  if d.isVoid then return (start, [])
  let v ← d.view path events
  match v.head with
  | .mapping _ _ =>
    let (st, rest) ← d.readFields shape path (v.inner.length + 1) [] start v.inner
    return (st, v.after rest)
  | .scalar _ s =>
    if s.isEmpty then return (start, v.after v.inner)
    else .error ⟨path, s.mismatch ("struct " ++ shape.name)⟩
  | e => .error ⟨path, e.mismatch ("struct " ++ shape.name)⟩

end Document

/-- Reads a text that holds one document and nothing else. -/
def decode {α : Type} (read : Document → Reader α) (text : String) : Except DecodeError α := do
  let d := Document.ofText text
  let (a, _) ← read d [] d.events
  if d.whole then return a else .error ⟨[], .unreadable⟩

end SchemaMigration.Yaml
