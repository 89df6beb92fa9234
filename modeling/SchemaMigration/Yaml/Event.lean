import SchemaMigration.Yaml.Token

/-!
# Events of a YAML text

The nodes of a document in the order in which they are written, each collection between its two
ends. A text that cannot be read to its end has the events up to where it breaks off.
-/

namespace SchemaMigration.Yaml

/-- A text with how it was written. An empty plain one stands where nothing is written. -/
structure Scalar where
  tag : Option TagBytes := none
  style : ScalarStyle := .plain
  text : String := ""
deriving DecidableEq

/-- An alias refers to an anchor by its name, or by its number once names are resolved. -/
inductive Event (reference : Type) where
  | alias (r : reference)
  | scalar (anchor : Option String) (s : Scalar)
  | sequence (anchor : Option String) (tag : Option TagBytes)
  | sequenceEnd
  | mapping (anchor : Option String) (tag : Option TagBytes)
  | mappingEnd
deriving DecidableEq

/-- Events, and the tokens after them unless the text breaks off. -/
structure Reading where
  events : List (Event String)
  rest : Option (List Token)

namespace Reading

/-- Where a text breaks off. -/
def broken : Reading := ⟨[], none⟩

def one (e : Event String) (rest : List Token) : Reading := ⟨[e], some rest⟩

/-- Goes on after what was read, unless it broke off. -/
def followedBy (r : Reading) (f : List Token → Reading) : Reading :=
  match r.rest with
  | none => r
  | some ts =>
    let next := f ts
    ⟨r.events ++ next.events, next.rest⟩

/-- An empty scalar where nothing is written. -/
def absent (rest : List Token) : Reading := one (.scalar none {}) rest

end Reading

/-! ## Properties of a node -/

/-- The handles that are declared, with the starts that they stand for. -/
abbrev TagHandles := List (String × TagBytes)

def defaultHandles : TagHandles := [("!", [localMark]), ("!!", commonTag "")]

/-- Nothing if the handle was not declared. -/
def TagText.resolve? (t : TagText) (handles : TagHandles) : Option TagBytes :=
  if t.handle = "" then some t.suffix else (handles.lookup t.handle).map (· ++ t.suffix)

/-- What may stand before a node. -/
structure Properties where
  anchor : Option String := none
  tag : Option TagText := none

/-- An anchor and a tag, in either order. -/
def readProperties : List Token → Properties × List Token
  | .anchor a :: .tag t :: rest => ({ anchor := a, tag := t }, rest)
  | .tag t :: .anchor a :: rest => ({ anchor := a, tag := t }, rest)
  | .anchor a :: rest => ({ anchor := a }, rest)
  | .tag t :: rest => ({ tag := t }, rest)
  | rest => ({}, rest)

/-! ## Nodes -/

def nextIsOneOf (absentBefore : List Token) : List Token → Bool
  | [] => false
  | t :: _ => t ∈ absentBefore

open Reading

/-- The parts of a text that hold each other. -/
inductive Part where
  | node (inBlock indentless : Bool)
  | blockSequence
  | indentlessSequence
  | blockMapping
  | blockValue
  | flowSequence (first : Bool)
  | flowPair
  | flowPairValue
  | flowMapping (first : Bool)
  | flowValue

/-- What a comma does: it stands between entries, and one may follow the last. -/
def afterComma (first : Bool) (ts : List Token) : Option (List Token) :=
  if first then some ts
  else match ts with
    | .flowEntry :: rest => some rest
    | _ => none

/-- Reads a part. The fuel bounds how many parts it takes. -/
def readPart (handles : TagHandles) : Nat → Part → List Token → Reading
  | 0, _, _ => broken
  | fuel + 1, part, ts =>
    let go (part : Part) (ts : List Token) : Reading := readPart handles fuel part ts
    let nodeUnless (absentBefore : List Token) (inBlock indentless : Bool) (ts : List Token) :
        Reading :=
      if nextIsOneOf absentBefore ts then absent ts else go (.node inBlock indentless) ts
    match part, ts with
    | .node _ _, .alias name :: ts => one (.alias name) ts
    | .node inBlock indentless, ts =>
      let (p, ts) := readProperties ts
      match p.tag.map (TagText.resolve? · handles) with
      | some none => broken
      | resolved =>
        let tag := resolved.join
        match ts with
        | .scalar style text :: ts => one (.scalar p.anchor { tag, style, text }) ts
        | .flowSequence :: ts =>
          (one (.sequence p.anchor tag) ts).followedBy (go (.flowSequence true))
        | .flowMapping :: ts =>
          (one (.mapping p.anchor tag) ts).followedBy (go (.flowMapping true))
        | t :: after =>
          if t = .blockEntry ∧ indentless then
            (one (.sequence p.anchor tag) ts).followedBy (go .indentlessSequence)
          else if t = .blockSequence ∧ inBlock then
            (one (.sequence p.anchor tag) after).followedBy (go .blockSequence)
          else if t = .blockMapping ∧ inBlock then
            (one (.mapping p.anchor tag) after).followedBy (go .blockMapping)
          else if p.anchor.isSome ∨ p.tag.isSome then one (.scalar p.anchor { tag }) ts
          else broken
        | [] => broken
    | .blockSequence, .blockEntry :: ts =>
      (nodeUnless [.blockEntry, .blockEnd] true false ts).followedBy (go .blockSequence)
    | .blockSequence, .blockEnd :: ts => one .sequenceEnd ts
    | .blockSequence, _ => broken
    | .indentlessSequence, .blockEntry :: ts =>
      (nodeUnless [.blockEntry, .key, .value, .blockEnd] true false ts).followedBy
        (go .indentlessSequence)
    | .indentlessSequence, [] => broken
    | .indentlessSequence, ts => one .sequenceEnd ts
    | .blockMapping, .key :: ts =>
      (nodeUnless [.key, .value, .blockEnd] true true ts).followedBy (go .blockValue)
    | .blockMapping, .blockEnd :: ts => one .mappingEnd ts
    | .blockMapping, _ => broken
    | .blockValue, .value :: ts =>
      (nodeUnless [.key, .value, .blockEnd] true true ts).followedBy (go .blockMapping)
    | .blockValue, [] => broken
    | .blockValue, ts => (absent ts).followedBy (go .blockMapping)
    | .flowSequence _, .flowSequenceEnd :: ts => one .sequenceEnd ts
    | .flowSequence first, ts =>
      match afterComma first ts with
      | none => broken
      | some (.flowSequenceEnd :: ts) => one .sequenceEnd ts
      | some (.key :: ts) => (one (.mapping none none) ts).followedBy (go .flowPair)
      | some ts => (go (.node false false) ts).followedBy (go (.flowSequence false))
    | .flowPair, ts =>
      -- A pair without a key has lost the colon when its value is read.
      if nextIsOneOf [.value, .flowEntry, .flowSequenceEnd] ts then
        (absent (ts.drop 1)).followedBy (go .flowPairValue)
      else (go (.node false false) ts).followedBy (go .flowPairValue)
    | .flowPairValue, [] => broken
    | .flowPairValue, ts =>
      (match ts with
        | .value :: ts => nodeUnless [.flowEntry, .flowSequenceEnd] false false ts
        | ts => absent ts).followedBy fun ts =>
      (one .mappingEnd ts).followedBy (go (.flowSequence false))
    | .flowMapping _, .flowMappingEnd :: ts => one .mappingEnd ts
    | .flowMapping first, ts =>
      match afterComma first ts with
      | none => broken
      | some (.flowMappingEnd :: ts) => one .mappingEnd ts
      | some (.key :: ts) =>
        (nodeUnless [.value, .flowEntry, .flowMappingEnd] false false ts).followedBy
          (go .flowValue)
      | some ts =>
        (go (.node false false) ts).followedBy fun ts =>
        (absent ts).followedBy (go (.flowMapping false))
    | .flowValue, .value :: ts =>
      (nodeUnless [.flowEntry, .flowMappingEnd] false false ts).followedBy
        (go (.flowMapping false))
    | .flowValue, [] => broken
    | .flowValue, ts => (absent ts).followedBy (go (.flowMapping false))

/-! ## The first document -/

/-- A text is of version 1.1 or 1.2, and says so once. No handle is declared twice. -/
def addDirective (versioned : Bool) (handles : TagHandles) : Directive → Option (Bool × TagHandles)
  | .version major minor =>
    if !versioned ∧ major = 1 ∧ (minor = 1 ∨ minor = 2) then some (true, handles) else none
  | .tag handle start =>
    if (handles.lookup handle).isSome then none else some (versioned, handles ++ [(handle, start)])

def readDirectives (versioned : Bool) (handles : TagHandles) :
    List Token → Option (TagHandles × List Token)
  | .directive d :: rest =>
    match addDirective versioned handles d with
    | none => none
    | some (versioned, handles) => readDirectives versioned handles rest
  | rest => some (handles, rest)

/-- What an author declares goes before what always holds. -/
def withDefaults (handles : TagHandles) : TagHandles := handles ++ defaultHandles

/-- The root of a document. A document that is announced may be empty. -/
def readRoot (ts : List Token) : Reading :=
  let fuel := 4 * ts.length + 8
  match readDirectives false [] ts with
  | none => broken
  | some (handles, .documentStart :: rest) =>
    match rest with
    | .directive _ :: _ | .documentStart :: _ | .documentEnd :: _ | .streamEnd :: _ => absent rest
    | rest => readPart (withDefaults handles) fuel (.node true false) rest
  | some (_, rest) =>
    -- Directives are for a document that is announced.
    if rest.length < ts.length then broken
    else readPart defaultHandles fuel (.node true false) rest

end SchemaMigration.Yaml
