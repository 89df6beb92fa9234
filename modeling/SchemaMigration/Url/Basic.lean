import SchemaMigration.Url.Host

/-!
# URLs

A scheme, a host with a number, and the pairs of a query. User names, paths and fragments have no
meaning here, but for where they end.
-/

namespace SchemaMigration

/-!
## Characters as bytes

A character is one to four bytes, and the first says how many. Bytes that are no character read as
one mark for each start of a character that is as long as can be.
-/

namespace Utf8

/-- The mark that stands for bytes that are no character. -/
def replacement : Char := '\ufffd'

/-- A character of which some bytes are still to come. -/
structure Begun where
  owed : Nat
  /-- The least that the next one may be. -/
  least : UInt8 := 0x80
  /-- The most that the next one may be. -/
  most : UInt8 := 0xbf
  bits : Nat

/--
The character that a first byte begins. Neither a number that fewer bytes could write, nor one that
is no character, may come out, so that some first bytes leave less room to the second.
-/
def begin? (b : UInt8) : Option Begun :=
  if 0xc2 ≤ b ∧ b < 0xe0 then some { owed := 0, bits := b.toNat - 0xc0 }
  else if b = 0xe0 then some { owed := 1, least := 0xa0, bits := 0 }
  else if b = 0xed then some { owed := 1, most := 0x9f, bits := 13 }
  else if 0xe0 ≤ b ∧ b < 0xf0 then some { owed := 1, bits := b.toNat - 0xe0 }
  else if b = 0xf0 then some { owed := 2, least := 0x90, bits := 0 }
  else if b = 0xf4 then some { owed := 2, most := 0x8f, bits := 4 }
  else if 0xf0 ≤ b ∧ b < 0xf4 then some { owed := 2, bits := b.toNat - 0xf0 }
  else none

/-- What a byte between characters completes, and what it begins. -/
def first (b : UInt8) : List Char × Option Begun :=
  if b < 0x80 then ([Char.ofNat b.toNat], none)
  else match begin? b with
    | some begun => ([], some begun)
    | none => ([replacement], none)

/-- What a byte completes after a character that has begun, and what it leaves begun. -/
def Begun.step (begun : Begun) (b : UInt8) : List Char × Option Begun :=
  if begun.least ≤ b ∧ b ≤ begun.most then
    let bits := 64 * begun.bits + (b.toNat - 0x80)
    match begun.owed with
    | 0 => ([Char.ofNat bits], none)
    | owed + 1 => ([], some { owed, bits })
  else
    let (chars, next) := first b
    (replacement :: chars, next)

/-- The text of bytes after a character that may have begun. -/
def textFrom (begun : Option Begun) : List UInt8 → List Char
  | [] => if begun.isSome then [replacement] else []
  | b :: rest =>
    let (chars, next) :=
      match begun with
      | none => first b
      | some begun => begun.step b
    chars ++ textFrom next rest

def lossyText (bytes : List UInt8) : String := String.ofList (textFrom none bytes)

end Utf8

/-! ## URLs -/

structure Url where
  scheme : String
  host : Option String
  /-- The number after the host, which picks a service on it. -/
  number : Option Nat
  query : String
deriving DecidableEq

inductive UrlProblem where
  | relative
  | host (p : Url.HostProblem)
  | badNumber
deriving DecidableEq

def UrlProblem.text : UrlProblem → String
  | relative => "relative URL without a base"
  | host p => p.text
  | badNumber => "invalid port number"

namespace Url

/-! ## Parts -/

/-- Blanks and controls around a URL do not count, nor do line breaks and tabs in it. -/
def clean (text : List Char) : List Char :=
  let trimmed := (text.dropWhile (· ≤ ' ')).reverse.dropWhile (· ≤ ' ') |>.reverse
  trimmed.filter fun c => c ≠ '\t' && c ≠ '\n' && c ≠ '\r'

def isSchemeChar (c : Char) : Bool := c.isAlphanum || c = '+' || c = '-' || c = '.'

/-- The scheme in lower case, and what follows its colon. -/
def splitScheme? (text : List Char) : Option (String × List Char) :=
  let scheme := text.takeWhile isSchemeChar
  match scheme.head?, text.drop scheme.length with
  | some c, ':' :: rest =>
    if c.isAlpha then some (String.ofList (scheme.map Char.toLower), rest) else none
  | _, _ => none

/-- How a scheme treats the host. -/
inductive SchemeKind where
  /-- Always with the name of a domain or an address. A backslash is a slash. -/
  | web
  /-- Perhaps with such a host, to which no connection leads. A backslash is a slash. -/
  | file
  /-- Perhaps with a host, which may be any text. -/
  | other
deriving DecidableEq

def webSchemes : List String := ["http", "https", "ws", "wss", "ftp"]

def SchemeKind.of (scheme : String) : SchemeKind :=
  if scheme = "file" then .file else if scheme ∈ webSchemes then .web else .other

def isSlash (kind : SchemeKind) (c : Char) : Bool := c = '/' || (kind ≠ .other && c = '\\')

/-! ## Hosts -/

/-- What ends the part of a URL with the host. -/
def endsAuthority (kind : SchemeKind) (c : Char) : Bool := isSlash kind c || c = '?' || c = '#'

/-- What comes before the last at sign, and what after it. -/
def splitUser (authority : List Char) : List Char × List Char :=
  let host := authority.reverse.takeWhile (· ≠ '@') |>.reverse
  (authority.take (authority.length - host.length - 1), host)

/-- A name without a password after its colon is no user if it is empty. -/
def hasUser (user : List Char) : Bool := user ≠ [] && user ≠ [':']

/-- The host, and what comes after a colon that is not within brackets. -/
def splitNumber (inBrackets : Bool) : List Char → List Char × Option (List Char)
  | [] => ([], none)
  | c :: rest =>
    if c = ':' ∧ !inBrackets then ([], some rest)
    else
      let (host, number) := splitNumber (if c = '[' then true else inBrackets && c ≠ ']') rest
      (c :: host, number)

/-- The number of a service is at most 65535, and may end with a backslash. An empty one is none. -/
def readNumber (text : List Char) : Except UrlProblem (Option Nat) :=
  match text.takeWhile (· ≠ '\\') with
  | [] => .ok none
  | digits =>
    match readNat? digits with
    | some n => if n ≤ 65535 then .ok (some n) else .error .badNumber
    | none => .error .badNumber

/-- Reads the part with the host. What comes after that part matters to an at sign alone. -/
def ofAuthority (scheme query : String) (isWeb : Bool) (authority rest : List Char) :
    Except UrlProblem Url := do
  if authority = ['@'] ∧ rest ≠ [] then .error (.host .empty)
  let (user, service) := splitUser authority
  let (host, number) := splitNumber false service
  if host = [] ∧ (isWeb ∨ number.isSome ∨ hasUser user) then .error (.host .empty)
  (checkHost isWeb host).mapError .host
  let number ← readNumber (number.getD [])
  return ⟨scheme, if host = [] then none else some (String.ofList host), number, query⟩

/-! ## Files -/

/-- A letter with a colon or a bar names a drive. -/
def isDrive : List Char → Bool
  | [c, mark] => c.isAlpha && (mark = ':' || mark = '|')
  | _ => false

/-- The host of a file, which comes after two slashes. A drive is none. -/
def fileHost : List Char → List Char
  | a :: b :: rest =>
    let host := rest.takeWhile (!endsAuthority .file ·)
    if isSlash .file a && isSlash .file b && !isDrive host then host else []
  | _ => []

/-- The host of a file is checked, and left out. -/
def ofFile (scheme query : String) (rest : List Char) : Except UrlProblem Url := do
  let host := fileHost rest
  if host ≠ [] then (checkHost true host).mapError .host
  return ⟨scheme, none, none, query⟩

/-! ## The whole -/

def queryOf (text : List Char) : String :=
  String.ofList (((text.takeWhile (· ≠ '#')).dropWhile (· ≠ '?')).drop 1)

def parse (text : String) : Except UrlProblem Url :=
  match splitScheme? (clean text.toList) with
  | none => .error .relative
  | some (scheme, rest) =>
    let kind := SchemeKind.of scheme
    let query := queryOf rest
    let ofRest (rest : List Char) : Except UrlProblem Url :=
      let authority := rest.takeWhile (!endsAuthority kind ·)
      ofAuthority scheme query (kind = .web) authority (rest.drop authority.length)
    match kind, rest with
    | .file, rest => ofFile scheme query rest
    | .web, rest => ofRest (rest.dropWhile (isSlash kind))
    | .other, '/' :: '/' :: rest => ofRest rest
    | .other, _ => .ok ⟨scheme, none, none, query⟩

/-! ## Queries -/

/-- What a text in a query says. A plus is a blank. -/
def queryText (text : List Char) : String :=
  Utf8.lossyText (percentBytes (text.map fun c => if c = '+' then ' ' else c))

def pairs (u : Url) : List (String × String) :=
  ((pieces (· = '&') u.query.toList).filter (· ≠ [])).map fun pair =>
    (queryText (pair.takeWhile (· ≠ '=')), queryText ((pair.dropWhile (· ≠ '=')).drop 1))

end Url

end SchemaMigration
