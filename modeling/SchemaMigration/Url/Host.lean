import SchemaMigration.Text.Numeral
import SchemaMigration.Text.Pieces
import SchemaMigration.Url.Domain.Label

/-!
# Hosts in a URL

A host between brackets is a long address. Any other one is a text without the characters that mean
something elsewhere in a URL; where hosts are domains, it is the name of one or a short address.
-/

namespace SchemaMigration.Url

/-!
## Bytes

A percent sign and two hexadecimal digits write one byte. Any other character writes its own bytes.
-/

/-- The bytes that a text writes. A percent sign without digits writes itself. -/
def percentBytes : List Char → List UInt8
  | [] => []
  | '%' :: a :: b :: rest =>
    match readHex? [a, b] with
    | some n => UInt8.ofNat n :: percentBytes rest
    | none => 37 :: percentBytes (a :: b :: rest)
  | c :: rest => c.toString.toUTF8.toList ++ percentBytes rest

/-! ## Short addresses -/

def isOctalDigit (c : Char) : Bool := '0' ≤ c && c ≤ '7'

def readOctal? (digits : List Char) : Option Nat :=
  if digits.all isOctalDigit then some (digits.foldl (fun n c => 8 * n + digitValue c) 0) else none

/-- A number in base ten, after a zero in base eight, and after a zero and an x in base sixteen. -/
def readPart? : List Char → Option Nat
  | '0' :: 'x' :: digits => if digits = [] then some 0 else readHex? digits
  | '0' :: c :: digits => readOctal? (c :: digits)
  | digits => readNat? digits

/-- A dot at the end of a name does not count. -/
def withoutLastDot (parts : List (List Char)) : List (List Char) :=
  if 1 < parts.length ∧ parts.getLast? = some [] then parts.dropLast else parts

/-- A name whose last part is a number must be a short address. -/
def endsInNumber (parts : List (List Char)) : Bool :=
  match (withoutLastDot parts).getLast? with
  | none => false
  | some last => (readNat? last).isSome || (readPart? last).isSome

/-- Each number but the last is one byte. The last one takes the bytes that are left of four. -/
def numbersFit (numbers : List Nat) : Bool :=
  numbers.dropLast.all (· < 256) &&
    numbers.getLast?.any (· < twoTo (8 * (5 - numbers.length)))

/-- Whether the parts of a name make an address of four bytes. -/
def isShortAddress (parts : List (List Char)) : Bool :=
  let parts := withoutLastDot parts
  parts.length ≤ 4 && (parts.mapM readPart?).any numbersFit

/-! ## Long addresses -/

def isGroup (text : List Char) : Bool := text.length ≤ 4 && (readHex? text).isSome

/-- A number of at most 255 without a zero in front of it. -/
def isByte (text : List Char) : Bool :=
  match readNat? text with
  | none => false
  | some n => n ≤ 255 && text.length = (decimalDigits n).length

/-- Whether a text is four bytes with dots, which make two groups. -/
def isGroupPair (text : List Char) : Bool :=
  let parts := pieces (· = '.') text
  parts.length = 4 && parts.all isByte

/-- How many groups a list of them stands for, where the last may be a pair. -/
def groupCount? : List (List Char) → Option Nat
  | [] => some 0
  | [last] => if isGroup last then some 1 else if isGroupPair last then some 2 else none
  | group :: rest => if isGroup group then (groupCount? rest).map (· + 1) else none

/-- What stands before the first gap, and what after it. -/
def splitAtGap (before : List Char) : List Char → Option (List Char × List Char)
  | ':' :: ':' :: after => some (before, after)
  | c :: rest => splitAtGap (before ++ [c]) rest
  | [] => none

def groupsOf (text : List Char) : List (List Char) :=
  if text = [] then [] else pieces (· = ':') text

/-- Eight groups, or fewer with one gap that stands for the missing ones. -/
def isLongAddress (text : List Char) : Bool :=
  match splitAtGap [] text with
  | none => groupCount? (pieces (· = ':') text) = some 8
  | some (before, after) =>
    match groupCount? (groupsOf before), groupCount? (groupsOf after) with
    | some m, some n => m + n ≤ 7 && (groupsOf before).all isGroup
    | _, _ => false

/-! ## Hosts -/

inductive HostProblem where
  | empty
  | badCharacter
  | badName
  | badShortAddress
  | badLongAddress
deriving DecidableEq

def HostProblem.text : HostProblem → String
  | empty => "empty host"
  | badCharacter => "invalid domain character"
  | badName => "invalid international domain name"
  | badShortAddress => "invalid IPv4 address"
  | badLongAddress => "invalid IPv6 address"

/-- Characters that mean something elsewhere in a URL. -/
def isForbidden (c : Char) : Bool :=
  c = '\x00' || c = '\t' || c = '\n' || c = '\r' || c = ' ' || c = '#' || c = '/' || c = ':' ||
    c = '<' || c = '>' || c = '?' || c = '@' || c = '[' || c = '\\' || c = ']' || c = '^' || c = '|'

/-- The labels of the domain that a text names, with some of its bytes written by number. -/
def domainLabels? (text : List Char) : Option (List (List Char)) := do
  let name ← String.fromUTF8? ⟨(percentBytes text).toArray⟩
  Domain.labels? name.toList

/-- A name may come out empty, as some characters count for nothing in it. -/
def checkDomain (text : List Char) : Except HostProblem Unit :=
  match domainLabels? text with
  | none => .error .badName
  | some labels =>
    if labels = [[]] then .error .empty
    else if endsInNumber labels ∧ !isShortAddress labels then .error .badShortAddress
    else .ok ()

/-- Checks a host by how it is written, and by the name in it where hosts are domains. -/
def checkHost (isDomain : Bool) (text : List Char) : Except HostProblem Unit :=
  match text with
  | '[' :: rest =>
    if rest.getLast? = some ']' ∧ isLongAddress rest.dropLast then .ok ()
    else .error .badLongAddress
  | text =>
    if isDomain then checkDomain text
    else if text.any isForbidden then .error .badCharacter
    else .ok ()

end SchemaMigration.Url
