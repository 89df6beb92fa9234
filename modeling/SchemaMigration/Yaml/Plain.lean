import SchemaMigration.Number.Binary64
import SchemaMigration.Text.Numeral
import SchemaMigration.Text.CharClass

/-!
# What a plain scalar is

A plain scalar is a null, a truth value, a whole number, a floating point number or a text, by how
it looks. Only errors need to know which: whoever asks for a text gets it as it stands.
-/

namespace SchemaMigration.Yaml

inductive PlainValue where
  | null
  | truth (b : Bool)
  | integer (n : Int)
  | number (x : Binary64)
  | text (s : String)
deriving DecidableEq

/-! ## Nulls and truth values -/

def isNullWord (s : String) : Bool := s = "null" || s = "Null" || s = "NULL" || s = "~"

def truthWord? (s : String) : Option Bool :=
  if s = "true" ∨ s = "True" ∨ s = "TRUE" then some true
  else if s = "false" ∨ s = "False" ∨ s = "FALSE" then some false
  else none

/-! ## Whole numbers -/

def unsigned : List Char → List Char
  | '+' :: rest | '-' :: rest => rest
  | text => text

/-- Digits with a zero in front of them are a text. -/
def isZeroPadded (text : List Char) : Bool :=
  match unsigned text with
  | '0' :: c :: rest => (c :: rest).all Char.isDigit
  | _ => false

/-- Digits of a base and nothing else, one at least. -/
def readBase? (base : Nat) (digits : List Char) : Option Nat :=
  if digits = [] then none
  else digits.foldlM (fun n c => do
    let d ← hexValue? c
    if d < base then some (base * n + d) else none) 0

/-- A number in a base that its first two characters name. -/
def readBased? : List Char → Option Nat
  | '0' :: 'x' :: digits => readBase? 16 digits
  | '0' :: 'o' :: digits => readBase? 8 digits
  | '0' :: 'b' :: digits => readBase? 2 digits
  | _ => none

/-- A whole number without a sign. -/
def readMagnitude? (zeroPadded : Bool) (text : List Char) : Option Nat :=
  (readBased? text).or (if zeroPadded then none else readNat? text)

/-- A whole number with at most one sign. -/
def readInteger? (text : List Char) : Option Int :=
  let padded := isZeroPadded text
  match text with
  | '-' :: rest => (readMagnitude? padded rest).map fun n => -(n : Int)
  | '+' :: rest => (readMagnitude? padded rest).map Int.ofNat
  | rest => (readMagnitude? padded rest).map Int.ofNat

/-- Whole numbers beyond 128 bits are read as floating point. -/
def fitsInteger (n : Int) : Bool := decide (-(twoTo 127 : Int) ≤ n) && decide (n < twoTo 128)

/-! ## Floating point -/

/-- An exponent, or nothing. -/
def readExponent? : List Char → Option Int
  | [] => some 0
  | c :: rest => if c = 'e' ∨ c = 'E' then readInt? rest else none

/-- Digits with at most one point among them or around them, and an exponent. -/
def readDecimal? (text : List Char) : Option Decimal := do
  let whole := text.takeWhile Char.isDigit
  let afterWhole := text.drop whole.length
  let (fraction, afterFraction) := match afterWhole with
    | '.' :: rest => (rest.takeWhile Char.isDigit, rest.dropWhile Char.isDigit)
    | rest => ([], rest)
  if whole = [] ∧ fraction = [] then none
  else
    let exponent ← readExponent? afterFraction
    return ⟨digitsValue (whole ++ fraction), exponent - fraction.length⟩

def readFinite? (text : List Char) : Option Binary64 :=
  match text with
  | '-' :: rest => do (← readDecimal? rest).toBinary64? true
  | rest => do (← readDecimal? rest).toBinary64? false

def infinity (negative : Bool) : Binary64 := .ofFields negative 2047 0

def quietNan : Binary64 := .ofFields false 2047 (twoTo 51)

/-- A number, infinity or no number, by the words that name those. -/
def readFloat? (s : String) : Option Binary64 :=
  if s ∈ [".inf", ".Inf", ".INF", "+.inf", "+.Inf", "+.INF"] then some (infinity false)
  else if s ∈ ["-.inf", "-.Inf", "-.INF"] then some (infinity true)
  else if s ∈ [".nan", ".NaN", ".NAN"] then some quietNan
  else match s.toList with
    | '+' :: '-' :: _ => none
    | '+' :: rest => readFinite? rest
    | rest => readFinite? rest

/-! ## All of them -/

/-- What a text looks like. The first reading that fits is the one. -/
def PlainValue.ofText (s : String) : PlainValue :=
  if s = "" ∨ isNullWord s then .null
  else match truthWord? s with
    | some b => .truth b
    | none =>
      match (readInteger? s.toList).filter fitsInteger with
      | some n => .integer n
      | none =>
        if isZeroPadded s.toList then .text s
        else match readFloat? s with
          | some x => .number x
          | none => .text s

def pointedText (x : Binary64) : String :=
  match x.magnitude with
  | .finite _ _ => if x.text.toList.contains '.' then x.text else x.text ++ ".0"
  | .infinite | .nan => x.text

/-- Numbers that 64 bits do not hold are said to be wider. -/
def integerText (n : Int) : String :=
  "integer `" ++ signedText n ++ "`" ++
    if (twoTo 64 : Int) ≤ n then " as u128" else if n < -(twoTo 63 : Int) then " as i128" else ""

def PlainValue.describe : PlainValue → String
  | null => "unit value"
  | truth b => "boolean `" ++ truthText b ++ "`"
  | integer n => integerText n
  | number x => "floating point `" ++ pointedText x ++ "`"
  | text s => "string " ++ quoted s

end SchemaMigration.Yaml
