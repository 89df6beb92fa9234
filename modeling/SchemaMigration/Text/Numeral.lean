/-!
# Numbers as text

Whole numbers in decimal and in hexadecimal digits, and truth values as words.
-/

namespace SchemaMigration

/-! ## Powers -/

def twoTo (n : Nat) : Nat := Nat.pow 2 n

def tenTo (n : Nat) : Nat := Nat.pow 10 n

/-!
## Decimal digits

Writing gives no leading zeros unless a width asks for them; reading takes any number of them.
-/

def digitChar (n : Nat) : Char := Char.ofNat (48 + n % 10)

/-- The digits of a number, without zeros in front. -/
def decimalDigits (n : Nat) : List Char :=
  if n < 10 then [digitChar n] else decimalDigits (n / 10) ++ [digitChar n]
termination_by n

/-- At least as many digits as the width says. -/
def paddedDigits (width n : Nat) : List Char :=
  let digits := decimalDigits n
  List.replicate (width - digits.length) '0' ++ digits

def decimalText (n : Nat) : String := String.ofList (decimalDigits n)

def paddedText (width n : Nat) : String := String.ofList (paddedDigits width n)

def signedText : Int → String
  | .ofNat n => decimalText n
  | .negSucc n => "-" ++ decimalText (n + 1)

def digitValue (c : Char) : Nat := c.toNat - 48

def digitsValue (digits : List Char) : Nat := digits.foldl (fun n c => 10 * n + digitValue c) 0

/-- Digits and nothing else, one at least. -/
def readNat? (text : List Char) : Option Nat :=
  if text ≠ [] ∧ text.all Char.isDigit then some (digitsValue text) else none

/-- Digits with at most one sign in front. -/
def readInt? : List Char → Option Int
  | '+' :: digits => (readNat? digits).map Int.ofNat
  | '-' :: digits => (readNat? digits).map fun n => -(n : Int)
  | digits => (readNat? digits).map Int.ofNat

/-!
## Hexadecimal digits

Lower-case digits, most significant first.
-/

def hexDigit (n : Nat) : Char :=
  if n % 16 < 10 then Char.ofNat (48 + n % 16) else Char.ofNat (87 + n % 16)

/-- As many digits as the width says. Higher ones are left out. -/
def hexDigits : Nat → Nat → List Char
  | 0, _ => []
  | width + 1, n => hexDigits width (n / 16) ++ [hexDigit n]

/-- A number in as few digits as it takes. -/
def hexText (n : Nat) : String :=
  String.ofList (hexDigits (max 1 ((n.log2 + 4) / 4)) n)

/-- The value of a digit, in either case. -/
def hexValue? (c : Char) : Option Nat :=
  if c.isDigit then some (c.toNat - 48)
  else if 'a' ≤ c ∧ c ≤ 'f' then some (c.toNat - 87)
  else if 'A' ≤ c ∧ c ≤ 'F' then some (c.toNat - 55)
  else none

/-- Digits and nothing else, one at least. -/
def readHex? (digits : List Char) : Option Nat :=
  if digits = [] then none
  else digits.foldlM (fun n c => (hexValue? c).map (16 * n + ·)) 0

def hexOfBytes (bytes : ByteArray) : String :=
  String.ofList (bytes.toList.flatMap fun b => hexDigits 2 b.toNat)

/-- Two digits for each byte. -/
def bytesOfHex? : List Char → Option (List UInt8)
  | [] => some []
  | [_] => none
  | high :: low :: rest => do
    let n ← readHex? [high, low]
    let bytes ← bytesOfHex? rest
    return UInt8.ofNat n :: bytes

/-! ## Truth values -/

def truthText (b : Bool) : String := if b then "true" else "false"

end SchemaMigration
