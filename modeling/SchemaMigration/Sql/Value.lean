import SchemaMigration.Number.Binary64
import SchemaMigration.Text.Numeral

/-!
# Values and rows

One type of value for bound parameters and for result columns. The server has no type of its own for
truth values and may send a number as text, so a column is read by what its value can stand for.
-/

namespace SchemaMigration

/-!
## Errors

Why a call to the database failed, or why a column of its answer cannot be read.
-/

/-- A failure of the database, by where it showed. -/
inductive DbError where
  | connection (message : String)
  | execution (message : String)
  | transaction (message : String)
  | typeMismatch (column : Nat) (expected found : String)
  | missingColumn (column : Nat)
  | server (code : Nat) (state message : String)
deriving DecidableEq

namespace DbError

/-- An error as the server words it. -/
def serverText (code : Nat) (state message : String) : String :=
  "ERROR " ++ state ++ " (" ++ decimalText code ++ "): " ++ message

def message : DbError → String
  | connection m => "[D001] Database connection failed: " ++ m
  | execution m => "[D002] SQL execution failed: " ++ m
  | transaction m => "[D003] Transaction failed: " ++ m
  | typeMismatch column expected found =>
    "[D004] Expected " ++ expected ++ " in column " ++ decimalText column ++ ", found " ++ found
  | missingColumn column => "[D005] Row has no column " ++ decimalText column
  | server code state m => "[D006] MySQL error: Server error: `" ++ serverText code state m ++ "'"

/-- The texts of an error and of what is behind it. Only the server has more to tell. -/
def chain : DbError → List String
  | server code state m =>
    [(server code state m).message, "Server error: `" ++ serverText code state m ++ "'",
      serverText code state m]
  | e => [e.message]

end DbError

/-! ## Values -/

instance decideBytes : DecidableEq ByteArray := fun a b =>
  decidable_of_iff (a.data = b.data) ⟨ByteArray.ext, congrArg ByteArray.data⟩

/-- A value that is bound to a placeholder or read from a column. -/
inductive SqlValue where
  | null
  | bool (b : Bool)
  | int (i : Int64)
  | uint (u : UInt64)
  | double (d : Binary64)
  | text (s : String)
  | bytes (b : ByteArray)
deriving DecidableEq

abbrev Row := List SqlValue

def fitsInt64 (n : Int) : Bool :=
  decide (-9223372036854775808 ≤ n) && decide (n < 9223372036854775808)

/-- A number as a signed one of 64 bits, if it is in range. -/
def int64Of? (n : Int) : Option Int64 := if fitsInt64 n then some (Int64.ofInt n) else none

namespace SqlValue

/-- A number is true unless it is zero. Of texts, only the two digits that a truth column sends. -/
def asBool : SqlValue → Option Bool
  | bool b => some b
  | int i => some (i ≠ 0)
  | uint u => some (u ≠ 0)
  | text s => if s = "0" then some false else if s = "1" then some true else none
  | _ => none

def asText : SqlValue → Option String
  | text s => some s
  | _ => none

/-- A text counts when it is digits with at most one sign in front, in range. -/
def asInt : SqlValue → Option Int64
  | int i => some i
  | uint u => int64Of? u.toNat
  | bool b => some (if b then 1 else 0)
  | text s => (readInt? s.toList).bind int64Of?
  | _ => none

def isNull : SqlValue → Bool
  | null => true
  | _ => false

def describe : SqlValue → String
  | null => "NULL"
  | bool b => "bool " ++ truthText b
  | int i => "int " ++ signedText i.toInt
  | uint u => "uint " ++ decimalText u.toNat
  | double d => "double " ++ d.text
  | text s => "text '" ++ s ++ "'"
  | bytes b => decimalText b.size ++ " bytes"

end SqlValue

namespace Row

/-- A column by its place, from zero. -/
def column (row : Row) (i : Nat) : Except DbError SqlValue :=
  match row[i]? with
  | some v => .ok v
  | none => .error (.missingColumn i)

/-- Reads a column by what its value can stand for. -/
def read {α : Type} (row : Row) (i : Nat) (expected : String) (view : SqlValue → Option α) :
    Except DbError α := do
  let v ← row.column i
  match view v with
  | some a => .ok a
  | none => .error (.typeMismatch i expected v.describe)

def getText (row : Row) (i : Nat) : Except DbError String := row.read i "text" SqlValue.asText

def getText? (row : Row) (i : Nat) : Except DbError (Option String) := do
  let v ← row.column i
  if v.isNull then return none
  else return some (← row.getText i)

def getBool (row : Row) (i : Nat) : Except DbError Bool := row.read i "boolean" SqlValue.asBool

def getInt (row : Row) (i : Nat) : Except DbError Int64 := row.read i "integer" SqlValue.asInt

end Row

/-- What a statement reports of itself. -/
structure ExecResult where
  rowsAffected : UInt64 := 0
  lastInsertId : Option UInt64 := none
deriving DecidableEq

end SchemaMigration
