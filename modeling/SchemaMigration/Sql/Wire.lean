import SchemaMigration.Sql.Value
import SchemaMigration.Config.Options

/-!
# Values on the wire

The server's protocol has more kinds of values than the engine. Texts travel as bytes, truth values
as integers; dates and times arrive as fields and are read as text with fixed widths.
-/

namespace SchemaMigration

inductive WireValue where
  | null
  | bytes (b : ByteArray)
  | int (i : Int64)
  | uint (u : UInt64)
  | float (f : Binary32)
  | double (d : Binary64)
  | date (year : UInt16) (month day hour minute second : UInt8) (micros : UInt32)
  | time (negative : Bool) (days : UInt32) (hours minutes seconds : UInt8) (micros : UInt32)
deriving DecidableEq

/-- A date and a time of day, with its fields at fixed widths. -/
def dateText (year : UInt16) (month day hour minute second : UInt8) (micros : UInt32) : String :=
  paddedText 4 year.toNat ++ "-" ++ paddedText 2 month.toNat ++ "-" ++ paddedText 2 day.toNat ++
    " " ++ paddedText 2 hour.toNat ++ ":" ++ paddedText 2 minute.toNat ++ ":" ++
    paddedText 2 second.toNat ++ "." ++ paddedText 6 micros.toNat

/-- Days count as hours. -/
def timeText (negative : Bool) (days : UInt32) (hours minutes seconds : UInt8) (micros : UInt32) :
    String :=
  (if negative then "-" else "") ++ paddedText 2 (days.toNat * 24 + hours.toNat) ++ ":" ++
    paddedText 2 minutes.toNat ++ ":" ++ paddedText 2 seconds.toNat ++ "." ++
    paddedText 6 micros.toNat

def SqlValue.toWire : SqlValue → WireValue
  | .null => .null
  | .bool b => .int (if b then 1 else 0)
  | .int i => .int i
  | .uint u => .uint u
  | .double d => .double d
  | .text s => .bytes s.toUTF8
  | .bytes b => .bytes b

/-- How a column arrives. Bytes that are UTF-8 are text. -/
def WireValue.toSql : WireValue → SqlValue
  | .null => .null
  | .bytes b =>
    match String.fromUTF8? b with
    | some s => .text s
    | none => .bytes b
  | .int i => .int i
  | .uint u => .uint u
  | .float f => .double f.widen
  | .double d => .double d
  | .date year month day hour minute second micros =>
    .text (dateText year month day hour minute second micros)
  | .time negative days hours minutes seconds micros =>
    .text (timeText negative days hours minutes seconds micros)

/-- The parameters of a call. A call without any has no list of them. -/
def wireParams (params : List SqlValue) : Option (List WireValue) :=
  if params = [] then none else some (params.map SqlValue.toWire)

/-- How a transaction begins on the wire. Only a read-only one says whether it is. -/
structure WireTx where
  isolationLevel : Option IsolationLevel
  readOnly : Option Bool
  consistentSnapshot : Bool
deriving DecidableEq

def TxOptions.toWire (o : TxOptions) : WireTx where
  isolationLevel := o.isolationLevel
  readOnly := if o.readOnly then some true else none
  consistentSnapshot := false

end SchemaMigration
