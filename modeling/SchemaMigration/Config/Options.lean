import SchemaMigration.Name

/-!
# Options

What every operation of a driver is configured with: where statuses are kept, which schema a
migration runs in, and how its transactions begin.
-/

namespace SchemaMigration

/-- Whether a record takes fields that it does not declare. -/
inductive UnknownFields where
  | refused
  | skipped
deriving DecidableEq

/-- How much a transaction may see of others. -/
inductive IsolationLevel where
  | readUncommitted
  | readCommitted
  | repeatableRead
  | serializable
deriving DecidableEq

namespace IsolationLevel

def text : IsolationLevel → String
  | readUncommitted => "read_uncommitted"
  | readCommitted => "read_committed"
  | repeatableRead => "repeatable_read"
  | serializable => "serializable"

def all : List IsolationLevel := [readUncommitted, readCommitted, repeatableRead, serializable]

/-- The level that a word stands for. Words are told apart by case. -/
def ofText? (s : String) : Option IsolationLevel := all.find? (·.text = s)

theorem ofText?_text (level : IsolationLevel) : ofText? level.text = some level := by
  cases level <;> decide

end IsolationLevel

/-- How a transaction begins. Without a level, the server's default holds. -/
structure TxOptions where
  isolationLevel : Option IsolationLevel := none
  readOnly : Bool := false
deriving DecidableEq

/-- The fields that a configuration may leave out, each with its default. -/
structure Options where
  trackingTable : String := "libschema.migration_status"
  /--
  The schema that each migration transaction switches to first. The switch outlives a transaction
  on a shared connection, so it is made again in each one.
  -/
  schemaOverride : Option String := none
  migrationTx : TxOptions := {}
deriving DecidableEq

namespace Options

/-- The tracking table that the options name, checked. -/
def tracking (o : Options) : Except ConfigError TrackingTable :=
  TrackingTable.parse o.trackingTable

/-- Checks every name that these options put into SQL text, the tracking table first. -/
def validate (o : Options) : Except ConfigError Unit := do
  let _ ← o.tracking
  match o.schemaOverride with
  | none => return ()
  | some schema => Identifier.validate schema .schemaOverride

end Options

end SchemaMigration
