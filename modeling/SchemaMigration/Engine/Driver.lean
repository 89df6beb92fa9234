import SchemaMigration.Engine.Error
import SchemaMigration.Engine.Program
import SchemaMigration.Lock.Name
import SchemaMigration.Migration.Basic
import SchemaMigration.Text.CharClass

/-!
# Drivers

Options whose names have all been checked. Everything that a driver does starts from one of these.
The tracking table has one row for each migration that was attempted, replaced by every attempt. It
is made ready, read into migrations, and written within the transaction that it reports on.
-/

namespace SchemaMigration

/-- Options, with the checked names that the statements of the driver use. -/
structure Driver where
  options : Options
  tracking : TrackingTable
  /-- Each transaction of a migration switches to this schema first. -/
  schemaOverride : Option Identifier

namespace Driver

def typeName : String := "mysql"

/-- The schema override of the options, checked if there is one. -/
def overrideOf (options : Options) : Except ConfigError (Option Identifier) :=
  match options.schemaOverride with
  | none => .ok none
  | some schema => do return some (← Identifier.parse schema .schemaOverride)

/-- The tracking table is checked first. It need not be the one that the options name. -/
def check (tracking : Except ConfigError TrackingTable) (options : Options) :
    Except ConfigError Driver := do
  let tracking ← tracking
  let schemaOverride ← overrideOf options
  return { options, tracking, schemaOverride }

/-- An unqualified table is found through the override, in each transaction. -/
def create (databaseType : String) (tracking : Except ConfigError TrackingTable)
    (options : Options) : Program (Except MigrateError Driver) :=
  match check tracking options with
  | .error e => return .error (.configuration e)
  | .ok d => do
    if let (none, some schema) := (d.tracking.schema, d.schemaOverride) then
      Program.warn ("Tracking table " ++ d.tracking.text ++
        " is unqualified; status rows are written under schema " ++ schema.text)
    Program.debug ("Creating MySQL driver on " ++ databaseType ++ " database: tracking table " ++
      d.tracking.text ++ ", schema override " ++
      quotedOption (d.schemaOverride.map Identifier.text))
    return .ok d

/-- The lock that whoever writes this tracking table takes first. -/
def lockName (d : Driver) : String := d.tracking.lockName

/-! ## Making it ready -/

/-- A qualified table has its schema made first. -/
def ensureTracking (d : Driver) : Program (Except MigrateError Unit) := do
  let failed (operation : String) (e : DbError) : MigrateError :=
    .tracking d.tracking.text operation e
  let createTable : Program (Except MigrateError Unit) := do
    match ← Program.perform (.execute none (.createTracking d.tracking)) with
    | .error e => return .error (failed "create table" e)
    | .ok _ =>
      Program.info ("Tracking table " ++ d.tracking.text ++ " is ready")
      return .ok ()
  match d.tracking.schema with
  | none => createTable
  | some schema =>
    Program.debug ("Ensuring tracking schema " ++ schema.text ++ " exists")
    match ← Program.perform (.execute none (.createSchema schema)) with
    | .error e => return .error (failed "create schema" e)
    | .ok _ => createTable

end Driver

/-! ## Reading it -/

structure RecordedStatus where
  name : MigrationName
  done : Bool
deriving DecidableEq

/-- Reads a row by its first three columns, in order. -/
def RecordedStatus.ofRow (row : Row) : Except DbError RecordedStatus := do
  let library ← row.getText 0
  let name ← row.getText 1
  let done ← row.getBool 2
  return ⟨⟨library, name⟩, done⟩

/-- Changes the last migration of a name. -/
def setLast (ms : List Migration) (name : MigrationName) (status : MigrationStatus) :
    List Migration :=
  match ms with
  | [] => []
  | m :: rest =>
    if m.name = name ∧ rest.all (·.name ≠ name) then { m with status } :: rest
    else m :: setLast rest name status

/-- The migrations so far, as the rows that were taken in have left them. -/
structure LoadState where
  migrations : List Migration
  /-- Names recorded as done that no migration has, in the order of their rows. -/
  drifted : List MigrationName := []

namespace LoadState

def knows (st : LoadState) (name : MigrationName) : Bool := st.migrations.any (·.name = name)

/-- A row does not say why an attempt failed. -/
def record (st : LoadState) (r : RecordedStatus) : LoadState :=
  if st.knows r.name then
    { st with migrations := setLast st.migrations r.name { done := r.done } }
  else if r.done then { st with drifted := st.drifted ++ [r.name] }
  else st

/-- Takes in rows up to the first that cannot be read. -/
def recordRows (tracking : TrackingTable) (st : LoadState) :
    List Row → Program (LoadState × Option DbError)
  | [] => return (st, none)
  | row :: rest =>
    match RecordedStatus.ofRow row with
    | .error e => return (st, some e)
    | .ok r => do
      if r.done && !st.knows r.name then
        Program.warn ("Migration " ++ r.name.text ++ " is recorded as done in " ++
          tracking.text ++ " but is not defined")
      recordRows tracking (st.record r) rest

end LoadState

/-- What loading gives: the migrations as they are now, also if it failed, and the drifted names. -/
structure Loaded where
  migrations : List Migration
  result : Except MigrateError (List MigrationName)

/-- Reads the whole table into copies of the migrations, one row after the other. -/
def Driver.loadStatuses (d : Driver) (migrations : List Migration) : Program Loaded := do
  let failed (e : DbError) : MigrateError := .tracking d.tracking.text "load statuses" e
  match ← Program.perform (.query none (.loadStatuses d.tracking) []) with
  | .error e => return ⟨migrations, .error (failed e)⟩
  | .ok rows =>
    match ← LoadState.recordRows d.tracking { migrations } rows with
    | (st, some e) => return ⟨st.migrations, .error (failed e)⟩
    | (st, none) =>
      Program.info ("Loaded " ++ decimalText rows.length ++ " migration statuses from " ++
        d.tracking.text ++ " (" ++ decimalText st.drifted.length ++ " unknown completed)")
      return ⟨st.migrations, .ok st.drifted⟩

/-! ## Writing it -/

/-- The values that a row is written with. A success has an empty error. -/
def statusParams (name : MigrationName) (done : Bool) (error : String) : List SqlValue :=
  [.text name.library, .text name.name, .bool done, .text error]

def Driver.saveStatus (d : Driver) (s : SessionId) (name : MigrationName) (done : Bool)
    (error : String) : Program (Except DbError Unit) := do
  Program.info ("Saving migration status: migration=" ++ name.text ++ " done=" ++
    truthText done ++ " error=" ++ error)
  return (← Program.perform (.executeWith s (.saveStatus d.tracking)
    (statusParams name done error))).map fun _ => ()

end SchemaMigration
