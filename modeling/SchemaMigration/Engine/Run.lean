import SchemaMigration.Engine.Driver
import SchemaMigration.Script.Analysis

/-!
# Running a migration

A script that cannot be tried again is refused before it is sent. The outcome is always recorded:
within the migration's own transaction when it succeeds, and in a second one, after the first has
been rolled back, when it fails. When that fails too, the error is fatal and holds both failures.
-/

namespace SchemaMigration

/-- Rolls back on the way out. That this fails too is only logged. -/
def rollbackQuietly (name : MigrationName) (s : SessionId) : Program Unit := do
  match ← Program.perform (.rollback s) with
  | .ok _ => return ()
  | .error e =>
    Program.debug ("Rollback of migration " ++ name.text ++ " failed: " ++ e.message)

/-! ## Entering a transaction -/

/-- Why no transaction was entered: the step that failed, and its text if it had one. -/
structure EntryFailure where
  phase : Phase
  sql : Option String
  cause : DbError
deriving DecidableEq

/-- Begins a transaction and switches it to the schema override, if there is one. -/
def Driver.enter (d : Driver) (name : MigrationName) :
    Program (Except EntryFailure SessionId) := do
  match ← Program.perform (.begin d.options.migrationTx) with
  | .error e => return .error ⟨.begin, none, e⟩
  | .ok s =>
    match d.schemaOverride with
    | none => return .ok s
    | some schema =>
      let switch : Command := .useSchema schema
      match ← Program.perform (.execute (some s) switch) with
      | .ok _ => return .ok s
      | .error e =>
        rollbackQuietly name s
        return .error ⟨.namespaceSwitch, some switch.text, e⟩

/-! ## The action -/

namespace Migration

/-- Sends a script if its class permits it, and refuses it otherwise. -/
def submit (m : Migration) (s : SessionId) (sql : String) :
    Program (Except MigrateError ExecResult) := do
  if let .error e := tokens sql then
    Program.debug ("Could not lex migration script, treating as unguarded DDL: " ++
      e.message sql.toList)
  let c := classify sql
  if c.permits m.hasSkipIf then
    Program.debug ("Executing " ++ c.text ++ " script for " ++ m.name.text)
    return (← Program.perform (.execute (some s) (.script sql))).mapError fun e =>
      .execution m.name .execute (some sql) (.database e)
  else return .error (.policy m.name c sql)

def generateAndSubmit (m : Migration) (s : SessionId)
    (generate : Program (Except Cause String)) : Program (Except MigrateError ExecResult) := do
  match ← generate with
  | .error cause => return .error (.execution m.name .generate none cause)
  | .ok sql => m.submit s sql

/-- A computed action reports no rows of its own. -/
def apply (m : Migration) (s : SessionId) : Program (Except MigrateError ExecResult) :=
  match m.action with
  | .script sql => m.submit s sql
  | .generated generator => m.generateAndSubmit s (generator.run s)
  | .computed action => do
    match ← action.run s with
    | .error cause => return .error (.execution m.name .execute none cause)
    | .ok _ => return .ok {}

end Migration

/-! ## One attempt -/

namespace Driver

/-- Applies a migration, records its success in the same transaction, commits both or neither. -/
def attempt (d : Driver) (m : Migration) (s : SessionId) :
    Program (Except MigrateError ExecResult) := do
  match ← m.apply s with
  | .error e =>
    rollbackQuietly m.name s
    return .error e
  | .ok result =>
    match ← d.saveStatus s m.name true "" with
    | .error e =>
      rollbackQuietly m.name s
      return .error (.execution m.name .statusSave none (.database e))
    | .ok _ =>
      match ← Program.perform (.commit s) with
      | .ok _ => return .ok result
      | .error e => return .error (.execution m.name .commit none (.database e))

/-- Records a failure in a transaction of its own. Gives the step that failed, if one did. -/
def recordFailure (d : Driver) (name : MigrationName) (text : String) :
    Program (Except (Phase × DbError) Unit) := do
  match ← d.enter name with
  | .error e => return .error (e.phase, e.cause)
  | .ok s =>
    match ← d.saveStatus s name false text with
    | .error e =>
      rollbackQuietly name s
      return .error (.statusSave, e)
    | .ok _ =>
      match ← Program.perform (.commit s) with
      | .ok _ => return .ok ()
      | .error e => return .error (.commit, e)

/-- What a run gives: its result, and what the migration's status is from now on. -/
structure Outcome where
  result : Except MigrateError ExecResult
  status : MigrationStatus

/-- The status changes only when the tracking table has. -/
def settleFailure (d : Driver) (m : Migration) (e : MigrateError) : Program Outcome := do
  Program.warn ("Migration " ++ m.name.text ++ " failed: " ++ e.message)
  Program.debug ("Recording failure of " ++ m.name.text ++ " in a fallback transaction")
  match ← d.recordFailure m.name e.recordedText with
  | .ok _ => return ⟨.error e, .failed e.recordedText⟩
  | .error (phase, cause) =>
    return ⟨.error (.statusPersistence m.name phase (some e) cause), m.status⟩

/-- An attempt that did not get as far as the migration's own action is not recorded. -/
def run (d : Driver) (m : Migration) : Program Outcome := do
  Program.info ("Starting migration " ++ m.name.text)
  match ← d.enter m.name with
  | .error e => return ⟨.error (.execution m.name e.phase e.sql (.database e.cause)), m.status⟩
  | .ok s =>
    match ← d.attempt m s with
    | .error e => d.settleFailure m e
    | .ok result =>
      Program.info ("Finished migration " ++ m.name.text ++ " (" ++
        decimalText result.rowsAffected.toNat ++ " rows affected)")
      return ⟨.ok result, .succeeded⟩

end Driver

end SchemaMigration
