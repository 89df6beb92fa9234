import SchemaMigration.Name
import SchemaMigration.Script.Analysis
import SchemaMigration.Sql.Value

/-!
# Migration errors

What went wrong, in which step of which migration, and what was behind it. A failed attempt whose
outcome could not be recorded either is fatal, and carries both failures.
-/

namespace SchemaMigration

inductive Phase where
  | begin
  | namespaceSwitch
  | generate
  | classify
  | execute
  | commit
  | statusSave
deriving DecidableEq

def Phase.text : Phase → String
  | begin => "begin"
  | namespaceSwitch => "namespace-switch"
  | generate => "generate"
  | classify => "classify"
  | execute => "execute"
  | commit => "commit"
  | statusSave => "status-save"

/-- What callers tell errors apart by. -/
inductive ErrorKind where
  | configuration
  | policy
  | execution
  | statusPersistence
  | lockState
  | tracking
  | lock
  | introspection
deriving DecidableEq

mutual

/-- Why a step of a migration failed: its own code says, or the database does. -/
inductive Cause where
  | message (text : String)
  /-- A text put in front of another cause. -/
  | context (text : String) (inner : Cause)
  | database (e : DbError)
  | migration (e : MigrateError)

/-- An error of the engine, with all that is known of the failure. -/
inductive MigrateError where
  | configuration (e : ConfigError)
  | invalidMigration (name : MigrationName) (reason : String)
  | rejected (name : MigrationName) (scriptClass : ScriptClass) (reason sql : String)
  | execution (name : MigrationName) (phase : Phase) (sql : Option String) (cause : Cause)
  | statusPersistence (name : MigrationName) (phase : Phase) (earlier : Option MigrateError)
      (cause : DbError)
  /-- The lock is held already, or not by this handle. -/
  | lockState (message : String)
  | tracking (table operation : String) (cause : DbError)
  | lock (lockName operation : String) (cause : DbError)
  | introspection (target : String) (cause : DbError)

end

instance : Inhabited MigrateError := ⟨.lockState ""⟩

mutual

/-- A cause as one line, without what is behind it. -/
def Cause.text : Cause → String
  | .message t => t
  | .context t _ => t
  | .database e => e.message
  | .migration e => e.message

/-- One line: the code of the error, what failed, and the text of the cause. -/
def MigrateError.message : MigrateError → String
  | .configuration e => "[M001] Invalid configuration: " ++ e.message
  | .invalidMigration name reason =>
    "[M002] Migration " ++ name.text ++ " is not supported: " ++ reason
  | .rejected name c reason _ =>
    "[M003] Migration " ++ name.text ++ " rejected during classify (" ++ c.text ++ "): " ++ reason
  | .execution name phase _ cause =>
    "[M004] Migration " ++ name.text ++ " failed during " ++ phase.text ++ ": " ++ cause.text
  | .statusPersistence name phase none cause =>
    "[M005] Saving status of migration " ++ name.text ++ " failed during " ++ phase.text ++ ": " ++
      cause.message
  | .statusPersistence name phase (some earlier) cause =>
    "[M005] Saving status of migration " ++ name.text ++ " failed during " ++ phase.text ++ ": " ++
      cause.message ++ " (after: " ++ earlier.message ++ ")"
  | .lockState m => "[M006] " ++ m
  | .tracking table operation cause =>
    "[M007] Tracking table " ++ table ++ ": " ++ operation ++ " failed: " ++ cause.message
  | .lock lockName operation cause =>
    "[M008] Advisory lock '" ++ lockName ++ "': " ++ operation ++ " failed: " ++ cause.message
  | .introspection target cause =>
    "[M009] Introspection of " ++ target ++ " failed: " ++ cause.message

end

mutual

/-- The texts of a cause and of all that is behind it, outermost first. -/
def Cause.chain : Cause → List String
  | .message t => [t]
  | .context t inner => t :: inner.chain
  | .database e => e.chain
  | .migration e => e.message :: e.sources

/-- The texts of the causes behind an error, outermost first. -/
def MigrateError.sources : MigrateError → List String
  | .configuration e => [e.message]
  | .invalidMigration _ _ | .rejected _ _ _ _ | .lockState _ => []
  | .execution _ _ _ cause => cause.chain
  | .statusPersistence _ _ _ cause => cause.chain
  | .tracking _ _ cause => cause.chain
  | .lock _ _ cause => cause.chain
  | .introspection _ cause => cause.chain

end

namespace MigrateError

/-- The refusal of a script, for the reason that goes with its class. -/
def policy (name : MigrationName) (c : ScriptClass) (sql : String) : MigrateError :=
  .rejected name c c.reason sql

def kind : MigrateError → ErrorKind
  | configuration _ | invalidMigration _ _ => .configuration
  | rejected _ _ _ _ => .policy
  | execution _ _ _ _ => .execution
  | statusPersistence _ _ _ _ => .statusPersistence
  | lockState _ => .lockState
  | tracking _ _ _ => .tracking
  | lock _ _ _ => .lock
  | introspection _ _ => .introspection

/-- The step that failed, for errors of a run. -/
def phase : MigrateError → Option Phase
  | rejected _ _ _ _ => some .classify
  | execution _ p _ _ | statusPersistence _ p _ _ => some p
  | _ => none

def migration : MigrateError → Option MigrationName
  | invalidMigration n _ | rejected n _ _ _ => some n
  | execution n _ _ _ | statusPersistence n _ _ _ => some n
  | _ => none

/-- A fatal error leaves the history of attempts incomplete. -/
def isFatal : MigrateError → Bool
  | statusPersistence _ _ _ _ => true
  | _ => false

/-- What the tracking table says about this failure: the step's own words, not the whole account. -/
def recordedText : MigrateError → String
  | rejected _ _ reason _ => reason
  | execution _ _ _ cause => cause.text
  | e => e.message

def sql : MigrateError → Option String
  | rejected _ _ _ s => some s
  | execution _ _ s _ => s
  | _ => none

/-- The failure before the one to record it. -/
def earlier : MigrateError → Option MigrateError
  | statusPersistence _ _ o _ => o
  | _ => none

def numberedCause (i : Nat) (text : String) : String :=
  "\nCaused by:\n  " ++ decimalText (i + 1) ++ ": " ++ text

/-- The message, and each cause behind the error on lines of its own. -/
def detailed (e : MigrateError) : String :=
  "Error: " ++ e.message ++ "\n" ++ String.join (e.sources.mapIdx numberedCause)

end MigrateError

end SchemaMigration
