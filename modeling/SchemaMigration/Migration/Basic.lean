import SchemaMigration.Engine.Error
import SchemaMigration.Engine.Program
import SchemaMigration.Text.CharClass

/-!
# Migrations

A named change with what it does, when to leave it out, and what is known of its latest attempt.
-/

namespace SchemaMigration

/-!
## Callbacks

The author's own code within a migration's transaction: steps in order, up to the first that fails.
A callback builds up a text and may read columns of the row that it asked for last.
-/

/-- How a callback reads a column. -/
inductive ColumnType where
  | text
  | nullableText
  | truth
  | integer
deriving DecidableEq

/-- A column as text. A null that is allowed gives none. -/
def ColumnType.read (type : ColumnType) (row : Row) (i : Nat) : Except DbError String :=
  match type with
  | text => row.getText i
  | nullableText => do return (← row.getText? i).getD ""
  | truth => do return truthText (← row.getBool i)
  | integer => do return signedText (← row.getInt i).toInt

/-- What a step of a callback does: a call in its transaction, a text, or a failure. -/
inductive CallbackAction where
  | execute (sql : String)
  | executeWith (sql : String) (params : List SqlValue)
  /-- Keeps the first row, or an empty one. -/
  | query (sql : String) (params : List SqlValue)
  | append (text : String)
  | appendColumn (index : Nat) (type : ColumnType)
  | fail (cause : Cause)

structure CallbackStep where
  action : CallbackAction
  /-- Put in front of the step's own failure. -/
  context : Option String := none

abbrev Callback := List CallbackStep

namespace Callback

/-- What a callback carries from step to step. -/
structure State where
  text : String := ""
  row : Row := []
deriving DecidableEq

/-- What the database says is a cause as it stands. -/
def ofDb {α : Type} : Except DbError α → Except Cause α
  | .ok a => .ok a
  | .error e => .error (.database e)

end Callback

open Callback

/-- Does what an action says. Only appending changes the text, and only queries the row. -/
def CallbackAction.run (s : SessionId) (st : State) :
    CallbackAction → Program (Except Cause State)
  | execute sql => do
    let reply ← Program.perform (.execute (some s) (.custom sql))
    return (ofDb reply).map fun _ => st
  | executeWith sql params => do
    let reply ← Program.perform (.executeWith s (.custom sql) params)
    return (ofDb reply).map fun _ => st
  | query sql params => do
    let reply ← Program.perform (.query (some s) (.custom sql) params)
    return (ofDb reply).map fun rows : List Row => { st with row := rows.head?.getD [] }
  | append text => return .ok { st with text := st.text ++ text }
  | appendColumn i type =>
    return (ofDb (type.read st.row i)).map fun text => { st with text := st.text ++ text }
  | fail cause => return .error cause

/-- A failure with the step's context in front, if it has one. -/
def CallbackStep.inContext (step : CallbackStep) (cause : Cause) : Cause :=
  match step.context with
  | none => cause
  | some text => .context text cause

/-- Runs one step. Its failure comes out with the context of the step. -/
def CallbackStep.run (s : SessionId) (st : State) (step : CallbackStep) :
    Program (Except Cause State) := do
  return (← step.action.run s st).mapError step.inContext

namespace Callback

/-- Runs the steps from a state on, up to the first that fails. Gives the text. -/
def runFrom (s : SessionId) (st : State) : Callback → Program (Except Cause String)
  | [] => return .ok st.text
  | step :: rest => do
    match ← step.run s st with
    | .ok st => runFrom s st rest
    | .error cause => return .error cause

def run (s : SessionId) (callback : Callback) : Program (Except Cause String) :=
  runFrom s {} callback

end Callback

/-! ## Migrations -/

/-- What a migration does: a script, one that a callback writes, or a callback alone. -/
inductive MigrationAction where
  /-- A text that is executed as one batch. -/
  | script (sql : String)
  | generated (generator : Callback)
  | computed (action : Callback)

def MigrationAction.kind : MigrationAction → String
  | script _ | generated _ => "script"
  | computed _ => "computed"

/-- When a migration is to be left out. -/
inductive SkipCondition where
  | always (skip : Bool)
  | fails (cause : Cause)
  /-- Skips when the answer is yes. Other answers are no reason to. -/
  | asks (q : Question)

/-- A migration as its author defines it, with its latest status. -/
structure Migration where
  name : MigrationName
  action : MigrationAction
  skipIf : Option SkipCondition := none
  status : MigrationStatus := {}

namespace Migration

def hasSkipIf (m : Migration) : Bool := m.skipIf.isSome

/-- A migration without a name cannot be told from others. -/
def validate (m : Migration) : Except MigrateError Unit :=
  if m.name.library = "" ∨ m.name.name = "" then
    .error (.invalidMigration m.name "library and name must not be empty")
  else .ok ()

/-! ## For a reader -/

def recordText (name : String) (fields : List (String × String)) : String :=
  name ++ " \x7b " ++ ", ".intercalate (fields.map fun (key, value) => key ++ ": " ++ value) ++
    " \x7d"

/-- A migration with its fields. -/
def describe (m : Migration) : String :=
  recordText "Migration"
    [("name", recordText "MigrationName"
        [("library", quoted m.name.library), ("name", quoted m.name.name)]),
      ("action", m.action.kind),
      ("skip_if", truthText m.hasSkipIf),
      ("status", recordText "MigrationStatus"
        [("done", truthText m.status.done), ("error", quotedOption m.status.error)])]

end Migration

/-!
## Asking the schema

A question is put to the database itself, once. A failure is never read as an answer, and it does
not skip a migration either.
-/

/-- Asks a question. An argument that names no table is refused before any call. -/
def ask (default : Option Identifier) (q : Question) : Program (Except MigrateError Finding) :=
  match q.params default with
  | .error e => return .error (.configuration e)
  | .ok params => do
    match ← Program.perform (.query none (.ask q) params) with
    | .error e => return .error (.introspection q.target e)
    | .ok rows => return (q.answer rows).mapError (.introspection q.target)

/-- Whether an answer is a reason to skip. -/
def Finding.isYes : Finding → Bool
  | .truth b => b
  | .text _ => false

/-- A condition asks of unqualified tables in the current schema. -/
def SkipCondition.evaluate : SkipCondition → Program (Except Cause Bool)
  | always skip => return .ok skip
  | fails cause => return .error cause
  | asks q => do return ((← ask none q).map Finding.isYes).mapError .migration

/-- A migration without a condition is never skipped. -/
def Migration.shouldSkip (m : Migration) : Program (Except Cause Bool) :=
  match m.skipIf with
  | none => return .ok false
  | some condition => condition.evaluate

end SchemaMigration
