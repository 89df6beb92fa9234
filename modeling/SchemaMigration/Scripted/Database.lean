import SchemaMigration.Engine.Program
import SchemaMigration.Name
import SchemaMigration.Text.Pieces

/-!
# The scripted database

A database of nothing but tracking rows, sessions and advisory locks. It reads of an SQL text how it
starts, and lets its rules decide first.
-/

namespace SchemaMigration

/-!
## Rules

What a scripted database answers instead of its usual answer. Rules are asked in order; the first
that decides a call is used up a little.
-/

/-- What a rule may ask of a call before its text. -/
inductive CallKind where
  | begin
  | execute
  | executeWith
  | query
  | commit
  | rollback
deriving DecidableEq

def CallKind.text : CallKind → String
  | begin => "begin"
  | execute => "execute"
  | executeWith => "execute_with"
  | query => "query"
  | commit => "commit"
  | rollback => "rollback"

def Call.kind : Call → CallKind
  | begin _ => .begin
  | execute _ _ => .execute
  | executeWith _ _ _ => .executeWith
  | query _ _ _ => .query
  | commit _ => .commit
  | rollback _ => .rollback

inductive RuleReply where
  | fail (e : DbError)
  | rows (rows : List Row)
  /-- For statements, which then do nothing else. -/
  | result (r : ExecResult)
  | block
deriving DecidableEq

/-- A rule: the calls it is for, how many of them, and what it answers. -/
structure Rule where
  kind : Option CallKind := none
  contains : String := ""
  /-- How many matching calls pass before the rule decides one. -/
  skip : Nat := 0
  /-- How many calls the rule decides, or all. -/
  times : Option Nat := none
  reply : RuleReply
deriving DecidableEq

namespace Rule

/-- Whether a rule is for a call, by its kind and its text. -/
def isMatch (r : Rule) (c : Call) : Bool :=
  (match r.kind with
    | none => true
    | some kind => kind = c.kind) && containsText r.contains c.sql

/-- The rule after it saw a call, and whether it decides that call. -/
def consult (r : Rule) (c : Call) : Rule × Bool :=
  if r.isMatch c then
    if 0 < r.skip then ({ r with skip := r.skip - 1 }, false)
    else match r.times with
      | none => (r, true)
      | some 0 => (r, false)
      | some (left + 1) => ({ r with times := some left }, true)
  else (r, false)

end Rule

/-- The reply of the first rule that decides, and the rules as they are afterwards. -/
def consultRules (c : Call) : List Rule → Option RuleReply × List Rule
  | [] => (none, [])
  | r :: rest =>
    match r.consult c with
    | (r, true) => (some r.reply, r :: rest)
    | (r, false) =>
      let (reply, rest) := consultRules c rest
      (reply, r :: rest)

/-- The row of a migration, and how often it was written. -/
structure TrackingRow where
  done : Bool
  error : String := ""
  writes : Nat := 0
deriving DecidableEq

/-- A row that a transaction is to write when it commits. -/
structure RowWrite where
  name : MigrationName
  done : Bool
  error : String
deriving DecidableEq

/-! ## Tracking rows -/

/-- The tracking table, with at most one row for a name. -/
abbrev TrackingRows := List (MigrationName × TrackingRow)

namespace TrackingRows

/-- Puts a row in the place of the one with its name, or at the end. -/
def put (rows : TrackingRows) (name : MigrationName) (row : TrackingRow) : TrackingRows :=
  match rows with
  | [] => [(name, row)]
  | (n, r) :: rest => if n = name then (name, row) :: rest else (n, r) :: put rest name row

def writesOf (rows : TrackingRows) (name : MigrationName) : Nat :=
  match rows.lookup name with
  | none => 0
  | some row => row.writes

def write (rows : TrackingRows) (w : RowWrite) : TrackingRows :=
  rows.put w.name ⟨w.done, w.error, rows.writesOf w.name + 1⟩

def writeAll (rows : TrackingRows) (ws : List RowWrite) : TrackingRows := ws.foldl write rows

def sorted (rows : TrackingRows) : TrackingRows :=
  rows.mergeSort fun a b => MigrationName.le a.1 b.1

end TrackingRows

/-! ## The database -/

/-- The state of the database, with the rules that are left. -/
structure Database where
  rows : TrackingRows := []
  /-- The open sessions, each with the rows that it is to write. -/
  sessions : List (SessionId × List RowWrite) := []
  begun : Nat := 0
  locks : List (String × SessionId) := []
  rules : List Rule := []

/--
How the database takes a call. A call that waits for a lock has its answer ready for when the lock
is granted.
-/
inductive Verdict (α : Type) where
  | answered (reply : Except DbError α) (db : Database)
  | blocked (db : Database)
  | waiting (session : SessionId) (lock : String) (granted : α) (db : Database)

namespace Database

/-- Ends a session. Its locks go with it, and what it was to write is forgotten. -/
def endSession (db : Database) (s : SessionId) : Database :=
  { db with
    sessions := db.sessions.filter (·.1 ≠ s)
    locks := db.locks.filter (·.2 ≠ s) }

/-- Begins a session with the next number. -/
def openSession (db : Database) : Database :=
  { db with begun := db.begun + 1, sessions := db.sessions ++ [(db.begun + 1, [])] }

def staged (db : Database) (s : SessionId) : List RowWrite := (db.sessions.lookup s).getD []

def stage (db : Database) (s : SessionId) (w : RowWrite) : Database :=
  { db with
    sessions := db.sessions.map fun (i, ws) => if i = s then (i, ws ++ [w]) else (i, ws) }

/-- Writes the rows of a session and ends it. -/
def commit (db : Database) (s : SessionId) : Database :=
  { db.endSession s with rows := db.rows.writeAll (db.staged s) }

/-! ## Locks -/

/-- Takes a lock that is free, or already the session's own. -/
def grant? (db : Database) (s : SessionId) (lock : String) : Option Database :=
  match db.locks.lookup lock with
  | none => some { db with locks := db.locks ++ [(lock, s)] }
  | some owner => if owner = s then some db else none

/-- Lets go of a lock that is the session's own, and says whether it was. -/
def free (db : Database) (s : SessionId) (lock : String) : List Row × Database :=
  if db.locks.lookup lock = some s then
    ([[.int 1]], { db with locks := db.locks.filter (·.1 ≠ lock) })
  else ([[.int 0]], db)

/-! ## The usual answers -/

/-- The row that a statement writes, if it is one that records an outcome. -/
def rowWrite? (sql : String) (params : List SqlValue) : Option RowWrite :=
  match params with
  | [.text library, .text name, .bool done, .text error] =>
    if startsWithText "REPLACE INTO " sql then some ⟨⟨library, name⟩, done, error⟩ else none
  | _ => none

def statusRow (entry : MigrationName × TrackingRow) : Row :=
  [.text entry.1.library, .text entry.1.name, .int (if entry.2.done then 1 else 0)]

/-- The usual answer to a query, by how its text starts. -/
def answerQuery (db : Database) (session : Option SessionId) (sql : String)
    (params : List SqlValue) : Verdict (List Row) :=
  if startsWithText "SELECT library, migration, done FROM " sql then
    .answered (.ok (db.rows.sorted.map statusRow)) db
  else
    match session, params with
    | some s, [.text lock] =>
      if startsWithText "SELECT GET_LOCK" sql then
        match db.grant? s lock with
        | some db => .answered (.ok [[.int 1]]) db
        | none => .waiting s lock [[.int 1]] db
      else if startsWithText "SELECT RELEASE_LOCK" sql then
        let (rows, db) := db.free s lock
        .answered (.ok rows) db
      else .answered (.ok []) db
    | _, _ => .answered (.ok []) db

/-- What the database does when no rule decides. -/
def usual (db : Database) : (c : Call) → Verdict c.Answer
  | .begin _ => .answered (.ok (db.begun + 1)) db.openSession
  | .execute none _ => .answered (.ok {}) db
  | .execute (some _) _ => .answered (.ok { rowsAffected := 1 }) db
  | .executeWith s c params =>
    match rowWrite? c.text params with
    | some w => .answered (.ok { rowsAffected := 1 }) (db.stage s w)
    | none => .answered (.ok { rowsAffected := 1 }) db
  | .query s c params => db.answerQuery s c.text params
  | .commit s => .answered (.ok ()) (db.commit s)
  | .rollback s => .answered (.ok ()) (db.endSession s)

/-! ## Every answer -/

/-- Ending a session ends it also when that fails. -/
def fail (db : Database) (e : DbError) : (c : Call) → Verdict c.Answer
  | .commit s | .rollback s => .answered (.error e) (db.endSession s)
  | .begin _ | .execute _ _ | .executeWith _ _ _ | .query _ _ _ => .answered (.error e) db

/-- Takes a call. A rule whose reply does not fit the call leaves the usual answer. -/
def serve (db : Database) (c : Call) : Verdict c.Answer :=
  let (reply, rules) := consultRules c db.rules
  let db := { db with rules }
  match reply, c with
  | some .block, _ => .blocked db
  | some (.fail e), c => db.fail e c
  | some (.rows rows), .query _ _ _ => .answered (.ok rows) db
  | some (.result r), .execute _ _ => .answered (.ok r) db
  | some (.result r), .executeWith _ _ _ => .answered (.ok r) db
  | _, c => db.usual c

end Database

/-!
## Programs on the database

A program goes on until it ends or a call does not return. What shows of it is the order of its
calls, of the sessions that it lets go of, and of its log records.
-/

/-- What a program does to the database. -/
inductive Event where
  | call (c : Call)
  | drop (s : SessionId)
deriving DecidableEq

/-- A program that was held up at a call. -/
inductive Suspended (α : Type) where
  /-- The call never returns. -/
  | blocked (session : Option SessionId)
  /-- The call returns, and the program goes on so, once the lock is granted. -/
  | waiting (session : SessionId) (lock : String) (resume : Program α)

/-- The session that ends with the program when it is cancelled. -/
def Suspended.session? {α : Type} : Suspended α → Option SessionId
  | blocked s => s
  | waiting s _ _ => some s

/-- How far a program has come. -/
inductive Standing (α : Type) where
  | ended (a : α)
  | suspended (p : Suspended α)

/-- A program as far as it went, with what showed of it on the way. -/
structure Progress (α : Type) where
  standing : Standing α
  database : Database
  events : List Event := []
  logs : List LogRecord := []

namespace Progress

variable {α : Type}

def after (events : List Event) (logs : List LogRecord) (p : Progress α) : Progress α :=
  { p with events := events ++ p.events, logs := logs ++ p.logs }

end Progress

/-- Lets go of a session that was neither committed nor rolled back. -/
def Database.drop (db : Database) (s : SessionId) : Database := db.endSession s

/-- Runs a program until it ends or a call does not return. -/
def Program.advance {α : Type} (db : Database) : Program α → Progress α
  | done a => { standing := .ended a, database := db }
  | log r next => (next.advance db).after [] [r]
  | close s next => (next.advance (db.drop s)).after [.drop s] []
  | call c next =>
    match db.serve c with
    | .answered reply db => ((next reply).advance db).after [.call c] []
    | .blocked db =>
      { standing := .suspended (.blocked c.session?), database := db, events := [.call c] }
    | .waiting s lock granted db =>
      { standing := .suspended (.waiting s lock (next (.ok granted)))
        database := db
        events := [.call c] }

/-- Tries again to get a lock that is waited for. Says nothing if the call still does not return. -/
def Suspended.poll? {α : Type} (db : Database) : Suspended α → Option (Progress α)
  | blocked _ => none
  | waiting s lock resume => (db.grant? s lock).map resume.advance

end SchemaMigration
