import SchemaMigration.Migration.Basic
import SchemaMigration.Engine.Run
import SchemaMigration.Lock.Manager
import SchemaMigration.Scripted.Database

/-!
# Scenarios

Several drivers on one scripted database, the migrations they work on, and operations that were
started and have not ended. The parts of a scenario change only here.
-/

namespace SchemaMigration

/-- Drivers are told apart by number. Labels may move from one to another. -/
abbrev DriverId := Nat

/-- A driver with what its lock manager holds. -/
structure DriverState where
  driver : Driver
  slot : LockSlot := .free

/-- What an operation that has ended leaves to be done outside the database. -/
inductive Settlement where
  | ensured (r : Except MigrateError Unit)
  /-- The copies are written back to where they came from. -/
  | loaded (places : List Nat) (l : Loaded)
  | ran (place : Nat) (o : Driver.Outcome)
  | acquired (d : DriverId) (id : LockId) (r : Except MigrateError SessionId)
  | released (r : Except MigrateError Unit)
  | forced (r : Except MigrateError Bool)
  | asked (r : Except MigrateError Finding)
  | considered (r : Except Cause Bool)

/-- An operation that has not ended. -/
structure Pending where
  /-- The driver that it works for, which it keeps alive. -/
  user : Option DriverId
  /-- The attempt to take a lock that it is. -/
  attempt : Option LockId
  held : Suspended Settlement

/-- A database, and everything that is at work on it. -/
structure World where
  database : Database := {}
  migrations : List Migration := []
  drivers : List (DriverId × DriverState) := []
  labels : List (String × DriverId) := []
  handles : List (String × LockHandle) := []
  pending : List (String × Pending) := []
  nextDriver : DriverId := 1
  nextLock : LockId := 1

/-- Puts a value under a key, in the place of the one that was there. -/
def putKey {α β : Type} [DecidableEq α] (l : List (α × β)) (key : α) (value : β) : List (α × β) :=
  match l with
  | [] => [(key, value)]
  | (k, v) :: rest => if k = key then (key, value) :: rest else (k, v) :: putKey rest key value

def dropKey {α β : Type} [DecidableEq α] (l : List (α × β)) (key : α) : List (α × β) :=
  l.filter (·.1 ≠ key)

namespace World

/-- The driver that a label stands for now. -/
def labelled? (w : World) (label : String) : Option (DriverId × DriverState) := do
  let d ← w.labels.lookup label
  return (d, ← w.drivers.lookup d)

/-- What a driver holds. One that is gone holds nothing. -/
def slotOf (w : World) (d : DriverId) : LockSlot :=
  match w.drivers.lookup d with
  | none => .free
  | some st => st.slot

def setSlot (w : World) (d : DriverId) (slot : LockSlot) : World :=
  { w with
    drivers := w.drivers.map fun (i, st) => if i = d then (i, { st with slot }) else (i, st) }

def setStatus (w : World) (place : Nat) (status : MigrationStatus) : World :=
  { w with migrations := w.migrations.modify place fun m => { m with status } }

/-- A driver under a label takes the label from the one before it. -/
def addDriver (w : World) (label : String) (driver : Driver) : World :=
  { w with
    drivers := w.drivers ++ [(w.nextDriver, { driver })]
    labels := putKey w.labels label w.nextDriver
    nextDriver := w.nextDriver + 1 }

/-- Puts a handle under a key. One that was there is dropped, and says so. -/
def putHandle (w : World) (key : String) (handle : LockHandle) : World × List LogRecord :=
  ({ w with handles := putKey w.handles key handle },
    (w.handles.lookup key).toList.map droppedHandle)

/-- Ends a session from outside of any call. -/
def closeSession (w : World) (s : SessionId) : World × List Event :=
  ({ w with database := w.database.drop s }, [.drop s])

def closeSession? (w : World) : Option SessionId → World × List Event
  | none => (w, [])
  | some s => w.closeSession s

/-! ## Cancelling -/

/-- An attempt to take a lock that is given up frees its slot. -/
def abandonAttempt (w : World) (p : Pending) : World :=
  match p.user, p.attempt with
  | some d, some id => w.setSlot d ((w.slotOf d).abandon id)
  | _, _ => w

/-- Ends an operation where it stands. Its session goes with it. -/
def abandon (w : World) (p : Pending) : World × List Event :=
  (w.abandonAttempt p).closeSession? p.held.session?

/-- Ends the operation under a key, if there is one. -/
def cancel (w : World) (key : String) : World × List Event :=
  match w.pending.lookup key with
  | none => (w, [])
  | some p => { w with pending := dropKey w.pending key }.abandon p

/-! ## Drivers that nobody uses -/

/-- Whether a label or an operation keeps a driver alive. -/
def isUsed (w : World) (d : DriverId) : Bool :=
  w.labels.any (·.2 = d) || w.pending.any (·.2.user = some d)

/-- A driver lives while it has a label or an operation that works for it. A lock dies with it. -/
def discardUnused (w : World) : World × List Event :=
  let unused := w.drivers.filter fun (d, _) => !w.isUsed d
  let sessions := unused.filterMap fun (_, st) => st.slot.session?
  ({ w with
      drivers := w.drivers.filter fun (d, _) => w.isUsed d
      database := sessions.foldl Database.drop w.database },
    sessions.map .drop)

end World

end SchemaMigration
