import SchemaMigration.Engine.Driver

/-!
# The migration lock

The server's advisory locks belong to a session. A manager begins a transaction only to pin one, and
keeps it for as long as it holds the lock. What it holds changes when an operation starts and when
one ends, never in between.
-/

namespace SchemaMigration

/-- Each attempt to take a lock has its own number. -/
abbrev LockId := Nat

/-- What a manager holds: nothing, an attempt under way, or a lock with its session. -/
inductive LockSlot where
  | free
  | acquiring (id : LockId)
  | held (id : LockId) (session : SessionId)
deriving DecidableEq

/-- The proof of a lock that was taken. Without it, the lock can only be forced. -/
structure LockHandle where
  id : LockId
  lockName : String
deriving DecidableEq

namespace LockSlot

/-- An attempt under way counts as held. -/
def isHeld : LockSlot → Bool
  | free => false
  | acquiring _ | held _ _ => true

/-- The session to which the lock belongs, once there is one. -/
def session? : LockSlot → Option SessionId
  | held _ s => some s
  | free | acquiring _ => none

/-- The slot while an attempt is under way, if it may start. -/
def reserve? (slot : LockSlot) (id : LockId) : Option LockSlot :=
  match slot with
  | free => some (acquiring id)
  | acquiring _ | held _ _ => none

/-- Frees the slot of an attempt that came to nothing. Another attempt stays. -/
def abandon (slot : LockSlot) (id : LockId) : LockSlot :=
  if slot = acquiring id then free else slot

/-- The session that a handle may end: its own, while the slot still holds it. -/
def sessionFor? (slot : LockSlot) (handle : LockHandle) : Option SessionId :=
  match slot with
  | held id s => if id = handle.id then some s else none
  | free | acquiring _ => none

end LockSlot

/-! ## Operations on the session -/

/-- Whether the answer of a lock function is a yes: its first column counts as true. -/
def saysYes (rows : List Row) : Bool :=
  match rows with
  | (v :: _) :: _ => v.asBool = some true
  | _ => false

def lockAlreadyHeld (lockName : String) : MigrateError :=
  .lockState ("Migration lock '" ++ lockName ++ "' is already held by this manager")

def lockNotHeld (lockName : String) : MigrateError :=
  .lockState ("Migration lock '" ++ lockName ++ "' is not held by this manager")

def lockNotGranted (lockName : String) : DbError :=
  .execution ("lock '" ++ lockName ++ "' was not granted")

/-- A handle that is dropped leaves its lock taken. -/
def droppedHandle (handle : LockHandle) : LogRecord where
  level := .warn
  text := "Lock handle for '" ++ handle.lockName ++
    "' dropped without release; the lock stays held until force_release"

/-- Waits for the lock as long as it takes. Gives the session that holds it. -/
def takeLock (lockName : String) : Program (Except MigrateError SessionId) := do
  let failed (operation : String) (e : DbError) : MigrateError := .lock lockName operation e
  Program.debug ("Waiting for migration lock '" ++ lockName ++ "'")
  match ← Program.perform (.begin {}) with
  | .error e => return .error (failed "open session" e)
  | .ok s =>
    match ← Program.perform (.query (some s) .takeLock [.text lockName]) with
    | .error e =>
      Program.letGo s
      return .error (failed "GET_LOCK" e)
    | .ok rows =>
      if saysYes rows then
        Program.info ("Acquired migration lock '" ++ lockName ++ "'")
        return .ok s
      else
        if let .error e ← Program.perform (.rollback s) then
          Program.debug ("Closing lock session failed: " ++ e.message)
        return .error (failed "GET_LOCK" (lockNotGranted lockName))

/-- The session is closed also when the lock cannot be freed, and that failure is the one told. -/
def freeLock (lockName : String) (s : SessionId) : Program (Except MigrateError Unit) := do
  let failed (operation : String) (e : DbError) : MigrateError := .lock lockName operation e
  let released ← Program.perform (.query (some s) .freeLock [.text lockName])
  let closed ← Program.perform (.rollback s)
  match released, closed with
  | .error e, closed =>
    if let .error c := closed then
      Program.debug ("Closing lock session failed: " ++ c.message)
    return .error (failed "RELEASE_LOCK" e)
  | .ok _, .error e => return .error (failed "close session" e)
  | .ok rows, .ok _ =>
    unless saysYes rows do
      Program.warn ("RELEASE_LOCK reported that '" ++ lockName ++
        "' was not held by the lock session")
    Program.info ("Released migration lock '" ++ lockName ++ "'")
    return .ok ()

/-- Frees a lock without its handle. -/
def forceFreeLock (lockName : String) (s : SessionId) : Program (Except MigrateError Bool) := do
  Program.warn ("Force-releasing migration lock '" ++ lockName ++ "'")
  return (← freeLock lockName s).map fun _ => true

end SchemaMigration
