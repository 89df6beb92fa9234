import SchemaMigration.Scenario.World

/-!
# Steps

One thing at a time is done to a world. A step answers, or its operation is kept under a key until
it is polled, cancelled, or replaced by another.
-/

namespace SchemaMigration

/-- What a driver can be asked to do. Migrations go by their places. -/
inductive Operation where
  | ensureTracking
  | load (only : Option (List Nat))
  | run (place : Nat)
  | validate (place : Nat)
  | acquire
  /-- The handle is the one under the operation's key. -/
  | release
  | forceRelease
  | ask (q : Question)

/-- What can be done to a world. Operations go by a key until they end. -/
inductive Step where
  /-- A tracking table that is given goes before the one of the options. -/
  | create (label : String) (options : Options) (tracking : Option String)
  | operate (label key : String) (o : Operation)
  | shouldSkip (key : String) (place : Nat)
  | describe (place : Nat)
  | setStatus (place : Nat) (status : MigrationStatus)
  | setRules (rules : List Rule)
  | dropHandle (key : String)
  | poll (key : String)
  | cancel (key : String)

inductive Answer where
  | pending
  | noDriver
  | noHandle
  | noPending
  | noMigration
  | nothing
  | found (b : Bool)
  | description (m : Migration)
  | created (r : Except MigrateError Driver)
  | settled (r : Except MigrateError Unit)
  | drifted (r : Except MigrateError (List MigrationName))
  | ran (r : Except MigrateError ExecResult)
  | acquired (r : Except MigrateError LockHandle)
  | forced (r : Except MigrateError Bool)
  | finding (r : Except MigrateError Finding)
  | skip (r : Except Cause Bool)

/-- A step that was made, and everything that showed of it. -/
structure Turn where
  answer : Answer
  world : World
  events : List Event := []
  logs : List LogRecord := []

namespace World

/-! ## Ending an operation -/

/-- Does what an operation leaves to be done, and answers with its result. -/
def settle (w : World) (key : String) : Settlement → Turn
  | .ensured r => { answer := .settled r, world := w }
  | .loaded places l =>
    { answer := .drifted l.result
      world := (places.zip l.migrations).foldl (fun w (place, m) => w.setStatus place m.status) w }
  | .ran place o => { answer := .ran o.result, world := w.setStatus place o.status }
  | .acquired d id (.error e) =>
    { answer := .acquired (.error e), world := w.setSlot d ((w.slotOf d).abandon id) }
  | .acquired d id (.ok s) =>
    match w.drivers.lookup d with
    | none => { answer := .noDriver, world := w }
    | some st =>
      let handle : LockHandle := ⟨id, st.driver.lockName⟩
      let (w, logs) := (w.setSlot d (.held id s)).putHandle key handle
      { answer := .acquired (.ok handle), world := w, logs }
  | .released r => { answer := .settled r, world := w }
  | .forced r => { answer := .forced r, world := w }
  | .asked r => { answer := .finding r, world := w }
  | .considered r => { answer := .skip r, world := w }

/-! ## Starting an operation -/

/-- How an operation starts: it is answered at once, or a program has to run for it. -/
inductive Start where
  | answered (a : Answer) (w : World) (logs : List LogRecord)
  | launched (user : Option DriverId) (attempt : Option LockId) (p : Program Settlement) (w : World)

/-- Starts an operation of a driver. Its slot changes here, before any call is made. -/
def start (w : World) (d : DriverId) (st : DriverState) (key : String) : Operation → Start
  | .ensureTracking =>
    .launched (some d) none (return .ensured (← st.driver.ensureTracking)) w
  | .load only =>
    let places := only.getD (List.range w.migrations.length)
    .launched (some d) none
      (return .loaded places (← st.driver.loadStatuses (places.filterMap (w.migrations[·]?)))) w
  | .run place =>
    match w.migrations[place]? with
    | none => .answered .noMigration w []
    | some m => .launched (some d) none (return .ran place (← st.driver.run m)) w
  | .validate place =>
    match w.migrations[place]? with
    | none => .answered .noMigration w []
    | some m => .answered (.settled m.validate) w []
  | .acquire =>
    let id := w.nextLock
    let w := { w with nextLock := id + 1 }
    match st.slot.reserve? id with
    | none => .answered (.acquired (.error (lockAlreadyHeld st.driver.lockName))) w []
    | some slot =>
      .launched (some d) (some id) (return .acquired d id (← takeLock st.driver.lockName))
        (w.setSlot d slot)
  | .release =>
    match w.handles.lookup key with
    | none => .answered .noHandle w []
    | some handle =>
      let w := { w with handles := dropKey w.handles key }
      match st.slot.sessionFor? handle with
      | none => .answered (.settled (.error (lockNotHeld handle.lockName))) w [droppedHandle handle]
      | some s =>
        .launched (some d) none (return .released (← freeLock st.driver.lockName s))
          (w.setSlot d .free)
  | .forceRelease =>
    match st.slot.session? with
    | none => .answered (.forced (.ok false)) w []
    | some s =>
      .launched (some d) none (return .forced (← forceFreeLock st.driver.lockName s))
        (w.setSlot d .free)
  | .ask q => .launched (some d) none (return .asked (← ask st.driver.schemaOverride q)) w

/-! ## Going on -/

/-- Ends an operation that is done. One that is not takes the key from whatever had it. -/
def follow (w : World) (key : String) (user : Option DriverId) (attempt : Option LockId)
    (p : Progress Settlement) : Turn :=
  let w := { w with database := p.database }
  match p.standing with
  | .ended s =>
    let turn := w.settle key s
    { turn with events := p.events, logs := p.logs ++ turn.logs }
  | .suspended held =>
    let (w, events) := w.cancel key
    { answer := .pending
      world := { w with pending := putKey w.pending key ⟨user, attempt, held⟩ }
      events := p.events ++ events
      logs := p.logs }

/-- Answers, or runs the program as far as it goes. -/
def begin (key : String) : Start → Turn
  | .answered answer world logs => { answer, world, logs }
  | .launched user attempt p w => w.follow key user attempt (p.advance w.database)

/-- Looks again at an operation that is kept under a key. -/
def poll (w : World) (key : String) : Turn :=
  match w.pending.lookup key with
  | none => { answer := .noPending, world := w }
  | some p =>
    match p.held.poll? w.database with
    | none => { answer := .pending, world := w }
    | some progress =>
      { w with pending := dropKey w.pending key }.follow key p.user p.attempt progress

/-! ## One step -/

def databaseType : String := "script"

/-- A label keeps its driver if the new one is refused. -/
def create (w : World) (label : String) (options : Options) (tracking : Option String) : Turn :=
  let table := match tracking with
    | none => options.tracking
    | some name => TrackingTable.parse name
  let p := (Driver.create databaseType table options).advance w.database
  match p.standing with
  | .ended (.ok d) => { answer := .created (.ok d), world := w.addDriver label d, logs := p.logs }
  | .ended (.error e) => { answer := .created (.error e), world := w, logs := p.logs }
  | .suspended _ => { answer := .pending, world := w, logs := p.logs }

/-- A step, before what it leaves without a use is discarded. -/
def make (w : World) : Step → Turn
  | .create label options tracking => w.create label options tracking
  | .operate label key o =>
    match w.labelled? label with
    | none => { answer := .noDriver, world := w }
    | some (d, st) => begin key (w.start d st key o)
  | .shouldSkip key place =>
    match w.migrations[place]? with
    | none => { answer := .noMigration, world := w }
    | some m => begin key (.launched none none (return .considered (← m.shouldSkip)) w)
  | .describe place =>
    match w.migrations[place]? with
    | none => { answer := .noMigration, world := w }
    | some m => { answer := .description m, world := w }
  | .setStatus place status => { answer := .nothing, world := w.setStatus place status }
  | .setRules rules => { answer := .nothing, world := { w with database.rules := rules } }
  | .dropHandle key =>
    let handle := w.handles.lookup key
    { answer := .found handle.isSome
      world := { w with handles := dropKey w.handles key }
      logs := handle.toList.map droppedHandle }
  | .poll key => w.poll key
  | .cancel key =>
    let found := (w.pending.lookup key).isSome
    let (w, events) := w.cancel key
    { answer := .found found, world := w, events }

/-- Makes a step. What it leaves without a use is discarded. -/
def step (w : World) (s : Step) : Turn :=
  let turn := w.make s
  let (world, events) := turn.world.discardUnused
  { turn with world, events := turn.events ++ events }

def steps (w : World) : List Step → List Turn
  | [] => []
  | s :: rest =>
    let turn := w.step s
    turn :: turn.world.steps rest

end World

end SchemaMigration
