import SchemaMigration.Proofs.Turns

/-!
# Passes

A pass takes the lock, loads the statuses, runs in order what is not done, and frees the lock. After
any past, a pass that nothing fails in runs what is not recorded as done and records it, so that the
next pass has nothing to run.
-/

namespace SchemaMigration

/-- Some row says that the migration of this name is done. -/
def TrackingRows.hasDone (rows : TrackingRows) (name : MigrationName) : Bool :=
  (rows.lookup name).any (·.done)

theorem Program.advance_nodup_rows {α : Type} {db : Database} (p : Program α)
    (h : (db.rows.map (·.1)).Nodup) : ((p.advance db).database.rows.map (·.1)).Nodup := by
  induction p generalizing db with
  | done a => exact h
  | log r next ih => exact ih h
  | close s next ih => exact ih h
  | call c next ih =>
    rw [advance]
    cases hv : db.serve c with
    | blocked e =>
      rw [Database.serve_blocked hv]
      exact h
    | waiting s lock granted e =>
      rw [(Database.serve_waiting hv).2.2.2]
      exact h
    | answered reply e =>
      apply ih reply
      by_cases hc : c.kind = .commit
      · cases c with
        | commit s =>
          rcases Database.serve_commit hv with ⟨e, -, rfl⟩ | ⟨-, rfl⟩
          · exact h
          · exact TrackingRows.nodup_writeAll _ h
        | _ => cases hc
      · rw [Database.rows_of_serve hc hv]
        exact h

namespace World

/-! ## What a pass does -/

/-- There is a migration at the place, and it is not done. -/
def isDue (w : World) (place : Nat) : Bool := (w.migrations[place]?).any fun m => !m.status.done

/-- The rows say that the migration at the place is done. -/
def isRecorded (w : World) (place : Nat) : Bool :=
  (w.migrations[place]?).any fun m => w.database.rows.hasDone m.name

def opening (label key : String) (places : List Nat) : List Step :=
  [.operate label key .acquire, .operate label key .ensureTracking,
    .operate label key (.load (some places))]

/-- Runs the migrations in order, each if it is due when its turn comes. -/
def runsDue (w : World) (label key : String) : List Nat → List Step
  | [] => []
  | place :: rest =>
    if w.isDue place then
      let run : Step := .operate label key (.run place)
      run :: (w.step run).world.runsDue label key rest
    else w.runsDue label key rest

def pass (w : World) (label key : String) (places : List Nat) : List Step :=
  opening label key places ++
    (w.after (opening label key places)).runsDue label key places ++
      [.operate label key .release]

/-- Each migration that is due when its turn comes works then, in a transaction of its own. -/
def allWork (w : World) (label key : String) : List Nat → Bool
  | [] => true
  | place :: rest =>
    if w.isDue place then
      (w.migrations[place]?).all
          (fun m => m.works w.database.openSession (w.database.begun + 1)) &&
        (w.step (.operate label key (.run place))).world.allWork label key rest
    else w.allWork label key rest

variable {w w' : World} {label key : String} {d : DriverId} {st : DriverState}

/-! ## All runs -/

/-- The records of the migrations that are due. -/
def recordsOfDue (ms : List Migration) : List RowWrite :=
  (ms.filter (!·.status.done)).map fun m => ⟨m.name, true, ""⟩

theorem isDue_of_getElem? {place : Nat} {m : Migration} (hm : w.migrations[place]? = some m) :
    w.isDue place = !m.status.done := by
  rw [isDue, hm, Option.any_some]

theorem isRecorded_of_getElem? {p : Nat} {m : Migration} (hm : w.migrations[p]? = some m) :
    w.isRecorded p = w.database.rows.hasDone m.name := by
  rw [isRecorded, hm, Option.any_some]

/--
The runs of a pass are those of the migrations that are due at its beginning, and all succeed: each
of these migrations has one record more, and is done.
-/
structure RunsDue (w : World) (label key : String) (places : List Nat) (ms : List Migration) :
    Prop where
  steps : w.runsDue label key places =
    (places.filter w.isDue).map fun place => .operate label key (.run place)
  answers : ∀ turn ∈ w.steps (w.runsDue label key places), turn.answer.succeeds = true
  after : ∃ migrations,
    w.after (w.runsDue label key places) =
      { w with database := w.database.committing (recordsOfDue ms), migrations } ∧
    ∀ p, migrations[p]? =
      if p ∈ places ∧ w.isDue p then (w.migrations[p]?).map ({ · with status := .succeeded })
      else w.migrations[p]?

theorem RunsDue.skip {places : List Nat} {ms : List Migration} (h : w.RunsDue label key places ms)
    {place : Nat} {m : Migration} (hm : w.migrations[place]? = some m)
    (hdue : ¬ w.isDue place = true) : w.RunsDue label key (place :: places) (m :: ms) := by
  have hdone : m.status.done = true := by
    rw [isDue_of_getElem? hm] at hdue
    simpa using hdue
  have hruns : w.runsDue label key (place :: places) = w.runsDue label key places := by
    rw [runsDue, if_neg hdue]
  have hrecords : recordsOfDue (m :: ms) = recordsOfDue ms := by
    simp [recordsOfDue, hdone]
  obtain ⟨migrations, hafter, hget⟩ := h.after
  refine ⟨?_, hruns ▸ h.answers, migrations, ?_, fun p => ?_⟩
  · rw [hruns, h.steps, List.filter_cons, if_neg hdue]
  · rw [hruns, hafter, hrecords]
  · rw [hget]
    by_cases hp : p = place
    · subst hp
      simp [hdue]
    · simp [hp]

theorem RunsDue.run {places : List Nat} {ms : List Migration} {place : Nat} {m : Migration}
    (hm : w.migrations[place]? = some m) (hdue : w.isDue place = true) (hplace : place ∉ places)
    {migrations : List Migration}
    (hstep : (w.step (.operate label key (.run place))).world =
      { w with database := w.database.committing [⟨m.name, true, ""⟩], migrations })
    (hset : ∀ p, migrations[p]? =
      if place = p then some { m with status := .succeeded } else w.migrations[p]?)
    (hanswer : (w.step (.operate label key (.run place))).answer.succeeds = true)
    (h : (w.step (.operate label key (.run place))).world.RunsDue label key places ms) :
    w.RunsDue label key (place :: places) (m :: ms) := by
  have hdone : m.status.done = false := by
    rw [isDue_of_getElem? hm] at hdue
    simpa using hdue
  have hruns : w.runsDue label key (place :: places) = .operate label key (.run place) ::
      (w.step (.operate label key (.run place))).world.runsDue label key places := by
    rw [runsDue, if_pos hdue]
  have hrecords : recordsOfDue (m :: ms) = ⟨m.name, true, ""⟩ :: recordsOfDue ms := by
    simp [recordsOfDue, hdone]
  obtain ⟨migrations', hafter, hget⟩ := h.after
  rw [hstep] at h hafter hget
  -- The run changes the status of its own place, and so what comes later is due as before.
  have hdues (p : Nat) (hp : p ∈ places) :
      { w with database := w.database.committing [⟨m.name, true, ""⟩], migrations }.isDue p =
        w.isDue p := by
    have hne : place ≠ p := fun he => hplace (he ▸ hp)
    rw [isDue, isDue, hset, if_neg hne]
  constructor
  case steps =>
    rw [hruns, hstep, h.steps, List.filter_cons, if_pos hdue, List.map_cons,
      List.filter_congr hdues]
  case answers =>
    rw [hruns, hstep]
    intro turn hturn
    rcases List.mem_cons.1 hturn with rfl | hturn
    · exact hanswer
    · rw [hstep] at hturn
      exact h.answers turn hturn
  case after =>
    refine ⟨migrations', ?_, fun p => ?_⟩
    · rw [hruns, World.after, hstep, hafter, Database.committing_committing, hrecords]
    · rw [hget, hset]
      by_cases hp : place = p
      · subst hp
        simp [hplace, hdue, hm]
      · have hp' : p ≠ place := fun h => hp h.symm
        simp only [if_neg hp, List.mem_cons, hp', false_or]
        by_cases hmem : p ∈ places
        · rw [hdues p hmem]
        · simp [hmem]

theorem runsDue_spec (hw : w.Reached anyTerms) (hrules : w.database.rules = [])
    (hd : w.labelled? label = some (d, st)) {key : String} {places : List Nat}
    {ms : List Migration} (hplaces : places.Nodup)
    (hms : places.map (w.migrations[·]?) = ms.map some)
    (hwrites : ∀ m ∈ ms, m.action.rowWrites = [])
    (hlocks : ∀ m ∈ ms, m.action.takesLock = false) (hworks : w.allWork label key places = true) :
    w.RunsDue label key places ms := by
  induction places generalizing w ms with
  | nil =>
    cases ms with
    | nil => exact ⟨rfl, by simp [runsDue, World.steps], w.migrations, rfl, by simp⟩
    | cons m ms => cases hms
  | cons place places ih =>
    obtain ⟨m, ms, rfl⟩ : ∃ m ms', ms = m :: ms' := by
      cases ms with
      | nil => cases hms
      | cons m ms => exact ⟨m, ms, rfl⟩
    rw [List.map_cons, List.map_cons, List.cons.injEq] at hms
    obtain ⟨hm, hms⟩ := hms
    obtain ⟨hplace, hplaces⟩ := List.nodup_cons.1 hplaces
    have hwrites' := fun m' hm' => hwrites m' (List.mem_cons_of_mem m hm')
    have hlocks' := fun m' hm' => hlocks m' (List.mem_cons_of_mem m hm')
    by_cases hdue : w.isDue place = true
    · rw [allWork, if_pos hdue, Bool.and_eq_true, hm, Option.all_some] at hworks
      obtain ⟨⟨migrations, hstep, hset⟩, hanswer⟩ := step_run hw hrules hd hm
        (hwrites m List.mem_cons_self) (hlocks m List.mem_cons_self) hworks.1 key
      refine .run hm hdue hplace hstep hset hanswer ?_
      refine ih (hw.step (w.serves_anyTerms _)) ?_ ?_ hplaces ?_ hwrites' hlocks' hworks.2
      · rw [hstep]
        exact hrules
      · rw [hstep]
        exact hd
      · rw [← hms, hstep]
        refine List.map_congr_left fun p hp => ?_
        rw [hset, if_neg fun he : place = p => hplace (he ▸ hp)]
    · rw [allWork, if_neg hdue] at hworks
      exact .skip (ih hw hrules hd hplaces hms hwrites' hlocks' hworks) hm hdue

/-! ## A whole pass -/

theorem after_append (w : World) (ss ss' : List Step) :
    w.after (ss ++ ss') = (w.after ss).after ss' := by
  induction ss generalizing w with
  | nil => rfl
  | cons s ss ih => exact ih (w.step s).world

theorem steps_append (w : World) (ss ss' : List Step) :
    w.steps (ss ++ ss') = w.steps ss ++ (w.after ss).steps ss' := by
  induction ss generalizing w with
  | nil => rfl
  | cons s ss ih => rw [List.cons_append, steps, ih, steps, List.cons_append, after]

/-- What a pass over the migrations at the places starts from. -/
structure Startable (w : World) (label : String) (d : DriverId) (st : DriverState)
    (places : List Nat) : Prop where
  rules : w.database.rules = []
  manager : w.labelled? label = some (d, st)
  slot : st.slot = .free
  lock : w.database.locks.lookup st.driver.lockName = none
  there : ∀ p ∈ places, (w.migrations[p]?).isSome = true
  names : ((w.migrationsAt places).map (·.name)).Nodup
  status : ∀ m ∈ w.migrationsAt places, m.status = {}
  rowWrites : ∀ m ∈ w.migrationsAt places, m.action.rowWrites = []
  takesLock : ∀ m ∈ w.migrationsAt places, m.action.takesLock = false

/-- What is due in the pass works, besides. -/
structure Passable (w : World) (label key : String) (d : DriverId) (st : DriverState)
    (places : List Nat) : Prop extends Startable w label d st places where
  works : (w.after (opening label key places)).allWork label key places = true

/-- The records of the migrations that no row says are done. -/
def missing (w : World) (places : List Nat) : List RowWrite :=
  ((w.migrationsAt places).filter fun m => !w.database.rows.hasDone m.name).map
    fun m => ⟨m.name, true, ""⟩

/-- What a pass leaves: the records that were missing, and migrations that are done. -/
structure Passed (w : World) (places : List Nat) (w' : World) : Prop where
  database : w'.database =
    { w.database with
      begun := w.database.begun + 1 + (w.missing places).length
      rows := w.database.rows.writeAll (w.missing places) }
  labels : w'.labels = w.labels
  drivers : w'.drivers = w.drivers
  migrations : ∀ p, w'.migrations[p]? =
    if p ∈ places then (w.migrations[p]?).map ({ · with status := .succeeded })
    else w.migrations[p]?

theorem done_of_loaded {rows : TrackingRows} {m : Migration} (hm : m.status = {}) :
    (m.loaded rows).status.done = rows.hasDone m.name := by
  unfold Migration.loaded TrackingRows.hasDone
  cases rows.lookup m.name with
  | none => rw [hm]; rfl
  | some row => rfl

theorem name_of_loaded (rows : TrackingRows) (m : Migration) : (m.loaded rows).name = m.name := by
  unfold Migration.loaded
  split <;> rfl

theorem action_of_loaded (rows : TrackingRows) (m : Migration) :
    (m.loaded rows).action = m.action := by
  unfold Migration.loaded
  split <;> rfl

theorem withStatus_loaded (rows : TrackingRows) (m : Migration) (status : MigrationStatus) :
    { m.loaded rows with status } = { m with status } := by
  unfold Migration.loaded
  split <;> rfl

theorem loaded_of_hasDone {rows : TrackingRows} {m : Migration} (h : rows.hasDone m.name = true) :
    m.loaded rows = { m with status := .succeeded } := by
  unfold TrackingRows.hasDone at h
  unfold Migration.loaded
  cases hrow : rows.lookup m.name with
  | none =>
    rw [hrow] at h
    cases h
  | some row =>
    rw [hrow, Option.any_some] at h
    simp only [h]
    rfl

theorem succeeded_or_loaded (rows : TrackingRows) (m : Migration) :
    (if rows.hasDone m.name then m.loaded rows else { m.loaded rows with status := .succeeded }) =
      { m with status := .succeeded } := by
  by_cases h : rows.hasDone m.name = true
  · rw [if_pos h]
    exact loaded_of_hasDone h
  · rw [if_neg h]
    exact withStatus_loaded rows m _

variable {places : List Nat} {ms : List Migration}

theorem recordsOfDue_loaded (hms : ∀ m ∈ w.migrationsAt places, m.status = {}) :
    recordsOfDue ((w.migrationsAt places).map (·.loaded w.database.rows)) = w.missing places := by
  have hdue : ∀ m ∈ w.migrationsAt places, (!(m.loaded w.database.rows).status.done) =
      !w.database.rows.hasDone m.name := by
    intro m hm
    rw [done_of_loaded (hms m hm)]
  rw [recordsOfDue, missing, List.filter_map, List.map_map]
  have hfilter : (w.migrationsAt places).filter
      ((fun m => !m.status.done) ∘ (·.loaded w.database.rows)) =
        (w.migrationsAt places).filter fun m => !w.database.rows.hasDone m.name :=
    List.filter_congr hdue
  rw [hfilter]
  apply List.map_congr_left
  intro m _
  rw [Function.comp_apply, name_of_loaded]

theorem Startable.after_opening (h : w.Startable label d st places)
    (hw : w.Reached anyTerms) (hrows : (w.database.rows.map (·.1)).Nodup) :
    (∀ turn ∈ w.steps (opening label key places), turn.answer.succeeds = true) ∧
    ∃ migrations,
      w.after (opening label key places) =
        { w.holding key d st.driver.lockName with migrations } ∧
      ∀ p, migrations[p]? =
        if p ∈ places then (w.migrations[p]?).map (·.loaded w.database.rows)
        else w.migrations[p]? := by
  obtain ⟨hacquired, hanswer₁⟩ :=
    step_acquire hw.allUsed h.rules h.manager h.slot h.lock key
  have hused₁ : (w.holding key d st.driver.lockName).AllUsed := by
    rw [← hacquired]
    exact (hw.step (w.serves_anyTerms _)).allUsed
  have hmanager₁ : (w.holding key d st.driver.lockName).labelled? label =
      some (d, { st with slot := .held w.nextLock (w.database.begun + 1) }) :=
    labelled?_setSlot h.manager _
  obtain ⟨hensured, hanswer₂⟩ := step_ensureTracking hused₁ h.rules hmanager₁ key
  obtain ⟨⟨migrations, hloaded, hget⟩, hanswer₃⟩ :=
    step_load hused₁ h.rules hmanager₁ hrows h.there h.names key
  refine ⟨?_, migrations, ?_, hget⟩
  · simp only [opening, steps, List.mem_cons, List.not_mem_nil, or_false, hacquired, hensured]
    rintro turn (rfl | rfl | rfl)
    · exact hanswer₁
    · exact hanswer₂
    · exact hanswer₃
  · simp only [opening, after, hacquired, hensured, hloaded]

theorem map_getElem?_congr {f : Migration → Migration}
    (hms : places.map (w.migrations[·]?) = ms.map some)
    (h : ∀ p ∈ places, w'.migrations[p]? = (w.migrations[p]?).map f) :
    places.map (w'.migrations[·]?) = (ms.map f).map some :=
  calc places.map (w'.migrations[·]?)
      = places.map fun p => (w.migrations[p]?).map f := List.map_congr_left h
    _ = (places.map (w.migrations[·]?)).map (Option.map f) := by
        rw [List.map_map]
        rfl
    _ = (ms.map f).map some := by
        rw [hms, List.map_map, List.map_map]
        rfl

theorem Startable.getElem? (h : w.Startable label d st places) {p : Nat} (hp : p ∈ places) :
    ∃ m ∈ w.migrationsAt places, w.migrations[p]? = some m := by
  obtain ⟨m, hm⟩ := Option.isSome_iff_exists.1 (h.there p hp)
  exact ⟨m, List.mem_filterMap.2 ⟨p, hp, hm⟩, hm⟩

theorem Startable.isDue_opening (h : w.Startable label d st places)
    (hw : w.Reached anyTerms) (hrows : (w.database.rows.map (·.1)).Nodup) {p : Nat}
    (hp : p ∈ places) :
    (w.after (opening label key places)).isDue p = !w.isRecorded p := by
  obtain ⟨-, loaded, hopened, hget⟩ := h.after_opening hw hrows
  obtain ⟨m, hm, hplace⟩ := h.getElem? hp
  have hloaded : (w.after (opening label key places)).migrations[p]? =
      some (m.loaded w.database.rows) := by
    rw [hopened, hget, if_pos hp, hplace]
    rfl
  rw [isDue_of_getElem? hloaded, done_of_loaded (h.status m hm), isRecorded_of_getElem? hplace]

theorem Passable.after_runs (h : w.Passable label key d st places)
    (hw : w.Reached anyTerms) (hrows : (w.database.rows.map (·.1)).Nodup) :
    let opened := w.after (opening label key places)
    opened.runsDue label key places =
        (places.filter (!w.isRecorded ·)).map (fun place => .operate label key (.run place)) ∧
    (∀ turn ∈ opened.steps (opened.runsDue label key places), turn.answer.succeeds = true) ∧
    ∃ migrations, opened.after (opened.runsDue label key places) =
        { w.holding key d st.driver.lockName with
          database := (w.holding key d st.driver.lockName).database.committing (w.missing places)
          migrations } ∧
      ∀ p, migrations[p]? =
        if p ∈ places then (w.migrations[p]?).map ({ · with status := .succeeded })
        else w.migrations[p]? := by
  intro opened
  obtain ⟨-, loaded, hopened, hget⟩ := h.after_opening hw hrows
  have hmigrations : opened.migrations = loaded := by
    show (w.after (opening label key places)).migrations = loaded
    rw [hopened]
  have hloaded (p : Nat) (hp : p ∈ places) :
      opened.migrations[p]? = (w.migrations[p]?).map (·.loaded w.database.rows) := by
    rw [hmigrations, hget, if_pos hp]
  have hplaces := map_getElem?_congr (map_getElem?_eq h.there) hloaded
  have hdue (p : Nat) (hp : p ∈ places) : opened.isDue p = !w.isRecorded p :=
    h.isDue_opening hw hrows hp
  have hmanager : opened.labelled? label =
      some (d, { st with slot := .held w.nextLock (w.database.begun + 1) }) := by
    show (w.after (opening label key places)).labelled? label = _
    rw [hopened]
    exact labelled?_setSlot h.manager _
  have hrules : opened.database.rules = [] := by
    show (w.after (opening label key places)).database.rules = []
    rw [hopened]
    exact h.rules
  have hactions (good : MigrationAction → Prop)
      (hgood : ∀ m ∈ w.migrationsAt places, good m.action) :
      ∀ m ∈ (w.migrationsAt places).map (·.loaded w.database.rows), good m.action := by
    intro m hm
    obtain ⟨m₀, hm₀, rfl⟩ := List.mem_map.1 hm
    rw [action_of_loaded]
    exact hgood m₀ hm₀
  obtain ⟨hsteps, hanswers, migrations, hafter, hget'⟩ :=
    runsDue_spec (reached_after hw _) hrules hmanager (nodup_of_names h.there h.names) hplaces
      (hactions (·.rowWrites = []) h.rowWrites) (hactions (·.takesLock = false) h.takesLock) h.works
  rw [recordsOfDue_loaded h.status] at hafter
  refine ⟨?_, hanswers, migrations, ?_, fun p => ?_⟩
  · rw [hsteps, List.filter_congr hdue]
  · rw [hafter, hopened]
  · rw [hget']
    by_cases hp : p ∈ places
    · obtain ⟨m, hm, hplace⟩ := h.getElem? hp
      rw [hdue p hp, hloaded p hp, hplace, if_pos hp, isRecorded_of_getElem? hplace,
        Option.map_some, Option.map_some, Option.map_some,
        ← succeeded_or_loaded w.database.rows m]
      by_cases hdone : w.database.rows.hasDone m.name = true
      · simp [hdone]
      · simp [hdone, hp]
    · rw [if_neg fun hboth => hp hboth.1, hmigrations, hget, if_neg hp, if_neg hp]

theorem Startable.after_release (h : w.Startable label d st places) (hw : w.Sound)
    {w₁ : World} (hused : w₁.AllUsed) {migrations : List Migration}
    (hw₁ : w₁ = { w.holding key d st.driver.lockName with
      database := (w.holding key d st.driver.lockName).database.committing (w.missing places)
      migrations }) :
    let released := (w₁.step (.operate label key .release)).world
    released.database =
      { w.database with
        begun := w.database.begun + 1 + (w.missing places).length
        rows := w.database.rows.writeAll (w.missing places) } ∧
    released.labels = w.labels ∧ released.drivers = w.drivers ∧
    released.migrations = migrations ∧
    (w₁.step (.operate label key .release)).answer.succeeds = true := by
  intro released
  have hmanager : w₁.labelled? label =
      some (d, { st with slot := .held w.nextLock (w.database.begun + 1) }) := by
    rw [hw₁]
    exact labelled?_setSlot h.manager _
  have hhandle : w₁.handles.lookup key = some ⟨w.nextLock, st.driver.lockName⟩ := by
    rw [hw₁]
    exact (lookup_putKey _ _ _ _).trans (if_pos rfl)
  have hlocks : w₁.database.locks =
      w.database.locks ++ [(st.driver.lockName, w.database.begun + 1)] := by
    rw [hw₁]
    rfl
  have hlock : w₁.database.locks.lookup st.driver.lockName = some (w.database.begun + 1) := by
    rw [hlocks, lookup_append_singleton h.lock, if_pos rfl]
  have hrules : w₁.database.rules = [] := by
    rw [hw₁]
    exact h.rules
  have hsessions : w₁.database.sessions = w.database.sessions ++ [(w.database.begun + 1, [])] := by
    rw [hw₁]
    rfl
  obtain ⟨hstep, hanswer⟩ := World.step_release hused hrules hmanager hhandle rfl hlock
  have hfreed := hw.database.freed h.lock hsessions hlocks
  refine ⟨?_, ?_, ?_, ?_, hanswer⟩
  · show (w₁.step _).world.database = _
    rw [hstep]
    refine hfreed.trans ?_
    rw [hw₁]
    rfl
  · show (w₁.step _).world.labels = _
    rw [hstep, hw₁]
    rfl
  · show (w₁.step _).world.drivers = _
    rw [hstep, hw₁]
    show ((w.setSlot d _).setSlot d .free).drivers = _
    rw [setSlot_setSlot, ← h.slot, setSlot_self hw.toNumbered (labelled?_drivers h.manager)]
  · show (w₁.step _).world.migrations = _
    rw [hstep, hw₁]
    rfl

theorem Passable.passed (h : w.Passable label key d st places) (hw : w.Reached anyTerms)
    (hrows : (w.database.rows.map (·.1)).Nodup) :
    w.pass label key places =
        opening label key places ++
          (places.filter (!w.isRecorded ·)).map (fun place => .operate label key (.run place)) ++
            [.operate label key .release] ∧
      (∀ turn ∈ w.steps (w.pass label key places), turn.answer.succeeds = true) ∧
      w.Passed places (w.after (w.pass label key places)) := by
  obtain ⟨hopening, -⟩ := h.after_opening hw hrows
  obtain ⟨hsteps, hran, migrations, hafter, hget⟩ := h.after_runs hw hrows
  have hopened := reached_after hw (opening label key places)
  have hused := (reached_after hopened
    ((w.after (opening label key places)).runsDue label key places)).allUsed
  obtain ⟨hdb, hlabels, hdrivers, hmigrations, hanswer⟩ := h.after_release hw.sound hused hafter
  refine ⟨by rw [pass, hsteps], ?_, ?_⟩
  · rw [pass, steps_append, steps_append, after_append]
    intro turn hturn
    simp only [List.mem_append] at hturn
    rcases hturn with (hturn | hturn) | hturn
    · exact hopening turn hturn
    · exact hran turn hturn
    · rw [List.mem_singleton.1 hturn]
      exact hanswer
  · rw [pass, after_append, after_append]
    refine ⟨hdb, hlabels, hdrivers, fun p => ?_⟩
    rw [← hget, ← hmigrations]
    rfl

/-! ## Rows -/

theorem nodup_rows_after (hw : w.Reached anyTerms) (hrows : (w.database.rows.map (·.1)).Nodup)
    (ss : List Step) : ((w.after ss).database.rows.map (·.1)).Nodup := by
  induction ss generalizing w with
  | nil => exact hrows
  | cons s ss ih =>
    refine ih (hw.step (w.serves_anyTerms s)) ?_
    cases hl : w.launch? s with
    | none =>
      rw [hw.sound.rows_step_idle hl]
      exact hrows
    | some l =>
      rw [rows_step hl]
      apply Program.advance_nodup_rows
      rw [rows_of_launch? hl]
      exact hrows

theorem filter_name_eq {m : Migration} (hnames : (ms.map (·.name)).Nodup) (hm : m ∈ ms) :
    ms.filter (·.name = m.name) = [m] := by
  induction ms with
  | nil => cases hm
  | cons m' ms ih =>
    obtain ⟨hm', hnames⟩ := List.nodup_cons.1 hnames
    have hother (m₁ : Migration) (hm₁ : m₁ ∈ ms) : m₁.name ≠ m'.name := fun he =>
      hm' (List.mem_map.2 ⟨m₁, hm₁, he⟩)
    rcases List.mem_cons.1 hm with rfl | hm
    · have hnone : ms.filter (·.name = m.name) = [] :=
        List.filter_eq_nil_iff.2 fun m₁ hm₁ => by simpa using hother m₁ hm₁
      simp [hnone]
    · have hne : m'.name ≠ m.name := fun he => hother m hm he.symm
      simp [hne, ih hnames hm]

theorem recordsOf_missing {m : Migration} (hnames : ((w.migrationsAt places).map (·.name)).Nodup)
    (hm : m ∈ w.migrationsAt places) :
    recordsOf m.name (w.missing places) =
      if w.database.rows.hasDone m.name then [] else [⟨m.name, true, ""⟩] := by
  have hcomm : recordsOf m.name (w.missing places) =
      (((w.migrationsAt places).filter (·.name = m.name)).filter
        fun m => !w.database.rows.hasDone m.name).map fun m => ⟨m.name, true, ""⟩ := by
    rw [recordsOf, missing, List.filter_map, List.filter_filter, List.filter_filter]
    congr 1
    apply List.filter_congr
    intro m' _
    exact Bool.and_comm _ _
  rw [hcomm, filter_name_eq hnames hm]
  by_cases hdone : w.database.rows.hasDone m.name = true
  · simp [hdone]
  · simp [hdone]

theorem recordsOf_missing_of_ne {name : MigrationName}
    (h : ∀ m ∈ w.migrationsAt places, m.name ≠ name) :
    recordsOf name (w.missing places) = [] := by
  refine List.filter_eq_nil_iff.2 fun r hr => ?_
  obtain ⟨m, hm, rfl⟩ := List.mem_map.1 hr
  simpa using h m (List.mem_filter.1 hm).1

/-! ## Fresh copies -/

def refreshing (places : List Nat) : List Step := places.map fun place => .setStatus place {}

theorem step_setStatus (hused : w.AllUsed) (place : Nat) (status : MigrationStatus) :
    (w.step (.setStatus place status)).world = w.setStatus place status := by
  have hused' : (w.setStatus place status).AllUsed := hused
  show (w.setStatus place status).discardUnused.1 = _
  rw [hused'.discardUnused]

theorem after_refreshing (hused : w.AllUsed) (h : places.length = ms.length) :
    w.after (refreshing places) =
      (places.zip (ms.map ({ · with status := {} }))).foldl
        (fun w (place, m) => w.setStatus place m.status) w := by
  induction places generalizing w ms with
  | nil => rfl
  | cons place places ih =>
    cases ms with
    | nil => cases h
    | cons m ms =>
      have hused' : (w.setStatus place {}).AllUsed := hused
      have hrest := ih hused' (Nat.succ.inj h)
      show (w.step (.setStatus place {})).world.after (refreshing places) = _
      rw [step_setStatus hused, hrest]
      rfl

theorem allWork_of_not_due (h : ∀ p ∈ places, w.isDue p = false) :
    w.allWork label key places = true := by
  induction places with
  | nil => rfl
  | cons place places ih =>
    have hplace : ¬ w.isDue place = true := by simp [h place List.mem_cons_self]
    rw [allWork, if_neg hplace]
    exact ih fun p hp => h p (List.mem_cons_of_mem place hp)

theorem Passed.lookup (hpassed : w.Passed places w')
    (hnames : ((w.migrationsAt places).map (·.name)).Nodup) {m : Migration}
    (hm : m ∈ w.migrationsAt places) :
    w'.database.rows.lookup m.name =
      if w.database.rows.hasDone m.name then w.database.rows.lookup m.name
      else some ⟨true, "", w.database.rows.writesOf m.name + 1⟩ := by
  have hrecords := recordsOf_missing (w := w) hnames hm
  rw [hpassed.database]
  by_cases hdone : w.database.rows.hasDone m.name = true
  · rw [if_pos hdone] at hrecords ⊢
    exact TrackingRows.lookup_writeAll_of_nil hrecords
  · rw [if_neg hdone] at hrecords ⊢
    have hlast : (recordsOf m.name (w.missing places)).getLast? = some ⟨m.name, true, ""⟩ := by
      rw [hrecords]
      rfl
    refine (TrackingRows.lookup_writeAll_of_last hlast).trans ?_
    rw [hrecords]
    rfl

theorem Passed.hasDone (hpassed : w.Passed places w')
    (hnames : ((w.migrationsAt places).map (·.name)).Nodup) {m : Migration}
    (hm : m ∈ w.migrationsAt places) : w'.database.rows.hasDone m.name = true := by
  rw [TrackingRows.hasDone, hpassed.lookup hnames hm]
  by_cases hdone : w.database.rows.hasDone m.name = true
  · rw [if_pos hdone]
    exact hdone
  · rw [if_neg hdone]
    rfl

theorem Passed.lookup_of_ne (hpassed : w.Passed places w') {name : MigrationName}
    (h : ∀ m ∈ w.migrationsAt places, m.name ≠ name) :
    w'.database.rows.lookup name = w.database.rows.lookup name := by
  rw [hpassed.database]
  exact TrackingRows.lookup_writeAll_of_nil (recordsOf_missing_of_ne h)

theorem Passed.after_refreshing (hpassed : w.Passed places w')
    (h : w.Startable label d st places) (hused : w'.AllUsed) :
    ∃ migrations, w'.after (refreshing places) = { w' with migrations } ∧
      ∀ p ∈ places, migrations[p]? = w.migrations[p]? := by
  have hdone (p : Nat) (hp : p ∈ places) :
      w'.migrations[p]? = (w.migrations[p]?).map ({ · with status := .succeeded }) := by
    rw [hpassed.migrations, if_pos hp]
  have hplaces := map_getElem?_congr (map_getElem?_eq h.there) hdone
  have hlength := congrArg List.length hplaces
  rw [List.length_map, List.length_map] at hlength
  obtain ⟨migrations, hfold, hget⟩ := foldl_setStatus (fun m => { m with status := {} })
    (fun _ => rfl) (nodup_of_names h.there h.names) hplaces
  refine ⟨migrations, (World.after_refreshing hused hlength).trans hfold, fun p hp => ?_⟩
  obtain ⟨m, hm, hplace⟩ := h.getElem? hp
  have hsame : { m with status := {} } = m := by rw [← h.status m hm]
  rw [hget, if_pos hp, hdone p hp, hplace]
  exact congrArg some hsame

theorem Passed.startable (hpassed : w.Passed places w')
    (h : w.Startable label d st places) (hused : w'.AllUsed) :
    let fresh := w'.after (refreshing places)
    fresh.Startable label d st places ∧
      fresh.migrationsAt places = w.migrationsAt places ∧ fresh.database = w'.database := by
  intro fresh
  obtain ⟨migrations, hfresh, hget⟩ := hpassed.after_refreshing h hused
  obtain ⟨hsame, hdb⟩ : fresh.migrations = migrations ∧ fresh.database = w'.database := by
    rw [show fresh = _ from hfresh]
    exact ⟨rfl, rfl⟩
  have hmigrations : fresh.migrationsAt places = w.migrationsAt places :=
    List.filterMap_congr fun p hp => by rw [hsame, hget p hp]
  refine ⟨?_, hmigrations, hdb⟩
  constructor
  case rules => rw [hdb, hpassed.database]; exact h.rules
  case manager =>
    refine labelled?_eq_some_iff.2 ?_
    rw [show fresh = _ from hfresh]
    show w'.labels.lookup label = some d ∧ w'.drivers.lookup d = some st
    rw [hpassed.labels, hpassed.drivers]
    exact labelled?_eq_some_iff.1 h.manager
  case slot => exact h.slot
  case lock => rw [hdb, hpassed.database]; exact h.lock
  case there =>
    intro p hp
    rw [hsame, hget p hp]
    exact h.there p hp
  all_goals rw [hmigrations]
  case names => exact h.names
  case status => exact h.status
  case rowWrites => exact h.rowWrites
  case takesLock => exact h.takesLock

theorem Startable.passed_of_hasDone (h : w.Startable label d st places)
    (hw : w.Reached anyTerms) (hrows : (w.database.rows.map (·.1)).Nodup)
    (hdone : ∀ m ∈ w.migrationsAt places, w.database.rows.hasDone m.name = true) :
    w.pass label key places = opening label key places ++ [.operate label key .release] ∧
      (∀ turn ∈ w.steps (w.pass label key places), turn.answer.succeeds = true) ∧
      (w.after (w.pass label key places)).database.rows = w.database.rows := by
  have hrecorded (p : Nat) (hp : p ∈ places) : w.isRecorded p = true := by
    obtain ⟨m, hm, hplace⟩ := h.getElem? hp
    rw [isRecorded_of_getElem? hplace]
    exact hdone m hm
  have hworks : (w.after (opening label key places)).allWork label key places = true := by
    apply allWork_of_not_due
    intro p hp
    rw [h.isDue_opening hw hrows hp, hrecorded p hp]
    rfl
  obtain ⟨hpass, hanswers, hpassed⟩ := Passable.passed ⟨h, hworks⟩ hw hrows
  have hnone : places.filter (!w.isRecorded ·) = [] :=
    List.filter_eq_nil_iff.2 fun p hp => by simp [hrecorded p hp]
  have hmissing : w.missing places = [] := by
    rw [missing, List.filter_eq_nil_iff.2 fun m hm => by simp [hdone m hm]]
    rfl
  rw [hnone] at hpass
  refine ⟨hpass, hanswers, ?_⟩
  rw [hpassed.database, hmissing]
  rfl

/--
After any steps, a pass in which every action works succeeds. It runs each migration that no row
says is done, once and in order, and nothing for the others. Then every migration is done, and so is
its row; those that it ran have one more write and no error, and all other rows are as they were.
The lock is free, and each session of the pass is closed. A second pass, over fresh copies, runs
nothing and changes no row.
-/
theorem pass_converges (seed : List (MigrationName × TrackingRow)) {rules : List Rule}
    {migrations : List Migration} {ss : List Step}
    (hpast : w = (initial (TrackingRows.seeded seed) rules migrations).after ss)
    (h : w.Passable label key d st places) :
    let w' := w.after (w.pass label key places)
    let fresh := w'.after (refreshing places)
    w.pass label key places =
        opening label key places ++
          (places.filter (!w.isRecorded ·)).map (fun place => .operate label key (.run place)) ++
            [.operate label key .release] ∧
    (∀ turn ∈ w.steps (w.pass label key places), turn.answer.succeeds = true) ∧
    (∀ p ∈ places, ∀ m, w.migrations[p]? = some m →
      w'.migrations[p]? = some { m with status := { done := true } } ∧
      w'.database.rows.hasDone m.name = true ∧
      w'.database.rows.lookup m.name =
        if w.isRecorded p then w.database.rows.lookup m.name
        else some ⟨true, "", w.database.rows.writesOf m.name + 1⟩) ∧
    (∀ name, (∀ m ∈ w.migrationsAt places, m.name ≠ name) →
      w'.database.rows.lookup name = w.database.rows.lookup name) ∧
    w'.labelled? label = some (d, st) ∧ st.slot.isHeld = false ∧
    w'.database.locks.lookup st.driver.lockName = none ∧
    w'.database.sessions = w.database.sessions ∧
    fresh.pass label key places = opening label key places ++ [.operate label key .release] ∧
    (∀ turn ∈ fresh.steps (fresh.pass label key places), turn.answer.succeeds = true) ∧
    (fresh.after (fresh.pass label key places)).database.rows = w'.database.rows := by
  intro w' fresh
  have hstart : (initial (TrackingRows.seeded seed) rules migrations).Reached anyTerms :=
    .start _ _ _
  have hw : w.Reached anyTerms := hpast ▸ reached_after hstart ss
  have hrows : (w.database.rows.map (·.1)).Nodup :=
    hpast ▸ nodup_rows_after hstart (TrackingRows.nodup_seeded seed) ss
  have hw' : w'.Reached anyTerms := reached_after hw _
  have hfresh : fresh.Reached anyTerms := reached_after hw' _
  obtain ⟨hpass, hanswers, hpassed⟩ := h.passed hw hrows
  obtain ⟨hstartable, hmigrations, hdb⟩ := hpassed.startable h.toStartable hw'.allUsed
  have hrows' : (fresh.database.rows.map (·.1)).Nodup :=
    nodup_rows_after hw' (nodup_rows_after hw hrows _) _
  obtain ⟨hpass', hanswers', hsame⟩ := hstartable.passed_of_hasDone hfresh hrows' fun m hm => by
    rw [hmigrations] at hm
    rw [hdb]
    exact hpassed.hasDone h.names hm
  refine ⟨hpass, hanswers, ?_, fun name => hpassed.lookup_of_ne, ?_, ?_, ?_, ?_, hpass', hanswers',
    hsame.trans (congrArg Database.rows hdb)⟩
  · intro p hp m hplace
    obtain ⟨m', hm, hplace'⟩ := h.getElem? hp
    cases hplace.symm.trans hplace'
    refine ⟨?_, hpassed.hasDone h.names hm, ?_⟩
    · rw [hpassed.migrations, if_pos hp, hplace]
      rfl
    · rw [isRecorded_of_getElem? hplace]
      exact hpassed.lookup h.names hm
  · refine labelled?_eq_some_iff.2 ?_
    rw [hpassed.labels, hpassed.drivers]
    exact labelled?_eq_some_iff.1 h.manager
  · rw [h.slot]
    rfl
  · rw [hpassed.database]
    exact h.lock
  · rw [hpassed.database]

/-- A pass after one that was cancelled at a script: it skips what is done, and tries the script. -/
theorem pass_converges_cancelled :
    let one : Migration := { name := ⟨"lib", "one"⟩, action := .computed [] }
    let two : Migration := { name := ⟨"lib", "two"⟩, action := .script "INSERT INTO t VALUES (1)" }
    let three : Migration :=
      { name := ⟨"lib", "three"⟩
        action := .generated
          [⟨.query "SELECT a FROM t" [], none⟩, ⟨.append "UPDATE t SET a = 1", none⟩] }
    let seed : List (MigrationName × TrackingRow) := [(one.name, { done := true })]
    let rules : List Rule := [{ contains := "INSERT", reply := .block }]
    let w := (initial (TrackingRows.seeded seed) rules [one, two, three]).after
      [.create "a" {} none, .operate "a" "k" (.run 1), .cancel "k", .setRules []]
    let places := [0, 1, 2]
    (∃ d st, w.Passable "a" "k" d st places) ∧
      (w.pass "a" "k" places).length = 6 ∧
      (w.after (w.pass "a" "k" places)).database.rows.lookup one.name = some { done := true } ∧
      (w.after (w.pass "a" "k" places)).database.rows.lookup two.name = some ⟨true, "", 1⟩ := by
  intro one two three seed rules w places
  obtain ⟨⟨d, st⟩, hd⟩ : ∃ e, w.labelled? "a" = some e :=
    Option.isSome_iff_exists.1 (by decide +kernel)
  have hfree : (w.labelled? "a").all (fun e => e.2.slot = .free ∧
      w.database.locks.lookup e.2.driver.lockName = none) = true := by decide +kernel
  rw [hd, Option.all_some, decide_eq_true_eq] at hfree
  have hpassable : w.Passable "a" "k" d st places := by
    constructor
    case works => decide +kernel
    constructor
    case manager => exact hd
    case slot => exact hfree.1
    case lock => exact hfree.2
    all_goals decide +kernel
  obtain ⟨-, -, hdone, -⟩ := pass_converges (w := w) seed rfl hpassable
  have hrow (p : Nat) (hp : p ∈ places) (name : MigrationName)
      (hname : (w.migrations[p]?).map (·.name) = some name) :
      (w.after (w.pass "a" "k" places)).database.rows.lookup name =
        if w.isRecorded p then w.database.rows.lookup name
        else some ⟨true, "", w.database.rows.writesOf name + 1⟩ := by
    obtain ⟨m, hm, rfl⟩ := Option.map_eq_some_iff.1 hname
    exact (hdone p hp m hm).2.2
  refine ⟨⟨d, st, hpassable⟩, by decide +kernel, ?_, ?_⟩
  · refine (hrow 0 (by decide) one.name (by decide +kernel)).trans ?_
    decide +kernel
  · refine (hrow 1 (by decide) two.name (by decide +kernel)).trans ?_
    decide +kernel

end World

end SchemaMigration
