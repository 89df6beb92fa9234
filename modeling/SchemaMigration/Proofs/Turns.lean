import SchemaMigration.Proofs.Handles
import SchemaMigration.Proofs.Success

/-!
# Turns

What a step leaves whose task ends in the turn that starts it: for each operation of a pass over the
migrations, the scenario that it leaves when no rule is in force and nothing fails.
-/

namespace SchemaMigration

/-- The step was answered, and not with an error. -/
def Answer.succeeds : Answer → Bool
  | .settled (.ok _) | .drifted (.ok _) | .ran (.ok _) | .acquired (.ok _) => true
  | _ => false

namespace World

variable {w w' : World} {s : Step} {l : Launch} {label key : String} {P : Terms} {d : DriverId}
  {st : DriverState}

theorem Starts.step_finishes {task : Task} (h : w.Starts s task l) {r : Settlement}
    {db : Database} (hf : task.program.Finishes l.world.database r db)
    (hused : ({ l.world with database := db }.settle l.key r).world.AllUsed) :
    (w.step s).world = ({ l.world with database := db }.settle l.key r).world ∧
      (w.step s).answer = ({ l.world with database := db }.settle l.key r).answer := by
  rw [← h.program] at hf
  have hadvanced : l.advanced = { l.world with database := db } := by
    rw [← hf.database]
    rfl
  obtain ⟨hworld, hanswer⟩ := turn_ended (l := l) hf.standing
  rw [hadvanced] at hworld hanswer
  have hmake := make_of_launch? h.launch?
  constructor
  · show (w.make s).world.discardUnused.1 = _
    rw [hmake, hworld, hused.discardUnused]
  · show (w.make s).answer = _
    rw [hmake, hanswer]

/-! ## Managers -/

theorem setSlot_setSlot (w : World) (d : DriverId) (slot slot' : LockSlot) :
    (w.setSlot d slot).setSlot d slot' = w.setSlot d slot' := by
  have hdrivers : ((w.setSlot d slot).setSlot d slot').drivers = (w.setSlot d slot').drivers := by
    simp only [setSlot, List.map_map]
    apply List.map_congr_left
    rintro ⟨i, st⟩ _
    by_cases hi : i = d
    · simp [hi]
    · simp [hi]
  exact congrArg (fun drivers => { w with drivers }) hdrivers

theorem setSlot_self (hw : w.Numbered) (hd : w.drivers.lookup d = some st) :
    w.setSlot d st.slot = w := by
  have hdrivers : (w.setSlot d st.slot).drivers = w.drivers := by
    refine (List.map_congr_left fun e he => ?_).trans (List.map_id' _)
    obtain ⟨i, st'⟩ := e
    by_cases hi : i = d
    · subst hi
      cases (lookup_eq_some_of_mem hw.distinct he).symm.trans hd
      simp
    · simp [hi]
  exact congrArg (fun drivers => { w with drivers }) hdrivers

theorem labelled?_eq_some_iff : w.labelled? label = some (d, st) ↔
    w.labels.lookup label = some d ∧ w.drivers.lookup d = some st := by
  simp only [labelled?, Option.bind_eq_bind, Option.bind_eq_some_iff, Option.pure_def,
    Option.some.injEq, Prod.mk.injEq]
  constructor
  · rintro ⟨d', hl, st', hd, rfl, rfl⟩
    exact ⟨hl, hd⟩
  · rintro ⟨hl, hd⟩
    exact ⟨d, hl, st, hd, rfl, rfl⟩

theorem labelled?_setSlot (hd : w.labelled? label = some (d, st)) (slot : LockSlot) :
    (w.setSlot d slot).labelled? label = some (d, { st with slot }) := by
  obtain ⟨hlabel, hlookup⟩ := labelled?_eq_some_iff.1 hd
  refine labelled?_eq_some_iff.2 ⟨hlabel, ?_⟩
  rw [lookup_setSlot, if_pos rfl, hlookup]
  rfl

/-! ## Migrations -/

/-- The migrations at the places. -/
def migrationsAt (w : World) (places : List Nat) : List Migration :=
  places.filterMap (w.migrations[·]?)

theorem map_getElem?_eq {places : List Nat}
    (h : ∀ p ∈ places, (w.migrations[p]?).isSome = true) :
    places.map (w.migrations[·]?) = (w.migrationsAt places).map some := by
  induction places with
  | nil => rfl
  | cons place places ih =>
    obtain ⟨m, hm⟩ := Option.isSome_iff_exists.1 (h place List.mem_cons_self)
    have hrest := ih fun p hp => h p (List.mem_cons_of_mem place hp)
    have hmigrations : w.migrationsAt (place :: places) = m :: w.migrationsAt places := by
      rw [migrationsAt, List.filterMap_cons, hm]
      rfl
    rw [hmigrations, List.map_cons, hrest, hm]
    rfl

theorem nodup_of_names {places : List Nat}
    (hthere : ∀ p ∈ places, (w.migrations[p]?).isSome = true)
    (hnames : ((w.migrationsAt places).map (·.name)).Nodup) : places.Nodup := by
  have hsome : ((w.migrationsAt places).map some).Nodup :=
    hnames.of_map.map fun _ _ h => Option.some.inj h
  rw [← map_getElem?_eq hthere] at hsome
  exact hsome.of_map

theorem getElem?_setStatus {place : Nat} {m : Migration} (hm : w.migrations[place]? = some m)
    (status : MigrationStatus) (p : Nat) :
    (w.setStatus place status).migrations[p]? =
      if place = p then some { m with status } else w.migrations[p]? := by
  rw [setStatus, List.getElem?_modify]
  by_cases hp : place = p
  · subst hp
    simp [hm]
  · simp [hp]

theorem foldl_setStatus (f : Migration → Migration)
    (hf : ∀ m, { m with status := (f m).status } = f m) {places : List Nat} {ms : List Migration}
    (hplaces : places.Nodup) (hms : places.map (w.migrations[·]?) = ms.map some) :
    ∃ migrations,
      (places.zip (ms.map f)).foldl (fun w (place, m) => w.setStatus place m.status) w =
        { w with migrations } ∧
      ∀ p, migrations[p]? =
        if p ∈ places then (w.migrations[p]?).map f else w.migrations[p]? := by
  induction places generalizing w ms with
  | nil => exact ⟨w.migrations, by simp, by simp⟩
  | cons place places ih =>
    obtain ⟨m, ms, rfl⟩ : ∃ m ms', ms = m :: ms' := by
      cases ms with
      | nil => cases hms
      | cons m ms => exact ⟨m, ms, rfl⟩
    rw [List.map_cons, List.map_cons, List.cons.injEq] at hms
    obtain ⟨hm, hms⟩ := hms
    obtain ⟨hplace, hplaces⟩ := List.nodup_cons.1 hplaces
    have hset (p : Nat) : (w.setStatus place (f m).status).migrations[p]? =
        if place = p then some (f m) else w.migrations[p]? := by
      rw [getElem?_setStatus hm, hf]
    have hrest : places.map ((w.setStatus place (f m).status).migrations[·]?) = ms.map some := by
      rw [← hms]
      apply List.map_congr_left
      intro p hp
      rw [hset, if_neg]
      rintro rfl
      exact hplace hp
    obtain ⟨migrations, hfold, hget⟩ := ih hplaces hrest
    refine ⟨migrations, hfold, fun p => ?_⟩
    rw [hget, hset]
    by_cases hp : place = p
    · subst hp
      simp [hplace, hm]
    · have hp' : p ≠ place := fun h => hp h.symm
      simp [hp, hp']

/-! ## Operations -/

/-- The scenario once the manager holds the lock, with a session that begins now. -/
def holding (w : World) (key : String) (d : DriverId) (lockName : String) : World :=
  { w.setSlot d (.held w.nextLock (w.database.begun + 1)) with
    database := { w.database.openSession with
      locks := w.database.locks ++ [(lockName, w.database.begun + 1)] }
    handles := putKey w.handles key ⟨w.nextLock, lockName⟩
    nextLock := w.nextLock + 1 }

theorem step_acquire (hused : w.AllUsed) (hrules : w.database.rules = [])
    (hd : w.labelled? label = some (d, st)) (hs : st.slot = .free)
    (hlock : w.database.locks.lookup st.driver.lockName = none) (key : String) :
    (w.step (.operate label key .acquire)).world = w.holding key d st.driver.lockName ∧
      (w.step (.operate label key .acquire)).answer.succeeds = true := by
  have hstarts : w.Starts (.operate label key .acquire) _ _ := .acquire hd hs
  have hfinishes : (Task.acquire d w.nextLock st.driver.lockName).program.Finishes w.database
      (.acquired d w.nextLock (.ok (w.database.begun + 1))) _ :=
    (takeLock_finishes hrules hlock).bind (.pure _ _)
  let w₁ : World :=
    { { w with nextLock := w.nextLock + 1 }.setSlot d (.acquiring w.nextLock) with
      database := { w.database.openSession with
        locks := w.database.locks ++ [(st.driver.lockName, w.database.begun + 1)] } }
  have hlookup : w₁.drivers.lookup d = some { st with slot := .acquiring w.nextLock } := by
    show (w.setSlot d (.acquiring w.nextLock)).drivers.lookup d = _
    rw [lookup_setSlot, if_pos rfl, labelled?_drivers hd]
    rfl
  have hdrivers : (w₁.setSlot d (.held w.nextLock (w.database.begun + 1))).drivers =
      (w.setSlot d (.held w.nextLock (w.database.begun + 1))).drivers := by
    show ((w.setSlot d _).setSlot d _).drivers = _
    rw [setSlot_setSlot]
  have hsettle : (w₁.settle key (.acquired d w.nextLock (.ok (w.database.begun + 1)))).world =
        w.holding key d st.driver.lockName ∧
      (w₁.settle key (.acquired d w.nextLock (.ok (w.database.begun + 1)))).answer =
        .acquired (.ok ⟨w.nextLock, st.driver.lockName⟩) := by
    simp only [settle, hlookup, putHandle, and_true]
    exact congrArg (fun drivers => { w.holding key d st.driver.lockName with drivers }) hdrivers
  have hkeys : (w.holding key d st.driver.lockName).drivers.map (·.1) = w.drivers.map (·.1) :=
    map_fst_setSlot w d _
  obtain ⟨hstep, hanswer⟩ := hstarts.step_finishes hfinishes
    (hsettle.1 ▸ hused.congr hkeys rfl rfl)
  exact ⟨hstep.trans hsettle.1, by rw [hanswer, hsettle.2]; rfl⟩

theorem step_ensureTracking (hused : w.AllUsed) (hrules : w.database.rules = [])
    (hd : w.labelled? label = some (d, st)) (key : String) :
    (w.step (.operate label key .ensureTracking)).world = w ∧
      (w.step (.operate label key .ensureTracking)).answer.succeeds = true := by
  have hfinishes : (Task.ensure st.driver).program.Finishes w.database (.ensured (.ok ())) _ :=
    (st.driver.ensureTracking_finishes hrules).bind (.pure _ _)
  have hstarts : w.Starts (.operate label key .ensureTracking) _ _ := .ensure hd
  obtain ⟨hstep, hanswer⟩ := hstarts.step_finishes hfinishes hused
  exact ⟨hstep, by rw [hanswer]; rfl⟩

theorem step_load (hused : w.AllUsed) (hrules : w.database.rules = [])
    (hd : w.labelled? label = some (d, st)) (hrows : (w.database.rows.map (·.1)).Nodup)
    {places : List Nat} (hthere : ∀ p ∈ places, (w.migrations[p]?).isSome = true)
    (hnames : ((w.migrationsAt places).map (·.name)).Nodup) (key : String) :
    let step := w.step (.operate label key (.load (some places)))
    (∃ migrations, step.world = { w with migrations } ∧ ∀ p, migrations[p]? =
      if p ∈ places then (w.migrations[p]?).map (·.loaded w.database.rows)
      else w.migrations[p]?) ∧
    step.answer.succeeds = true := by
  intro step
  have hms := map_getElem?_eq hthere
  have hplaces := nodup_of_names hthere hnames
  have hloaded (m : Migration) :
      { m with status := (m.loaded w.database.rows).status } = m.loaded w.database.rows := by
    unfold Migration.loaded
    split <;> rfl
  obtain ⟨names, hload⟩ := st.driver.loadStatuses_finishes hrules hrows hnames
  have hfinishes : (Task.load st.driver places (w.migrationsAt places)).program.Finishes w.database
      (.loaded places ⟨(w.migrationsAt places).map (·.loaded w.database.rows), .ok names⟩) _ :=
    hload.bind (.pure _ _)
  have hstarts : w.Starts (.operate label key (.load (some places))) _ _ :=
    .load places hd rfl rfl
  obtain ⟨migrations, hfold, hget⟩ := foldl_setStatus _ hloaded hplaces hms
  obtain ⟨hstep, hanswer⟩ := hstarts.step_finishes hfinishes (by
    simp only [settle]
    rw [hfold]
    exact hused)
  refine ⟨⟨migrations, ?_, hget⟩, ?_⟩
  · exact hstep.trans hfold
  · rw [hanswer]
    rfl

theorem step_run (hw : w.Reached P) (hrules : w.database.rules = [])
    (hd : w.labelled? label = some (d, st)) {place : Nat} {m : Migration}
    (hm : w.migrations[place]? = some m) (hwrites : m.action.rowWrites = [])
    (hlocks : m.action.takesLock = false)
    (hworks : m.works w.database.openSession (w.database.begun + 1) = true) (key : String) :
    let step := w.step (.operate label key (.run place))
    (∃ migrations, step.world =
        { w with database := w.database.committing [⟨m.name, true, ""⟩], migrations } ∧
      ∀ p, migrations[p]? =
        if place = p then some { m with status := .succeeded } else w.migrations[p]?) ∧
    step.answer.succeeds = true := by
  intro step
  obtain ⟨x, hrun⟩ :=
    st.driver.run_finishes hw.sound.database hrules hwrites hlocks hworks
  have hfinishes : (Task.run st.driver place m).program.Finishes w.database
      (.ran place ⟨.ok x, .succeeded⟩) _ := hrun.bind (.pure _ _)
  have hstarts : w.Starts (.operate label key (.run place)) _ _ := .run hd hm
  obtain ⟨hstep, hanswer⟩ := hstarts.step_finishes hfinishes hw.allUsed
  refine ⟨⟨(w.setStatus place .succeeded).migrations, hstep, getElem?_setStatus hm _⟩, ?_⟩
  rw [hanswer]
  rfl

theorem step_release (hused : w.AllUsed) (hrules : w.database.rules = [])
    (hd : w.labelled? label = some (d, st)) {key : String} {handle : LockHandle} {t : SessionId}
    (hh : w.handles.lookup key = some handle) (hs : st.slot = .held handle.id t)
    (hlock : w.database.locks.lookup st.driver.lockName = some t) :
    (w.step (.operate label key .release)).world =
        { w.setSlot d .free with
          database := { w.database with
            locks := w.database.locks.filter (·.1 ≠ st.driver.lockName) }.endSession t
          handles := dropKey w.handles key } ∧
      (w.step (.operate label key .release)).answer.succeeds = true := by
  have hfinishes : (Task.release st.driver.lockName t).program.Finishes w.database
      (.released (.ok ())) _ := (freeLock_finishes hrules hlock).bind (.pure _ _)
  have hkeys : (w.setSlot d .free).drivers.map (·.1) = w.drivers.map (·.1) :=
    map_fst_setSlot w d _
  obtain ⟨hstep, hanswer⟩ := (Starts.release hd hh hs).step_finishes hfinishes
    (hused.congr hkeys rfl rfl)
  exact ⟨hstep, by rw [hanswer]; rfl⟩

end World

end SchemaMigration
