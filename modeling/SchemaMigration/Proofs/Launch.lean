import SchemaMigration.Proofs.Owners

/-!
# What a step does

A step starts one operation, or goes on with one that gets its lock, or changes a part of the
scenario by itself. In each case what others have is kept, and what the operation is left with
becomes its own or its driver's.
-/

namespace SchemaMigration

/-! ## Tasks -/

/-- What an operation is for. -/
inductive Task where
  | ensure (driver : Driver)
  | load (driver : Driver) (places : List Nat) (migrations : List Migration)
  | run (driver : Driver) (place : Nat) (m : Migration)
  | acquire (d : DriverId) (id : LockId) (lockName : String)
  | release (lockName : String) (s : SessionId)
  | force (lockName : String) (s : SessionId)
  | ask (driver : Driver) (q : Question)
  | skip (m : Migration)

namespace Task

def program : Task → Program Settlement
  | ensure driver => do return .ensured (← driver.ensureTracking)
  | load driver places ms => do return .loaded places (← driver.loadStatuses ms)
  | run driver place m => do return .ran place (← driver.run m)
  | acquire d id lockName => do return .acquired d id (← takeLock lockName)
  | release lockName s => do return .released (← freeLock lockName s)
  | force lockName s => do return .forced (← forceFreeLock lockName s)
  | ask driver q => do return .asked (← SchemaMigration.ask driver.schemaOverride q)
  | skip m => do return .considered (← m.shouldSkip)

def session? : Task → Option SessionId
  | release _ s | force _ s => some s
  | _ => none

theorem owns (t : Task) : t.program.Owns Settlement.session? t.session? := by
  cases t with
  | ensure driver => exact driver.ensureTracking_owns.bind fun _ => rfl
  | load driver places ms => exact (driver.loadStatuses_owns ms).bind fun _ => rfl
  | run driver place m => exact (driver.run_owns m).bind fun _ => rfl
  | acquire d id lockName =>
    refine (takeLock_owns lockName).bind ?_
    rintro (e | s)
    · exact rfl
    · exact rfl
  | release lockName s => exact (freeLock_owns lockName s).bind fun _ => rfl
  | force lockName s => exact (forceFreeLock_owns lockName s).bind fun _ => rfl
  | ask driver q => exact (ask_owns driver.schemaOverride q).bind fun _ => rfl
  | skip m => exact m.shouldSkip_owns.bind fun _ => rfl

end Task

/-! ## Slots -/

namespace LockSlot

variable {slot slot' : LockSlot} {id : LockId} {s : SessionId} {handle : LockHandle}

theorem reserve?_eq_some_iff :
    slot.reserve? id = some slot' ↔ slot = .free ∧ slot' = .acquiring id := by
  cases slot <;> simp [reserve?, eq_comm]

theorem session?_eq_some_iff : slot.session? = some s ↔ ∃ id, slot = .held id s := by
  cases slot <;> simp [session?]

theorem sessionFor?_eq_some_iff : slot.sessionFor? handle = some s ↔ slot = .held handle.id s := by
  cases slot <;> simp [sessionFor?]

end LockSlot

/-! ## Launches -/

/-- An operation that goes on the database at once: a new one, or one that gets its lock. -/
structure Launch where
  key : String
  user : Option DriverId
  attempt : Option LockId
  program : Program Settlement
  world : World

namespace Launch

def progress (l : Launch) : Progress Settlement := l.program.advance l.world.database

/-- The world once the operation has ended or is held up. -/
def advanced (l : Launch) : World := { l.world with database := l.progress.database }

def turn (l : Launch) : Turn := l.world.follow l.key l.user l.attempt l.progress

end Launch

namespace World

def opens? (w : World) : Step → Option Launch
  | .operate label key o =>
    match w.labelled? label with
    | none => none
    | some (d, st) =>
      match w.start d st key o with
      | .answered _ _ _ => none
      | .launched user attempt program world => some { key, user, attempt, program, world }
  | .shouldSkip key place =>
    match w.migrations[place]? with
    | none => none
    | some m =>
      some { key, user := none, attempt := none, program := (Task.skip m).program, world := w }
  | _ => none

def resumes? (w : World) : Step → Option Launch
  | .poll key =>
    match w.pending.lookup key with
    | some ⟨user, attempt, .waiting s lock program⟩ =>
      match w.database.grant? s lock with
      | none => none
      | some database =>
        some { key, user, attempt, program
               world := { w with database, pending := dropKey w.pending key } }
    | _ => none
  | _ => none

def launch? (w : World) (s : Step) : Option Launch := w.opens? s <|> w.resumes? s

inductive Starts (w : World) : Step → Task → Launch → Prop
  | ensure {label key d st} (hd : w.labelled? label = some (d, st)) :
      Starts w (.operate label key .ensureTracking) (.ensure st.driver)
        ⟨key, some d, none, (Task.ensure st.driver).program, w⟩
  | load {label key only d st ms} (places : List Nat) (hd : w.labelled? label = some (d, st))
      (hplaces : places = only.getD (List.range w.migrations.length))
      (hms : ms = places.filterMap (w.migrations[·]?)) :
      Starts w (.operate label key (.load only)) (.load st.driver places ms)
        ⟨key, some d, none, (Task.load st.driver places ms).program, w⟩
  | run {label key place d st m} (hd : w.labelled? label = some (d, st))
      (hm : w.migrations[place]? = some m) :
      Starts w (.operate label key (.run place)) (.run st.driver place m)
        ⟨key, some d, none, (Task.run st.driver place m).program, w⟩
  | acquire {label key d st} (hd : w.labelled? label = some (d, st)) (hs : st.slot = .free) :
      Starts w (.operate label key .acquire) (.acquire d w.nextLock st.driver.lockName)
        ⟨key, some d, some w.nextLock, (Task.acquire d w.nextLock st.driver.lockName).program,
          { w with nextLock := w.nextLock + 1 }.setSlot d (.acquiring w.nextLock)⟩
  | release {label key d st handle s} (hd : w.labelled? label = some (d, st))
      (hh : w.handles.lookup key = some handle) (hs : st.slot = .held handle.id s) :
      Starts w (.operate label key .release) (.release st.driver.lockName s)
        ⟨key, some d, none, (Task.release st.driver.lockName s).program,
          { w with handles := dropKey w.handles key }.setSlot d .free⟩
  | force {label key d st id s} (hd : w.labelled? label = some (d, st))
      (hs : st.slot = .held id s) :
      Starts w (.operate label key .forceRelease) (.force st.driver.lockName s)
        ⟨key, some d, none, (Task.force st.driver.lockName s).program, w.setSlot d .free⟩
  | ask {label key q d st} (hd : w.labelled? label = some (d, st)) :
      Starts w (.operate label key (.ask q)) (.ask st.driver q)
        ⟨key, some d, none, (Task.ask st.driver q).program, w⟩
  | skip {key place m} (hm : w.migrations[place]? = some m) :
      Starts w (.shouldSkip key place) (.skip m)
        ⟨key, none, none, (Task.skip m).program, w⟩

variable {w : World} {s : Step} {l : Launch}

theorem starts_of_start {label key : String} {d : DriverId} {st : DriverState} {o : Operation}
    {user : Option DriverId} {attempt : Option LockId} {program : Program Settlement}
    {world : World} (hd : w.labelled? label = some (d, st))
    (h : w.start d st key o = .launched user attempt program world) :
    ∃ task, w.Starts (.operate label key o) task ⟨key, user, attempt, program, world⟩ := by
  cases o with
  | ensureTracking =>
    cases h
    exact ⟨_, .ensure hd⟩
  | load only =>
    cases h
    exact ⟨_, .load _ hd rfl rfl⟩
  | run place =>
    simp only [start] at h
    split at h
    · cases h
    · rename_i m hm
      cases h
      exact ⟨_, .run hd hm⟩
  | validate place =>
    simp only [start] at h
    split at h <;> cases h
  | acquire =>
    simp only [start] at h
    split at h
    · cases h
    · rename_i slot hslot
      obtain ⟨hfree, rfl⟩ := LockSlot.reserve?_eq_some_iff.1 hslot
      cases h
      exact ⟨_, .acquire hd hfree⟩
  | release =>
    simp only [start] at h
    split at h
    · cases h
    split at h
    · cases h
    · rename_i handle hh _ t ht
      cases h
      exact ⟨_, .release hd hh (LockSlot.sessionFor?_eq_some_iff.1 ht)⟩
  | forceRelease =>
    simp only [start] at h
    split at h
    · cases h
    · rename_i t ht
      obtain ⟨id, hheld⟩ := LockSlot.session?_eq_some_iff.1 ht
      cases h
      exact ⟨_, .force hd hheld⟩
  | ask q =>
    cases h
    exact ⟨_, .ask hd⟩

theorem starts_of_opens? (h : w.opens? s = some l) : ∃ task, w.Starts s task l := by
  unfold opens? at h
  split at h
  · rename_i label key o
    split at h
    · cases h
    rename_i d st hd
    split at h
    · cases h
    rename_i user attempt program world hstart
    cases h
    exact starts_of_start hd hstart
  · rename_i key place
    split at h
    · cases h
    · rename_i m hm
      cases h
      exact ⟨_, .skip hm⟩
  · cases h

theorem Starts.opens? {task : Task} (h : w.Starts s task l) : w.opens? s = some l := by
  cases h with
  | ensure hd => simp only [World.opens?, hd]; rfl
  | load places hd hplaces hms =>
    subst hms hplaces
    simp only [World.opens?, hd]
    rfl
  | run hd hm => simp only [World.opens?, hd, start, hm]; rfl
  | acquire hd hs => simp only [World.opens?, hd, start, hs]; rfl
  | release hd hh hs =>
    simp only [World.opens?, hd, start, hh, hs, LockSlot.sessionFor?, if_pos]
    rfl
  | force hd hs => simp only [World.opens?, hd, start, hs]; rfl
  | ask hd => simp only [World.opens?, hd]; rfl
  | skip hm => simp only [World.opens?, hm]

theorem make_of_opens? (h : w.opens? s = some l) : w.make s = l.turn := by
  unfold opens? at h
  split at h
  · rename_i label key o
    split at h
    · cases h
    rename_i d st hd
    split at h
    · cases h
    rename_i user attempt program world hstart
    cases h
    simp only [make, hd, hstart]
    rfl
  · rename_i key place
    split at h
    · cases h
    · rename_i m hm
      cases h
      simp only [make, hm]
      rfl
  · cases h

theorem make_of_resumes? (h : w.resumes? s = some l) : w.make s = l.turn := by
  unfold resumes? at h
  split at h
  · rename_i key
    split at h
    · rename_i user attempt t lock program hp
      split at h
      · cases h
      · rename_i database hg
        cases h
        simp only [make, poll, hp, Suspended.poll?, hg]
        rfl
    · cases h
  · cases h

theorem launch?_cases (h : w.launch? s = some l) :
    (∃ task, w.Starts s task l) ∨ w.resumes? s = some l := by
  unfold launch? at h
  cases ho : w.opens? s with
  | none =>
    rw [ho] at h
    exact Or.inr h
  | some l' =>
    rw [ho] at h
    cases h
    exact Or.inl (starts_of_opens? ho)

theorem make_of_launch? (h : w.launch? s = some l) : w.make s = l.turn := by
  unfold launch? at h
  cases ho : w.opens? s with
  | none =>
    rw [ho] at h
    exact make_of_resumes? h
  | some l' =>
    rw [ho] at h
    cases h
    exact make_of_opens? ho

/-! ## What is kept while a task goes on -/

/-- A launch keeps what others have, and its own session is nobody else's. -/
structure Ready (w : World) (l : Launch) (own : Option SessionId) : Prop where
  sheds : w.Sheds l.world
  owns : l.program.Owns Settlement.session? own
  isOpen : ∀ t, own = some t → l.world.database.IsOpen t
  alone : ∀ t, own = some t → ∀ o, l.world.sessionOf o ≠ some t

theorem labelled?_drivers {label : String} {d : DriverId} {st : DriverState}
    (h : w.labelled? label = some (d, st)) : w.drivers.lookup d = some st := by
  unfold labelled? at h
  cases hl : w.labels.lookup label with
  | none => rw [hl] at h; cases h
  | some d' =>
    rw [hl] at h
    cases hd : w.drivers.lookup d' with
    | none => simp [hd] at h
    | some st' =>
      simp only [hd, Option.bind_eq_bind, Option.bind_some, Option.pure_def, Option.some.injEq,
        Prod.mk.injEq] at h
      rw [← h.1, hd, h.2]

theorem sessionOf_lock {d : DriverId} {st : DriverState} (h : w.drivers.lookup d = some st) :
    w.sessionOf (.lock d) = st.slot.session? := by
  rw [sessionOf, slotOf, h]

theorem Ready.after {w' : World} {own : Option SessionId} (h : w'.Ready l own) (hw : w.Sheds w') :
    w.Ready l own :=
  ⟨hw.trans h.sheds, h.owns, h.isOpen, h.alone⟩

theorem ready_of_none (hl : w.Sheds l.world)
    (ho : l.program.Owns Settlement.session? none) : w.Ready l none :=
  ⟨hl, ho, (fun _ ht => by cases ht), (fun _ ht => by cases ht)⟩

theorem Sound.ready_of_lock (hw : w.Sound) {d : DriverId} {st : DriverState} {id : LockId}
    {t : SessionId} (hd : w.drivers.lookup d = some st) (hs : st.slot = .held id t)
    (hl : l.world = w.setSlot d .free) (ho : l.program.Owns Settlement.session? (some t)) :
    w.Ready l (some t) := by
  have hsession : w.sessionOf (.lock d) = some t := by
    rw [sessionOf_lock hd, hs]
    rfl
  refine ⟨?_, ho, ?_, ?_⟩
  · rw [hl]
    exact hw.sheds_setSlot d fun _ ht => by cases ht
  · rintro _ ⟨⟩
    rw [hl]
    exact hw.isOpen _ t hsession
  · rintro _ ⟨⟩
    rw [hl]
    exact hw.not_owned_freeSlot hsession

theorem Starts.ready {task : Task} (hw : w.Sound) (h : w.Starts s task l) :
    w.Ready l task.session? := by
  have howns := task.owns
  cases h with
  | acquire hd hs =>
    have hnext : w.Sheds { w with nextLock := w.nextLock + 1 } :=
      hw.sheds_of_eq rfl rfl rfl rfl rfl
    refine ready_of_none (hnext.trans ?_) howns
    exact (hnext.sound hw).sheds_setSlot _ fun _ ht => by cases ht
  | @release label key d st handle t hd hh hs =>
    have hhandles : w.Sheds { w with handles := dropKey w.handles key } :=
      hw.sheds_of_eq rfl rfl rfl rfl rfl
    refine Ready.after ?_ hhandles
    exact (hhandles.sound hw).ready_of_lock (labelled?_drivers hd) hs rfl howns
  | force hd hs => exact hw.ready_of_lock (labelled?_drivers hd) hs rfl howns
  | _ => exact ready_of_none hw.sheds_refl howns

theorem resumes?_eq_some (h : w.resumes? s = some l) :
    ∃ t lock db, s = .poll l.key ∧
      w.pending.lookup l.key = some ⟨l.user, l.attempt, .waiting t lock l.program⟩ ∧
      w.database.grant? t lock = some db ∧
      l.world = { w with database := db, pending := dropKey w.pending l.key } := by
  unfold resumes? at h
  split at h
  · rename_i key
    split at h
    · rename_i user attempt t lock program hp
      split at h
      · cases h
      · rename_i db hg
        cases h
        exact ⟨t, lock, db, rfl, hp, hg, rfl⟩
    · cases h
  · cases h

theorem Sound.ready_of_resumes? (hw : w.Sound) (h : w.resumes? s = some l) :
    ∃ t, w.sessionOf (.operation l.key) = some t ∧ w.Ready l (some t) := by
  obtain ⟨t, lock, db, -, hp, hg, hl⟩ := resumes?_eq_some h
  have hsession : w.sessionOf (.operation l.key) = some t := by
    rw [sessionOf, hp]
    rfl
  have hopen : w.database.IsOpen t := hw.isOpen _ t hsession
  have hdrop := hw.sheds_dropPending l.key
  have halone := hw.not_owned_dropPending hp rfl
  refine ⟨t, hsession, ?_, hw.owns l.key _ hp, ?_, ?_⟩
  · rw [hl]
    refine hdrop.trans ((hdrop.sound hw).sheds_withDatabase (hw.database.grant? hopen hg) ?_)
    intro o u hu
    apply Database.keeps_grant? hg
    rintro rfl
    exact halone o hu
  · rintro _ ⟨⟩
    rw [hl]
    unfold Database.IsOpen
    rw [Database.sessions_of_grant? hg]
    exact hopen
  · rintro _ ⟨⟩ o ho
    rw [hl] at ho
    exact halone o ho

theorem Sound.ready (hw : w.Sound) (h : w.launch? s = some l) : ∃ own, w.Ready l own := by
  rcases launch?_cases h with ⟨task, hs⟩ | hr
  · exact ⟨_, hs.ready hw⟩
  · obtain ⟨t, -, hready⟩ := hw.ready_of_resumes? hr
    exact ⟨_, hready⟩

/-- The part of a step that the operation itself does. -/
structure Advanced (w : World) (l : Launch) : Prop where
  sheds : w.Sheds l.advanced
  owns : l.progress.standing.Owns Settlement.session?
  isOpen : ∀ t, l.progress.standing.session? Settlement.session? = some t →
    l.advanced.database.IsOpen t
  alone : ∀ t, l.progress.standing.session? Settlement.session? = some t →
    ∀ o, l.advanced.sessionOf o ≠ some t

theorem Ready.advanced {own : Option SessionId} (hw : w.Sound) (h : w.Ready l own) :
    w.Advanced l := by
  have hsound := h.sheds.sound hw
  obtain ⟨howns, hmoves⟩ := h.owns.advance hsound.database h.isOpen
  have hkeeps (o : Owner) (t : SessionId) (ht : l.world.sessionOf o = some t) :
      l.world.database.Keeps t l.progress.database := by
    apply hmoves.keeps t (hsound.database.numbered t (hsound.isOpen o t ht))
    intro hown
    exact h.alone t hown o ht
  refine ⟨h.sheds.trans (hsound.sheds_withDatabase hmoves.sound hkeeps), howns, ?_, ?_⟩
  · exact fun t ht => (hmoves.session t ht).1
  · intro t ht o ho
    -- A session that was not the operation's is new, and nobody can have its number yet.
    rcases (hmoves.session t ht).2 with hown | hlt
    · exact h.alone t hown o ho
    · exact absurd (hsound.database.numbered t (hsound.isOpen o t ho)) (Nat.not_le_of_lt hlt)

/-! ## What a task is left with -/

theorem Sound.gains {w' : World} (hw : w.Sound) (hn : w'.Numbered)
    (hdb : w'.database = w.database) {o : Owner} {own : Option SessionId}
    (hopen : ∀ t, own = some t → w.database.IsOpen t)
    (halone : ∀ t, own = some t → ∀ o, w.sessionOf o ≠ some t)
    (hsession : ∀ o', w'.sessionOf o' = if o' = o then own else w.sessionOf o')
    (howns : ∀ key p, w'.pending.lookup key = some p → p.held.Owns Settlement.session?) :
    w'.Sound where
  toNumbered := hn
  database := hdb ▸ hw.database
  isOpen := by
    intro o' t ht
    rw [hsession] at ht
    rw [hdb]
    split at ht
    · exact hopen t ht
    · exact hw.isOpen o' t ht
  apart := by
    intro o₁ o₂ t h₁ h₂
    rw [hsession] at h₁ h₂
    split at h₁ <;> split at h₂
    · rename_i e₁ e₂
      rw [e₁, e₂]
    · exact absurd h₂ (halone t h₁ o₂)
    · exact absurd h₁ (halone t h₂ o₁)
    · exact hw.apart o₁ o₂ t h₁ h₂
  owns := howns

theorem sessionOf_putPending (w : World) (key : String) (p : Pending) (o : Owner) :
    sessionOf { w with pending := putKey w.pending key p } o =
      if o = .operation key then p.held.session? else w.sessionOf o := by
  cases o with
  | lock d => rfl
  | operation key' =>
    rw [sessionOf, lookup_putKey]
    by_cases hk : key' = key
    · rw [if_pos hk, hk, if_pos rfl]
      rfl
    · rw [if_neg hk, if_neg (by simpa using hk), sessionOf]

theorem Sound.putPending (hw : w.Sound) {key : String} {p : Pending}
    (hopen : ∀ t, p.held.session? = some t → w.database.IsOpen t)
    (halone : ∀ t, p.held.session? = some t → ∀ o, w.sessionOf o ≠ some t)
    (howns : p.held.Owns Settlement.session?) :
    Sound { w with pending := putKey w.pending key p } := by
  refine hw.gains ⟨hw.distinct, hw.given⟩ rfl hopen halone (sessionOf_putPending w key p) ?_
  intro key' p' hp'
  rw [lookup_putKey] at hp'
  split at hp'
  · cases hp'
    exact howns
  · exact hw.owns key' p' hp'

theorem Sound.setHeld (hw : w.Sound) {d : DriverId} {st : DriverState} {id : LockId}
    {t : SessionId} (hd : w.drivers.lookup d = some st) (hopen : w.database.IsOpen t)
    (halone : ∀ o, w.sessionOf o ≠ some t) : (w.setSlot d (.held id t)).Sound := by
  refine @Sound.gains w _ hw ⟨?_, ?_⟩ rfl (.lock d) (some t) ?_ ?_ ?_ hw.owns
  · rw [map_fst_setSlot]
    exact hw.distinct
  · rw [map_fst_setSlot]
    exact hw.given
  · rintro _ ⟨⟩
    exact hopen
  · rintro _ ⟨⟩
    exact halone
  · intro o
    cases o with
    | operation key => rfl
    | lock d' =>
      rw [sessionOf, slotOf_setSlot, hd, sessionOf]
      by_cases hdd : d' = d
      · simp [hdd, LockSlot.session?]
      · simp [hdd]

theorem Sound.settle_cases (hw : w.Sound) (key : String) (st : Settlement) :
    w.Sheds (w.settle key st).world ∨
      ∃ d id t dst handles, st = .acquired d id (.ok t) ∧ w.drivers.lookup d = some dst ∧
        (w.settle key st).world = { w.setSlot d (.held id t) with handles } := by
  cases st with
  | loaded places l => exact Or.inl (hw.sheds_setStatuses _)
  | ran place o => exact Or.inl (hw.sheds_setStatus place o.status)
  | acquired d id r =>
    cases r with
    | error e => exact Or.inl (hw.sheds_setSlot d fun _ ht => session?_abandon ht)
    | ok t =>
      simp only [settle]
      cases hd : w.drivers.lookup d with
      | none => exact Or.inl hw.sheds_refl
      | some dst => exact Or.inr ⟨d, id, t, dst, _, rfl, hd, rfl⟩
  | _ => exact Or.inl hw.sheds_refl

theorem Sound.settle (hw : w.Sound) {key : String} {st : Settlement}
    (hopen : ∀ t, st.session? = some t → w.database.IsOpen t)
    (halone : ∀ t, st.session? = some t → ∀ o, w.sessionOf o ≠ some t) :
    (w.settle key st).world.Sound := by
  rcases hw.settle_cases key st with hsheds | ⟨d, id, t, dst, handles, rfl, hd, hworld⟩
  · exact hsheds.sound hw
  · have hheld : (w.setSlot d (.held id t)).Sound :=
      hw.setHeld hd (hopen t rfl) (halone t rfl)
    have hhandles : (w.setSlot d (.held id t)).Sheds { w.setSlot d (.held id t) with handles } :=
      hheld.sheds_of_eq rfl rfl rfl rfl rfl
    rw [hworld]
    exact hhandles.sound hheld

/-! ## Steps -/

theorem turn_ended {st : Settlement} (h : l.progress.standing = .ended st) :
    l.turn.world = (l.advanced.settle l.key st).world ∧
      l.turn.answer = (l.advanced.settle l.key st).answer := by
  unfold Launch.turn follow
  rw [h]
  exact ⟨rfl, rfl⟩

theorem turn_suspended {held : Suspended Settlement} (h : l.progress.standing = .suspended held) :
    l.turn.world = { (l.advanced.cancel l.key).1 with
        pending := putKey (l.advanced.cancel l.key).1.pending l.key ⟨l.user, l.attempt, held⟩ } ∧
      l.turn.answer = .pending := by
  unfold Launch.turn follow
  rw [h]
  exact ⟨rfl, rfl⟩

/-- What holds of a step that lets no task go on. -/
structure Idle (w : World) (s : Step) (t : Turn) : Prop where
  sheds : w.Sheds t.world
  rows : t.world.database.rows = w.database.rows
  pending : ∀ key, s ≠ .cancel key → t.world.pending.lookup key = w.pending.lookup key
  answer : ∀ r, t.answer ≠ .ran r

theorem idle_of_sheds {t : Turn} (h : w.Sheds t.world)
    (hrows : t.world.database.rows = w.database.rows) (hp : t.world.pending = w.pending)
    (ha : ∀ r, t.answer ≠ .ran r) : w.Idle s t :=
  ⟨h, hrows, fun _ _ => by rw [hp], ha⟩

theorem rows_cancel (w : World) (key : String) :
    (w.cancel key).1.database.rows = w.database.rows := by
  unfold cancel
  split
  · rfl
  · unfold abandon closeSession? abandonAttempt
    split <;> split <;> rfl

theorem lookup_cancel (w : World) {key key' : String} (h : key' ≠ key) :
    (w.cancel key).1.pending.lookup key' = w.pending.lookup key' := by
  have hdrop : (dropKey w.pending key).lookup key' = w.pending.lookup key' := by
    rw [lookup_dropKey, if_neg h]
  unfold cancel
  split
  · rfl
  · unfold abandon closeSession? abandonAttempt
    split <;> split <;> exact hdrop

theorem Sound.idle_create (hw : w.Sound) (label : String) (options : Options)
    (tracking : Option String) : w.Idle s (w.create label options tracking) := by
  unfold create
  dsimp only
  split
  · exact idle_of_sheds (hw.sheds_addDriver _ _) rfl rfl fun r h => by cases h
  · exact idle_of_sheds hw.sheds_refl rfl rfl fun r h => by cases h
  · exact idle_of_sheds hw.sheds_refl rfl rfl fun r h => by cases h

theorem Sound.sheds_of_answered (hw : w.Sound) {d : DriverId} {st : DriverState} {key : String}
    {o : Operation} {a : Answer} {w' : World} {logs : List LogRecord}
    (h : w.start d st key o = .answered a w' logs) :
    w.Sheds w' ∧ w'.database = w.database ∧ w'.pending = w.pending ∧ ∀ r, a ≠ .ran r := by
  cases o with
  | run place =>
    simp only [start] at h
    split at h
    · cases h
      exact ⟨hw.sheds_refl, rfl, rfl, fun r h => by cases h⟩
    · cases h
  | validate place =>
    simp only [start] at h
    split at h
    · cases h
      exact ⟨hw.sheds_refl, rfl, rfl, fun r h => by cases h⟩
    · cases h
      exact ⟨hw.sheds_refl, rfl, rfl, fun r h => by cases h⟩
  | acquire =>
    simp only [start] at h
    split at h
    · cases h
      exact ⟨hw.sheds_of_eq rfl rfl rfl rfl rfl, rfl, rfl, fun r h => by cases h⟩
    · cases h
  | release =>
    simp only [start] at h
    split at h
    · cases h
      exact ⟨hw.sheds_refl, rfl, rfl, fun r h => by cases h⟩
    split at h
    · cases h
      exact ⟨hw.sheds_of_eq rfl rfl rfl rfl rfl, rfl, rfl, fun r h => by cases h⟩
    · cases h
  | forceRelease =>
    simp only [start] at h
    split at h
    · cases h
      exact ⟨hw.sheds_refl, rfl, rfl, fun r h => by cases h⟩
    · cases h
  | _ => cases h

theorem Sound.idle_operate (hw : w.Sound) {label key : String} {o : Operation}
    (h : w.opens? (.operate label key o) = none) :
    w.Idle s (w.make (.operate label key o)) := by
  cases hd : w.labelled? label with
  | none =>
    simp only [make, hd]
    exact idle_of_sheds hw.sheds_refl rfl rfl fun r h => by cases h
  | some e =>
    obtain ⟨d, st⟩ := e
    simp only [opens?, hd] at h
    simp only [make, hd]
    cases hstart : w.start d st key o with
    | answered a w' logs =>
      obtain ⟨hsheds, hdb, hp, ha⟩ := hw.sheds_of_answered hstart
      exact idle_of_sheds hsheds (congrArg Database.rows hdb) hp ha
    | launched user attempt p w' =>
      rw [hstart] at h
      cases h

theorem Sound.idle_poll (hw : w.Sound) {key : String} (h : w.resumes? (.poll key) = none) :
    w.Idle s (w.poll key) := by
  simp only [resumes?] at h
  unfold poll
  cases hp : w.pending.lookup key with
  | none => exact idle_of_sheds hw.sheds_refl rfl rfl fun r h => by cases h
  | some p =>
    obtain ⟨user, attempt, _ | ⟨t, lock, program⟩⟩ := p
    · exact idle_of_sheds hw.sheds_refl rfl rfl fun r h => by cases h
    · simp only [hp] at h
      cases hg : w.database.grant? t lock with
      | none =>
        simp only [Suspended.poll?, hg, Option.map_none]
        exact idle_of_sheds hw.sheds_refl rfl rfl fun r h => by cases h
      | some db =>
        rw [hg] at h
        cases h

theorem Sound.idle (hw : w.Sound) (h : w.launch? s = none) : w.Idle s (w.make s) := by
  have hopens : w.opens? s = none := by
    unfold launch? at h
    cases ho : w.opens? s with
    | none => rfl
    | some l => rw [ho] at h; cases h
  have hresumes : w.resumes? s = none := by
    unfold launch? at h
    rwa [hopens] at h
  cases s with
  | create label options tracking => exact hw.idle_create label options tracking
  | operate label key o => exact hw.idle_operate hopens
  | shouldSkip key place =>
    simp only [opens?] at hopens
    split at hopens
    · rename_i hm
      simp only [make, hm]
      exact idle_of_sheds hw.sheds_refl rfl rfl fun r h => by cases h
    · cases hopens
  | describe place =>
    simp only [make]
    split
    · exact idle_of_sheds hw.sheds_refl rfl rfl fun r h => by cases h
    · exact idle_of_sheds hw.sheds_refl rfl rfl fun r h => by cases h
  | setStatus place status =>
    exact idle_of_sheds (hw.sheds_setStatus _ _) rfl rfl fun r h => by cases h
  | setRules rules =>
    have hrules : w.Sheds { w with database := { w.database with rules } } :=
      hw.sheds_withDatabase (hw.database.withRules rules) fun o t _ =>
        Database.keeps_withRules t w.database rules
    exact idle_of_sheds hrules rfl rfl fun r h => by cases h
  | dropHandle key =>
    have hhandles : w.Sheds { w with handles := dropKey w.handles key } :=
      hw.sheds_of_eq rfl rfl rfl rfl rfl
    exact idle_of_sheds hhandles rfl rfl fun r h => by cases h
  | poll key => exact hw.idle_poll hresumes
  | cancel key =>
    refine ⟨hw.sheds_cancel key, rows_cancel w key, ?_, fun r h => by cases h⟩
    intro key' hkey
    apply lookup_cancel
    rintro rfl
    exact hkey rfl

theorem Sound.make (hw : w.Sound) (s : Step) : (w.make s).world.Sound := by
  cases h : w.launch? s with
  | none => exact (hw.idle h).sheds.sound hw
  | some l =>
    rw [make_of_launch? h]
    obtain ⟨own, hready⟩ := hw.ready h
    have hadv := hready.advanced hw
    have hsound := hadv.sheds.sound hw
    cases hst : l.progress.standing with
    | ended st =>
      rw [(turn_ended hst).1]
      have hopen := hadv.isOpen
      have halone := hadv.alone
      rw [hst] at hopen halone
      exact hsound.settle hopen halone
    | suspended held =>
      rw [(turn_suspended hst).1]
      have howns := hadv.owns
      have hopen := hadv.isOpen
      have halone := hadv.alone
      rw [hst] at howns hopen halone
      have hcancel := hsound.sheds_cancel l.key
      refine (hcancel.sound hsound).putPending ?_ ?_ howns
      · intro t ht
        have hkeeps := hsound.keeps_cancel (halone t ht (.operation l.key))
        exact hkeeps.isOpen_iff.2 (hopen t ht)
      · exact fun t ht => hcancel.not_owned (halone t ht)

theorem Sound.step (hw : w.Sound) (s : Step) : (w.step s).world.Sound := by
  have hmake := hw.make s
  exact hmake.sheds_discardUnused.sound hmake

end World

end SchemaMigration
