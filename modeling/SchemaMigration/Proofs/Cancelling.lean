import SchemaMigration.Proofs.Commits
import SchemaMigration.Proofs.Reached

/-!
# Cancelling

Of all the sessions that an operation began, at most one is open when it is held up: the one of the
call that it is held up at. So that one is all there is to end when the operation is cancelled. And
a run that is held up has written nothing.
-/

namespace SchemaMigration

/-- The attempt to take a lock that an operation is. -/
def Task.attempt? : Task → Option (DriverId × LockId)
  | acquire d id _ => some (d, id)
  | _ => none

def Pending.attempt? (p : Pending) : Option (DriverId × LockId) :=
  match p.user, p.attempt with
  | some d, some id => some (d, id)
  | _, _ => none

def Answer.isPending : Answer → Bool
  | .pending => true
  | _ => false

theorem Answer.eq_pending {a : Answer} (h : a.isPending = true) : a = .pending := by
  cases a with
  | pending => rfl
  | _ => cases h

namespace World

variable {w w' : World} {s : Step} {l : Launch} {key : String}

/-! ## Sessions in the course of time -/

theorem ages_cancel (w : World) (key : String) : w.database.Ages (w.cancel key).1.database := by
  have habandon (w : World) (p : Pending) : (w.abandonAttempt p).database = w.database := by
    unfold abandonAttempt
    split <;> rfl
  unfold cancel
  split
  · exact .refl _
  · rename_i p hp
    unfold abandon closeSession? closeSession
    split
    · rw [habandon]
      exact .refl _
    · rw [habandon]
      exact Database.ages_endSession _ _

theorem ages_foldl_drop (db : Database) (sessions : List SessionId) :
    db.Ages (sessions.foldl Database.drop db) := by
  induction sessions generalizing db with
  | nil => exact .refl db
  | cons s sessions ih => exact (Database.ages_endSession db s).trans (ih _)

theorem ages_discardUnused (w : World) : w.database.Ages w.discardUnused.1.database :=
  ages_foldl_drop w.database _

theorem ages_follow (w : World) (key : String) (user : Option DriverId) (attempt : Option LockId)
    (p : Progress Settlement) : p.database.Ages (w.follow key user attempt p).world.database := by
  unfold follow
  cases p.standing with
  | ended st =>
    dsimp only
    rw [(settle_keeps _ key st).1]
    exact .refl _
  | suspended held => exact ages_cancel { w with database := p.database } key

theorem ages_start (w : World) (d : DriverId) (st : DriverState) (key : String) (o : Operation) :
    w.database.Ages (begin key (w.start d st key o)).world.database := by
  have hlaunched (user : Option DriverId) (attempt : Option LockId) (p : Program Settlement)
      (w' : World) (hdb : w'.database = w.database) :
      w.database.Ages (begin key (.launched user attempt p w')).world.database := by
    rw [← hdb]
    exact (Program.advance_ages p w'.database).trans (ages_follow w' key user attempt _)
  cases o with
  | ensureTracking | load | ask => exact hlaunched _ _ _ _ rfl
  | run | acquire | forceRelease =>
    simp only [start]
    split
    · exact .refl _
    · exact hlaunched _ _ _ _ rfl
  | validate =>
    simp only [start]
    split <;> exact .refl _
  | release =>
    simp only [start]
    split
    · exact .refl _
    split
    · exact .refl _
    · exact hlaunched _ _ _ _ rfl

theorem ages_make (w : World) (s : Step) : w.database.Ages (w.make s).world.database := by
  cases s with
  | create label options tracking =>
    simp only [make, create]
    split <;> exact .refl _
  | operate label key o =>
    simp only [make]
    split
    · exact .refl _
    · exact ages_start w _ _ key o
  | shouldSkip key place =>
    simp only [make]
    split
    · exact .refl _
    · exact (Program.advance_ages _ _).trans (ages_follow w key none none _)
  | describe place =>
    simp only [make]
    split <;> exact .refl _
  | setStatus place status => exact .refl _
  | setRules rules => exact ⟨Nat.le_refl _, fun _ ht => Or.inl ht⟩
  | dropHandle key => exact .refl _
  | poll key =>
    simp only [make, poll]
    split
    · exact .refl _
    · rename_i p hp
      obtain ⟨user, attempt, _ | ⟨t, lock, resume⟩⟩ := p
      · exact .refl _
      · simp only [Suspended.poll?]
        cases hg : w.database.grant? t lock with
        | none => exact .refl _
        | some db =>
          refine (Database.ages_of_grant? hg).trans ?_
          exact (Program.advance_ages resume db).trans (ages_follow _ key user attempt _)
  | cancel key => exact ages_cancel w key

theorem ages_step (w : World) (s : Step) : w.database.Ages (w.step s).world.database :=
  (ages_make w s).trans (ages_discardUnused _)

theorem ages_of_launch? (hl : w.launch? s = some l) :
    l.progress.database.Ages (w.step s).world.database := by
  refine Database.Ages.trans ?_ (ages_discardUnused _)
  rw [make_of_launch? hl]
  exact ages_follow l.world l.key l.user l.attempt l.progress

/-! ## The steps in which an operation went on -/

/-- The operation under `key` that is held up in a scenario began or went on in the step `s₀`. -/
inductive WentOn (P : Terms) (task : Task) (key : String) (w₀ : World) (s₀ : Step) : World → Prop
  | start {l : Launch} (h : Reached P w₀) (hs : w₀.Serves P s₀) (ht : w₀.Starts s₀ task l)
      (hk : l.key = key) (hp : (w₀.step s₀).answer = .pending) :
      WentOn P task key w₀ s₀ (w₀.step s₀).world
  | again (h : Underway P task key w₀) (he : s₀ = .poll key) (hs : w₀.Serves P s₀)
      (hp : (w₀.step s₀).answer = .pending) : WentOn P task key w₀ s₀ (w₀.step s₀).world
  | stay {w : World} {s : Step} (h : WentOn P task key w₀ s₀ w) (hs : w.Serves P s)
      (hspares : w.Spares s key) : WentOn P task key w₀ s₀ (w.step s).world
  | later {w : World} (h : WentOn P task key w₀ s₀ w) (hs : w.Serves P (.poll key))
      (hp : (w.step (.poll key)).answer = .pending) :
      WentOn P task key w₀ s₀ (w.step (.poll key)).world

/-- The session `t` began in a step of the operation under `key` that is held up. -/
def HasBegun (P : Terms) (task : Task) (key : String) (w : World) (t : Nat) : Prop :=
  ∃ w₀ s₀, WentOn P task key w₀ s₀ w ∧ w₀.database.begun < t ∧
    t ≤ (w₀.step s₀).world.database.begun

variable {P : Terms} {task : Task} {w₀ : World} {s₀ : Step} {t : Nat}

theorem WentOn.underway (h : WentOn P task key w₀ s₀ w) : Underway P task key w := by
  induction h with
  | start h hs ht hk hp => exact .start h hs ht hk hp
  | again h he hs hp =>
    subst he
    exact h.again hs hp
  | stay _ hs hspares ih => exact ih.stay hs hspares
  | later _ hs hp ih => exact ih.again hs hp

theorem HasBegun.stay (h : HasBegun P task key w t) (hs : w.Serves P s) (hspares : w.Spares s key) :
    HasBegun P task key (w.step s).world t := by
  obtain ⟨w₀, s₀, hwent, hlt, hle⟩ := h
  exact ⟨w₀, s₀, hwent.stay hs hspares, hlt, hle⟩

theorem HasBegun.later (h : HasBegun P task key w t) (hs : w.Serves P (.poll key))
    (hp : (w.step (.poll key)).answer = .pending) :
    HasBegun P task key (w.step (.poll key)).world t := by
  obtain ⟨w₀, s₀, hwent, hlt, hle⟩ := h
  exact ⟨w₀, s₀, hwent.later hs hp, hlt, hle⟩

theorem make_of_idle_poll (hl : w.launch? (.poll key) = none) :
    (w.make (.poll key)).world = w := by
  have hresumes : w.resumes? (.poll key) = none := hl
  simp only [make, poll]
  cases hp : w.pending.lookup key with
  | none => rfl
  | some p =>
    obtain ⟨user, attempt, _ | ⟨t, lock, program⟩⟩ := p
    · rfl
    · cases hg : w.database.grant? t lock with
      | none => simp only [Suspended.poll?, hg, Option.map_none]
      | some db => simp [resumes?, hp, hg] at hresumes

theorem begun_discardUnused (w : World) :
    w.discardUnused.1.database.begun = w.database.begun := by
  have hfold (sessions : List SessionId) (db : Database) :
      (sessions.foldl Database.drop db).begun = db.begun := by
    induction sessions generalizing db with
    | nil => rfl
    | cons s sessions ih => exact ih (db.drop s)
  exact hfold _ _

theorem begun_cancel (w : World) (key : String) :
    (w.cancel key).1.database.begun = w.database.begun := by
  unfold cancel
  split
  · rfl
  · unfold abandon closeSession? abandonAttempt
    split <;> split <;> rfl

theorem begun_of_launch? (hl : w.launch? s = some l) :
    (w.step s).world.database.begun = l.progress.database.begun := by
  refine (begun_discardUnused _).trans ?_
  rw [make_of_launch? hl]
  cases hst : l.progress.standing with
  | ended st =>
    rw [(turn_ended hst).1, (settle_keeps l.advanced l.key st).1]
    rfl
  | suspended held =>
    rw [(turn_suspended hst).1]
    exact begun_cancel l.advanced l.key

theorem begun_of_idle_poll (hl : w.launch? (.poll key) = none) :
    (w.step (.poll key)).world.database.begun = w.database.begun := by
  have hmake := make_of_idle_poll hl
  show ((w.make (.poll key)).world.discardUnused).1.database.begun = _
  rw [hmake]
  exact begun_discardUnused w

theorem begun_before_launch (hl : w.launch? s = some l) :
    l.world.database.begun = w.database.begun := by
  rcases launch?_cases hl with ⟨task, hstarts⟩ | hresumes
  · cases hstarts <;> rfl
  · obtain ⟨t, lock, db, -, -, hg, hworld⟩ := resumes?_eq_some hresumes
    rw [hworld]
    exact Database.begun_of_grant? hg

/-! ## The one session that can be open -/

theorem Ready.open_of_suspended {own : Option SessionId} {held : Suspended Settlement}
    (hw : w.Sound) (hready : w.Ready l own) (hl : w.launch? s = some l)
    (hst : l.progress.standing = .suspended held) (ht : (w.step s).world.database.IsOpen t)
    (hb : t ≤ (w.step s).world.database.begun) :
    (l.world.database.IsOpen t ∧ own ≠ some t) ∨
      (w.step s).world.sessionOf (.operation l.key) = some t := by
  rw [begun_of_launch? hl] at hb
  have hopen : l.progress.database.IsOpen t := (ages_of_launch? hl).isOpen ht hb
  have hdb := (hready.sheds.sound hw).database
  rcases hready.owns.advance_leaves hdb hready.isOpen hopen with hbefore | hheld
  · exact Or.inl hbefore
  · right
    have hstanding : (l.program.advance l.world.database).standing = .suspended held := hst
    rw [hstanding] at hheld
    rw [sessionOf, (hw.step_suspended hl hst).1]
    exact hheld

theorem Sound.new_of_suspended (hw : w.Sound) (hl : w.launch? s = some l)
    (hp : (w.step s).answer = .pending) (ht : (w.step s).world.database.IsOpen t)
    (hlt : w.database.begun < t) (hle : t ≤ (w.step s).world.database.begun) :
    (w.step s).world.sessionOf (.operation l.key) = some t := by
  obtain ⟨held, hst⟩ := suspended_of_pending hl hp
  obtain ⟨own, hready⟩ := hw.ready hl
  rcases hready.open_of_suspended hw hl hst ht hle with ⟨hopen, -⟩ | hsession
  · have hnumbered := (hready.sheds.sound hw).database.numbered t hopen
    rw [begun_before_launch hl] at hnumbered
    exact absurd hnumbered (Nat.not_le_of_lt hlt)
  · exact hsession

theorem Waits.sessionOf {w' : World} (h : w.Waits w' key) :
    w'.sessionOf (.operation key) = w.sessionOf (.operation key) := sessionOf_congr h.pending

theorem Sound.poll_cases (hw : w.Sound) (hp : (w.step (.poll key)).answer = .pending) :
    w.Waits (w.step (.poll key)).world key ∨
      ∃ l held t, w.launch? (.poll key) = some l ∧ l.key = key ∧
        l.progress.standing = .suspended held ∧ w.sessionOf (.operation key) = some t ∧
        w.Ready l (some t) := by
  cases hl : w.launch? (.poll key) with
  | none =>
    have hidle := hw.idle hl
    exact Or.inl ((hidle.sheds.waits (hidle.pending key (by simp))).trans
      ((hw.make (.poll key)).waits_discardUnused key))
  | some l =>
    obtain ⟨held, hst⟩ := suspended_of_pending hl hp
    have hresumes : w.resumes? (.poll key) = some l := hl
    obtain ⟨t, hsession, hready⟩ := hw.ready_of_resumes? hresumes
    have hkey := (launch?_poll hl).1
    rw [hkey] at hsession
    exact Or.inr ⟨l, held, t, rfl, hkey, hst, hsession, hready⟩

theorem HasBegun.session (h : HasBegun P task key w t) (ht : w.database.IsOpen t) :
    w.sessionOf (.operation key) = some t := by
  obtain ⟨w₀, s₀, hwent, hlt, hle⟩ := h
  have hsession : t ≤ w.database.begun ∧
      (w.database.IsOpen t → w.sessionOf (.operation key) = some t) := by
    clear ht
    induction hwent with
    | start h hs hstarts hk hp =>
      refine ⟨hle, fun ht => ?_⟩
      rw [← hk]
      exact h.sound.new_of_suspended hstarts.launch? hp ht hlt hle
    | again h he hs hp =>
      subst he
      refine ⟨hle, fun ht => ?_⟩
      cases hl : w₀.launch? (.poll key) with
      | none =>
        rw [begun_of_idle_poll hl] at hle
        exact absurd hle (Nat.not_le_of_lt hlt)
      | some l =>
        have hnew := h.reached.sound.new_of_suspended hl hp ht hlt hle
        rwa [(launch?_poll hl).1] at hnew
    | @stay w s hwent hs hspares ih =>
      obtain ⟨hb, ih⟩ := ih
      have hages := ages_step w s
      refine ⟨Nat.le_trans hb hages.begun, fun ht => ?_⟩
      rw [(hwent.underway.reached.sound.step_spares hspares).sessionOf]
      exact ih (hages.isOpen ht hb)
    | @later w hwent hs hp ih =>
      obtain ⟨hb, ih⟩ := ih
      have hw := hwent.underway.reached.sound
      have hages := ages_step w (.poll key)
      refine ⟨Nat.le_trans hb hages.begun, fun ht => ?_⟩
      rcases hw.poll_cases hp with hwaits | ⟨l, held, u, hl, hk, hst, hu, hready⟩
      · rw [hwaits.sessionOf]
        exact ih (hages.isOpen ht hb)
      · -- If it was open before, the operation had it and has ended it or is held up with it.
        rcases hready.open_of_suspended hw hl hst ht (Nat.le_trans hb hages.begun) with
          ⟨-, hne⟩ | hheld
        · exact absurd (hu.symm.trans (ih (hages.isOpen ht hb))) hne
        · rwa [hk] at hheld
  exact hsession.2 ht

theorem Ready.session_of_suspended {own : Option SessionId} {held : Suspended Settlement}
    (hw : w.Sound) (hready : w.Ready l own) (hl : w.launch? s = some l)
    (hst : l.progress.standing = .suspended held)
    (ht : (w.step s).world.sessionOf (.operation l.key) = some t) :
    own = some t ∨ w.database.begun < t ∧ t ≤ (w.step s).world.database.begun := by
  rw [sessionOf, (hw.step_suspended hl hst).1] at ht
  obtain ⟨-, hmoves⟩ := hready.owns.advance (hready.sheds.sound hw).database hready.isOpen
  have hleft : l.progress.standing.session? Settlement.session? = some t := by
    rw [hst]
    exact ht
  obtain ⟨hopen, hown | hlt⟩ := hmoves.session t hleft
  · exact Or.inl hown
  · right
    rw [begun_before_launch hl] at hlt
    rw [begun_of_launch? hl]
    exact ⟨hlt, hmoves.sound.numbered t hopen⟩

theorem Underway.hasBegun (h : Underway P task key w) (htask : task.session? = none)
    (ht : w.sessionOf (.operation key) = some t) : HasBegun P task key w t := by
  induction h with
  | @start w s l h hs hstarts hk hp =>
    have hw := h.sound
    obtain ⟨held, hst⟩ := suspended_of_pending hstarts.launch? hp
    rw [← hk] at ht
    rcases (hstarts.ready hw).session_of_suspended hw hstarts.launch? hst ht with hown | hnew
    · rw [htask] at hown
      cases hown
    · exact ⟨w, s, .start h hs hstarts hk hp, hnew⟩
  | @stay w s h hs hspares ih =>
    rw [(h.reached.sound.step_spares hspares).sessionOf] at ht
    exact (ih ht).stay hs hspares
  | @again w h hs hp ih =>
    have hw := h.reached.sound
    rcases hw.poll_cases hp with hwaits | ⟨l, held, u, hl, hk, hst, hu, hready⟩
    · rw [hwaits.sessionOf] at ht
      exact (ih ht).later hs hp
    · subst hk
      rcases hready.session_of_suspended hw hl hst ht with hown | hnew
      · cases hown
        exact (ih hu).later hs hp
      · exact ⟨w, _, .again h rfl hs hp, hnew⟩

/-! ## What is given up -/

theorem Underway.attempt? (h : Underway P task key w) :
    ∃ p, w.pending.lookup key = some p ∧ p.attempt? = task.attempt? := by
  induction h with
  | @start w s l h hs hstarts hk hp =>
    obtain ⟨held, hst⟩ := suspended_of_pending hstarts.launch? hp
    have hpending := (h.sound.step_suspended hstarts.launch? hst).1
    rw [hk] at hpending
    refine ⟨_, hpending, ?_⟩
    cases hstarts <;> rfl
  | @stay w s h hs hspares ih =>
    rw [(h.reached.sound.step_spares hspares).pending]
    exact ih
  | @again w h hs hp ih =>
    have hw := h.reached.sound
    rcases hw.poll_cases hp with hwaits | ⟨l, held, u, hl, hk, hst, -, -⟩
    · rw [hwaits.pending]
      exact ih
    · obtain ⟨p, hpending, hattempt⟩ := ih
      obtain ⟨-, t, lock, db, hpending', -⟩ := launch?_poll hl
      cases hpending.symm.trans hpending'
      have hpending := (hw.step_suspended hl hst).1
      rw [hk] at hpending
      exact ⟨_, hpending, hattempt⟩

theorem database_cancel (w : World) (key : String) :
    (w.cancel key).1.database =
      match w.sessionOf (.operation key) with
      | none => w.database
      | some s => w.database.drop s := by
  have habandon (w : World) (p : Pending) : (w.abandonAttempt p).database = w.database := by
    unfold abandonAttempt
    split <;> rfl
  cases hp : w.pending.lookup key with
  | none =>
    simp only [cancel, sessionOf, hp]
    rfl
  | some p =>
    simp only [cancel, sessionOf, hp, abandon, Option.bind_some]
    cases p.held.session? with
    | none => exact habandon _ p
    | some s => exact congrArg (Database.drop · s) (habandon _ p)

theorem closed_cancel
    (h : w.database.IsOpen t → w.sessionOf (.operation key) = some t) :
    ¬ (w.cancel key).1.database.IsOpen t := by
  rw [database_cancel]
  intro hopen
  cases hsession : w.sessionOf (.operation key) with
  | none =>
    rw [hsession] at hopen
    cases hsession.symm.trans (h hopen)
  | some s =>
    rw [hsession] at hopen
    obtain ⟨hne, hopen⟩ := Database.isOpen_endSession_iff.1 hopen
    cases hsession.symm.trans (h hopen)
    exact hne rfl

theorem cancel_eq {p : Pending} (hp : w.pending.lookup key = some p) (ha : p.attempt? = none) :
    (w.cancel key).1 =
      { w with
        pending := dropKey w.pending key
        database := match w.sessionOf (.operation key) with
          | none => w.database
          | some s => w.database.drop s } := by
  have habandon (w : World) : w.abandonAttempt p = w := by
    unfold abandonAttempt
    split
    · rename_i d id hu hi
      rw [Pending.attempt?, hu, hi] at ha
      cases ha
    · rfl
  simp only [cancel, hp, abandon, habandon, sessionOf, Option.bind_some]
  cases p.held.session? <;> rfl

/-! ## A run that is held up -/

theorem Reached.writes_nothing (h : w.Reached P) (hl : w.launch? s = some l) (hs : w.Serves P s)
    (hp : (w.step s).answer = .pending) :
    (w.step s).world.database.rows = w.database.rows ∧
      (w.step s).world.migrations = w.migrations := by
  obtain ⟨held, hst⟩ := suspended_of_pending hl hp
  obtain ⟨task, db₀, es, -, hpresent⟩ := h.present hl hs
  have hcourse := hpresent.course
  rw [hst] at hcourse
  refine ⟨?_, ?_⟩
  · rw [rows_step hl, ← rows_of_launch? hl]
    exact hcourse.rows_of_suspended task.commits_last rfl
  · have hcancel (w : World) (key : String) : (w.cancel key).1.migrations = w.migrations := by
      unfold cancel
      split
      · rfl
      · unfold abandon closeSession? abandonAttempt
        split <;> split <;> rfl
    show (w.make s).world.migrations = _
    rw [make_of_launch? hl, (turn_suspended hst).1, ← migrations_of_launch? hl]
    exact hcancel l.advanced l.key

theorem WentOn.writes_nothing (h : WentOn P task key w₀ s₀ w) :
    (w₀.step s₀).world.database.rows = w₀.database.rows ∧
      (w₀.step s₀).world.migrations = w₀.migrations := by
  induction h with
  | start h hs hstarts hk hp => exact h.writes_nothing hstarts.launch? hs hp
  | again h he hs hp =>
    subst he
    cases hl : w₀.launch? (.poll key) with
    | some l => exact h.reached.writes_nothing hl hs hp
    | none =>
      refine ⟨h.reached.sound.rows_step_idle hl, ?_⟩
      have hmake := make_of_idle_poll hl
      show (w₀.make (.poll key)).world.migrations = _
      rw [hmake]
  | stay _ _ _ ih => exact ih
  | later _ _ _ ih => exact ih

/-- What was held up under `key` is gone with the sessions `born`, and all else is as it was. -/
structure Undone (key : String) (born : Nat → Prop) (w w' : World) : Prop where
  gone : w'.pending.lookup key = none
  others : ∀ key', key' ≠ key → w'.pending.lookup key' = w.pending.lookup key'
  rows : w'.database.rows = w.database.rows
  migrations : w'.migrations = w.migrations
  closed : ∀ t, born t → ¬ w'.database.IsOpen t
  freed : ∀ t, born t → ∀ lock, (lock, t) ∉ w'.database.locks
  /-- A driver that nobody uses any more takes the session of its lock with it. -/
  keeps : ∀ t, ¬ born t → (∀ d, w.sessionOf (.lock d) = some t → w'.drivers.lookup d ≠ none) →
    w.database.Keeps t w'.database
  slots : ∀ d, w'.drivers.lookup d ≠ none → w'.slotOf d = w.slotOf d

variable {d : Driver} {place : Nat} {m : Migration}

theorem Sound.undone_cancel (hw : w.Sound) {p : Pending} (hp : w.pending.lookup key = some p)
    (ha : p.attempt? = none) {born : Nat → Prop}
    (hborn : ∀ t, born t → w.database.IsOpen t → w.sessionOf (.operation key) = some t)
    (hown : ∀ t, w.sessionOf (.operation key) = some t → born t) :
    Undone key born w (w.cancel key).1 := by
  have hcancel := cancel_eq hp ha
  have hclosed (t : Nat) (ht : born t) : ¬ (w.cancel key).1.database.IsOpen t :=
    closed_cancel (hborn t ht)
  refine ⟨lookup_cancel_self w key, fun _ hk => lookup_cancel w hk, rows_cancel w key, ?_, hclosed,
    ?_, ?_, ?_⟩
  · rw [hcancel]
  · intro t ht lock hlock
    exact hclosed t ht ((hw.sheds_cancel key).database.owned lock t hlock)
  · intro t ht _
    apply hw.keeps_cancel
    exact fun hsession => ht (hown t hsession)
  · intro d' _
    rw [hcancel]
    rfl

theorem Underway.undone_cancel (h : w.Underway P (.run d place m) key) :
    Undone key (HasBegun P (.run d place m) key w) w (w.cancel key).1 := by
  obtain ⟨p, hp, hattempt⟩ := h.attempt?
  exact h.reached.sound.undone_cancel hp hattempt (fun _ ht hopen => ht.session hopen)
    fun _ hsession => h.hasBegun rfl hsession

theorem Undone.discardUnused {born : Nat → Prop} (h : Undone key born w w') (hw' : w'.Sound) :
    Undone key born w w'.discardUnused.1 := by
  have hages := ages_discardUnused w'
  have hsheds := hw'.sheds_discardUnused
  have hclosed (t : Nat) (ht : born t) : ¬ w'.discardUnused.1.database.IsOpen t := by
    intro hopen
    rcases hages.opens t hopen with hbefore | hnew
    · exact h.closed t ht hbefore
    · rw [← begun_discardUnused w'] at hnew
      exact absurd (hsheds.database.numbered t hopen) (Nat.not_le_of_lt hnew)
  refine ⟨h.gone, h.others, (rows_discardUnused w').trans h.rows, h.migrations, hclosed, ?_, ?_, ?_⟩
  · intro t ht lock hlock
    exact hclosed t ht (hsheds.database.owned lock t hlock)
  · intro t ht hused
    have hthere (d : DriverId) (hd : w.sessionOf (.lock d) = some t) :
        w'.isUsed d = true ∧ w'.drivers.lookup d ≠ none := by
      have hne := hused d hd
      rw [lookup_discardUnused] at hne
      by_cases hd' : w'.isUsed d = true
      · rw [if_pos hd'] at hne
        exact ⟨hd', hne⟩
      · rw [if_neg hd'] at hne
        exact absurd rfl hne
    refine (h.keeps t ht fun d hd => (hthere d hd).2).trans (keeps_foldl_drop hw'.database ?_)
    intro hmem
    obtain ⟨⟨d, st⟩, hd, hst⟩ := List.mem_filterMap.1 hmem
    obtain ⟨hd, hunused⟩ := List.mem_filter.1 hd
    have hlookup' := lookup_eq_some_of_mem hw'.distinct hd
    have hslot : w'.slotOf d = st.slot := by rw [slotOf, hlookup']
    have hsession : w.sessionOf (.lock d) = some t := by
      rw [sessionOf, ← h.slots d (by simp [hlookup']), hslot]
      exact hst
    simp [(hthere d hsession).1] at hunused
  · intro d hd
    rw [lookup_discardUnused] at hd
    split at hd
    · rename_i hused
      rw [slotOf, lookup_discardUnused, if_pos hused, ← h.slots d hd, slotOf]
    · exact absurd rfl hd

/--
A run that is cancelled where it is held up leaves nothing behind: no step of it has written a row
or changed a status, and each session that it began is ended and has no locks. Nothing else changes;
but a driver that was kept for the run alone goes with it.
-/
theorem cancelled_run_leaves_nothing (h : w.Underway P (.run d place m) key) :
    (∀ w₀ s₀, WentOn P (.run d place m) key w₀ s₀ w →
      (w₀.step s₀).world.database.rows = w₀.database.rows ∧
        (w₀.step s₀).world.migrations = w₀.migrations) ∧
    (w.cancel key).1.drivers = w.drivers ∧
    Undone key (HasBegun P (.run d place m) key w) w (w.cancel key).1 ∧
    Undone key (HasBegun P (.run d place m) key w) w (w.step (.cancel key)).world := by
  have hw := h.reached.sound
  have hundone := h.undone_cancel
  refine ⟨fun _ _ hwent => hwent.writes_nothing, ?_, hundone, ?_⟩
  · obtain ⟨p, hp, hattempt⟩ := h.attempt?
    rw [cancel_eq hp hattempt]
  · exact hundone.discardUnused ((hw.sheds_cancel key).sound hw)

/-- A run that is held up at its script, after its callback has taken a lock. -/
theorem cancelled_run_leaves_nothing_script :
    let m : Migration :=
      { name := ⟨"lib", "one"⟩
        action := .generated
          [⟨.query "SELECT GET_LOCK(?, -1)" [.text "x"], none⟩, ⟨.append "SELECT 1", none⟩] }
    let rules : List Rule := [{ contains := "SELECT 1", reply := .block }]
    let w₀ := ((initial [] rules [m]).step (.create "a" {} none)).world
    let w := (w₀.step (.operate "a" "k" (.run 0))).world
    let w' := (w.step (.cancel "k")).world
    (∃ d, w.Underway anyTerms (.run d 0 m) "k" ∧ HasBegun anyTerms (.run d 0 m) "k" w 1) ∧
      ("x", 1) ∈ w.database.locks ∧ ¬ w'.database.IsOpen 1 ∧ ("x", 1) ∉ w'.database.locks := by
  intro m rules w₀ w w'
  have hw₀ : w₀.Reached anyTerms := (Reached.start [] rules [m]).step (serves_anyTerms _ _)
  obtain ⟨⟨d, st⟩, hd⟩ : ∃ e, w₀.labelled? "a" = some e :=
    Option.isSome_iff_exists.1 (by decide +kernel)
  have hstarts : w₀.Starts (.operate "a" "k" (.run 0)) (.run st.driver 0 m) _ := .run hd rfl
  have hp : (w₀.step (.operate "a" "k" (.run 0))).answer = .pending :=
    Answer.eq_pending (by decide +kernel)
  have hunderway : w.Underway anyTerms (.run st.driver 0 m) "k" :=
    .start hw₀ (serves_anyTerms _ _) hstarts rfl hp
  have hbegun : HasBegun anyTerms (.run st.driver 0 m) "k" w 1 :=
    ⟨w₀, _, .start hw₀ (serves_anyTerms _ _) hstarts rfl hp, by decide +kernel, by decide +kernel⟩
  obtain ⟨-, -, -, hundone⟩ := cancelled_run_leaves_nothing hunderway
  exact ⟨⟨_, hunderway, hbegun⟩, by decide +kernel, hundone.closed 1 hbegun,
    hundone.freed 1 hbegun _⟩

end World

end SchemaMigration
