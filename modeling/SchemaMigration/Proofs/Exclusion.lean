import SchemaMigration.Proofs.Reached

/-!
# Locks exclude each other

A manager that holds its lock has a session that is still open, and the database has given the lock
to that session. So two managers of the same lock never hold it at the same time.
-/

namespace SchemaMigration

open Program

/-- No rule says by itself that a lock was taken: the database grants it, or the query fails. -/
def grantsLocks : Terms := fun db c =>
  c.kind = .query → startsWithText "SELECT GET_LOCK" c.sql = true →
    ∀ rows, db.ruled c ≠ some (.rows rows)

/-! ## Taking a lock -/

theorem startsWithText_takeLock :
    startsWithText "SELECT GET_LOCK" Command.takeLock.text = true := by
  decide

theorem answerQuery_takeLock (db : Database) (s : SessionId) (lock : String) :
    db.answerQuery (some s) Command.takeLock.text [.text lock] =
      match db.grant? s lock with
      | some e => .answered (.ok [[.int 1]]) e
      | none => .waiting s lock [[.int 1]] db := by
  have hload : startsWithText "SELECT library, migration, done FROM " Command.takeLock.text =
      false := by
    decide
  cases hg : db.grant? s lock with
  | none => simp [Database.answerQuery, hload, startsWithText_takeLock, hg]
  | some e => simp [Database.answerQuery, hload, startsWithText_takeLock, hg]

variable {sc sc' : Scene} {es : List Event} {s : SessionId} {lock : String}

theorem Program.Course.takeLock_query {rows : List Row}
    (h : Course grantsLocks (perform (.query (some s) .takeLock [.text lock])) sc es
      (.ended (.ok rows)) sc') : sc'.database.locks.lookup lock = some s := by
  obtain ⟨-, hp, hdone⟩ := Course.perform_ended h
  have hterms := hp rfl startsWithText_takeLock
  rcases hdone with ⟨db, hv, rfl⟩ | ⟨t, lock', granted, db, e, e', hv, -, -, hg, -, rfl⟩
  · rcases Database.serve_query hv with hv | ⟨e, hv⟩ | ⟨rows', hr, -⟩ | hv
    · cases hv
    · cases hv
    · exact absurd hr (hterms rows')
    · rw [answerQuery_takeLock] at hv
      split at hv
      · rename_i e hg
        cases hv
        exact Database.lookup_of_grant? hg
      · cases hv
  · rcases Database.serve_query hv with hv | ⟨e, hv⟩ | ⟨rows', hr, -⟩ | hv
    · cases hv
    · cases hv
    · exact absurd hr (hterms rows')
    · rw [answerQuery_takeLock] at hv
      split at hv
      · cases hv
      · cases hv
        exact Database.lookup_of_grant? hg

theorem takeLock_granted (h : Course grantsLocks (takeLock lock) sc es (.ended (.ok s)) sc') :
    sc'.database.locks.lookup lock = some s := by
  obtain ⟨r, es₁, sc₁, es₂, h₁, h₂, -⟩ := Course.bind_ended (Course.of_log h)
  obtain ⟨db, hv, rfl⟩ := Course.perform_at_once (by simp [Call.kind]) h₁
  cases r with
  | error e => cases (Course.pure_ended h₂).1
  | ok t =>
    obtain ⟨r, es₃, sc₂, es₄, h₃, h₄, -⟩ := Course.bind_ended h₂
    cases r with
    | error e =>
      cases h₄ with
      | close rest => cases rest
    | ok rows =>
      dsimp only at h₄
      split at h₄
      · have h₅ := Course.of_log h₄
        obtain ⟨ht, -, rfl⟩ := Course.pure_ended h₅
        cases ht
        exact Course.takeLock_query h₃
      · obtain ⟨closed, es₅, sc₃, es₆, -, h₆, -⟩ := Course.bind_ended h₄
        cases closed with
        | ok _ => cases (Course.pure_ended h₆).1
        | error e =>
          dsimp only at h₆
          have h₇ := Course.of_log h₆
          cases (Course.pure_ended h₇).1

/-! ## In a scenario -/

/-- The driver's manager holds its lock, with session `s`. -/
def DriverState.Holds (st : DriverState) (s : SessionId) : Prop := ∃ id, st.slot = .held id s

theorem DriverState.holds_iff {st : DriverState} : st.Holds s ↔ st.slot.session? = some s :=
  LockSlot.session?_eq_some_iff.symm

namespace World

variable {w w' : World}

/-- Every lock that is held is the database's lock of the session that it is held with. -/
def Locked (w : World) : Prop :=
  ∀ d st s, w.drivers.lookup d = some st → st.Holds s →
    w.database.locks.lookup st.driver.lockName = some s

theorem sessionOf_lock_eq_some {d : DriverId} {s : SessionId}
    (h : w.sessionOf (.lock d) = some s) : ∃ st, w.drivers.lookup d = some st ∧ st.Holds s := by
  rw [sessionOf, slotOf] at h
  split at h
  · cases h
  · rename_i st hst
    exact ⟨st, hst, DriverState.holds_iff.2 h⟩

theorem Locked.sheds (h : w.Locked) (hw : w.Sound) (hsheds : w.Sheds w') : w'.Locked := by
  intro d st' s hd' hs'
  have hsession : w'.sessionOf (.lock d) = some s := by
    rw [sessionOf_lock hd']
    exact DriverState.holds_iff.1 hs'
  obtain ⟨hbefore, hkeeps⟩ := hsheds.keeps _ s hsession
  obtain ⟨st, hd, hs⟩ := sessionOf_lock_eq_some hbefore
  obtain ⟨st₀, hd₀, he⟩ := hsheds.drivers d st' (hw.lt_of_lookup hd) hd'
  cases hd.symm.trans hd₀
  rw [he]
  exact (hkeeps.locks _).2 (h d st s hd hs)

theorem Locked.setHeld (h : w.Locked) {d : DriverId} {id : LockId} {s : SessionId}
    (hs : ∀ st, w.drivers.lookup d = some st →
      w.database.locks.lookup st.driver.lockName = some s) :
    (w.setSlot d (.held id s)).Locked := by
  intro d' st' s' hd' hs'
  obtain ⟨st, hst, he, hslot⟩ := driver_of_setSlot hd'
  rw [he]
  split at hslot
  · rename_i hdd
    subst hdd
    obtain ⟨id', hid⟩ := hs'
    cases hslot.symm.trans hid
    exact hs st hst
  · refine h d' st s' hst ?_
    obtain ⟨id', hid⟩ := hs'
    exact ⟨id', hslot.symm.trans hid⟩

theorem Present.lock_granted {l : Launch} {task : Task} {db₀ : Database} {es : List Event}
    {d : DriverId} {id : LockId} {s : SessionId} (h : Present grantsLocks task l db₀ es)
    (hst : l.progress.standing = .ended (.acquired d id (.ok s))) :
    ∃ lock, task = .acquire d id lock ∧ l.progress.database.locks.lookup lock = some s := by
  have hcourse := h.course
  rw [hst] at hcourse
  cases task with
  | acquire d' id' lock =>
    obtain ⟨r, es₁, sc, es₂, htake, hend, -⟩ := Course.bind_ended hcourse
    obtain ⟨he, -, hsc⟩ := Course.pure_ended hend
    cases he
    refine ⟨lock, rfl, ?_⟩
    have hgranted := takeLock_granted htake
    rwa [← hsc] at hgranted
  | _ =>
    obtain ⟨r, es₁, sc, es₂, -, hend, -⟩ := Course.bind_ended hcourse
    cases (Course.pure_ended hend).1

theorem Reached.make_locked (h : w.Reached grantsLocks) {s : Step} (hs : w.Serves grantsLocks s)
    (hlocked : w.Locked) : (w.make s).world.Locked := by
  have hw := h.sound
  cases hl : w.launch? s with
  | none => exact hlocked.sheds hw (hw.idle hl).sheds
  | some l =>
    obtain ⟨own, hready⟩ := hw.ready hl
    have hadv := (hready.advanced hw).sheds
    have hsound := hadv.sound hw
    have hbefore := hlocked.sheds hw hadv
    rw [make_of_launch? hl]
    cases hst : l.progress.standing with
    | suspended held =>
      have hcancel := hbefore.sheds hsound (hsound.sheds_cancel l.key)
      rw [(turn_suspended hst).1]
      exact hcancel
    | ended st =>
      rw [(turn_ended hst).1]
      rcases hsound.settle_cases l.key st with hsheds | ⟨d, id, t, dst, handles, rfl, hd, hworld⟩
      · exact hbefore.sheds hsound hsheds
      -- The lock was granted for the name that its driver had, and drivers keep their names.
      obtain ⟨task, db₀, es, hfits, hpresent⟩ := h.present hl hs
      obtain ⟨lock, rfl, hgranted⟩ := hpresent.lock_granted hst
      have hheld : (l.advanced.setSlot d (.held id t)).Locked := by
        apply hbefore.setHeld
        intro st hst'
        obtain ⟨st₀, hst₀, he⟩ := hadv.drivers d st hfits.1 hst'
        rw [he, hfits.2 st₀ hst₀]
        exact hgranted
      rw [hworld]
      exact hheld

theorem Reached.locked (h : w.Reached grantsLocks) : w.Locked := by
  induction h with
  | start rows rules migrations =>
    intro d st s hd
    cases hd
  | @step w h s hs ih =>
    have hmake := h.sound.make s
    exact (h.make_locked hs ih).sheds hmake hmake.sheds_discardUnused

/--
A manager that holds its lock has an open session, to which the database has given the lock. So of
the drivers with one lock name, or with one tracking table, at most one holds its lock.
-/
theorem locks_exclude (h : w.Reached grantsLocks) :
    (∀ d st s, w.drivers.lookup d = some st → st.Holds s →
      w.database.IsOpen s ∧ w.database.locks.lookup st.driver.lockName = some s) ∧
    (∀ d d' st st' s s', w.drivers.lookup d = some st → w.drivers.lookup d' = some st' →
      st.Holds s → st'.Holds s' → st.driver.lockName = st'.driver.lockName → d = d') ∧
    ∀ d d' st st' s s', w.drivers.lookup d = some st → w.drivers.lookup d' = some st' →
      st.Holds s → st'.Holds s' → st.driver.tracking = st'.driver.tracking → d = d' := by
  have hsession {d st s} (hd : w.drivers.lookup d = some st) (hs : st.Holds s) :
      w.sessionOf (.lock d) = some s := by
    rw [sessionOf_lock hd]
    exact DriverState.holds_iff.1 hs
  have hone : ∀ d d' st st' s s', w.drivers.lookup d = some st → w.drivers.lookup d' = some st' →
      st.Holds s → st'.Holds s' → st.driver.lockName = st'.driver.lockName → d = d' := by
    intro d d' st st' s s' hd hd' hs hs' hname
    have hlock := h.locked d st s hd hs
    have hlock' := h.locked d' st' s' hd' hs'
    rw [hname] at hlock
    -- The database gives a lock to one session, and a session has one owner.
    obtain rfl : s = s' := Option.some.inj (hlock.symm.trans hlock')
    cases h.sound.apart _ _ s (hsession hd hs) (hsession hd' hs')
    rfl
  refine ⟨?_, hone, ?_⟩
  · intro d st s hd hs
    exact ⟨h.sound.isOpen _ s (hsession hd hs), h.locked d st s hd hs⟩
  · intro d d' st st' s s' hd hd' hs hs' htracking
    exact hone d d' st st' s s' hd hd' hs hs' (congrArg QualifiedName.lockName htracking)

theorem serves_grantsLocks (h : ∀ rule ∈ w.database.rules, ∀ rows, rule.reply ≠ .rows rows)
    (s : Step) : w.Serves grantsLocks s := by
  have hterms (db : Database) (c : Call)
      (hreply : ∀ reply, db.ruled c = some reply → ∀ rows, reply ≠ .rows rows) :
      grantsLocks db c := fun _ _ rows hr => hreply _ hr rows rfl
  exact Serves.of_replies hterms h s

/-- Two drivers of one table: the first holds the lock, the second waits for it. -/
theorem locks_exclude_waiting :
    let w₁ := ((initial [] [] []).step (.create "a" {} none)).world
    let w₂ := (w₁.step (.create "b" {} none)).world
    let w₃ := (w₂.step (.operate "a" "k" .acquire)).world
    let w₄ := (w₃.step (.operate "b" "j" .acquire)).world
    w₄.Reached grantsLocks ∧ w₄.pending.lookup "j" ≠ none ∧
      ∃ st s, w₄.drivers.lookup 1 = some st ∧ st.Holds s ∧ w₄.database.IsOpen s ∧
        w₄.database.locks.lookup st.driver.lockName = some s := by
  intro w₁ w₂ w₃ w₄
  have hnone {w : World} (h : w.database.rules = []) (s : Step) : w.Serves grantsLocks s := by
    apply serves_grantsLocks
    simp [h]
  have h₁ : w₁.Reached grantsLocks := (Reached.start [] [] []).step (hnone rfl _)
  have h₂ : w₂.Reached grantsLocks := h₁.step (hnone (by decide +kernel) _)
  have h₃ : w₃.Reached grantsLocks := h₂.step (hnone (by decide +kernel) _)
  have h₄ : w₄.Reached grantsLocks := h₃.step (hnone (by decide +kernel) _)
  obtain ⟨s, hs⟩ : ∃ s, w₄.sessionOf (.lock 1) = some s :=
    Option.isSome_iff_exists.1 (by decide +kernel)
  obtain ⟨st, hst, hholds⟩ := sessionOf_lock_eq_some hs
  refine ⟨h₄, ?_, st, s, hst, hholds, (locks_exclude h₄).1 1 st s hst hholds⟩
  have hwaits : (w₄.pending.lookup "j").isSome = true := by decide +kernel
  exact Option.isSome_iff_ne_none.1 hwaits

end World

end SchemaMigration
