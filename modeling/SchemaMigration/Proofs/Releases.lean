import SchemaMigration.Proofs.Leaving

/-!
# Letting go of a lock

A release takes the session out of the slot before anything else, and then tries to free the lock
and to end the session, whatever becomes of the first. So the slot is free from the start, the
session has ended when the release has, and neither touches what the manager has taken meanwhile.
-/

namespace SchemaMigration

open Program

/-! ## Calls that do not wait -/

/-- A call on session `t` that does not ask for a lock. -/
def Call.AtOnce (t : SessionId) (c : Call) : Prop :=
  c.session? = some t ∧ startsWithText "SELECT GET_LOCK" c.sql = false

theorem Database.serve_waiting_asks {db db' : Database} {c : Call} {t : SessionId} {lock : String}
    {a : c.Answer} (h : db.serve c = .waiting t lock a db') :
    startsWithText "SELECT GET_LOCK" c.sql = true := by
  cases c with
  | query s q ps =>
    rcases serve_query h with hb | ⟨e, he⟩ | ⟨rows, -, he⟩ | hu
    · cases hb
    · cases he
    · cases he
    · rcases answerQuery_cases (db.asked (.query s q ps)) s q.text ps with
        ⟨rows, ha⟩ | ⟨u, lock', -, -, ⟨e, -, ha⟩ | ⟨hasks, -⟩ | ha⟩
      · cases hu.trans ha
      · cases hu.trans ha
      · exact hasks
      · cases hu.trans ha
  | _ => cases (serve_waiting h).1

theorem Program.Course.blocked_of_at_once {α : Type} {P : Terms} {p : Program α} {sc sc' : Scene}
    {es : List Event} {held : Suspended α} {t : SessionId}
    (h : Course P p sc es (.suspended held) sc') (hp : p.Only (Call.AtOnce t)) :
    held = .blocked (some t) := by
  generalize hst : Standing.suspended held = st at h
  induction h with
  | done a sc => cases hst
  | log _ ih => exact ih hp hst
  | close _ ih => exact ih hp hst
  | answered _ _ _ ih => exact ih (hp.2 _) hst
  | blocked _ _ =>
    cases hst
    rw [hp.1.1]
  | waiting _ hs =>
    have hasks := Database.serve_waiting_asks hs
    rw [hp.1.2] at hasks
    cases hasks
  | granted _ hs =>
    have hasks := Database.serve_waiting_asks hs
    rw [hp.1.2] at hasks
    cases hasks

theorem freeLock_at_once (lockName : String) (t : SessionId) :
    (freeLock lockName t).Only (Call.AtOnce t) := by
  have hfree : startsWithText "SELECT GET_LOCK" Command.freeLock.text = false := by decide
  have hrollback : startsWithText "SELECT GET_LOCK" "" = false := by decide
  exact freeLock_calls ⟨rfl, hfree⟩ ⟨rfl, hrollback⟩

/-! ## What is told of a release -/

/-- The result of a release, from the reply to freeing the lock and that to closing its session. -/
structure Concludes (lockName : String) (freed : Except DbError (List Row))
    (closed : Except DbError Unit) (r : Except MigrateError Unit) : Prop where
  ok : r = .ok () ↔ (∃ rows, freed = .ok rows) ∧ closed = .ok ()
  notFreed : ∀ e, freed = .error e → r = .error (.lock lockName "RELEASE_LOCK" e)
  notClosed : ∀ rows e, freed = .ok rows → closed = .error e →
    r = .error (.lock lockName "close session" e)

/-- The exchanges of a release: the session is closed whatever the reply to freeing the lock. -/
def closing (lockName : String) (t : SessionId) (freed : Except DbError (List Row))
    (closed : Except DbError Unit) : List Exchange :=
  [.call (.query (some t) .freeLock [.text lockName]) freed, .call (.rollback t) closed]

theorem freeLock_follows {lockName : String} {t : SessionId} {xs : List Exchange}
    {r : Except MigrateError Unit} (h : (freeLock lockName t).Follows xs (.done r)) :
    ∃ freed closed, xs = closing lockName t freed closed ∧ Concludes lockName freed closed r := by
  obtain ⟨freed, xs₂, rfl, h₂⟩ := Follows.of_call h
  obtain ⟨closed, xs₄, rfl, h₄⟩ := Follows.of_call h₂
  refine ⟨freed, closed, ?_⟩
  cases freed with
  | error e =>
    cases closed with
    | error c =>
      have h₅ := Follows.of_log h₄
      obtain ⟨rfl, rfl⟩ := Follows.of_pure h₅
      exact ⟨rfl, by simp, by simp, by simp⟩
    | ok _ =>
      obtain ⟨rfl, rfl⟩ := Follows.of_pure h₄
      exact ⟨rfl, by simp, by simp, by simp⟩
  | ok rows =>
    cases closed with
    | error e =>
      obtain ⟨rfl, rfl⟩ := Follows.of_pure h₄
      exact ⟨rfl, by simp, by simp, by simp⟩
    | ok _ =>
      have hdone : r = .ok () ∧ xs₄ = [] := by
        dsimp only at h₄
        split at h₄
        · have h₅ := Follows.of_log h₄
          exact Follows.of_pure h₅
        · have h₅ := Follows.of_log h₄
          have h₆ := Follows.of_log h₅
          exact Follows.of_pure h₆
      obtain ⟨rfl, rfl⟩ := hdone
      exact ⟨rfl, by simp, by simp, by simp⟩

namespace World

variable {w w' : World} {d : DriverId} {id : LockId} {lockName key : String} {t : SessionId}
  {s : Step} {task : Task} {tell : Except MigrateError Unit → Answer}

open Function (update)

/-! ## Steps that empty a slot -/

/--
The step takes the session `t` out of the slot of `d`, where the attempt `id` had put it, and starts
the task that lets go of it. What `tell` makes of the result is the answer.
-/
inductive Empties (w : World) (d : DriverId) (id : LockId) (lockName : String) (t : SessionId)
    (key : String) : Step → Task → (Except MigrateError Unit → Answer) → Prop
  | release {label : String} {st : DriverState} {handle : LockHandle}
      (hd : w.labelled? label = some (d, st)) (hname : st.driver.lockName = lockName)
      (hh : w.handles.lookup key = some handle) (hid : handle.id = id) (hs : st.slot = .held id t) :
      Empties w d id lockName t key (.operate label key .release) (.release lockName t) .settled
  | force {label : String} {st : DriverState}
      (hd : w.labelled? label = some (d, st)) (hname : st.driver.lockName = lockName)
      (hs : st.slot = .held id t) :
      Empties w d id lockName t key (.operate label key .forceRelease) (.force lockName t)
        fun r => .forced (r.map fun _ => true)

theorem Empties.starts (h : w.Empties d id lockName t key s task tell) :
    ∃ l, w.Starts s task l ∧ l.key = key ∧ l.user = some d ∧
      l.world.slotOf = update w.slotOf d .free := by
  cases h with
  | release hd hname hh hid hs =>
    subst hname hid
    exact ⟨_, .release hd hh hs, rfl, rfl, slotOf_setSlot_eq_update fun _ => rfl⟩
  | force hd hname hs =>
    subst hname
    exact ⟨_, .force hd hs, rfl, rfl, slotOf_setSlot_eq_update fun _ => rfl⟩

theorem Empties.taken (h : w.Empties d id lockName t key s task tell) :
    w.taken? s = some (d, id) := by
  cases h with
  | release hd hname hh hid hs =>
    subst hid
    exact taken?_release hd hh hs
  | force hd hname hs => exact taken?_forceRelease hd hs

theorem Empties.session (h : w.Empties d id lockName t key s task tell) :
    task.session? = some t ∧ task.attempt? = none ∧ s ≠ .poll key := by
  cases h <;> exact ⟨rfl, rfl, Step.noConfusion⟩

theorem Empties.at_once (h : w.Empties d id lockName t key s task tell) :
    task.program.Only (Call.AtOnce t) := by
  have hfree := freeLock_at_once lockName t
  cases h with
  | release => exact hfree.bind fun _ => trivial
  | force => exact Only.bind (hfree.bind fun _ => trivial) fun _ => trivial

theorem Empties.ended (h : w.Empties d id lockName t key s task tell) {xs : List Exchange}
    {st : Settlement} (hfollows : task.program.Follows xs (.done st)) :
    ∃ freed closed r, xs = closing lockName t freed closed ∧ Concludes lockName freed closed r ∧
      st.session? = none ∧ ∀ w' : World, w'.settle key st = { answer := tell r, world := w' } := by
  cases h with
  | release =>
    obtain ⟨r, xs₁, xs₂, hfree, hend, rfl⟩ := Follows.bind_done hfollows
    obtain ⟨rfl, rfl⟩ := Follows.of_pure hend
    obtain ⟨freed, closed, rfl, hr⟩ := freeLock_follows hfree
    exact ⟨freed, closed, r, List.append_nil _, hr, rfl, fun _ => rfl⟩
  | force =>
    obtain ⟨b, xs₁, xs₂, hforce, hend, rfl⟩ := Follows.bind_done hfollows
    obtain ⟨rfl, rfl⟩ := Follows.of_pure hend
    have hforce := Follows.of_log hforce
    obtain ⟨r, xs₃, xs₄, hfree, hmap, rfl⟩ := Follows.bind_done hforce
    obtain ⟨rfl, rfl⟩ := Follows.of_pure hmap
    obtain ⟨freed, closed, rfl, hr⟩ := freeLock_follows hfree
    refine ⟨freed, closed, r, ?_, hr, rfl, fun _ => rfl⟩
    rw [List.append_nil, List.append_nil]

/-- What a step comes to that empties the slot of `d`. -/
inductive Emptied (w : World) (s : Step) (d : DriverId) (lockName : String) (t : SessionId)
    (key : String) (tell : Except MigrateError Unit → Answer) : Prop
  | hangs (answer : (w.step s).answer = .pending)
      (apart : w.Unobstructed key s → Apart d (· = t) w (w.step s).world)
  | ends {freed : Except DbError (List Row)} {closed : Except DbError Unit}
      {r : Except MigrateError Unit} (answer : (w.step s).answer = tell r)
      (concludes : Concludes lockName freed closed r)
      (heard : Heard w s key (closing lockName t freed closed))
      (events : (w.step s).events = (closing lockName t freed closed).map Exchange.event)
      (lets_go : LetsGo d (· = t) w (w.step s).world)

theorem Empties.emptied (h : w.Empties d id lockName t key s task tell)
    (hw : w.Reached anyTerms) : w.Emptied s d lockName t key tell := by
  obtain ⟨l, hstarts, hkey, huser, hslots⟩ := h.starts
  obtain ⟨hsession, -, hpoll⟩ := h.session
  have hengages : w.Engages anyTerms task key s := .start hw hstarts hkey
  obtain ⟨own, hengaged⟩ := hengages.engaged (w.serves_anyTerms s) hstarts.launch?
  have hown : own = some t := by
    rcases hengaged.session with ⟨hown, -⟩ | ⟨hagain, -⟩
    · exact hown.trans hsession
    · exact absurd hagain hpoll
  have hgone (t' : Nat) (ht' : own = some t') : t' = t := by
    cases hown.symm.trans ht'
    rfl
  cases hst : l.progress.standing with
  | suspended held =>
    have hanswer : (w.step s).answer = .pending := by
      show (w.make s).answer = .pending
      rw [make_of_launch? hstarts.launch?, (turn_suspended hst).2]
    exact .hangs hanswer fun hu => hengaged.apart hw hu hst hslots hgone
  | ended st =>
    obtain ⟨xs, hfollows, hheard⟩ := hengaged.heard hst
    obtain ⟨hworld, hanswer, -⟩ := hengaged.make_of_ended hst
    obtain ⟨freed, closed, r, rfl, hr, hnone, hsettle⟩ := h.ended hfollows
    rw [hsettle] at hworld hanswer
    have hslots' : (w.make s).world.slotOf = update w.slotOf d .free := by
      rw [hworld]
      exact hslots
    have hopened (t' : Nat) (ht' : t' = t) (_ : w.database.IsOpen t') : own = some t' := by
      rw [hown, ht']
    obtain ⟨hlets, hevents⟩ := hengaged.letsGo hw hst hnone huser hslots' hopened hgone
    exact .ends hanswer hr hheard (hevents.trans (hheard.all hpoll)) hlets

/-! ## Releases that hang -/

/-- The operation under `key` hangs in a call on session `t`, and ends when it is cancelled. -/
structure Hangs (w : World) (key : String) (t : SessionId) : Prop where
  polled : (w.step (.poll key)).answer = .pending ∧ (w.step (.poll key)).world = w
  cancelled : Undone key (· = t) w (w.cancel key).1 ∧
    Undone key (· = t) w (w.step (.cancel key)).world
  /-- An attempt of the same manager that has begun in the meantime goes on. -/
  others : ∀ key' task, key' ≠ key → w.Underway anyTerms task key' →
    (w.step (.cancel key)).world.Underway anyTerms task key'

theorem Empties.hangs (h : w.Empties d id lockName t key s task tell)
    (hu : w'.Underway anyTerms task key) : w'.Hangs key t := by
  have hw' := hu.reached.sound
  obtain ⟨-, hattempt, -⟩ := h.session
  obtain ⟨p, db₀, es, sc, hp, hpast⟩ := hu.past
  obtain ⟨p', hp', hnone⟩ := hu.attempt?
  cases hp.symm.trans hp'
  have hheld := hpast.course.blocked_of_at_once h.at_once
  have hsession : w'.sessionOf (.operation key) = some t := by
    rw [sessionOf, hp, Option.bind_some, hheld]
    rfl
  have hidle : w'.launch? (.poll key) = none := by
    obtain ⟨user, attempt, held⟩ := p
    cases hheld
    simp [launch?, opens?, resumes?, hp]
  have hundone : Undone key (· = t) w' (w'.cancel key).1 := by
    refine hw'.undone_cancel hp (hnone.trans hattempt) ?_ ?_
    · rintro _ rfl _
      exact hsession
    · exact fun t' ht' => (Option.some.inj (hsession.symm.trans ht')).symm
  refine ⟨(Engages.again hu).idle hidle, ⟨hundone, ?_⟩, ?_⟩
  · exact hundone.discardUnused ((hw'.sheds_cancel key).sound hw')
  · intro key' task' hne hunderway
    refine hunderway.stay (serves_anyTerms _ _) ⟨Step.noConfusion, ?_, ?_⟩
    · rintro ⟨⟩
      exact hne rfl
    · intro l hl
      cases hl

/--
A release with the handle of a lock that is held, and a forced one, let go in any case. The slot is
free before anything is asked of the database, and none ever has the attempt again. When the
release has ended, both calls were made, the session has ended with its locks, and the answer tells
of the first failure. Where it hangs instead, it does so until it is cancelled; then its session
ends, and what others have taken in the meantime is left to them.
-/
theorem release_lets_go (hw : w.Reached anyTerms)
    (h : w.Empties d id lockName t key s task tell) :
    (∃ l, w.launch? s = some l ∧ l.world.slotOf = update w.slotOf d .free) ∧
      (∀ ss d', (((w.step s).world.after ss).slotOf d').id? ≠ some id) ∧
      w.Emptied s d lockName t key tell ∧
      ∀ w' : World, w'.Underway anyTerms task key → w'.Hangs key t := by
  obtain ⟨l, hstarts, -, -, hslots⟩ := h.starts
  refine ⟨⟨l, hstarts.launch?, hslots⟩, ?_, h.emptied hw, fun _ => h.hangs⟩
  intro ss d'
  have hserves := w.serves_anyTerms s
  have hstep := hw.step_ledger hserves hw.balanced
  have htaken : Entry.taken d id ∈ w.entries s := by
    simp [entries, h.taken]
  have hspent := hstep.spent_of_taken hw.balanced htaken
  have hrest := (hw.step hserves).ledger_after (hw.step hserves).balanced ss
  exact (hrest.spent (hw.step hserves).balanced hspent).absent d'

/--
A release whose lock cannot be freed hangs in its rollback. When it is cancelled, the next attempt
of the same manager, which waits for the lock, stays.
-/
theorem release_lets_go_hanging :
    let rules : List Rule :=
      [{ contains := "RELEASE_LOCK", reply := .fail (.execution "gone") },
        { kind := some .rollback, reply := .block }]
    let w₀ := ((initial [] rules []).step (.create "a" {} none)).world
    let w₁ := (w₀.step (.operate "a" "k" .acquire)).world
    let w₂ := (w₁.step (.operate "a" "k" .release)).world
    let w₃ := (w₂.step (.operate "a" "j" .acquire)).world
    let w₄ := (w₃.step (.cancel "k")).world
    w₁.slotOf 1 = .held 1 1 ∧ (∀ ss d, ((w₂.after ss).slotOf d).id? ≠ some 1) ∧
      w₃.Hangs "k" 1 ∧ ¬ w₄.database.IsOpen 1 ∧
      ∃ id lockName, w₄.Underway anyTerms (.acquire 1 id lockName) "j" := by
  intro rules w₀ w₁ w₂ w₃ w₄
  have hw₀ : w₀.Reached anyTerms := (Reached.start [] rules []).step (serves_anyTerms _ _)
  have hw₁ : w₁.Reached anyTerms := hw₀.step (serves_anyTerms _ _)
  have hw₂ : w₂.Reached anyTerms := hw₁.step (serves_anyTerms _ _)
  have hbefore : (w₁.labelled? "a").map (·.1) = some 1 ∧ w₁.slotOf 1 = .held 1 1 ∧
      (w₁.handles.lookup "k").map (·.id) = some 1 ∧
      (w₂.labelled? "a").map (·.1) = some 1 ∧ w₂.slotOf 1 = .free := by
    decide +kernel
  obtain ⟨hd, hslot, hh, hd', hfree⟩ := hbefore
  obtain ⟨⟨_, st⟩, hd, rfl⟩ := Option.map_eq_some_iff.1 hd
  obtain ⟨⟨_, st'⟩, hd', rfl⟩ := Option.map_eq_some_iff.1 hd'
  obtain ⟨handle, hh, hid⟩ := Option.map_eq_some_iff.1 hh
  have hs : st.slot = .held 1 1 := (slotOf_of_labelled? hd).symm.trans hslot
  have hempties := Empties.release hd rfl hh hid hs
  obtain ⟨-, hspent, -, hhangs⟩ := release_lets_go hw₁ hempties
  have hpending : (w₁.step (.operate "a" "k" .release)).answer.isPending = true ∧
      (w₂.step (.operate "a" "j" .acquire)).answer.isPending = true := by
    decide +kernel
  obtain ⟨l, hstarts, hkey, -, -⟩ := hempties.starts
  have hrelease : w₂.Underway anyTerms (.release st.driver.lockName 1) "k" :=
    .start hw₁ (serves_anyTerms _ _) hstarts hkey (Answer.eq_pending hpending.1)
  have hstarts' : w₂.Starts (.operate "a" "j" .acquire)
      (.acquire 1 w₂.nextLock st'.driver.lockName) _ :=
    .acquire hd' ((slotOf_of_labelled? hd').symm.trans hfree)
  have hspares : w₂.Spares (.operate "a" "j" .acquire) "k" := by
    refine ⟨Step.noConfusion, Step.noConfusion, ?_⟩
    intro l' hl' hkey'
    cases hstarts'.launch?.symm.trans hl'
    have hne : "j" ≠ "k" := by decide
    exact absurd hkey' hne
  have hstays := hhangs w₃ (hrelease.stay (serves_anyTerms _ _) hspares)
  have hacquire := Underway.start hw₂ (serves_anyTerms _ _) hstarts' rfl
    (Answer.eq_pending hpending.2)
  exact ⟨hslot, hspent, hstays, hstays.cancelled.2.closed 1 rfl,
    _, _, hstays.others "j" _ (by decide) hacquire⟩

end World

end SchemaMigration
