import SchemaMigration.Proofs.Leaving

/-!
# Attempts that fail

An attempt to take a lock fails when its session does not open, when the server does not answer, or
when the answer is not yes; and it can be cancelled wherever it is held up. In each case it undoes
itself: its slot is free for another attempt, its sessions have ended, and nobody else notices.
-/

namespace SchemaMigration

open Program

/-! ## The ways in which an attempt can end -/

section

variable (lockName : String)

/-- The exchanges of an attempt that gets its lock: the server's answer reads as true. -/
inductive Obtains : List Exchange → Prop
  | mk (s : SessionId) (v : SqlValue) (row : Row) (rest : List Row) (h : v.asBool = some true) :
      Obtains [.call (.begin {}) (.ok s),
        .call (.query (some s) .takeLock [.text lockName]) (.ok ((v :: row) :: rest))]

/-- The exchanges of an attempt that fails, with its error. -/
inductive Declines : List Exchange → MigrateError → Prop
  | notOpened (e : DbError) :
      Declines [.call (.begin {}) (.error e)] (.lock lockName "open session" e)
  | notAnswered (s : SessionId) (e : DbError) :
      Declines [.call (.begin {}) (.ok s),
        .call (.query (some s) .takeLock [.text lockName]) (.error e), .drop s]
        (.lock lockName "GET_LOCK" e)
  /-- Whether the rollback fails makes no difference. -/
  | notGranted (s : SessionId) (rows : List Row) (closed : Except DbError Unit)
      (h : ∀ v row rest, rows = (v :: row) :: rest → v.asBool ≠ some true) :
      Declines [.call (.begin {}) (.ok s),
        .call (.query (some s) .takeLock [.text lockName]) (.ok rows), .call (.rollback s) closed]
        (.lock lockName "GET_LOCK" (lockNotGranted lockName))

end

variable {lockName : String} {xs : List Exchange} {e : MigrateError}

theorem saysYes_iff {rows : List Row} : saysYes rows = true ↔
    ∃ v row rest, rows = (v :: row) :: rest ∧ v.asBool = some true := by
  rcases rows with _ | ⟨_ | ⟨v, row⟩, rest⟩
  · simp [saysYes]
  · simp [saysYes]
  · simp [saysYes]

theorem Declines.ne_lockState (h : Declines lockName xs e) (text : String) :
    e ≠ .lockState text := by
  cases h <;> exact MigrateError.noConfusion

theorem takeLock_follows {r : Except MigrateError SessionId}
    (h : (takeLock lockName).Follows xs (.done r)) :
    (∃ s, r = .ok s ∧ Obtains lockName xs) ∨ ∃ e, r = .error e ∧ Declines lockName xs e := by
  obtain ⟨r₁, xs₂, rfl, h₂⟩ := Follows.of_call (Follows.of_log h)
  cases r₁ with
  | error e =>
    obtain ⟨rfl, rfl⟩ := Follows.of_pure h₂
    exact Or.inr ⟨_, rfl, .notOpened e⟩
  | ok s =>
    obtain ⟨r₂, xs₄, rfl, h₄⟩ := Follows.of_call h₂
    cases r₂ with
    | error e =>
      cases h₄ with
      | close rest =>
        cases rest
        exact Or.inr ⟨_, rfl, .notAnswered s e⟩
    | ok rows =>
      dsimp only at h₄
      split at h₄
      · rename_i hyes
        have h₅ := Follows.of_log h₄
        obtain ⟨rfl, rfl⟩ := Follows.of_pure h₅
        obtain ⟨v, row, rest, rfl, hv⟩ := saysYes_iff.1 hyes
        exact Or.inl ⟨s, rfl, .mk s v row rest hv⟩
      · rename_i hno
        obtain ⟨closed, xs₆, rfl, h₆⟩ := Follows.of_call h₄
        have hdeclines : Declines lockName _ _ := .notGranted s rows closed
          fun v row rest hrows hv => hno (saysYes_iff.2 ⟨v, row, rest, hrows, hv⟩)
        cases closed with
        | ok _ =>
          obtain ⟨rfl, rfl⟩ := Follows.of_pure h₆
          exact Or.inr ⟨_, rfl, hdeclines⟩
        | error e =>
          have h₇ := Follows.of_log h₆
          obtain ⟨rfl, rfl⟩ := Follows.of_pure h₇
          exact Or.inr ⟨_, rfl, hdeclines⟩

namespace World

variable {w w' : World} {s : Step} {l : Launch} {key : String} {P : Terms} {d : DriverId}
  {id : LockId} {own : Option SessionId} {t : Nat}

open Function (update)

/-! ## The slot and the sessions of an attempt -/

/-- The part of a step in which an attempt goes on works for its driver, whose slot waits for it. -/
structure Acquiring (w : World) (l : Launch) (d : DriverId) (id : LockId) : Prop where
  user : l.user = some d
  slots : l.world.slotOf = update w.slotOf d (.acquiring id)
  driver : l.world.drivers.lookup d ≠ none

theorem Underway.slot_acquiring (h : w.Underway P (.acquire d id lockName) key) :
    w.slotOf d = .acquiring id :=
  (h.reached.acquiring_iff h.reached.balanced).2 ⟨key, lockName, h⟩

theorem Underway.pending_acquire (h : w.Underway P (.acquire d id lockName) key) :
    ∃ p, w.pending.lookup key = some p ∧ p.user = some d ∧ p.attempt = some id := by
  obtain ⟨p, hp, hattempt⟩ := h.attempt?
  have hkey : w.attemptOf key = some (d, id) := by
    rw [attemptOf, hp]
    exact hattempt
  exact attemptOf_eq_some hkey

theorem Engages.acquiring (h : w.Engages P (.acquire d id lockName) key s)
    (hl : w.launch? s = some l) : w.Acquiring l d id := by
  cases h with
  | start h ht hk =>
    cases ht.launch?.symm.trans hl
    cases ht with
    | acquire hd hs =>
      have hslots : (setSlot { w with nextLock := w.nextLock + 1 } d
          (.acquiring w.nextLock)).slotOf = update w.slotOf d (.acquiring w.nextLock) :=
        slotOf_setSlot_eq_update fun hnone => absurd hnone (lookup_of_labelled? hd)
      refine ⟨rfl, hslots, lookup_ne_none_of_slotOf ?_⟩
      intro hfree
      cases ((congrFun hslots d).trans (Function.update_self ..)).symm.trans hfree
  | again h =>
    have hslot := h.slot_acquiring
    obtain ⟨p, hp, huser, -⟩ := h.pending_acquire
    obtain ⟨-, u, lock, db, hpending, -, hworld⟩ := launch?_poll hl
    cases hp.symm.trans hpending
    refine ⟨huser, ?_, ?_⟩
    · rw [← hslot, Function.update_eq_self, hworld]
      rfl
    · have hthere : w.drivers.lookup d ≠ none := lookup_ne_none_of_slotOf (by simp [hslot])
      rw [hworld]
      exact hthere

theorem Engaged.opened {s : Step} (h : Engaged P (.acquire d id lockName) key w s l own)
    (he : w.Engages P (.acquire d id lockName) key s) :
    (∀ t, HasOpened P (.acquire d id lockName) key w s t → w.database.IsOpen t → own = some t) ∧
      ∀ t, own = some t → HasOpened P (.acquire d id lockName) key w s t := by
  have hw := he.reached.sound
  constructor
  · rintro t (⟨hlt, -⟩ | ⟨rfl, hbegun⟩) hopen
    · exact absurd (hw.database.numbered t hopen) (Nat.not_le_of_lt hlt)
    · rcases h.session with ⟨-, hpoll⟩ | ⟨-, hsession⟩
      · exact absurd rfl hpoll
      · exact hsession.symm.trans (hbegun.session hopen)
  · rintro t rfl
    rcases h.session with ⟨hnone, -⟩ | ⟨rfl, hsession⟩
    · cases hnone
    · cases he with
      | start _ ht _ => cases ht
      | again he => exact Or.inr ⟨rfl, he.hasBegun rfl hsession⟩

/-! ## Steps of an attempt -/

/-- The manager of `d` is not refused an attempt, by whatever label: it begins one. -/
structure Admits (w : World) (d : DriverId) : Prop where
  begins : ∀ label key st, w.labelled? label = some (d, st) →
    ∃ l, w.Starts (.operate label key .acquire) (.acquire d w.nextLock st.driver.lockName) l
  accepted : ∀ label key st text, w.labelled? label = some (d, st) →
    (w.step (.operate label key .acquire)).answer ≠ .acquired (.error (.lockState text))

/-- What a step comes to in which an attempt of `d` goes on that has opened the sessions `gone`. -/
inductive Attempted (w : World) (s : Step) (d : DriverId) (lockName key : String)
    (gone : Nat → Prop) : Prop
  | waits (answer : (w.step s).answer = .pending)
      (apart : w.Unobstructed key s → Apart d gone w (w.step s).world)
  | succeeds {handle : LockHandle} {xs : List Exchange}
      (answer : (w.step s).answer = .acquired (.ok handle)) (heard : Heard w s key xs)
      (obtains : Obtains lockName xs)
  | fails {e : MigrateError} {xs : List Exchange}
      (answer : (w.step s).answer = .acquired (.error e)) (heard : Heard w s key xs)
      (declines : Declines lockName xs e) (lets_go : LetsGo d gone w (w.step s).world)

theorem Engages.attempted (h : w.Engages anyTerms (.acquire d id lockName) key s) :
    w.Attempted s d lockName key (HasOpened anyTerms (.acquire d id lockName) key w s) := by
  have hs := w.serves_anyTerms s
  cases hl : w.launch? s with
  | none =>
    obtain ⟨hanswer, hworld⟩ := h.idle hl
    refine .waits hanswer fun _ => ?_
    rw [hworld]
    exact ⟨fun _ _ => rfl, fun t _ _ => Database.Keeps.refl t _⟩
  | some l =>
    obtain ⟨own, hengaged⟩ := h.engaged hs hl
    have hacquiring := h.acquiring hl
    obtain ⟨hgone, hown⟩ := hengaged.opened h
    cases hst : l.progress.standing with
    | suspended held =>
      have hanswer : (w.step s).answer = .pending := by
        show (w.make s).answer = .pending
        rw [make_of_launch? hl, (turn_suspended hst).2]
      exact .waits hanswer fun hu => hengaged.apart h.reached hu hst hacquiring.slots hown
    | ended st =>
      obtain ⟨xs, hfollows, hheard⟩ := hengaged.heard hst
      obtain ⟨hworld, hanswer, -⟩ := hengaged.make_of_ended hst
      obtain ⟨r, xs₁, xs₂, htake, hend, rfl⟩ := Follows.bind_done hfollows
      obtain ⟨rfl, rfl⟩ := Follows.of_pure hend
      rw [List.append_nil] at hheard
      rcases takeLock_follows htake with ⟨t, rfl, hobtains⟩ | ⟨e, rfl, hdeclines⟩
      · obtain ⟨dst, hdst⟩ := Option.ne_none_iff_exists'.1 hacquiring.driver
        have hdriver : l.advanced.drivers.lookup d = some dst := hdst
        have hreturned : (w.step s).answer = .acquired (.ok ⟨id, dst.driver.lockName⟩) := by
          refine hanswer.trans ?_
          simp only [settle, hdriver]
        exact .succeeds hreturned hheard hobtains
      · have hslots : (w.make s).world.slotOf = update w.slotOf d .free := by
          have hslot : l.advanced.slotOf = update w.slotOf d (.acquiring id) := hacquiring.slots
          rw [hworld]
          simp only [settle]
          rw [hslot, Function.update_self, LockSlot.abandon, if_pos rfl,
            slotOf_setSlot_eq_update fun _ => rfl, hslot, Function.update_idem]
        have hlets := hengaged.letsGo h.reached hst rfl hacquiring.user hslots hgone hown
        exact .fails hanswer hheard hdeclines hlets.1

theorem Reached.admits (h : w.Reached anyTerms) (hfree : w.slotOf d = .free) : w.Admits d := by
  have hbegins (label key : String) (st : DriverState) (hd : w.labelled? label = some (d, st)) :
      ∃ l, w.Starts (.operate label key .acquire) (.acquire d w.nextLock st.driver.lockName) l ∧
        l.key = key := by
    have hs : st.slot = .free := (slotOf_of_labelled? hd).symm.trans hfree
    exact ⟨_, .acquire hd hs, rfl⟩
  refine ⟨?_, ?_⟩
  · intro label key st hd
    obtain ⟨l, hl, -⟩ := hbegins label key st hd
    exact ⟨l, hl⟩
  · intro label key st text hd hrefused
    obtain ⟨l, hl, hkey⟩ := hbegins label key st hd
    cases (Engages.start h hl hkey).attempted with
    | waits answer _ => cases answer.symm.trans hrefused
    | succeeds answer _ _ => cases answer.symm.trans hrefused
    | fails answer _ declines _ =>
      cases answer.symm.trans hrefused
      exact declines.ne_lockState text rfl

/-! ## Attempts that are cancelled -/

theorem Underway.cancel_lets_go (h : w.Underway P (.acquire d id lockName) key) :
    LetsGo d (HasBegun P (.acquire d id lockName) key w) w (w.cancel key).1 ∧
      LetsGo d (HasBegun P (.acquire d id lockName) key w) w (w.step (.cancel key)).world := by
  have hw := h.reached.sound
  have hcancel := hw.sheds_cancel key
  obtain ⟨p, hp, huser, hid⟩ := h.pending_acquire
  have hslots : (w.cancel key).1.slotOf = update w.slotOf d .free :=
    congrArg Ledger.slots (ledger_cancel_of_attempt hp huser hid h.slot_acquiring)
  have hclosed (t : Nat) (ht : HasBegun P (.acquire d id lockName) key w t) :
      ¬ (w.cancel key).1.database.IsOpen t := closed_cancel ht.session
  have hlets :
      LetsGo d (HasBegun P (.acquire d id lockName) key w) w (w.cancel key).1 := by
    refine ⟨⟨?_, ?_⟩, ?_, hclosed, ?_⟩
    · intro d' hd'
      rw [hslots, Function.update_of_ne hd']
    · intro t _ hnot
      apply hw.keeps_cancel
      exact fun hsession => hnot (h.hasBegun rfl hsession)
    · rw [hslots, Function.update_self]
    · exact fun t ht lock hlock => hclosed t ht (hcancel.database.owned lock t hlock)
  refine ⟨hlets, hlets.discardUnused ?_⟩
  apply hlets.used_or_free (hcancel.sound hw)
  exact fun d' hd' hne => h.reached.used_of_cancel hp hd' (huser ▸ hne)

/--
An attempt that fails says whether its session did not open or its lock was not given, and it undoes
itself, also when it is cancelled while it is held up: the slot of its driver is free, the sessions
that it opened have ended with their locks, and all other slots and sessions are as they were. So
the driver is not refused another attempt.
-/
theorem failed_attempt_undoes_itself (d : DriverId) (id : LockId) (lockName key : String) :
    let attempt : Task := .acquire d id lockName
    (∀ (w : World) (s : Step), w.Engages anyTerms attempt key s →
      w.Attempted s d lockName key (HasOpened anyTerms attempt key w s)) ∧
    (∀ w : World, w.Underway anyTerms attempt key →
      LetsGo d (HasBegun anyTerms attempt key w) w (w.cancel key).1 ∧
        LetsGo d (HasBegun anyTerms attempt key w) w (w.step (.cancel key)).world) ∧
    ∀ w : World, w.Reached anyTerms → w.slotOf d = .free → w.Admits d :=
  ⟨fun _ _ h => h.attempted, fun _ h => h.cancel_lets_go, fun _ h hfree => h.admits hfree⟩

/-- One attempt gets no for an answer and cannot even roll back; the next one is cancelled. -/
theorem failed_attempt_undoes_itself_twice :
    let rules : List Rule :=
      [{ contains := "GET_LOCK", times := some 1, reply := .rows [[.null]] },
        { kind := some .rollback, reply := .fail (.execution "gone") },
        { contains := "GET_LOCK", reply := .block }]
    let attempt : Step := .operate "a" "k" .acquire
    let w₀ := ((initial [] rules []).step (.create "a" {} none)).world
    let w₁ := (w₀.step attempt).world
    let w₂ := (w₁.step attempt).world
    let w₃ := (w₂.step (.cancel "k")).world
    (∃ lockName, (w₀.step attempt).answer =
        .acquired (.error (.lock lockName "GET_LOCK" (lockNotGranted lockName)))) ∧
      w₁.slotOf 1 = .free ∧ ¬ w₁.database.IsOpen 1 ∧
      (∃ id lockName, w₂.Underway anyTerms (.acquire 1 id lockName) "k") ∧
      w₃.slotOf 1 = .free ∧ ¬ w₃.database.IsOpen 2 ∧ w₃.Admits 1 := by
  intro rules attempt w₀ w₁ w₂ w₃
  have hw₀ : w₀.Reached anyTerms := (Reached.start [] rules []).step (serves_anyTerms _ _)
  have hw₁ : w₁.Reached anyTerms := hw₀.step (serves_anyTerms _ _)
  have hw₂ : w₂.Reached anyTerms := hw₁.step (serves_anyTerms _ _)
  have hw₃ : w₃.Reached anyTerms := hw₂.step (serves_anyTerms _ _)
  have hdriver : (w₀.labelled? "a").map (·.1) = some 1 ∧ w₀.slotOf 1 = .free ∧
      (w₁.labelled? "a").map (·.1) = some 1 := by
    decide +kernel
  obtain ⟨hd, hfree, hd'⟩ := hdriver
  obtain ⟨⟨_, st⟩, hd, rfl⟩ := Option.map_eq_some_iff.1 hd
  obtain ⟨⟨_, st'⟩, hd', rfl⟩ := Option.map_eq_some_iff.1 hd'
  obtain ⟨hsteps, -, -⟩ := failed_attempt_undoes_itself 1 w₀.nextLock st.driver.lockName "k"
  obtain ⟨-, hcancel, hadmits⟩ :=
    failed_attempt_undoes_itself 1 w₁.nextLock st'.driver.lockName "k"
  have hstarts : w₀.Starts attempt (.acquire 1 w₀.nextLock st.driver.lockName) _ :=
    .acquire hd ((slotOf_of_labelled? hd).symm.trans hfree)
  have hfirst : (∃ lockName, (w₀.step attempt).answer =
        .acquired (.error (.lock lockName "GET_LOCK" (lockNotGranted lockName)))) ∧
      LetsGo 1 (HasOpened anyTerms (.acquire 1 w₀.nextLock st.driver.lockName) "k" w₀ attempt)
        w₀ w₁ := by
    -- The attempt ends with a rollback, and of all ways to end only one does.
    have hevents : (w₀.step attempt).answer.isPending = false ∧
        (w₀.make attempt).events.getLast? = some (.call (.rollback 1)) := by
      decide +kernel
    obtain ⟨hended, hlast⟩ := hevents
    cases hsteps w₀ attempt (.start hw₀ hstarts rfl) with
    | waits answer _ =>
      rw [answer] at hended
      cases hended
    | succeeds _ heard obtains =>
      rw [heard.all Step.noConfusion] at hlast
      cases obtains
      cases hlast
    | fails answer heard declines lets_go =>
      rw [heard.all Step.noConfusion] at hlast
      cases declines with
      | notOpened | notAnswered => cases hlast
      | notGranted => exact ⟨⟨_, answer⟩, lets_go⟩
  obtain ⟨hanswer, hfirst⟩ := hfirst
  have hopened : w₀.database.begun < 1 ∧ 1 ≤ w₁.database.begun := by decide +kernel
  have hstarts' : w₁.Starts attempt (.acquire 1 w₁.nextLock st'.driver.lockName) _ :=
    .acquire hd' ((slotOf_of_labelled? hd').symm.trans hfirst.free)
  have hp : (w₁.step attempt).answer = .pending := Answer.eq_pending (by decide +kernel)
  have hunderway := Underway.start hw₁ (serves_anyTerms _ _) hstarts' rfl hp
  have hbegun : HasBegun anyTerms (.acquire 1 w₁.nextLock st'.driver.lockName) "k" w₂ 2 :=
    ⟨w₁, _, .start hw₁ (serves_anyTerms _ _) hstarts' rfl hp, by decide +kernel, by decide +kernel⟩
  have hsecond := (hcancel w₂ hunderway).2
  exact ⟨hanswer, hfirst.free, hfirst.closed 1 (Or.inl hopened), ⟨_, _, hunderway⟩, hsecond.free,
    hsecond.closed 2 hbegun, hadmits w₃ hw₃ hsecond.free⟩

end World

end SchemaMigration
