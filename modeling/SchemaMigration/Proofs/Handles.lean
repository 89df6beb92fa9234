import Mathlib.Data.List.Nodup
import SchemaMigration.Proofs.Cancelling
import SchemaMigration.Proofs.History
import SchemaMigration.Proofs.Ledger

/-!
# Lock handles

What becomes of the slots of all managers in a scenario is what the ledger of lock slots allows. So
a handle frees the lock that it was returned for, or none: neither that of another manager, nor one
that the same manager took later.
-/

namespace SchemaMigration

/-- The attempt that an operation was which ends so. -/
def Settlement.attempt? : Settlement → Option (DriverId × LockId)
  | .acquired d id _ => some (d, id)
  | _ => none

/-- The handle that such an operation returns with its answer. -/
def Settlement.returned? : Settlement → Answer → Option (DriverId × LockHandle)
  | .acquired d _ _, .acquired (.ok handle) => some (d, handle)
  | _, _ => none

def Launch.attempt? (l : Launch) : Option (DriverId × LockId) :=
  match l.user, l.attempt with
  | some d, some id => some (d, id)
  | _, _ => none

theorem Task.attempt?_of_ended {P : Terms} {t : Task} {sc sc' : Scene} {es : List Event}
    {st : Settlement} (h : Program.Course P t.program sc es (.ended st) sc') :
    st.attempt? = t.attempt? := by
  cases t with
  | _ =>
    obtain ⟨r, es₁, sc₁, es₂, -, hend, -⟩ := Program.Course.bind_ended h
    obtain ⟨rfl, -, -⟩ := Program.Course.pure_ended hend
    rfl

namespace World

/-- The attempt that is held up under a key. -/
def attemptOf (w : World) (key : String) : Option (DriverId × LockId) :=
  (w.pending.lookup key).bind Pending.attempt?

def ledger (w : World) : Ledger where
  slots := w.slotOf
  attempts := w.attemptOf
  next := w.nextLock

/-! ## What a step enters -/

/-- The handle that a step returns, with its manager. -/
def returned? (w : World) (s : Step) : Option (DriverId × LockHandle) :=
  (w.settlement? s).bind (·.returned? (w.step s).answer)

/-- The attempt whose session a step takes out of its slot to free its lock. -/
def taken? (w : World) : Step → Option (DriverId × LockId)
  | .operate label key .release =>
    match w.labelled? label, w.handles.lookup key with
    | some (d, st), some handle => (st.slot.sessionFor? handle).map fun _ => (d, handle.id)
    | _, _ => none
  | .operate label _ .forceRelease =>
    match w.labelled? label with
    | some (d, ⟨_, .held id _⟩) => some (d, id)
    | _ => none
  | _ => none

def entries (w : World) (s : Step) : List Entry :=
  ((w.taken? s).map fun a => Entry.taken a.1 a.2).toList ++
    ((w.returned? s).map fun a => Entry.returned a.1 a.2).toList

/-- What some steps enter, in order. -/
def lockHistory (w : World) : List Step → List Entry
  | [] => []
  | s :: rest => w.entries s ++ (w.step s).world.lockHistory rest

end World

/-- The ledger while an operation goes on. -/
def Launch.ledger (l : Launch) : Ledger := { l.world.ledger with current := l.attempt? }

namespace World

variable {w : World} {s : Step} {l : Launch} {key : String} {P : Terms}

/-! ## Slots and attempts after a change -/

open Function (update)

theorem slotOf_setSlot_eq_update {d : DriverId} {slot : LockSlot}
    (h : w.drivers.lookup d = none → slot = .free) :
    (w.setSlot d slot).slotOf = update w.slotOf d slot := by
  funext d'
  rw [slotOf_setSlot, Function.update_apply]
  by_cases hd : d' = d
  · subst hd
    by_cases hnone : w.drivers.lookup d' = none
    · rw [if_neg (by simp [hnone]), if_pos rfl, h hnone, slotOf, hnone]
    · rw [if_pos ⟨rfl, hnone⟩, if_pos rfl]
  · rw [if_neg (by simp [hd]), if_neg hd]

theorem ledger_dropPending (w : World) (key : String) :
    ledger { w with pending := dropKey w.pending key } =
      { w.ledger with attempts := update w.ledger.attempts key none } := by
  have hattempts : attemptOf { w with pending := dropKey w.pending key } =
      update w.attemptOf key none := by
    funext key'
    rw [attemptOf, lookup_dropKey, Function.update_apply]
    by_cases hk : key' = key
    · rw [if_pos hk, if_pos hk]
      rfl
    · rw [if_neg hk, if_neg hk, attemptOf]
  rw [ledger, hattempts]
  rfl

theorem ledger_putPending (w : World) (key : String) (p : Pending) :
    ledger { w with pending := putKey w.pending key p } =
      { w.ledger with attempts := update w.ledger.attempts key p.attempt? } := by
  have hattempts : attemptOf { w with pending := putKey w.pending key p } =
      update w.attemptOf key p.attempt? := by
    funext key'
    rw [attemptOf, lookup_putKey, Function.update_apply]
    by_cases hk : key' = key
    · rw [if_pos hk, if_pos hk]
      rfl
    · rw [if_neg hk, if_neg hk, attemptOf]
  rw [ledger, hattempts]
  rfl

theorem lookup_ne_none_of_slotOf {d : DriverId} (h : w.slotOf d ≠ .free) :
    w.drivers.lookup d ≠ none := by
  intro hnone
  rw [slotOf, hnone] at h
  exact h rfl

theorem ledger_setSlot {d : DriverId} (h : w.drivers.lookup d ≠ none) (slot : LockSlot) :
    (w.setSlot d slot).ledger = { w.ledger with slots := update w.ledger.slots d slot } := by
  rw [ledger, slotOf_setSlot_eq_update fun hnone => absurd hnone h]
  rfl

theorem slotOf_of_labelled? {label : String} {d : DriverId} {st : DriverState}
    (hd : w.labelled? label = some (d, st)) : w.slotOf d = st.slot := by
  rw [slotOf, labelled?_drivers hd]

theorem lookup_of_labelled? {label : String} {d : DriverId} {st : DriverState}
    (hd : w.labelled? label = some (d, st)) : w.drivers.lookup d ≠ none := by
  rw [labelled?_drivers hd]
  exact Option.some_ne_none st

theorem taken?_release {label : String} {d : DriverId} {st : DriverState} {handle : LockHandle}
    {t : SessionId} (hd : w.labelled? label = some (d, st))
    (hh : w.handles.lookup key = some handle) (hs : st.slot = .held handle.id t) :
    w.taken? (.operate label key .release) = some (d, handle.id) := by
  simp [taken?, hd, hh, LockSlot.sessionFor?_eq_some_iff.2 hs]

theorem taken?_forceRelease {label : String} {d : DriverId} {st : DriverState} {id : LockId}
    {t : SessionId} (hd : w.labelled? label = some (d, st)) (hs : st.slot = .held id t) :
    w.taken? (.operate label key .forceRelease) = some (d, id) := by
  obtain ⟨driver, slot⟩ := st
  cases hs
  simp [taken?, hd]

/-! ## Launches -/

theorem Starts.attempt? {task : Task} (h : w.Starts s task l) : l.attempt? = task.attempt? := by
  cases h <;> rfl

theorem Reached.attempt?_of_ended (h : w.Reached P) (hl : w.launch? s = some l)
    (hs : w.Serves P s) {st : Settlement} (hst : l.progress.standing = .ended st) :
    st.attempt? = l.attempt? := by
  rcases launch?_cases hl with ⟨task, hstarts⟩ | hresumes
  · have hcourse := (hstarts.present h.sound hs).course
    rw [hst] at hcourse
    rw [Task.attempt?_of_ended hcourse, hstarts.attempt?]
  · obtain ⟨t, lock, db, rfl, hp, -⟩ := resumes?_eq_some hresumes
    obtain ⟨task, hunderway⟩ := h.underway hp
    obtain ⟨p, db₀, es, sc, hp', hpast⟩ := hunderway.past
    obtain ⟨p'', hp'', hattempt⟩ := hunderway.attempt?
    cases hp.symm.trans hp'
    cases hp.symm.trans hp''
    have hcourse := (hpast.present h.sound hp hl hs).course
    rw [hst] at hcourse
    rw [Task.attempt?_of_ended hcourse, ← hattempt]
    rfl

theorem ledger_run_of_setSlot {w' : World} {d : DriverId} {slot : LockSlot} {es : List Entry}
    (hl : l.world = w'.setSlot d slot) (hd : w'.drivers.lookup d ≠ none)
    (h : Ledger.Step w.ledger es
      { w'.ledger with slots := update w'.ledger.slots d slot, current := l.attempt? }) :
    Ledger.Run w.ledger es l.ledger := by
  rw [Launch.ledger, hl, ledger_setSlot hd]
  exact h.run

theorem Starts.ledger_run {task : Task} (h : w.Starts s task l) :
    Ledger.Run w.ledger ((w.taken? s).map fun a => Entry.taken a.1 a.2).toList l.ledger := by
  cases h with
  | @acquire label key d st hd hs =>
    have hfree : w.ledger.slots d = .free := (slotOf_of_labelled? hd).trans hs
    exact ledger_run_of_setSlot rfl (lookup_of_labelled? hd) (.begins hfree rfl)
  | @release label key d st handle t hd hh hs =>
    have hheld : w.ledger.slots d = .held handle.id t := (slotOf_of_labelled? hd).trans hs
    rw [taken?_release hd hh hs]
    exact ledger_run_of_setSlot rfl (lookup_of_labelled? hd) (.takes hheld)
  | @force label key d st id t hd hs =>
    have hheld : w.ledger.slots d = .held id t := (slotOf_of_labelled? hd).trans hs
    rw [taken?_forceRelease hd hs]
    exact ledger_run_of_setSlot rfl (lookup_of_labelled? hd) (.takes hheld)
  | _ => exact .refl _

theorem ledger_run_of_resumes? (h : w.resumes? s = some l) :
    Ledger.Run w.ledger ((w.taken? s).map fun a => Entry.taken a.1 a.2).toList l.ledger := by
  obtain ⟨t, lock, db, rfl, hp, -, hworld⟩ := resumes?_eq_some h
  have hresumes := Ledger.Step.resumes (L := w.ledger) l.key rfl
  have hattempt : w.ledger.attempts l.key = l.attempt? := by
    show w.attemptOf l.key = _
    rw [attemptOf, hp]
    rfl
  have hledger : l.ledger = { w.ledger with
      attempts := update w.ledger.attempts l.key none
      current := w.ledger.attempts l.key } := by
    have hdrop := ledger_dropPending { w with database := db } l.key
    rw [Launch.ledger, hworld, hattempt, hdrop]
    rfl
  rw [hledger]
  exact hresumes.run

theorem ledger_run_of_launch? (hl : w.launch? s = some l) :
    Ledger.Run w.ledger ((w.taken? s).map fun a => Entry.taken a.1 a.2).toList l.ledger := by
  rcases launch?_cases hl with ⟨task, hstarts⟩ | hresumes
  · exact hstarts.ledger_run
  · exact ledger_run_of_resumes? hresumes

/-! ## What operations leave -/

theorem ledger_foldl_setStatus (w : World) (statuses : List (Nat × Migration)) :
    (statuses.foldl (fun w (place, m) => w.setStatus place m.status) w).ledger = w.ledger := by
  induction statuses generalizing w with
  | nil => rfl
  | cons e statuses ih => exact ih (w.setStatus e.1 e.2.status)

theorem ledger_run_settle (hb : l.ledger.Balanced) {st : Settlement}
    (hst : st.attempt? = l.attempt?) :
    Ledger.Run l.ledger
      ((st.returned? (l.advanced.settle l.key st).answer).map
        fun a => Entry.returned a.1 a.2).toList
      (l.advanced.settle l.key st).world.ledger := by
  have hadvanced : l.ledger = { l.advanced.ledger with current := l.attempt? } := rfl
  cases st with
  | acquired d id r =>
    have hcurrent : l.ledger.current = some (d, id) := hst.symm
    have hslot : l.advanced.slotOf d = .acquiring id := (hb.acquiring d id).2 (Or.inl hcurrent)
    have hd : l.advanced.drivers.lookup d ≠ none := lookup_ne_none_of_slotOf (by simp [hslot])
    cases r with
    | error e =>
      simp only [settle]
      rw [hslot, LockSlot.abandon, if_pos rfl, ledger_setSlot hd]
      exact (Ledger.Step.fails hcurrent).run
    | ok t =>
      obtain ⟨dst, hdst⟩ := Option.ne_none_iff_exists'.1 hd
      simp only [settle, hdst, putHandle]
      show Ledger.Run _ _ (l.advanced.setSlot d (.held id t)).ledger
      rw [ledger_setSlot hd]
      have hreturns : Ledger.Step l.ledger [.returned d ⟨id, dst.driver.lockName⟩] _ :=
        .returns t hcurrent
      exact hreturns.run
  | loaded places loaded =>
    simp only [settle]
    rw [ledger_foldl_setStatus, hadvanced, ← hst]
    exact .refl _
  | _ =>
    rw [hadvanced, ← hst]
    exact .refl _

theorem attemptOf_eq_some {d : DriverId} {id : LockId} (h : w.attemptOf key = some (d, id)) :
    ∃ p, w.pending.lookup key = some p ∧ p.user = some d ∧ p.attempt = some id := by
  obtain ⟨p, hp, hattempt⟩ := Option.bind_eq_some_iff.1 h
  refine ⟨p, hp, ?_⟩
  unfold Pending.attempt? at hattempt
  split at hattempt
  · cases hattempt
    exact ⟨by assumption, by assumption⟩
  · cases hattempt

theorem ledger_cancel_of_attempt {p : Pending} {d : DriverId} {id : LockId}
    (hp : w.pending.lookup key = some p) (huser : p.user = some d) (hid : p.attempt = some id)
    (hslot : w.slotOf d = .acquiring id) :
    (w.cancel key).1.ledger = { w.ledger with
      slots := update w.ledger.slots d .free
      attempts := update w.ledger.attempts key none } := by
  have hd : w.drivers.lookup d ≠ none := lookup_ne_none_of_slotOf (by simp [hslot])
  let dropped : World := { w with pending := dropKey w.pending key }
  have hslot' : dropped.slotOf d = .acquiring id := hslot
  have habandon : dropped.abandonAttempt p = dropped.setSlot d .free := by
    simp only [abandonAttempt, huser, hid]
    rw [hslot', LockSlot.abandon, if_pos rfl]
  have hworld : (w.cancel key).1.ledger = (dropped.setSlot d .free).ledger := by
    simp only [cancel, hp, abandon]
    rw [habandon]
    cases p.held.session? <;> rfl
  have hdrop : dropped.ledger =
      { w.ledger with attempts := update w.ledger.attempts key none } := ledger_dropPending w key
  rw [hworld, ledger_setSlot (w := dropped) hd, hdrop]

theorem ledger_run_cancel {a : Option (DriverId × LockId)}
    (hb : Ledger.Balanced { w.ledger with current := a }) (key : String) :
    Ledger.Run { w.ledger with current := a } []
      { (w.cancel key).1.ledger with current := a } := by
  cases hp : w.pending.lookup key with
  | none =>
    simp only [cancel, hp]
    exact .refl _
  | some p =>
    cases hattempt : p.attempt? with
    | none =>
      have hnone : w.ledger.attempts key = none := by
        show w.attemptOf key = none
        rw [attemptOf, hp]
        exact hattempt
      have hdrop : update w.ledger.attempts key none = w.ledger.attempts := by
        rw [← hnone, Function.update_eq_self]
      have hcancel : (w.cancel key).1.ledger = w.ledger := by
        rw [cancel_eq hp hattempt]
        refine (ledger_dropPending w key).trans ?_
        rw [hdrop]
      rw [hcancel]
      exact .refl _
    | some e =>
      obtain ⟨d, id⟩ := e
      have hkey : w.attemptOf key = some (d, id) := by
        rw [attemptOf, hp]
        exact hattempt
      obtain ⟨p', hp', huser, hid⟩ := attemptOf_eq_some hkey
      cases hp.symm.trans hp'
      have hslot : w.slotOf d = .acquiring id := (hb.acquiring d id).2 (Or.inr ⟨key, hkey⟩)
      have hcancel := ledger_cancel_of_attempt hp huser hid hslot
      rw [hcancel]
      exact (Ledger.Step.cancels (L := { w.ledger with current := a }) hkey).run

theorem attemptOf_cancel (w : World) (key : String) : (w.cancel key).1.attemptOf key = none := by
  rw [attemptOf, lookup_cancel_self]
  rfl

theorem ledger_run_suspended (hb : l.ledger.Balanced) {held : Suspended Settlement}
    (hst : l.progress.standing = .suspended held) :
    Ledger.Run l.ledger [] l.turn.world.ledger := by
  have hcancel : Ledger.Run l.ledger [] { (l.advanced.cancel l.key).1.ledger with
      current := l.attempt? } := ledger_run_cancel (w := l.advanced) hb l.key
  have hsuspends := Ledger.Step.suspends
    (L := { (l.advanced.cancel l.key).1.ledger with current := l.attempt? })
    (attemptOf_cancel l.advanced l.key)
  rw [(turn_suspended hst).1, ledger_putPending]
  exact hcancel.trans hsuspends.run

theorem isUsed_of_acquiring (hb : w.ledger.Balanced) {d : DriverId} {id : LockId}
    (h : w.slotOf d = .acquiring id) : w.isUsed d = true := by
  rcases (hb.acquiring d id).1 h with hcurrent | ⟨key, hkey⟩
  · cases hcurrent
  · obtain ⟨p, hp, huser, -⟩ := attemptOf_eq_some hkey
    have hmem := mem_of_lookup_eq_some hp
    have hany : w.pending.any (·.2.user = some d) = true :=
      List.any_eq_true.2 ⟨_, hmem, by simp [huser]⟩
    exact Bool.or_eq_true_iff.2 (Or.inr hany)

theorem ledger_run_discardUnused (hb : w.ledger.Balanced) :
    Ledger.Run w.ledger [] w.discardUnused.1.ledger := by
  have hslots : w.discardUnused.1.slotOf =
      fun d => if w.isUsed d then w.slotOf d else .free := by
    funext d
    rw [slotOf, lookup_discardUnused]
    by_cases hd : w.isUsed d = true
    · rw [if_pos hd, if_pos hd, slotOf]
    · rw [if_neg hd, if_neg hd]
  have hledger : w.discardUnused.1.ledger =
      { w.ledger with slots := fun d => if w.isUsed d then w.ledger.slots d else .free } := by
    rw [ledger, hslots]
    rfl
  rw [hledger]
  exact (Ledger.Step.drops w.isUsed fun d id hd => isUsed_of_acquiring hb hd).run

/-! ## Steps that let no operation go on -/

theorem taken?_of_opens? (h : w.opens? s = none) : w.taken? s = none := by
  cases s with
  | operate label key o =>
    cases hd : w.labelled? label with
    | none => cases o <;> simp [taken?, hd]
    | some e =>
      obtain ⟨d, st⟩ := e
      simp only [opens?, hd] at h
      cases o with
      | release =>
        simp only [taken?, hd]
        cases hh : w.handles.lookup key with
        | none => rfl
        | some handle =>
          cases hs : st.slot.sessionFor? handle with
          | none => simp only [hs, Option.map_none]
          | some t => simp [start, hh, hs] at h
      | forceRelease =>
        obtain ⟨driver, slot⟩ := st
        cases slot with
        | held id t => simp [start, LockSlot.session?] at h
        | _ => simp [taken?, hd]
      | _ => rfl
  | _ => rfl

theorem opens?_of_launch? (h : w.launch? s = none) : w.opens? s = none ∧ w.resumes? s = none := by
  unfold launch? at h
  cases ho : w.opens? s with
  | none =>
    rw [ho] at h
    exact ⟨rfl, h⟩
  | some l =>
    rw [ho] at h
    cases h

/-- What a step can do to a scenario without letting an operation go on. -/
inductive Trifle (w : World) : World → Prop
  | same : Trifle w w
  | driver (label : String) (driver : Driver) : Trifle w (w.addDriver label driver)
  | counted : Trifle w { w with nextLock := w.nextLock + 1 }
  | dropped (key : String) : Trifle w { w with handles := dropKey w.handles key }
  | status (place : Nat) (status : MigrationStatus) : Trifle w (w.setStatus place status)
  | rules (rules : List Rule) : Trifle w { w with database.rules := rules }
  | cancelled (key : String) : Trifle w (w.cancel key).1

theorem trifle_of_answered {d : DriverId} {st : DriverState} {o : Operation} {a : Answer}
    {w' : World} {logs : List LogRecord} (h : w.start d st key o = .answered a w' logs) :
    w.Trifle w' := by
  cases o with
  | run | validate | forceRelease =>
    simp only [start] at h
    split at h
    · cases h
      exact .same
    · cases h <;> exact .same
  | acquire =>
    simp only [start] at h
    split at h
    · cases h
      exact .counted
    · cases h
  | release =>
    simp only [start] at h
    split at h
    · cases h
      exact .same
    split at h
    · cases h
      exact .dropped key
    · cases h
  | _ => cases h

theorem trifle_of_idle (h : w.launch? s = none) : w.Trifle (w.make s).world := by
  cases s with
  | create label options tracking =>
    simp only [make, create]
    split
    · exact .driver _ _
    · exact .same
    · exact .same
  | operate label key o =>
    have hopens := (opens?_of_launch? h).1
    simp only [make]
    cases hd : w.labelled? label with
    | none => exact .same
    | some e =>
      obtain ⟨d, st⟩ := e
      simp only [opens?, hd] at hopens
      dsimp only
      cases hstart : w.start d st key o with
      | answered a w' logs => exact trifle_of_answered hstart
      | launched user attempt p w' =>
        rw [hstart] at hopens
        cases hopens
  | shouldSkip key place =>
    have hopens := (opens?_of_launch? h).1
    simp only [opens?] at hopens
    split at hopens
    · rename_i hm
      simp only [make, hm]
      exact .same
    · cases hopens
  | describe place =>
    simp only [make]
    split <;> exact .same
  | setStatus place status => exact .status place status
  | setRules rules => exact .rules rules
  | dropHandle key => exact .dropped key
  | poll key =>
    rw [make_of_idle_poll h]
    exact .same
  | cancel key => exact .cancelled key

theorem ledger_addDriver (hw : w.Sound) (label : String) (driver : Driver) :
    (w.addDriver label driver).ledger = w.ledger := by
  have hnone : w.drivers.lookup w.nextDriver = none := by
    by_contra hne
    obtain ⟨st, hst⟩ := Option.ne_none_iff_exists'.1 hne
    exact Nat.lt_irrefl _ (hw.lt_of_lookup hst)
  have hslots : (w.addDriver label driver).slotOf = w.slotOf := by
    funext d
    have hlookup : (w.addDriver label driver).drivers.lookup d =
        if d = w.nextDriver then some { driver } else w.drivers.lookup d :=
      lookup_append_singleton hnone d _
    rw [slotOf, hlookup, slotOf]
    by_cases hd : d = w.nextDriver
    · rw [if_pos hd, hd, hnone]
    · rw [if_neg hd]
  rw [ledger, hslots]
  rfl

theorem Trifle.ledger_run {w' : World} (h : w.Trifle w') (hw : w.Sound)
    (hb : w.ledger.Balanced) : Ledger.Run w.ledger [] w'.ledger := by
  cases h with
  | driver label driver =>
    rw [ledger_addDriver hw]
    exact .refl _
  | counted => exact Ledger.Step.counts.run
  | cancelled key => exact ledger_run_cancel (a := none) hb key
  | _ => exact .refl _

/-! ## A whole step -/

theorem Reached.make_ledger (h : w.Reached P) (hs : w.Serves P s) (hb : w.ledger.Balanced) :
    Ledger.Run w.ledger (w.entries s) (w.make s).world.ledger := by
  unfold entries returned?
  cases hl : w.launch? s with
  | none =>
    rw [settlement?_of_idle hl, taken?_of_opens? (opens?_of_launch? hl).1]
    exact (trifle_of_idle hl).ledger_run h.sound hb
  | some l =>
    have hlaunch := ledger_run_of_launch? hl
    have hbalanced := hlaunch.balanced hb
    rw [make_of_launch? hl]
    apply hlaunch.trans
    cases hst : l.progress.standing with
    | suspended held =>
      rw [settlement?_of_suspended hl hst]
      exact ledger_run_suspended hbalanced hst
    | ended st =>
      have hanswer : (w.step s).answer = (l.advanced.settle l.key st).answer := by
        show (w.make s).answer = _
        rw [make_of_launch? hl, (turn_ended hst).2]
      rw [settlement?_of_ended hl hst, Option.bind_some, hanswer, (turn_ended hst).1]
      exact ledger_run_settle hbalanced (h.attempt?_of_ended hl hs hst)

theorem Reached.step_ledger (h : w.Reached P) (hs : w.Serves P s) (hb : w.ledger.Balanced) :
    Ledger.Run w.ledger (w.entries s) (w.step s).world.ledger := by
  have hmake := h.make_ledger hs hb
  have hstep := hmake.trans (ledger_run_discardUnused (hmake.balanced hb))
  rwa [List.append_nil] at hstep

variable {rows : TrackingRows} {rules : List Rule} {migrations : List Migration} {ss : List Step}

theorem Reached.ledger_after (h : w.Reached anyTerms) (hb : w.ledger.Balanced) (ss : List Step) :
    Ledger.Run w.ledger (w.lockHistory ss) (w.after ss).ledger := by
  induction ss generalizing w with
  | nil => exact .refl _
  | cons s ss ih =>
    have hstep := h.step_ledger (w.serves_anyTerms s) hb
    exact hstep.trans (ih (h.step (w.serves_anyTerms s)) (hstep.balanced hb))

theorem balanced_initial : (initial rows rules migrations).ledger.Balanced where
  given := fun _ _ h => by cases h
  apart := fun _ _ _ h => by cases h
  acquiring := by
    intro d id
    constructor
    · intro h
      cases h
    · rintro (h | ⟨key, h⟩) <;> cases h
  single := fun _ _ _ h => by cases h
  current := fun _ _ h => by cases h

theorem Reached.balanced (h : w.Reached P) : w.ledger.Balanced := by
  induction h with
  | start rows rules migrations => exact balanced_initial
  | step h hs ih => exact (h.step_ledger hs ih).balanced ih

theorem told_initial : (initial rows rules migrations).ledger.Told [] where
  nodup := List.nodup_nil
  given := fun _ _ h => by cases h
  once := fun _ _ _ _ h => by cases h
  taken := fun _ _ h => by cases h
  held := fun _ _ _ h => by cases h
  acquiring := fun _ _ h => by cases h

/-! ## Handles that are kept -/

/-- No handle came in. -/
def ShedsHandles (w w' : World) : Prop :=
  ∀ key handle, w'.handles.lookup key = some handle → w.handles.lookup key = some handle

theorem shedsHandles_of_eq {w' : World} (h : w'.handles = w.handles) : w.ShedsHandles w' :=
  fun _ _ hk => h ▸ hk

theorem shedsHandles_dropKey {w' : World} (h : w'.handles = dropKey w.handles key) :
    w.ShedsHandles w' := by
  intro key' handle hk
  rw [h, lookup_dropKey] at hk
  split at hk
  · cases hk
  · exact hk

theorem handles_foldl_setStatus (w : World) (statuses : List (Nat × Migration)) :
    (statuses.foldl (fun w (place, m) => w.setStatus place m.status) w).handles = w.handles := by
  induction statuses generalizing w with
  | nil => rfl
  | cons e statuses ih => exact ih (w.setStatus e.1 e.2.status)

theorem handles_cancel (w : World) (key : String) : (w.cancel key).1.handles = w.handles := by
  unfold cancel
  split
  · rfl
  · unfold abandon closeSession? abandonAttempt
    split <;> split <;> rfl

theorem shedsHandles_of_launch? (hl : w.launch? s = some l) : w.ShedsHandles l.world := by
  rcases launch?_cases hl with ⟨task, hstarts⟩ | hresumes
  · cases hstarts with
    | release hd hh hs => exact shedsHandles_dropKey rfl
    | _ => exact shedsHandles_of_eq rfl
  · obtain ⟨t, lock, db, -, -, -, hworld⟩ := resumes?_eq_some hresumes
    rw [hworld]
    exact shedsHandles_of_eq rfl

theorem handles_settle {st : Settlement} {key' : String} {handle : LockHandle}
    (h : (w.settle key st).world.handles.lookup key' = some handle) :
    w.handles.lookup key' = some handle ∨
      ∃ d, st.returned? (w.settle key st).answer = some (d, handle) := by
  cases st with
  | loaded places loaded =>
    simp only [settle, handles_foldl_setStatus] at h
    exact Or.inl h
  | acquired d id r =>
    cases r with
    | error e => exact Or.inl h
    | ok t =>
      simp only [settle] at h ⊢
      cases hd : w.drivers.lookup d with
      | none =>
        rw [hd] at h
        exact Or.inl h
      | some dst =>
        simp only [hd, putHandle, lookup_putKey] at h
        split at h
        · cases h
          exact Or.inr ⟨d, rfl⟩
        · exact Or.inl h
  | _ => exact Or.inl h

theorem Trifle.shedsHandles {w' : World} (h : w.Trifle w') : w.ShedsHandles w' := by
  cases h with
  | dropped key => exact shedsHandles_dropKey rfl
  | cancelled key => exact shedsHandles_of_eq (handles_cancel w key)
  | _ => exact shedsHandles_of_eq rfl

theorem handles_step {handle : LockHandle}
    (h : (w.step s).world.handles.lookup key = some handle) :
    w.handles.lookup key = some handle ∨ ∃ d, w.returned? s = some (d, handle) := by
  have hmake : (w.make s).world.handles.lookup key = some handle := h
  cases hl : w.launch? s with
  | none => exact Or.inl ((trifle_of_idle hl).shedsHandles key handle hmake)
  | some l =>
    have hsheds := shedsHandles_of_launch? hl
    rw [make_of_launch? hl] at hmake
    cases hst : l.progress.standing with
    | suspended held =>
      rw [(turn_suspended hst).1] at hmake
      have hcancel : l.advanced.handles.lookup key = some handle := by
        rw [← handles_cancel l.advanced l.key]
        exact hmake
      exact Or.inl (hsheds key handle hcancel)
    | ended st =>
      have hanswer : (w.step s).answer = (l.advanced.settle l.key st).answer := by
        show (w.make s).answer = _
        rw [make_of_launch? hl, (turn_ended hst).2]
      rw [(turn_ended hst).1] at hmake
      rw [returned?, settlement?_of_ended hl hst, Option.bind_some, hanswer]
      rcases handles_settle hmake with hbefore | hreturned
      · exact Or.inl (hsheds key handle hbefore)
      · exact Or.inr hreturned

theorem handles_after {handle : LockHandle}
    (h : (w.after ss).handles.lookup key = some handle) :
    w.handles.lookup key = some handle ∨ ∃ d, .returned d handle ∈ w.lockHistory ss := by
  induction ss generalizing w with
  | nil => exact Or.inl h
  | cons s ss ih =>
    rcases ih h with hstep | ⟨d, hd⟩
    · rcases handles_step hstep with hbefore | ⟨d, hd⟩
      · exact Or.inl hbefore
      · exact Or.inr ⟨d, List.mem_append_left _ (by simp [entries, hd])⟩
    · exact Or.inr ⟨d, List.mem_append_right _ hd⟩

/-! ## Steps that are answered at once -/

/-- Between steps, every driver is used. -/
def AllUsed (w : World) : Prop := ∀ e ∈ w.drivers, w.isUsed e.1 = true

theorem Reached.allUsed (h : w.Reached P) : w.AllUsed := by
  cases h with
  | start rows rules migrations => exact fun _ he => by cases he
  | @step w _ s _ =>
    intro e he
    exact (List.mem_filter.1 he).2

theorem AllUsed.congr {w' : World} (h : w.AllUsed) (hd : w'.drivers.map (·.1) = w.drivers.map (·.1))
    (hl : w'.labels = w.labels) (hp : w'.pending = w.pending) : w'.AllUsed := by
  intro e he
  have hkey : e.1 ∈ w.drivers.map (·.1) := hd ▸ List.mem_map_of_mem he
  obtain ⟨e', he', hkeys⟩ := List.mem_map.1 hkey
  have hused := h e' he'
  rw [hkeys] at hused
  rw [isUsed, hl, hp]
  exact hused

theorem AllUsed.discardUnused (h : w.AllUsed) : w.discardUnused = (w, []) := by
  have hunused : w.drivers.filter (fun e => !w.isUsed e.1) = [] :=
    List.filter_eq_nil_iff.2 fun e he => by simp [h e he]
  have hused : w.drivers.filter (fun e => w.isUsed e.1) = w.drivers :=
    List.filter_eq_self.2 fun e he => h e he
  unfold World.discardUnused
  simp only [hunused, hused]
  rfl

theorem AllUsed.step_answered {label : String} {d : DriverId} {st : DriverState} {o : Operation}
    {a : Answer} {w' : World} {logs : List LogRecord} (hd : w.labelled? label = some (d, st))
    (h : w.start d st key o = .answered a w' logs) (hw : w'.AllUsed) :
    w.step (.operate label key o) = { answer := a, world := w', logs } := by
  have hmake : w.make (.operate label key o) = { answer := a, world := w', logs } := by
    simp only [make, hd, h]
    rfl
  simp only [World.step, hmake, hw.discardUnused]
  rfl

/-! ## The discipline of one manager -/

variable {told : List Entry} {label : String} {d : DriverId} {st : DriverState}

/-- The step starts the operation `l`, and what is made of the step is what comes of that. -/
structure Undertakes (w : World) (s : Step) (l : Launch) : Prop where
  opens : w.opens? s = some l
  made : w.make s = l.turn

theorem Starts.undertakes {task : Task} {l : Launch} (h : w.Starts s task l) : w.Undertakes s l :=
  ⟨h.opens?, make_of_opens? h.opens?⟩

/-- An attempt begins if the slot is free, and is refused otherwise. -/
structure Acquires (w : World) (label key : String) (d : DriverId) (st : DriverState) : Prop where
  free : st.slot = .free →
    w.Undertakes (.operate label key .acquire)
      { key, user := some d, attempt := some w.nextLock
        program := (Task.acquire d w.nextLock st.driver.lockName).program
        world := { w with nextLock := w.nextLock + 1 }.setSlot d (.acquiring w.nextLock) }
  refused : st.slot ≠ .free →
    w.step (.operate label key .acquire) =
      { answer := .acquired (.error (lockAlreadyHeld st.driver.lockName))
        world := { w with nextLock := w.nextLock + 1 } }

/-- A handle takes the session of the attempt that returned it, and is refused otherwise. -/
structure Releases (told : List Entry) (w : World) (label key : String) (d : DriverId)
    (st : DriverState) (handle : LockHandle) : Prop where
  own : ∀ t, st.slot = .held handle.id t →
    Entry.returned d handle ∈ told ∧
      w.taken? (.operate label key .release) = some (d, handle.id) ∧
      w.Undertakes (.operate label key .release)
        { key, user := some d, attempt := none
          program := (Task.release st.driver.lockName t).program
          world := { w with handles := dropKey w.handles key }.setSlot d .free }
  refused : (∀ t, st.slot ≠ .held handle.id t) →
    w.step (.operate label key .release) =
      { answer := .settled (.error (lockNotHeld handle.lockName))
        world := { w with handles := dropKey w.handles key }
        logs := [droppedHandle handle] }

/-- Force takes the session that the slot has, if it has one. -/
structure Forces (w : World) (label key : String) (d : DriverId) (st : DriverState) : Prop where
  held : ∀ id t, st.slot = .held id t →
    w.taken? (.operate label key .forceRelease) = some (d, id) ∧
      w.Undertakes (.operate label key .forceRelease)
        { key, user := some d, attempt := none
          program := (Task.force st.driver.lockName t).program
          world := w.setSlot d .free }
  nothing : (∀ id t, st.slot ≠ .held id t) →
    w.step (.operate label key .forceRelease) = { answer := .forced (.ok false), world := w }

theorem Reached.acquires (h : w.Reached P) (hd : w.labelled? label = some (d, st)) (key : String) :
    w.Acquires label key d st where
  free := fun hs => (Starts.acquire hd hs).undertakes
  refused := by
    intro hs
    have hanswered : w.start d st key .acquire =
        .answered (.acquired (.error (lockAlreadyHeld st.driver.lockName)))
          { w with nextLock := w.nextLock + 1 } [] := by
      cases hslot : st.slot with
      | free => exact absurd hslot hs
      | _ => simp only [World.start, hslot, LockSlot.reserve?]
    exact AllUsed.step_answered hd hanswered h.allUsed

theorem Reached.forces (h : w.Reached P) (hd : w.labelled? label = some (d, st)) (key : String) :
    w.Forces label key d st where
  held := by
    intro id t hs
    exact ⟨taken?_forceRelease hd hs, (Starts.force hd hs).undertakes⟩
  nothing := by
    intro hs
    have hanswered : w.start d st key .forceRelease = .answered (.forced (.ok false)) w [] := by
      cases hslot : st.slot with
      | held id t => exact absurd hslot (hs id t)
      | _ => simp only [World.start, hslot, LockSlot.session?]
    exact AllUsed.step_answered hd hanswered h.allUsed

theorem returned_of_held (ht : w.ledger.Told told) {d' : DriverId} {handle : LockHandle}
    {t : SessionId} (hreturned : .returned d' handle ∈ told)
    (hs : w.slotOf d = .held handle.id t) : .returned d handle ∈ told := by
  obtain ⟨⟨handle', hmem, hid⟩, -⟩ := ht.held d _ t hs
  obtain ⟨rfl, rfl⟩ := ht.once d d' handle' handle hmem hreturned hid
  exact hmem

theorem Reached.releases (h : w.Reached P) (ht : w.ledger.Told told)
    (hd : w.labelled? label = some (d, st)) {handle : LockHandle}
    (hh : w.handles.lookup key = some handle)
    (hreturned : ∃ d', .returned d' handle ∈ told) :
    w.Releases told label key d st handle where
  own := by
    intro t hs
    obtain ⟨d', hd'⟩ := hreturned
    refine ⟨?_, taken?_release hd hh hs, (Starts.release hd hh hs).undertakes⟩
    exact returned_of_held ht hd' ((slotOf_of_labelled? hd).trans hs)
  refused := by
    intro hs
    have hnone : st.slot.sessionFor? handle = none :=
      Option.eq_none_iff_forall_ne_some.2 fun t ht =>
        hs t (LockSlot.sessionFor?_eq_some_iff.1 ht)
    have hanswered : w.start d st key .release =
        .answered (.settled (.error (lockNotHeld handle.lockName)))
          { w with handles := dropKey w.handles key } [droppedHandle handle] := by
      simp only [World.start, hh, hnone]
    exact AllUsed.step_answered hd hanswered h.allUsed

theorem Reached.acquiring_iff (h : w.Reached P) (hb : w.ledger.Balanced) {id : LockId} :
    w.slotOf d = .acquiring id ↔
      ∃ key lockName, w.Underway P (.acquire d id lockName) key := by
  constructor
  · intro hs
    rcases (hb.acquiring d id).1 hs with hcurrent | ⟨key, hkey⟩
    · cases hcurrent
    · obtain ⟨p, hp, hattempt⟩ := Option.bind_eq_some_iff.1 hkey
      obtain ⟨task, hunderway⟩ := h.underway hp
      obtain ⟨p', hp', htask⟩ := hunderway.attempt?
      cases hp.symm.trans hp'
      rw [hattempt] at htask
      cases task with
      | acquire d' id' lockName =>
        cases htask
        exact ⟨key, lockName, hunderway⟩
      | _ => cases htask
  · rintro ⟨key, lockName, hunderway⟩
    obtain ⟨p, hp, hattempt⟩ := hunderway.attempt?
    have hkey : w.attemptOf key = some (d, id) := by
      rw [attemptOf, hp]
      exact hattempt
    exact (hb.acquiring d id).2 (Or.inr ⟨key, hkey⟩)

theorem Reached.isHeld_eq_false_iff (h : w.Reached P) (hb : w.ledger.Balanced) :
    (w.slotOf d).isHeld = false ↔ (w.slotOf d).session? = none ∧
      ∀ key id lockName, ¬ w.Underway P (.acquire d id lockName) key := by
  constructor
  · intro hheld
    have hfree : w.slotOf d = .free := by
      cases hslot : w.slotOf d with
      | free => rfl
      | _ =>
        rw [hslot] at hheld
        cases hheld
    refine ⟨by rw [hfree]; rfl, ?_⟩
    intro key id lockName hunderway
    have hacquiring := (h.acquiring_iff hb).2 ⟨key, lockName, hunderway⟩
    rw [hfree] at hacquiring
    cases hacquiring
  · rintro ⟨hsession, hnone⟩
    cases hslot : w.slotOf d with
    | free => rfl
    | acquiring id =>
      obtain ⟨key, lockName, hunderway⟩ := (h.acquiring_iff hb).1 hslot
      exact absurd hunderway (hnone key id lockName)
    | held id t =>
      rw [hslot] at hsession
      cases hsession

/-- What is true of a scenario and the entries of its past. -/
structure Disciplined (told : List Entry) (w : World) : Prop where
  acquires : ∀ label key d st, w.labelled? label = some (d, st) → w.Acquires label key d st
  releases : ∀ label key d st handle, w.labelled? label = some (d, st) →
    w.handles.lookup key = some handle → w.Releases told label key d st handle
  forces : ∀ label key d st, w.labelled? label = some (d, st) → w.Forces label key d st
  /-- Only handles that were returned are there to release. -/
  kept : ∀ key handle, w.handles.lookup key = some handle → ∃ d, .returned d handle ∈ told
  /-- No two attempts return handles that could be taken for each other. -/
  once : ∀ d d' handle handle', .returned d handle ∈ told → .returned d' handle' ∈ told →
    handle.id = handle'.id → d = d' ∧ handle = handle'
  /-- A session is taken from the manager that returned the handle for it, and once at most. -/
  taken : ∀ d id, Entry.taken d id ∈ told →
    told.count (.taken d id) = 1 ∧ ∃ handle, Entry.returned d handle ∈ told ∧ handle.id = id
  held : ∀ d id t, w.slotOf d = .held id t →
    Entry.taken d id ∉ told ∧ ∃ handle, Entry.returned d handle ∈ told ∧ handle.id = id
  isHeld : ∀ d, (w.slotOf d).isHeld = false ↔
    (w.slotOf d).session? = none ∧
      ∀ key id lockName, ¬ w.Underway anyTerms (.acquire d id lockName) key

/--
After any steps of any managers: an attempt begins if the slot of its manager is free, and a handle
takes the session of the very attempt that returned it. Whatever is refused makes no call and leaves
every slot as it was. So each attempt's session is taken once at most, and a slot is not held just
when it has no session and nobody waits for its lock.
-/
theorem lock_handles_disciplined (rows : TrackingRows) (rules : List Rule)
    (migrations : List Migration) (ss : List Step) :
    let start := initial rows rules migrations
    (start.after ss).Disciplined (start.lockHistory ss) := by
  intro start
  have hstart : start.Reached anyTerms := .start rows rules migrations
  have hreached := reached_after hstart ss
  have hrun := hstart.ledger_after balanced_initial ss
  have hb := hrun.balanced balanced_initial
  have ht := hrun.told balanced_initial told_initial
  rw [List.nil_append] at ht
  have hkept (key : String) (handle : LockHandle)
      (h : (start.after ss).handles.lookup key = some handle) :
      ∃ d, .returned d handle ∈ start.lockHistory ss := by
    rcases handles_after h with hbefore | hreturned
    · cases hbefore
    · exact hreturned
  refine ⟨?_, ?_, ?_, hkept, ht.once, ?_, ?_, ?_⟩
  · exact fun label key d st hd => hreached.acquires hd key
  · exact fun label key d st handle hd hh => hreached.releases ht hd hh (hkept key handle hh)
  · exact fun label key d st hd => hreached.forces hd key
  · intro d id hmem
    exact ⟨List.count_eq_one_of_mem ht.nodup hmem, ht.taken d id hmem⟩
  · intro d id t hs
    obtain ⟨hreturned, hnot⟩ := ht.held d id t hs
    exact ⟨hnot, hreturned⟩
  · exact fun d => hreached.isHeld_eq_false_iff hb

/-- A handle whose attempt was forced leaves the one alone that its manager has begun since. -/
theorem lock_handles_disciplined_stale :
    let start := initial [] [] []
    let ss : List Step :=
      [.create "a" {} none, .operate "a" "k" .acquire, .operate "a" "f" .forceRelease,
        .operate "a" "m" .acquire]
    let w := start.after ss
    let lockName := "libschema_libschema.migration_status"
    w.slotOf 1 = .held 2 2 ∧ w.handles.lookup "k" = some ⟨1, lockName⟩ ∧
      (start.lockHistory ss).count (.taken 1 1) = 1 ∧
      w.step (.operate "a" "k" .release) =
        { answer := .settled (.error (lockNotHeld lockName))
          world := { w with handles := dropKey w.handles "k" }
          logs := [droppedHandle ⟨1, lockName⟩] } := by
  intro start ss w lockName
  have hdisciplined : w.Disciplined (start.lockHistory ss) := lock_handles_disciplined [] [] [] ss
  have hslot : w.slotOf 1 = .held 2 2 := by decide +kernel
  have hhandle : w.handles.lookup "k" = some ⟨1, lockName⟩ := by decide +kernel
  have htaken : Entry.taken 1 1 ∈ start.lockHistory ss := by decide +kernel
  have hlabel : (w.labelled? "a").map Prod.fst = some 1 := by decide +kernel
  clear_value w
  obtain ⟨⟨d, st⟩, hd, rfl⟩ := Option.map_eq_some_iff.1 hlabel
  refine ⟨hslot, hhandle, (hdisciplined.taken _ _ htaken).1, ?_⟩
  apply (hdisciplined.releases "a" "k" _ st _ hd hhandle).refused
  intro t ht
  cases ht.symm.trans ((slotOf_of_labelled? hd).symm.trans hslot)

end World

end SchemaMigration
