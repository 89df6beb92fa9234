import SchemaMigration.Proofs.Exchanges
import SchemaMigration.Proofs.Handles

/-!
# What an operation leaves when it ends

An operation on a lock is about one slot and the sessions that it had. When it ends, and when it is
cancelled, the slot is free, those sessions have ended, and the slots and sessions of all others are
as they were.
-/

namespace SchemaMigration

namespace World

variable {w w' : World} {s : Step} {l : Launch} {key : String} {P : Terms} {task : Task}
  {d : DriverId} {own : Option SessionId}

/-! ## Drivers that are used -/

theorem sublist_pending_cancel (w : World) (key : String) :
    (w.cancel key).1.pending.Sublist w.pending := by
  have hdrop : (dropKey w.pending key).Sublist w.pending := List.filter_sublist
  unfold cancel
  split
  · exact .refl _
  · unfold abandon closeSession? abandonAttempt
    split <;> split <;> exact hdrop

theorem Trifle.sublist_pending (h : w.Trifle w') : w'.pending.Sublist w.pending := by
  cases h with
  | cancelled key => exact sublist_pending_cancel w key
  | _ => exact .refl _

theorem sublist_pending_of_launch? (hl : w.launch? s = some l) :
    l.world.pending.Sublist w.pending := by
  rcases launch?_cases hl with ⟨task, hstarts⟩ | hresumes
  · cases hstarts <;> exact .refl _
  · obtain ⟨t, lock, db, -, -, -, hworld⟩ := resumes?_eq_some hresumes
    rw [hworld]
    exact List.filter_sublist

theorem Reached.nodup_pending (h : w.Reached P) : (w.pending.map (·.1)).Nodup := by
  induction h with
  | start rows rules migrations => exact List.nodup_nil
  | @step w _ s _ ih =>
    show ((w.make s).world.pending.map (·.1)).Nodup
    cases hl : w.launch? s with
    | none => exact ih.sublist ((trifle_of_idle hl).sublist_pending.map _)
    | some l =>
      have hlaunched := (sublist_pending_of_launch? hl).map (·.1)
      rw [make_of_launch? hl]
      cases hst : l.progress.standing with
      | ended st =>
        rw [(turn_ended hst).1, (settle_keeps l.advanced l.key st).2.1]
        exact ih.sublist hlaunched
      | suspended held =>
        rw [(turn_suspended hst).1]
        have hcancel := (sublist_pending_cancel l.advanced l.key).map (·.1)
        exact nodup_map_fst_putKey (ih.sublist (hcancel.trans hlaunched)) _ _

theorem isUsed_iff (h : (w.pending.map (·.1)).Nodup) : w.isUsed d = true ↔
    (∃ label, (label, d) ∈ w.labels) ∨
      ∃ key p, w.pending.lookup key = some p ∧ p.user = some d := by
  unfold isUsed
  rw [Bool.or_eq_true, List.any_eq_true, List.any_eq_true]
  constructor
  · rintro (⟨⟨label, d'⟩, hmem, hd⟩ | ⟨⟨key, p⟩, hmem, hp⟩)
    · rw [decide_eq_true_iff] at hd
      exact Or.inl ⟨label, hd ▸ hmem⟩
    · exact Or.inr ⟨key, p, lookup_eq_some_of_mem h hmem, of_decide_eq_true hp⟩
  · rintro (⟨label, hmem⟩ | ⟨key, p, hp, hd⟩)
    · exact Or.inl ⟨_, hmem, decide_eq_true rfl⟩
    · exact Or.inr ⟨_, mem_of_lookup_eq_some hp, decide_eq_true hd⟩

theorem AllUsed.of_dropped (h : w.AllUsed) (hnodup : (w.pending.map (·.1)).Nodup)
    {p : Pending} (hp : w.pending.lookup key = some p) (huser : p.user ≠ some d)
    (hpending : w'.pending = dropKey w.pending key) (hlabels : w'.labels = w.labels)
    (hd : d ∈ w.drivers.map (·.1)) : w'.isUsed d = true := by
  have hnodup' : (w'.pending.map (·.1)).Nodup := by
    rw [hpending]
    exact hnodup.sublist (List.filter_sublist.map _)
  obtain ⟨e, he, rfl⟩ := List.mem_map.1 hd
  rw [isUsed_iff hnodup', hlabels, hpending]
  rcases (isUsed_iff hnodup).1 (h e he) with hlabel | ⟨key', p', hp', huser'⟩
  · exact Or.inl hlabel
  · have hkey : key' ≠ key := by
      rintro rfl
      cases hp.symm.trans hp'
      exact huser huser'
    exact Or.inr ⟨key', p', by rw [lookup_dropKey, if_neg hkey]; exact hp', huser'⟩

/-- The drivers and their labels are the same; what the drivers have may not be. -/
structure SameRoster (w w' : World) : Prop where
  labels : w'.labels = w.labels
  drivers : w'.drivers.map (·.1) = w.drivers.map (·.1)

theorem SameRoster.trans {w'' : World} (h : w.SameRoster w') (h' : w'.SameRoster w'') :
    w.SameRoster w'' := ⟨h'.labels.trans h.labels, h'.drivers.trans h.drivers⟩

theorem sameRoster_setSlot (w : World) (d : DriverId) (slot : LockSlot) :
    w.SameRoster (w.setSlot d slot) := ⟨rfl, map_fst_setSlot w d slot⟩

theorem sameRoster_foldl_setStatus (w : World) (statuses : List (Nat × Migration)) :
    w.SameRoster (statuses.foldl (fun w (place, m) => w.setStatus place m.status) w) := by
  induction statuses generalizing w with
  | nil => exact ⟨rfl, rfl⟩
  | cons e statuses ih =>
    have hrest := ih (w.setStatus e.1 e.2.status)
    exact ⟨hrest.labels, hrest.drivers⟩

theorem sameRoster_settle (w : World) (key : String) (st : Settlement) :
    w.SameRoster (w.settle key st).world := by
  cases st with
  | loaded places loaded => exact w.sameRoster_foldl_setStatus _
  | acquired d id r =>
    cases r with
    | error e => exact w.sameRoster_setSlot d _
    | ok t =>
      simp only [settle]
      split
      · exact ⟨rfl, rfl⟩
      · exact ⟨rfl, map_fst_setSlot _ _ _⟩
  | _ => exact ⟨rfl, rfl⟩

theorem sameRoster_cancel (w : World) (key : String) : w.SameRoster (w.cancel key).1 := by
  unfold cancel
  split
  · exact ⟨rfl, rfl⟩
  · unfold abandon closeSession? abandonAttempt
    split <;> split <;>
      first
        | exact ⟨rfl, rfl⟩
        | exact ⟨rfl, map_fst_setSlot _ _ _⟩

theorem sameRoster_of_launch? (hl : w.launch? s = some l) : w.SameRoster l.world := by
  rcases launch?_cases hl with ⟨task, hstarts⟩ | hresumes
  · cases hstarts with
    | acquire | release | force => exact ⟨rfl, map_fst_setSlot _ _ _⟩
    | _ => exact ⟨rfl, rfl⟩
  · obtain ⟨t, lock, db, -, -, -, hworld⟩ := resumes?_eq_some hresumes
    rw [hworld]
    exact ⟨rfl, rfl⟩

theorem Reached.used_of_ended (h : w.Reached P) (hl : w.launch? s = some l) {st : Settlement}
    (hst : l.progress.standing = .ended st) (hd : d ∈ (w.make s).world.drivers.map (·.1))
    (huser : l.user ≠ some d) : (w.make s).world.isUsed d = true := by
  have hroster : w.SameRoster (w.make s).world := by
    rw [make_of_launch? hl, (turn_ended hst).1]
    have hlaunched : w.SameRoster l.advanced :=
      ⟨(sameRoster_of_launch? hl).labels, (sameRoster_of_launch? hl).drivers⟩
    exact hlaunched.trans (sameRoster_settle l.advanced l.key st)
  have hpending : (w.make s).world.pending = l.world.pending := by
    rw [make_of_launch? hl, (turn_ended hst).1, (settle_keeps l.advanced l.key st).2.1]
    rfl
  rcases launch?_cases hl with ⟨task, hstarts⟩ | hresumes
  · have hsame : (w.make s).world.pending = w.pending := by
      rw [hpending]
      cases hstarts <;> rfl
    obtain ⟨e, he, rfl⟩ := List.mem_map.1 hd
    exact h.allUsed.congr hroster.drivers hroster.labels hsame e he
  · obtain ⟨t, lock, db, -, hp, -, hworld⟩ := resumes?_eq_some hresumes
    refine h.allUsed.of_dropped h.nodup_pending hp huser ?_ hroster.labels (hroster.drivers ▸ hd)
    rw [hpending, hworld]

theorem Reached.used_of_cancel (h : w.Reached P) {p : Pending}
    (hp : w.pending.lookup key = some p) (hd : d ∈ (w.cancel key).1.drivers.map (·.1))
    (huser : p.user ≠ some d) : (w.cancel key).1.isUsed d = true := by
  have hroster := sameRoster_cancel w key
  refine h.allUsed.of_dropped h.nodup_pending hp huser ?_ hroster.labels (hroster.drivers ▸ hd)
  simp only [cancel, hp]
  unfold abandon closeSession? abandonAttempt
  split <;> split <;> rfl

/-! ## What is left -/

/-- The slots but that of `d` and the sessions but those that are `gone` are as they were. -/
structure Apart (d : DriverId) (gone : Nat → Prop) (w w' : World) : Prop where
  slots : ∀ d', d' ≠ d → w'.slotOf d' = w.slotOf d'
  keeps : ∀ t : Nat, t ≤ w.database.begun → ¬ gone t → w.database.Keeps t w'.database

/-- The slot of `d` is free and the sessions that are `gone` have ended, with their locks. -/
structure LetsGo (d : DriverId) (gone : Nat → Prop) (w w' : World) : Prop extends
    Apart d gone w w' where
  free : w'.slotOf d = .free
  closed : ∀ t, gone t → ¬ w'.database.IsOpen t
  freed : ∀ t, gone t → ∀ lock, (lock, t) ∉ w'.database.locks

variable {gone : Nat → Prop}

theorem discardUnused_of_free (h : ∀ e ∈ w.drivers, w.isUsed e.1 = true ∨ e.2.slot = .free) :
    w.discardUnused.1.database = w.database ∧ w.discardUnused.1.slotOf = w.slotOf ∧
      w.discardUnused.2 = [] := by
  have hsessions : (w.drivers.filter fun e => !w.isUsed e.1).filterMap (·.2.slot.session?) =
      [] := by
    refine List.filterMap_eq_nil_iff.2 fun e he => ?_
    obtain ⟨hmem, hunused⟩ := List.mem_filter.1 he
    rcases h e hmem with hused | hfree
    · simp [hused] at hunused
    · rw [hfree]
      rfl
  refine ⟨?_, ?_, ?_⟩
  · show ((w.drivers.filter fun e => !w.isUsed e.1).filterMap (·.2.slot.session?)).foldl
      Database.drop w.database = w.database
    rw [hsessions]
    rfl
  · funext d
    rw [slotOf, lookup_discardUnused, slotOf]
    by_cases hused : w.isUsed d = true
    · rw [if_pos hused]
    · rw [if_neg hused]
      cases hd : w.drivers.lookup d with
      | none => rfl
      | some st => exact ((h (d, st) (mem_of_lookup_eq_some hd)).resolve_left hused).symm
  · show ((w.drivers.filter fun e => !w.isUsed e.1).filterMap (·.2.slot.session?)).map Event.drop =
      []
    rw [hsessions]
    rfl

theorem LetsGo.used_or_free (h : LetsGo d gone w w') (hw' : w'.Sound)
    (hused : ∀ d' ∈ w'.drivers.map (·.1), some d ≠ some d' → w'.isUsed d' = true) :
    ∀ e ∈ w'.drivers, w'.isUsed e.1 = true ∨ e.2.slot = .free := by
  intro e he
  by_cases hd : e.1 = d
  · right
    have hslot : w'.slotOf e.1 = e.2.slot := slotOf_of_mem hw' he
    rw [← hslot, hd]
    exact h.free
  · exact Or.inl (hused e.1 (List.mem_map_of_mem he) fun h => hd (Option.some.inj h).symm)

theorem LetsGo.discardUnused (h : LetsGo d gone w w')
    (hfree : ∀ e ∈ w'.drivers, w'.isUsed e.1 = true ∨ e.2.slot = .free) :
    LetsGo d gone w w'.discardUnused.1 := by
  obtain ⟨hdb, hslots, -⟩ := discardUnused_of_free hfree
  refine ⟨⟨?_, ?_⟩, ?_, ?_, ?_⟩
  · rw [hslots]
    exact h.slots
  · rw [hdb]
    exact h.keeps
  · rw [hslots]
    exact h.free
  · rw [hdb]
    exact h.closed
  · rw [hdb]
    exact h.freed

/-! ## Steps in which an operation goes on -/

/-- The task that was started under `key` goes on in the step: from its start, or after a wait. -/
inductive Engages (P : Terms) (task : Task) (key : String) (w : World) : Step → Prop
  | start {s : Step} {l : Launch} (h : w.Reached P) (ht : w.Starts s task l) (hk : l.key = key) :
      Engages P task key w s
  | again (h : w.Underway P task key) : Engages P task key w (.poll key)

/-- The sessions that the task has begun, up to the end of the step. -/
def HasOpened (P : Terms) (task : Task) (key : String) (w : World) (s : Step) (t : Nat) : Prop :=
  (w.database.begun < t ∧ t ≤ (w.step s).world.database.begun) ∨
    s = .poll key ∧ HasBegun P task key w t

/-- The part of a step in which a task goes on, which came to the step with the session `own`. -/
structure Engaged (P : Terms) (task : Task) (key : String) (w : World) (s : Step) (l : Launch)
    (own : Option SessionId) : Prop where
  launch : w.launch? s = some l
  underKey : l.key = key
  ready : w.Ready l own
  opens : ∀ t, l.world.database.IsOpen t → w.database.IsOpen t
  before : ∀ t, own ≠ some t → w.database.Keeps t l.world.database
  present : ∃ db₀ es, Present P task l db₀ (es ++ l.progress.events) ∧ (s ≠ .poll key → es = [])
  session : own = task.session? ∧ s ≠ .poll key ∨
    s = .poll key ∧ w.sessionOf (.operation key) = own

variable {st : Settlement}

theorem Engages.reached (h : w.Engages P task key s) : w.Reached P := by
  cases h with
  | start h _ _ => exact h
  | again h => exact h.reached

theorem Engages.idle (h : w.Engages P task key s) (hl : w.launch? s = none) :
    (w.step s).answer = .pending ∧ (w.step s).world = w := by
  cases h with
  | start h ht _ => cases ht.launch?.symm.trans hl
  | again h =>
    obtain ⟨p, -, -, -, hp, -⟩ := h.past
    refine ⟨answer_of_idle_poll hp hl, ?_⟩
    show (w.make (.poll key)).world.discardUnused.1 = w
    rw [make_of_idle_poll hl, h.reached.allUsed.discardUnused]

theorem Engages.engaged (h : w.Engages P task key s) (hs : w.Serves P s)
    (hl : w.launch? s = some l) : ∃ own, Engaged P task key w s l own := by
  cases h with
  | @start s l' h ht hk =>
    cases ht.launch?.symm.trans hl
    have hdb : l.world.database = w.database := by
      cases ht <;> rfl
    have hpoll : s ≠ .poll key := by
      cases ht <;> exact Step.noConfusion
    refine ⟨task.session?, hl, hk, ht.ready h.sound, ?_, ?_,
      ⟨_, [], ht.present h.sound hs, fun _ => rfl⟩, Or.inl ⟨rfl, hpoll⟩⟩
    · rw [hdb]
      exact fun _ ht => ht
    · rw [hdb]
      exact fun t _ => Database.Keeps.refl t _
  | again h =>
    have hw := h.reached.sound
    obtain ⟨p, db₀, es, sc, hp, hpast⟩ := h.past
    have hresumes : w.resumes? (.poll key) = some l := hl
    obtain ⟨hkey, t, lock, db, hp', hg, hworld⟩ := launch?_poll hl
    obtain ⟨u, hsession, hready⟩ := hw.ready_of_resumes? hresumes
    rw [hkey] at hsession
    have hu : u = t := by
      rw [sessionOf, hp'] at hsession
      exact (Option.some.inj hsession).symm
    subst hu
    refine ⟨some u, hl, hkey, hready, ?_, ?_,
      ⟨_, _, hpast.present hw hp hl hs, fun hpoll => absurd rfl hpoll⟩, Or.inr ⟨rfl, hsession⟩⟩
    · rw [hworld]
      unfold Database.IsOpen
      rw [Database.sessions_of_grant? hg]
      exact fun _ ht => ht
    · rw [hworld]
      intro t ht
      exact Database.keeps_grant? hg fun he => ht (congrArg some he.symm)

theorem Engaged.left (h : Engaged P task key w s l own) (hw : w.Sound)
    (hst : l.progress.standing = .ended st) (hnone : st.session? = none) {t : Nat}
    (ht : l.progress.database.IsOpen t) : w.database.IsOpen t ∧ own ≠ some t := by
  have hdb := (h.ready.sheds.sound hw).database
  rcases h.ready.owns.advance_leaves hdb h.ready.isOpen ht with ⟨hopen, hne⟩ | hleft
  · exact ⟨h.opens t hopen, hne⟩
  · have hstanding : (l.program.advance l.world.database).standing = .ended st := hst
    rw [hstanding] at hleft
    cases hnone.symm.trans hleft

theorem Engaged.keeps (h : Engaged P task key w s l own) (hw : w.Sound) {t : Nat}
    (ht : t ≤ w.database.begun) (hne : own ≠ some t) :
    w.database.Keeps t l.progress.database := by
  have hdb := (h.ready.sheds.sound hw).database
  obtain ⟨-, hmoves⟩ := h.ready.owns.advance hdb h.ready.isOpen
  have hbegun := begun_before_launch h.launch
  exact (h.before t hne).trans (hmoves.keeps t (hbegun.symm ▸ ht) hne)

theorem Engaged.make_of_ended (h : Engaged P task key w s l own)
    (hst : l.progress.standing = .ended st) :
    (w.make s).world = (l.advanced.settle key st).world ∧
      (w.make s).answer = (l.advanced.settle key st).answer ∧
      (w.make s).events = l.progress.events := by
  rw [make_of_launch? h.launch, ← h.underKey]
  refine ⟨(turn_ended hst).1, (turn_ended hst).2, ?_⟩
  unfold Launch.turn follow
  rw [hst]

/-- The exchanges of a whole task that ends in the step, of which the last show in the step. -/
structure Heard (w : World) (s : Step) (key : String) (xs : List Exchange) : Prop where
  events : (w.make s).events <:+ xs.map Exchange.event
  all : s ≠ .poll key → (w.make s).events = xs.map Exchange.event
  given : ∃ sc sc' : Scene, sc.Gives xs sc' ∧ sc'.database = (w.make s).world.database

theorem Engaged.heard (h : Engaged P task key w s l own)
    (hst : l.progress.standing = .ended st) :
    ∃ xs, task.program.Follows xs (.done st) ∧ Heard w s key xs := by
  obtain ⟨db₀, es, hpresent, hall⟩ := h.present
  obtain ⟨hworld, -, hevents⟩ := h.make_of_ended hst
  have hcourse := hpresent.course
  rw [hst] at hcourse
  obtain ⟨xs, hfollows, hgiven, hxs⟩ := hcourse.exchanges
  refine ⟨xs, hfollows, ?_, ?_, _, _, hgiven, ?_⟩
  · rw [hevents]
    exact ⟨es, hxs⟩
  · intro hpoll
    rw [hevents, ← hxs, hall hpoll]
    rfl
  · rw [hworld, (settle_keeps l.advanced key st).1]
    rfl

theorem Engaged.letsGo (h : Engaged P task key w s l own) (hw : w.Reached P)
    (hst : l.progress.standing = .ended st) (hnone : st.session? = none)
    (huser : l.user = some d)
    (hslots : (w.make s).world.slotOf = Function.update w.slotOf d .free)
    (hgone : ∀ t, gone t → w.database.IsOpen t → own = some t)
    (hown : ∀ t, own = some t → gone t) :
    LetsGo d gone w (w.step s).world ∧ (w.step s).events = (w.make s).events := by
  have hdb : (w.make s).world.database = l.progress.database := by
    rw [(h.make_of_ended hst).1, (settle_keeps l.advanced key st).1]
    rfl
  have hclosed (t : Nat) (ht : gone t) : ¬ (w.make s).world.database.IsOpen t := by
    rw [hdb]
    intro hopen
    obtain ⟨hbefore, hne⟩ := h.left hw.sound hst hnone hopen
    exact hne (hgone t ht hbefore)
  have hmake := hw.sound.make s
  have hlets : LetsGo d gone w (w.make s).world := by
    refine ⟨⟨?_, ?_⟩, ?_, hclosed, ?_⟩
    · intro d' hd'
      rw [hslots, Function.update_of_ne hd']
    · intro t ht hnot
      rw [hdb]
      exact h.keeps hw.sound ht fun ht => hnot (hown t ht)
    · rw [hslots, Function.update_self]
    · exact fun t ht lock hlock => hclosed t ht (hmake.database.owned lock t hlock)
  have hfree := hlets.used_or_free hmake fun d' hd' hne =>
    hw.used_of_ended h.launch hst hd' (huser ▸ hne)
  refine ⟨hlets.discardUnused hfree, ?_⟩
  show (w.make s).events ++ (w.make s).world.discardUnused.2 = _
  rw [(discardUnused_of_free hfree).2.2, List.append_nil]

/-- Nothing is kept under the key that the task would take it from. -/
def Unobstructed (w : World) (key : String) (s : Step) : Prop :=
  w.pending.lookup key = none ∨ s = .poll key

theorem Engaged.vacant (h : Engaged P task key w s l own) (hu : w.Unobstructed key s) :
    l.world.pending.lookup key = none := by
  rcases launch?_cases h.launch with ⟨task', hstarts⟩ | hresumes
  · have hnone : w.pending.lookup key = none := by
      refine hu.resolve_right ?_
      cases hstarts <;> exact Step.noConfusion
    rw [← hnone]
    cases hstarts <;> rfl
  · obtain ⟨t, lock, db, -, -, -, hworld⟩ := resumes?_eq_some hresumes
    rw [hworld, h.underKey, lookup_dropKey, if_pos rfl]

theorem Engaged.step_of_suspended (h : Engaged P task key w s l own) (hw : w.Reached P)
    (hu : w.Unobstructed key s) {held : Suspended Settlement}
    (hst : l.progress.standing = .suspended held) :
    (w.step s).world =
      { l.advanced with pending := putKey l.world.pending key ⟨l.user, l.attempt, held⟩ } := by
  have hvacant := h.vacant hu
  have hmake : (w.make s).world =
      { l.advanced with pending := putKey l.world.pending key ⟨l.user, l.attempt, held⟩ } := by
    have hcancel : (l.advanced.cancel key).1 = l.advanced := by
      have hnone : l.advanced.pending.lookup key = none := hvacant
      simp only [cancel, hnone]
    rw [make_of_launch? h.launch, (turn_suspended hst).1, h.underKey, hcancel]
    rfl
  have hpending : ∀ key', key' ≠ key → l.world.pending.lookup key' = w.pending.lookup key' := by
    intro key' hne
    apply pending_of_launch? h.launch
    rintro rfl
    exact hne ((launch?_poll h.launch).1.symm.trans h.underKey)
  have hroster := sameRoster_of_launch? h.launch
  have hnodup := hw.nodup_pending.sublist ((sublist_pending_of_launch? h.launch).map (·.1))
  have hused : (w.make s).world.AllUsed := by
    rw [hmake]
    intro e he
    have hmem : e.1 ∈ w.drivers.map (·.1) := hroster.drivers ▸ List.mem_map_of_mem he
    obtain ⟨e', he', hkeys⟩ := List.mem_map.1 hmem
    have hbefore := (isUsed_iff hw.nodup_pending).1 (hw.allUsed e' he')
    rw [hkeys] at hbefore
    refine (isUsed_iff (nodup_map_fst_putKey hnodup _ _)).2 ?_
    rcases hbefore with ⟨label, hlabel⟩ | ⟨key', p, hp, huser⟩
    · refine Or.inl ⟨label, ?_⟩
      have hlabels : l.world.labels = w.labels := hroster.labels
      exact hlabels ▸ hlabel
    · refine Or.inr ⟨key', ?_⟩
      by_cases hkey : key' = key
      -- What was kept under the key is the task itself, so it worked for the same driver.
      · subst hkey
        refine ⟨⟨l.user, l.attempt, held⟩, by rw [lookup_putKey, if_pos rfl], ?_⟩
        rcases hu with hnone | rfl
        · cases hnone.symm.trans hp
        · obtain ⟨-, t, lock, db, hp', -⟩ := launch?_poll h.launch
          cases hp.symm.trans hp'
          exact huser
      · refine ⟨p, ?_, huser⟩
        rw [lookup_putKey, if_neg hkey, hpending key' hkey]
        exact hp
  show (w.make s).world.discardUnused.1 = _
  rw [hused.discardUnused]
  exact hmake

theorem Engaged.apart (h : Engaged P task key w s l own) (hw : w.Reached P)
    (hu : w.Unobstructed key s) {held : Suspended Settlement}
    (hst : l.progress.standing = .suspended held) {slot : LockSlot}
    (hslots : l.world.slotOf = Function.update w.slotOf d slot)
    (hown : ∀ t, own = some t → gone t) : Apart d gone w (w.step s).world := by
  have hstep := h.step_of_suspended hw hu hst
  refine ⟨?_, ?_⟩
  · intro d' hd'
    rw [hstep, ← Function.update_of_ne hd' slot w.slotOf, ← hslots]
    rfl
  · intro t ht hnot
    rw [hstep]
    exact h.keeps hw.sound ht fun ht => hnot (hown t ht)

end World

end SchemaMigration
