import SchemaMigration.Proofs.Launch

/-!
# Scenarios in the course of time

What holds in every scenario that steps lead to. An operation that is held up has a past: it was
started by some step, for some task, and what it has done since then is a course of its task's
program.
-/

namespace SchemaMigration

namespace World

/-- A step leaves alone what is kept under a key: it does not poll, cancel or replace it. -/
structure Spares (w : World) (s : Step) (key : String) : Prop where
  poll : s ≠ .poll key
  cancel : s ≠ .cancel key
  replace : ∀ l, w.launch? s = some l → l.key = key → (w.step s).answer ≠ .pending

/-- Every call of a step's operation is decided on the terms. -/
def Serves (P : Terms) (w : World) (s : Step) : Prop :=
  ∀ l, w.launch? s = some l → l.program.Makes P l.world.database

/-- A scenario before its first step. -/
def initial (rows : TrackingRows) (rules : List Rule) (migrations : List Migration) : World :=
  { database := { rows, rules }, migrations }

inductive Reached (P : Terms) : World → Prop
  | start (rows : TrackingRows) (rules : List Rule) (migrations : List Migration) :
      Reached P (initial rows rules migrations)
  | step {w : World} (h : Reached P w) {s : Step} (hs : w.Serves P s) : Reached P (w.step s).world

/-- A task that was started under a key and has not ended. -/
inductive Underway (P : Terms) (task : Task) (key : String) : World → Prop
  | start {w : World} {s : Step} {l : Launch} (h : Reached P w) (hs : w.Serves P s)
      (ht : w.Starts s task l) (hk : l.key = key) (hp : (w.step s).answer = .pending) :
      Underway P task key (w.step s).world
  | stay {w : World} {s : Step} (h : Underway P task key w) (hs : w.Serves P s)
      (hspares : w.Spares s key) : Underway P task key (w.step s).world
  | again {w : World} (h : Underway P task key w) (hs : w.Serves P (.poll key))
      (hp : (w.step (.poll key)).answer = .pending) :
      Underway P task key (w.step (.poll key)).world

/-! ## One step, seen from an operation that waits -/

variable {w : World} {s : Step} {l : Launch} {key : String}

theorem pending_foldl_setStatus (statuses : List (Nat × Migration)) :
    (statuses.foldl (fun w (place, m) => w.setStatus place m.status) w).database = w.database ∧
      (statuses.foldl (fun w (place, m) => w.setStatus place m.status) w).pending =
        w.pending := by
  induction statuses generalizing w with
  | nil => exact ⟨rfl, rfl⟩
  | cons e statuses ih => exact @ih (w.setStatus e.1 e.2.status)

theorem settle_keeps (w : World) (key : String) (st : Settlement) :
    (w.settle key st).world.database = w.database ∧ (w.settle key st).world.pending = w.pending ∧
      (w.settle key st).answer ≠ .pending := by
  cases st with
  | loaded places l =>
    obtain ⟨hdb, hp⟩ := @pending_foldl_setStatus w (places.zip l.migrations)
    exact ⟨hdb, hp, fun h => by cases h⟩
  | acquired d id r =>
    cases r with
    | error e => exact ⟨rfl, rfl, fun h => by cases h⟩
    | ok t =>
      simp only [settle]
      split
      · exact ⟨rfl, rfl, fun h => by cases h⟩
      · exact ⟨rfl, rfl, fun h => by cases h⟩
  | _ => exact ⟨rfl, rfl, fun h => by cases h⟩

theorem pending_of_launch? (h : w.launch? s = some l) (hs : s ≠ .poll key) :
    l.world.pending.lookup key = w.pending.lookup key := by
  rcases launch?_cases h with ⟨task, hstarts⟩ | hr
  · cases hstarts <;> rfl
  · obtain ⟨t, lock, db, rfl, -, -, hl⟩ := resumes?_eq_some hr
    have hne : key ≠ l.key := by
      rintro rfl
      exact hs rfl
    rw [hl, lookup_dropKey, if_neg hne]

theorem sessionOf_congr {w' : World} (h : w'.pending.lookup key = w.pending.lookup key) :
    w'.sessionOf (.operation key) = w.sessionOf (.operation key) := by
  rw [sessionOf, h, sessionOf]

/-- What is kept under a key is as it was, and so is its session. -/
structure Waits (w w' : World) (key : String) : Prop where
  pending : w'.pending.lookup key = w.pending.lookup key
  keeps : ∀ t, w.sessionOf (.operation key) = some t → w.database.Keeps t w'.database

theorem Waits.trans {w' w'' : World} (h : w.Waits w' key) (h' : w'.Waits w'' key) :
    w.Waits w'' key where
  pending := h'.pending.trans h.pending
  keeps := by
    intro t ht
    apply (h.keeps t ht).trans
    apply h'.keeps t
    rwa [sessionOf_congr h.pending]

theorem Sheds.waits {w' : World} (h : w.Sheds w')
    (hp : w'.pending.lookup key = w.pending.lookup key) : w.Waits w' key where
  pending := hp
  keeps := by
    intro t ht
    rw [← sessionOf_congr hp] at ht
    exact (h.keeps _ t ht).2

theorem Sound.waits_discardUnused (hw : w.Sound) (key : String) :
    w.Waits w.discardUnused.1 key := hw.sheds_discardUnused.waits rfl

theorem Sound.make_spares (hw : w.Sound) (h : w.Spares s key) :
    w.Waits (w.make s).world key := by
  cases hl : w.launch? s with
  | none =>
    have hidle := hw.idle hl
    exact hidle.sheds.waits (hidle.pending key h.cancel)
  | some l =>
    obtain ⟨own, hready⟩ := hw.ready hl
    have hadv := hready.advanced hw
    have hp : l.advanced.pending.lookup key = w.pending.lookup key := pending_of_launch? hl h.poll
    rw [make_of_launch? hl]
    cases hst : l.progress.standing with
    | ended st =>
      obtain ⟨hdb, hpending, -⟩ := settle_keeps l.advanced l.key st
      have hwaits := hadv.sheds.waits hp
      rw [(turn_ended hst).1]
      exact ⟨by rw [hpending]; exact hp, fun t ht => hdb ▸ hwaits.keeps t ht⟩
    | suspended held =>
      have hanswer : (w.step s).answer = .pending := by
        show (w.make s).answer = .pending
        rw [make_of_launch? hl, (turn_suspended hst).2]
      have hne : key ≠ l.key := by
        intro hk
        exact h.replace l hl hk.symm hanswer
      have hcancel := (hadv.sheds.sound hw).sheds_cancel l.key
      have hwaits := (hadv.sheds.trans hcancel).waits ((lookup_cancel l.advanced hne).trans hp)
      rw [(turn_suspended hst).1]
      refine ⟨?_, hwaits.keeps⟩
      rw [lookup_putKey, if_neg hne]
      exact hwaits.pending

theorem Sound.step_spares (hw : w.Sound) (h : w.Spares s key) : w.Waits (w.step s).world key :=
  (hw.make_spares h).trans ((hw.make s).waits_discardUnused key)

theorem suspended_of_pending (hl : w.launch? s = some l) (h : (w.step s).answer = .pending) :
    ∃ held, l.progress.standing = .suspended held := by
  cases hst : l.progress.standing with
  | suspended held => exact ⟨held, rfl⟩
  | ended st =>
    have hanswer : (w.make s).answer = .pending := h
    rw [make_of_launch? hl, (turn_ended hst).2] at hanswer
    exact absurd hanswer (settle_keeps l.advanced l.key st).2.2

theorem Sound.step_suspended (hw : w.Sound) (hl : w.launch? s = some l)
    {held : Suspended Settlement} (hst : l.progress.standing = .suspended held) :
    (w.step s).world.pending.lookup l.key = some ⟨l.user, l.attempt, held⟩ ∧
      ∀ t, held.session? = some t → l.progress.database.Keeps t (w.step s).world.database := by
  obtain ⟨own, hready⟩ := hw.ready hl
  have hadv := hready.advanced hw
  have hmake : (w.make s).world.pending.lookup l.key = some ⟨l.user, l.attempt, held⟩ := by
    rw [make_of_launch? hl, (turn_suspended hst).1, lookup_putKey, if_pos rfl]
  have hdiscard := (hw.make s).waits_discardUnused l.key
  refine ⟨hdiscard.pending.trans hmake, ?_⟩
  intro t ht
  have halone := hadv.alone
  rw [hst] at halone
  have hcancel := (hadv.sheds.sound hw).keeps_cancel (halone t ht (.operation l.key))
  have hkeeps : l.progress.database.Keeps t (w.make s).world.database := by
    rw [make_of_launch? hl, (turn_suspended hst).1]
    exact hcancel
  apply hkeeps.trans
  apply hdiscard.keeps t
  rw [sessionOf, hmake]
  exact ht

/-! ## Reached scenarios -/

theorem sound_initial (rows : TrackingRows) (rules : List Rule) (migrations : List Migration) :
    (initial rows rules migrations).Sound := by
  have hnone (o : Owner) : (initial rows rules migrations).sessionOf o = none := by
    cases o <;> rfl
  refine ⟨⟨List.nodup_nil, fun d hd => by cases hd⟩, ⟨?_, ?_, List.nodup_nil⟩, ?_, ?_, ?_⟩
  · rintro s ⟨ws, hws⟩
    cases hws
  · intro lock s hs
    cases hs
  · intro o s hs
    rw [hnone] at hs
    cases hs
  · intro o o' s hs
    rw [hnone] at hs
    cases hs
  · intro key p hp
    cases hp

variable {P : Terms} {task : Task}

theorem Reached.sound (h : Reached P w) : w.Sound := by
  induction h with
  | start rows rules migrations => exact sound_initial rows rules migrations
  | step _ _ ih => exact ih.step _

theorem Underway.reached (h : Underway P task key w) : Reached P w := by
  induction h with
  | start h hs _ _ _ => exact h.step hs
  | stay _ hs _ ih => exact ih.step hs
  | again _ hs _ ih => exact ih.step hs

theorem Starts.program (h : w.Starts s task l) : l.program = task.program := by
  cases h <;> rfl

theorem Starts.launch? (h : w.Starts s task l) : w.launch? s = some l := by
  rw [World.launch?, h.opens?]
  rfl

/-- How a task went so far, up to where it is held up, and that its session is as it left it. -/
structure Past (P : Terms) (task : Task) (held : Suspended Settlement) (db : Database)
    (db₀ : Database) (es : List Event) (sc : Scene) : Prop where
  sound : db₀.Sound
  isOpen : ∀ t, task.session? = some t → db₀.IsOpen t
  course : Program.Course P task.program (.start db₀) es (.suspended held) sc
  keeps : ∀ t, held.session? = some t → sc.database.Keeps t db

/-- How a task went up to the end of the step in which it goes on. -/
structure Present (P : Terms) (task : Task) (l : Launch) (db₀ : Database) (es : List Event) :
    Prop where
  sound : db₀.Sound
  isOpen : ∀ t, task.session? = some t → db₀.IsOpen t
  course : Program.Course P task.program (.start db₀) es l.progress.standing
    ((Scene.start l.world.database).after l.progress.database)

theorem course_of_launch? (hl : w.launch? s = some l) (hs : w.Serves P s) :
    Program.Course P l.program (.start l.world.database) l.progress.events l.progress.standing
      ((Scene.start l.world.database).after l.progress.database) :=
  Program.Course.advance (hs l hl)

theorem Starts.present (hw : w.Sound) (h : w.Starts s task l) (hs : w.Serves P s) :
    Present P task l l.world.database l.progress.events := by
  have hready := h.ready hw
  have hcourse := course_of_launch? h.launch? hs
  rw [h.program] at hcourse
  exact ⟨hready.sheds.database, hready.isOpen, hcourse⟩

theorem launch?_poll (hl : w.launch? (.poll key) = some l) :
    l.key = key ∧ ∃ t lock db,
      w.pending.lookup key = some ⟨l.user, l.attempt, .waiting t lock l.program⟩ ∧
      w.database.grant? t lock = some db ∧
      l.world = { w with database := db, pending := dropKey w.pending key } := by
  have hresumes : w.resumes? (.poll key) = some l := hl
  obtain ⟨t, lock, db, hkey, hp, hg, hworld⟩ := resumes?_eq_some hresumes
  cases hkey
  exact ⟨rfl, t, lock, db, hp, hg, hworld⟩

variable {p : Pending} {db₀ : Database} {es : List Event} {sc : Scene}

theorem Past.present (h : Past P task p.held w.database db₀ es sc) (hw : w.Sound)
    (hp : w.pending.lookup key = some p) (hl : w.launch? (.poll key) = some l)
    (hs : w.Serves P (.poll key)) : Present P task l db₀ (es ++ l.progress.events) := by
  obtain ⟨-, t, lock, db, hp', hg, hworld⟩ := launch?_poll hl
  cases hp.symm.trans hp'
  have hrest := course_of_launch? hl hs
  have hdb : l.world.database = db := by rw [hworld]
  rw [hdb] at hrest
  refine ⟨h.sound, h.isOpen, ?_⟩
  rw [hdb]
  exact h.course.resume hw.database (h.keeps t rfl) hg hrest

theorem Past.waits {w' : World} (h : Past P task p.held w.database db₀ es sc)
    (hp : w.pending.lookup key = some p) (hwaits : w.Waits w' key) :
    Past P task p.held w'.database db₀ es sc where
  sound := h.sound
  isOpen := h.isOpen
  course := h.course
  keeps := by
    intro t ht
    apply (h.keeps t ht).trans
    apply hwaits.keeps t
    rw [sessionOf, hp]
    exact ht

theorem Present.past (h : Present P task l db₀ es) (hw : w.Sound) (hl : w.launch? s = some l)
    {held : Suspended Settlement} (hst : l.progress.standing = .suspended held) :
    Past P task held (w.step s).world.database db₀ es
      ((Scene.start l.world.database).after l.progress.database) where
  sound := h.sound
  isOpen := h.isOpen
  course := hst ▸ h.course
  keeps := (hw.step_suspended hl hst).2

theorem Underway.past (h : Underway P task key w) :
    ∃ p db₀ es sc, w.pending.lookup key = some p ∧ Past P task p.held w.database db₀ es sc := by
  induction h with
  | @start w s l h hs ht hk hp =>
    have hw := h.sound
    obtain ⟨held, hst⟩ := suspended_of_pending ht.launch? hp
    have hpending := (hw.step_suspended ht.launch? hst).1
    rw [hk] at hpending
    exact ⟨_, _, _, _, hpending, (ht.present hw hs).past hw ht.launch? hst⟩
  | @stay w s h hs hspares ih =>
    obtain ⟨p, db₀, es, sc, hpending, hpast⟩ := ih
    have hwaits := h.reached.sound.step_spares hspares
    exact ⟨p, db₀, es, sc, hwaits.pending.trans hpending, hpast.waits hpending hwaits⟩
  | @again w h hs hp ih =>
    obtain ⟨p, db₀, es, sc, hpending, hpast⟩ := ih
    have hw := h.reached.sound
    cases hl : w.launch? (.poll key) with
    | none =>
      have hidle := hw.idle hl
      have hwaits := (hidle.sheds.waits (hidle.pending key (by simp))).trans
        ((hw.make (.poll key)).waits_discardUnused key)
      exact ⟨p, db₀, es, sc, hwaits.pending.trans hpending, hpast.waits hpending hwaits⟩
    | some l =>
      obtain ⟨held, hst⟩ := suspended_of_pending hl hp
      have hpending' := (hw.step_suspended hl hst).1
      rw [(launch?_poll hl).1] at hpending'
      exact ⟨_, _, _, _, hpending', (hpast.present hw hpending hl hs).past hw hl hst⟩

theorem lookup_cancel_self (w : World) (key : String) :
    (w.cancel key).1.pending.lookup key = none := by
  have hdrop : (dropKey w.pending key).lookup key = none := by simp
  unfold cancel
  split
  · assumption
  · unfold abandon closeSession? abandonAttempt
    split <;> split <;> exact hdrop

theorem answer_of_idle_poll (hp : w.pending.lookup key = some p)
    (hl : w.launch? (.poll key) = none) : (w.step (.poll key)).answer = .pending := by
  show (w.poll key).answer = .pending
  obtain ⟨user, attempt, _ | ⟨t, lock, program⟩⟩ := p
  · simp only [poll, hp, Suspended.poll?]
  · cases hg : w.database.grant? t lock with
    | none => simp only [poll, hp, Suspended.poll?, hg, Option.map_none]
    | some db =>
      have hresumes : w.resumes? (.poll key) = none := hl
      simp [resumes?, hp, hg] at hresumes

theorem pending_of_poll (hw : w.Sound)
    (hp : (w.step (.poll key)).world.pending.lookup key = some p) :
    (∃ p', w.pending.lookup key = some p') ∧ (w.step (.poll key)).answer = .pending := by
  cases hl : w.launch? (.poll key) with
  | none =>
    have hidle := (hw.idle hl).pending key (by simp)
    have hp' : w.pending.lookup key = some p := hidle.symm.trans hp
    exact ⟨⟨p, hp'⟩, answer_of_idle_poll hp' hl⟩
  | some l =>
    obtain ⟨hkey, t, lock, db, hp', -, hworld⟩ := launch?_poll hl
    refine ⟨⟨_, hp'⟩, ?_⟩
    have hmake : (w.make (.poll key)).world.pending.lookup key = some p := hp
    show (w.make (.poll key)).answer = .pending
    rw [make_of_launch? hl] at hmake ⊢
    cases hst : l.progress.standing with
    | suspended held => exact (turn_suspended hst).2
    | ended st =>
      have hadv : l.advanced.pending = dropKey w.pending key := congrArg World.pending hworld
      rw [(turn_ended hst).1, (settle_keeps l.advanced l.key st).2.1, hadv, lookup_dropKey,
        if_pos rfl] at hmake
      cases hmake

theorem Reached.underway (h : Reached P w) (hp : w.pending.lookup key = some p) :
    ∃ task, Underway P task key w := by
  induction h generalizing p with
  | start rows rules migrations => cases hp
  | @step w h s hs ih =>
    have hw := h.sound
    -- A step drops what is kept under the key, polls it, puts something else there, or spares it.
    by_cases hcancel : s = .cancel key
    · subst hcancel
      cases (lookup_cancel_self w key).symm.trans hp
    by_cases hpoll : s = .poll key
    · subst hpoll
      obtain ⟨⟨p', hp'⟩, hanswer⟩ := pending_of_poll hw hp
      obtain ⟨task, hunderway⟩ := ih hp'
      exact ⟨task, hunderway.again hs hanswer⟩
    by_cases hreplace : ∃ l, w.launch? s = some l ∧ l.key = key ∧ (w.step s).answer = .pending
    · obtain ⟨l, hl, hkey, hanswer⟩ := hreplace
      rcases launch?_cases hl with ⟨task, hstarts⟩ | hresumes
      · exact ⟨task, .start h hs hstarts hkey hanswer⟩
      · obtain ⟨-, -, -, rfl, -⟩ := resumes?_eq_some hresumes
        exact absurd (congrArg Step.poll hkey) hpoll
    · have hspares : w.Spares s key := by
        refine ⟨hpoll, hcancel, ?_⟩
        intro l hl hkey hanswer
        exact hreplace ⟨l, hl, hkey, hanswer⟩
      rw [(hw.step_spares hspares).pending] at hp
      obtain ⟨task, hunderway⟩ := ih hp
      exact ⟨task, hunderway.stay hs hspares⟩

theorem Serves.of_replies {Q : RuleReply → Prop}
    (hP : ∀ db c, (∀ reply, Database.ruled db c = some reply → Q reply) → P db c)
    (h : ∀ rule ∈ w.database.rules, Q rule.reply) (s : Step) : w.Serves P s := by
  intro l hl
  apply Program.Makes.of_replies hP
  have hrules : l.world.database.rules = w.database.rules := by
    rcases launch?_cases hl with ⟨task, hstarts⟩ | hresumes
    · cases hstarts <;> rfl
    · obtain ⟨t, lock, db, -, -, hg, hworld⟩ := resumes?_eq_some hresumes
      rw [hworld]
      rcases Database.grant?_eq_some hg with ⟨-, rfl⟩ | ⟨-, rfl⟩ <;> rfl
  rw [hrules]
  exact h

theorem serves_anyTerms (w : World) (s : Step) : w.Serves anyTerms s :=
  Serves.of_replies (Q := fun _ => True) (fun _ _ _ => trivial) (fun _ _ => trivial) s

/-! ## Tracking rows -/

theorem rows_discardUnused (w : World) :
    w.discardUnused.1.database.rows = w.database.rows := by
  have hfold (sessions : List SessionId) (db : Database) :
      (sessions.foldl Database.drop db).rows = db.rows := by
    induction sessions generalizing db with
    | nil => rfl
    | cons s sessions ih => exact ih (db.drop s)
  exact hfold _ _

theorem rows_of_launch? (hl : w.launch? s = some l) : l.world.database.rows = w.database.rows := by
  rcases launch?_cases hl with ⟨task, hstarts⟩ | hresumes
  · cases hstarts <;> rfl
  · obtain ⟨t, lock, db, -, -, hg, hworld⟩ := resumes?_eq_some hresumes
    rw [hworld]
    exact Database.rows_of_grant? hg

theorem migrations_of_launch? (hl : w.launch? s = some l) : l.world.migrations = w.migrations := by
  rcases launch?_cases hl with ⟨task, hstarts⟩ | hresumes
  · cases hstarts <;> rfl
  · obtain ⟨t, lock, db, -, -, -, hworld⟩ := resumes?_eq_some hresumes
    rw [hworld]

theorem rows_step (hl : w.launch? s = some l) :
    (w.step s).world.database.rows = l.progress.database.rows := by
  refine (rows_discardUnused _).trans ?_
  rw [make_of_launch? hl]
  cases hst : l.progress.standing with
  | ended st =>
    rw [(turn_ended hst).1, (settle_keeps l.advanced l.key st).1]
    rfl
  | suspended held =>
    rw [(turn_suspended hst).1]
    exact rows_cancel l.advanced l.key

theorem Sound.rows_step_idle (hw : w.Sound) (hl : w.launch? s = none) :
    (w.step s).world.database.rows = w.database.rows :=
  (rows_discardUnused _).trans (hw.idle hl).rows

/-! ## What a task may rely on -/

/-- What a task was started with is still so. -/
def Fits (w : World) : Task → Prop
  | .run _ place m => (w.migrations.map Migration.plan)[place]? = some m.plan
  | .acquire d _ lockName =>
    d < w.nextDriver ∧ ∀ st, w.drivers.lookup d = some st → st.driver.lockName = lockName
  | _ => True

theorem Fits.migration {driver : Driver} {place : Nat} {m : Migration}
    (h : w.Fits (.run driver place m)) :
    ∃ m₀, w.migrations[place]? = some m₀ ∧ m₀.plan = m.plan := by
  have hplace : (w.migrations.map Migration.plan)[place]? = some m.plan := h
  rwa [List.getElem?_map, Option.map_eq_some_iff] at hplace

theorem Grows.fits {w' : World} (h : w.Grows w') (ht : w.Fits task) : w'.Fits task := by
  cases task with
  | run driver place m =>
    show (w'.migrations.map Migration.plan)[place]? = some m.plan
    rw [h.plans]
    exact ht
  | acquire d id lockName =>
    refine ⟨Nat.lt_of_lt_of_le ht.1 h.next, ?_⟩
    intro st' hst'
    obtain ⟨st, hst, he⟩ := h.drivers d st' ht.1 hst'
    rw [he]
    exact ht.2 st hst
  | _ => trivial

theorem Sound.settle_grows (hw : w.Sound) (key : String) (st : Settlement) :
    w.Grows (w.settle key st).world := by
  rcases hw.settle_cases key st with hsheds | ⟨d, id, t, dst, handles, rfl, hd, hworld⟩
  · exact hsheds.toGrows
  · rw [hworld]
    refine ⟨?_, Nat.le_refl _, rfl⟩
    intro d' st' _ hst'
    obtain ⟨st, hst, he, -⟩ := driver_of_setSlot hst'
    exact ⟨st, hst, he⟩

theorem Sound.step_grows (hw : w.Sound) (s : Step) : w.Grows (w.step s).world := by
  have hdiscard := (hw.make s).sheds_discardUnused.toGrows
  refine Grows.trans ?_ hdiscard
  cases hl : w.launch? s with
  | none => exact (hw.idle hl).sheds.toGrows
  | some l =>
    obtain ⟨own, hready⟩ := hw.ready hl
    have hadv := (hready.advanced hw).sheds
    rw [make_of_launch? hl]
    cases hst : l.progress.standing with
    | ended st =>
      rw [(turn_ended hst).1]
      exact hadv.toGrows.trans ((hadv.sound hw).settle_grows l.key st)
    | suspended held =>
      rw [(turn_suspended hst).1]
      have hcancel := hadv.trans ((hadv.sound hw).sheds_cancel l.key)
      exact ⟨hcancel.drivers, hcancel.next, hcancel.plans⟩

theorem Starts.fits (hw : w.Sound) (h : w.Starts s task l) : w.Fits task := by
  cases h with
  | @run label key place d st m hd hm =>
    show (w.migrations.map Migration.plan)[place]? = some m.plan
    rw [List.getElem?_map, hm]
    rfl
  | @acquire label key d st hd hs =>
    have hlookup := labelled?_drivers hd
    refine ⟨hw.lt_of_lookup hlookup, ?_⟩
    intro st' hst'
    cases hlookup.symm.trans hst'
    rfl
  | _ => trivial

theorem Underway.fits (h : Underway P task key w) : w.Fits task := by
  induction h with
  | @start w s l h hs ht hk hp => exact (h.sound.step_grows s).fits (ht.fits h.sound)
  | @stay w s h hs hspares ih => exact (h.reached.sound.step_grows s).fits ih
  | @again w h hs hp ih => exact (h.reached.sound.step_grows _).fits ih

theorem Reached.present (h : Reached P w) (hl : w.launch? s = some l) (hs : w.Serves P s) :
    ∃ task db₀ es, w.Fits task ∧ Present P task l db₀ es := by
  rcases launch?_cases hl with ⟨task, hstarts⟩ | hresumes
  · exact ⟨task, _, _, hstarts.fits h.sound, hstarts.present h.sound hs⟩
  · obtain ⟨t, lock, db, rfl, hp, -⟩ := resumes?_eq_some hresumes
    obtain ⟨task, hunderway⟩ := h.underway hp
    obtain ⟨p, db₀, es, sc, hp', hpast⟩ := hunderway.past
    exact ⟨task, db₀, _, hunderway.fits, hpast.present h.sound hp' hl hs⟩

end World

end SchemaMigration
