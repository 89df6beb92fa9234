import SchemaMigration.Proofs.Ownership

/-!
# Who has a session

In a scenario, every open session that matters belongs to one operation that is held up, or to one
driver that has taken its lock. Whatever is done to the scenario, what somebody has stays as it is
until it is let go of.
-/

namespace SchemaMigration

/-- Who can have a session between two steps. -/
inductive Owner where
  | operation (key : String)
  | lock (d : DriverId)
deriving DecidableEq

def Settlement.session? : Settlement → Option SessionId
  | .acquired _ _ (.ok s) => some s
  | _ => none

/-- A migration as its author wrote it, without what is known of its latest attempt. -/
def Migration.plan (m : Migration) : Migration := { m with status := {} }

theorem Migration.name_of_plan {m m' : Migration} (h : m.plan = m'.plan) : m.name = m'.name := by
  injection h

theorem Migration.action_of_plan {m m' : Migration} (h : m.plan = m'.plan) :
    m.action = m'.action := by
  injection h

namespace World

def sessionOf (w : World) : Owner → Option SessionId
  | .operation key => (w.pending.lookup key).bind (·.held.session?)
  | .lock d => (w.slotOf d).session?

/-- The drivers are told apart by their numbers, which are given out in order. -/
structure Numbered (w : World) : Prop where
  distinct : (w.drivers.map (·.1)).Nodup
  given : ∀ d ∈ w.drivers.map (·.1), d < w.nextDriver

structure Sound (w : World) : Prop extends Numbered w where
  database : w.database.Sound
  isOpen : ∀ o s, w.sessionOf o = some s → w.database.IsOpen s
  apart : ∀ o o' s, w.sessionOf o = some s → w.sessionOf o' = some s → o = o'
  owns : ∀ key p, w.pending.lookup key = some p → p.held.Owns Settlement.session?

/-- What a driver works with and what a migration does never change. -/
structure Grows (w w' : World) : Prop where
  drivers : ∀ d st', d < w.nextDriver → w'.drivers.lookup d = some st' →
    ∃ st, w.drivers.lookup d = some st ∧ st'.driver = st.driver
  next : w.nextDriver ≤ w'.nextDriver
  plans : w'.migrations.map Migration.plan = w.migrations.map Migration.plan

/-- Nobody got a session, and what is still there is as it was. -/
structure Sheds (w w' : World) : Prop extends Numbered w', Grows w w' where
  database : w'.database.Sound
  keeps : ∀ o s, w'.sessionOf o = some s →
    w.sessionOf o = some s ∧ w.database.Keeps s w'.database
  pending : ∀ key p, w'.pending.lookup key = some p → w.pending.lookup key = some p

variable {w w' w'' : World}

theorem Numbered.lt_of_lookup (h : w.Numbered) {d : DriverId} {st : DriverState}
    (hd : w.drivers.lookup d = some st) : d < w.nextDriver :=
  h.given d (List.mem_map_of_mem (mem_of_lookup_eq_some hd))

theorem Grows.refl (w : World) : w.Grows w where
  drivers := fun _ st' _ hd => ⟨st', hd, rfl⟩
  next := Nat.le_refl _
  plans := rfl

theorem Grows.trans (h : w.Grows w') (h' : w'.Grows w'') : w.Grows w'' where
  drivers := by
    intro d st'' hlt hd
    obtain ⟨st', hd', he'⟩ := h'.drivers d st'' (Nat.lt_of_lt_of_le hlt h.next) hd
    obtain ⟨st, hd, he⟩ := h.drivers d st' hlt hd'
    exact ⟨st, hd, he'.trans he⟩
  next := Nat.le_trans h.next h'.next
  plans := h'.plans.trans h.plans

theorem Sound.sheds_refl (h : w.Sound) : w.Sheds w where
  toNumbered := h.toNumbered
  toGrows := Grows.refl w
  database := h.database
  keeps := fun _ s hs => ⟨hs, Database.Keeps.refl s _⟩
  pending := fun _ _ hp => hp

theorem Sheds.trans (h : w.Sheds w') (h' : w'.Sheds w'') : w.Sheds w'' where
  toNumbered := h'.toNumbered
  toGrows := h.toGrows.trans h'.toGrows
  database := h'.database
  keeps := by
    intro o s hs
    obtain ⟨hs', hk'⟩ := h'.keeps o s hs
    obtain ⟨hs, hk⟩ := h.keeps o s hs'
    exact ⟨hs, hk.trans hk'⟩
  pending := fun key p hp => h.pending key p (h'.pending key p hp)

theorem Sheds.sound (h : w.Sheds w') (hw : w.Sound) : w'.Sound where
  toNumbered := h.toNumbered
  database := h.database
  isOpen := by
    intro o s hs
    obtain ⟨hs, hk⟩ := h.keeps o s hs
    exact hk.isOpen_iff.2 (hw.isOpen o s hs)
  apart := fun o o' s hs hs' => hw.apart o o' s (h.keeps o s hs).1 (h.keeps o' s hs').1
  owns := fun key p hp => hw.owns key p (h.pending key p hp)

theorem Sheds.not_owned (h : w.Sheds w') {s : SessionId} (hs : ∀ o, w.sessionOf o ≠ some s)
    (o : Owner) : w'.sessionOf o ≠ some s := fun ho => hs o (h.keeps o s ho).1

/-! ## Parts that nobody's session is in -/

theorem Sound.sheds_of_eq (h : w.Sound) (hdb : w'.database = w.database)
    (hp : w'.pending = w.pending) (hd : w'.drivers = w.drivers)
    (hn : w'.nextDriver = w.nextDriver)
    (hm : w'.migrations.map Migration.plan = w.migrations.map Migration.plan) : w.Sheds w' := by
  have hsession : w'.sessionOf = w.sessionOf := by
    funext o
    cases o with
    | operation key => rw [sessionOf, hp, sessionOf]
    | lock d => rw [sessionOf, slotOf, hd, sessionOf, slotOf]
  refine ⟨⟨?_, ?_⟩, ⟨?_, Nat.le_of_eq hn.symm, hm⟩, ?_, ?_, ?_⟩
  · rw [hd]
    exact h.distinct
  · rw [hd, hn]
    exact h.given
  · intro d st' _ hst
    rw [hd] at hst
    exact ⟨st', hst, rfl⟩
  · rw [hdb]
    exact h.database
  · intro o s hs
    rw [hsession] at hs
    rw [hdb]
    exact ⟨hs, Database.Keeps.refl s _⟩
  · intro key p hkey
    rwa [hp] at hkey

theorem map_plan_modify (ms : List Migration) (place : Nat) (status : MigrationStatus) :
    (ms.modify place fun m => { m with status }).map Migration.plan = ms.map Migration.plan := by
  apply List.ext_getElem?
  intro i
  rw [List.getElem?_map, List.getElem?_modify, List.getElem?_map]
  cases ms[i]? with
  | none => rfl
  | some m =>
    by_cases h : place = i
    · simp [h, Migration.plan]
    · simp [h]

theorem Sound.sheds_setStatus (h : w.Sound) (place : Nat) (status : MigrationStatus) :
    w.Sheds (w.setStatus place status) :=
  h.sheds_of_eq rfl rfl rfl rfl (map_plan_modify _ _ _)

theorem Sound.sheds_setStatuses (h : w.Sound) (statuses : List (Nat × Migration)) :
    w.Sheds (statuses.foldl (fun w (place, m) => w.setStatus place m.status) w) := by
  induction statuses generalizing w with
  | nil => exact h.sheds_refl
  | cons e statuses ih =>
    have hset := h.sheds_setStatus e.1 e.2.status
    exact hset.trans (ih (hset.sound h))

/-! ## The database -/

theorem Sound.sheds_withDatabase (h : w.Sound) {db : Database} (hdb : db.Sound)
    (hk : ∀ o s, w.sessionOf o = some s → w.database.Keeps s db) :
    w.Sheds { w with database := db } where
  distinct := h.distinct
  given := h.given
  database := hdb
  keeps := fun o s hs => ⟨hs, hk o s hs⟩
  pending := fun _ _ hp => hp
  drivers := fun _ st' _ hd => ⟨st', hd, rfl⟩
  next := Nat.le_refl _
  plans := rfl

theorem Sound.sheds_drop (h : w.Sound) {s : Nat} (hs : ∀ o, w.sessionOf o ≠ some s) :
    w.Sheds { w with database := w.database.drop s } := by
  refine h.sheds_withDatabase (h.database.endSession s) ?_
  intro o t ht
  apply Database.keeps_endSession h.database
  rintro rfl
  exact hs o ht

/-! ## Operations -/

theorem Sound.sheds_dropPending (h : w.Sound) (key : String) :
    w.Sheds { w with pending := dropKey w.pending key } where
  distinct := h.distinct
  given := h.given
  database := h.database
  keeps := by
    intro o s hs
    refine ⟨?_, Database.Keeps.refl s _⟩
    cases o with
    | lock d => exact hs
    | operation key' =>
      rw [sessionOf, lookup_dropKey] at hs
      split at hs
      · cases hs
      · exact hs
  pending := by
    intro key' p hp
    rw [lookup_dropKey] at hp
    split at hp
    · cases hp
    · exact hp
  drivers := fun _ st' _ hd => ⟨st', hd, rfl⟩
  next := Nat.le_refl _
  plans := rfl

theorem sessionOf_dropPending (w : World) (key : String) :
    sessionOf { w with pending := dropKey w.pending key } (.operation key) = none := by
  rw [sessionOf, lookup_dropKey, if_pos rfl]
  rfl

theorem Sound.not_owned_dropPending (h : w.Sound) {key : String} {p : Pending} {s : SessionId}
    (hp : w.pending.lookup key = some p) (hs : p.held.session? = some s) (o : Owner) :
    sessionOf { w with pending := dropKey w.pending key } o ≠ some s := by
  intro ho
  have hkey : w.sessionOf (.operation key) = some s := by
    rw [sessionOf, hp]
    exact hs
  obtain rfl := h.apart o _ s ((h.sheds_dropPending key).keeps o s ho).1 hkey
  rw [sessionOf_dropPending] at ho
  cases ho

/-! ## Slots -/

theorem lookup_setSlot (w : World) (d d' : DriverId) (slot : LockSlot) :
    (w.setSlot d slot).drivers.lookup d' =
      if d' = d then (w.drivers.lookup d').map (fun st => { st with slot }) else
        w.drivers.lookup d' :=
  lookup_map_key w.drivers d d' fun st => { st with slot }

theorem slotOf_setSlot (w : World) (d d' : DriverId) (slot : LockSlot) :
    (w.setSlot d slot).slotOf d' =
      if d' = d ∧ w.drivers.lookup d ≠ none then slot else w.slotOf d' := by
  rw [slotOf, lookup_setSlot, slotOf]
  by_cases hd : d' = d
  · subst hd
    cases w.drivers.lookup d' with
    | none => simp
    | some st => simp
  · simp [hd]

theorem map_fst_setSlot (w : World) (d : DriverId) (slot : LockSlot) :
    (w.setSlot d slot).drivers.map (·.1) = w.drivers.map (·.1) :=
  map_fst_map_key w.drivers d fun st => { st with slot }

theorem driver_of_setSlot {d d' : DriverId} {slot : LockSlot} {st' : DriverState}
    (h : (w.setSlot d slot).drivers.lookup d' = some st') :
    ∃ st, w.drivers.lookup d' = some st ∧ st'.driver = st.driver ∧
      st'.slot = if d' = d then slot else st.slot := by
  rw [lookup_setSlot] at h
  split at h
  · rename_i hd
    obtain ⟨st, hst, rfl⟩ := Option.map_eq_some_iff.1 h
    exact ⟨st, hst, rfl, (if_pos hd).symm⟩
  · rename_i hd
    exact ⟨st', h, rfl, (if_neg hd).symm⟩

theorem Sound.sheds_setSlot (h : w.Sound) (d : DriverId) {slot : LockSlot}
    (hslot : ∀ s, slot.session? = some s → w.sessionOf (.lock d) = some s) :
    w.Sheds (w.setSlot d slot) where
  distinct := by
    rw [map_fst_setSlot]
    exact h.distinct
  given := by
    rw [map_fst_setSlot]
    exact h.given
  database := h.database
  keeps := by
    intro o s hs
    refine ⟨?_, Database.Keeps.refl s _⟩
    cases o with
    | operation key => exact hs
    | lock d' =>
      rw [sessionOf, slotOf_setSlot] at hs
      split at hs
      · rename_i hd
        rw [hd.1]
        exact hslot s hs
      · exact hs
  pending := fun _ _ hp => hp
  drivers := by
    intro d' st' _ hst
    obtain ⟨st, hst, he, -⟩ := driver_of_setSlot hst
    exact ⟨st, hst, he⟩
  next := Nat.le_refl _
  plans := rfl

theorem session?_abandon {slot : LockSlot} {id : LockId} {s : SessionId}
    (h : (slot.abandon id).session? = some s) : slot.session? = some s := by
  unfold LockSlot.abandon at h
  split at h
  · cases h
  · exact h

theorem Sound.sheds_abandonAttempt (h : w.Sound) (p : Pending) : w.Sheds (w.abandonAttempt p) := by
  unfold abandonAttempt
  split
  · exact h.sheds_setSlot _ fun s hs => session?_abandon hs
  · exact h.sheds_refl

theorem Sound.not_owned_freeSlot (h : w.Sound) {d : DriverId} {s : SessionId}
    (hs : w.sessionOf (.lock d) = some s) (o : Owner) :
    (w.setSlot d .free).sessionOf o ≠ some s := by
  intro ho
  have hsheds : w.Sheds (w.setSlot d .free) := h.sheds_setSlot d fun _ ht => by cases ht
  obtain rfl := h.apart o _ s (hsheds.keeps o s ho).1 hs
  rw [sessionOf, slotOf_setSlot] at ho
  split at ho
  · cases ho
  · rename_i hd
    have hnone : w.drivers.lookup d = none := by
      by_contra hne
      exact hd ⟨rfl, hne⟩
    rw [sessionOf, slotOf, hnone] at hs
    cases hs

/-! ## Cancelling -/

theorem Sound.sheds_closeSession? (h : w.Sound) {own : Option SessionId}
    (ho : ∀ s, own = some s → ∀ o, w.sessionOf o ≠ some s) : w.Sheds (w.closeSession? own).1 := by
  cases own with
  | none => exact h.sheds_refl
  | some s => exact h.sheds_drop (ho s rfl)

theorem Sound.sheds_cancel (h : w.Sound) (key : String) : w.Sheds (w.cancel key).1 := by
  unfold cancel
  cases hp : w.pending.lookup key with
  | none => exact h.sheds_refl
  | some p =>
    have hdrop := h.sheds_dropPending key
    have habandon := (hdrop.sound h).sheds_abandonAttempt p
    have hboth := hdrop.trans habandon
    refine hboth.trans ((hboth.sound h).sheds_closeSession? ?_)
    intro s hs
    exact habandon.not_owned (h.not_owned_dropPending hp hs)

theorem Sound.keeps_cancel (h : w.Sound) {key : String} {s : Nat}
    (hs : w.sessionOf (.operation key) ≠ some s) :
    w.database.Keeps s (w.cancel key).1.database := by
  unfold cancel
  cases hp : w.pending.lookup key with
  | none => exact Database.Keeps.refl s _
  | some p =>
    have hdb : (abandonAttempt { w with pending := dropKey w.pending key } p).database =
        w.database := by
      unfold abandonAttempt
      split <;> rfl
    simp only [abandon]
    cases ht : p.held.session? with
    | none =>
      simp only [closeSession?, hdb]
      exact Database.Keeps.refl s _
    | some t =>
      simp only [closeSession?, closeSession, hdb]
      apply Database.keeps_endSession h.database
      rintro rfl
      apply hs
      rw [sessionOf, hp]
      exact ht

/-! ## Drivers -/

theorem Sound.sheds_addDriver (h : w.Sound) (label : String) (driver : Driver) :
    w.Sheds (w.addDriver label driver) := by
  have hnone : w.drivers.lookup w.nextDriver = none := by
    by_contra hne
    obtain ⟨st, hst⟩ := Option.ne_none_iff_exists'.1 hne
    exact Nat.lt_irrefl _ (h.lt_of_lookup hst)
  have hlookup (d : DriverId) : (w.addDriver label driver).drivers.lookup d =
      if d = w.nextDriver then some { driver } else w.drivers.lookup d :=
    lookup_append_singleton hnone d _
  refine ⟨⟨?_, ?_⟩, ⟨?_, Nat.le_succ _, rfl⟩, h.database, ?_, fun _ _ hp => hp⟩
  · rw [addDriver, List.map_append, List.nodup_append]
    refine ⟨h.distinct, by simp, ?_⟩
    rintro d hd d' hd' rfl
    simp only [List.map_cons, List.map_nil, List.mem_singleton] at hd'
    exact Nat.ne_of_lt (h.given d hd) hd'
  · intro d hd
    rw [addDriver, List.map_append, List.mem_append] at hd
    rcases hd with hd | hd
    · exact Nat.lt_succ_of_lt (h.given d hd)
    · simp only [List.map_cons, List.map_nil, List.mem_singleton] at hd
      rw [hd]
      exact Nat.lt_succ_self _
  · intro d st' hlt hst
    rw [hlookup, if_neg (Nat.ne_of_lt hlt)] at hst
    exact ⟨st', hst, rfl⟩
  · intro o s hs
    refine ⟨?_, Database.Keeps.refl s _⟩
    cases o with
    | operation key => exact hs
    | lock d =>
      rw [sessionOf, slotOf, hlookup] at hs
      by_cases hd : d = w.nextDriver
      · rw [if_pos hd] at hs
        cases hs
      · rwa [if_neg hd] at hs

theorem keeps_foldl_drop {db : Database} (h : db.Sound) {sessions : List SessionId} {s : Nat}
    (hs : s ∉ sessions) : db.Keeps s (sessions.foldl Database.drop db) := by
  induction sessions generalizing db with
  | nil => exact Database.Keeps.refl s db
  | cons t sessions ih =>
    rw [List.mem_cons, not_or] at hs
    exact (Database.keeps_endSession h hs.1).trans (ih (h.endSession t) hs.2)

theorem sound_foldl_drop {db : Database} (h : db.Sound) (sessions : List SessionId) :
    (sessions.foldl Database.drop db).Sound := by
  induction sessions generalizing db with
  | nil => exact h
  | cons t sessions ih => exact ih (h.endSession t)

theorem slotOf_of_mem (h : w.Sound) {d : DriverId} {st : DriverState} (hd : (d, st) ∈ w.drivers) :
    w.slotOf d = st.slot := by
  rw [slotOf, lookup_eq_some_of_mem h.distinct hd]

theorem lookup_discardUnused (w : World) (d : DriverId) :
    w.discardUnused.1.drivers.lookup d = if w.isUsed d then w.drivers.lookup d else none :=
  lookup_filter_key w.drivers w.isUsed d

theorem Sound.sheds_discardUnused (h : w.Sound) : w.Sheds w.discardUnused.1 := by
  refine ⟨⟨?_, ?_⟩, ⟨?_, Nat.le_refl _, rfl⟩, sound_foldl_drop h.database _, ?_, fun _ _ hp => hp⟩
  · exact h.distinct.sublist (List.filter_sublist.map _)
  · intro d hd
    obtain ⟨e, he, rfl⟩ := List.mem_map.1 hd
    exact h.given _ (List.mem_map_of_mem (List.mem_filter.1 he).1)
  · intro d st' _ hst
    rw [lookup_discardUnused] at hst
    split at hst
    · exact ⟨st', hst, rfl⟩
    · cases hst
  · intro o s hs
    have hbefore : w.sessionOf o = some s ∧ ∀ d, o = .lock d → w.isUsed d = true := by
      cases o with
      | operation key => exact ⟨hs, fun _ hd => by cases hd⟩
      | lock d =>
        rw [sessionOf, slotOf, lookup_discardUnused] at hs
        by_cases hd : w.isUsed d = true
        · rw [if_pos hd] at hs
          refine ⟨hs, ?_⟩
          rintro _ ⟨⟩
          exact hd
        · rw [if_neg hd] at hs
          cases hs
    -- A session that is dropped belongs to an unused driver, so to nobody that is left.
    refine ⟨hbefore.1, keeps_foldl_drop h.database ?_⟩
    intro hmem
    obtain ⟨⟨d, st⟩, hd, hst⟩ := List.mem_filterMap.1 hmem
    obtain ⟨hd, hunused⟩ := List.mem_filter.1 hd
    have hlock : w.sessionOf (.lock d) = some s := by
      rw [sessionOf, slotOf_of_mem h hd]
      exact hst
    have hused := hbefore.2 d (h.apart o _ s hbefore.1 hlock)
    simp [hused] at hunused

end World

end SchemaMigration
