import SchemaMigration.Proofs.Keyed

/-!
# Sessions and their locks

What holds of every database that was reached by calls: sessions are numbered in the order in which
they began, and a lock belongs to an open session. A call touches its own session and no other.
-/

namespace SchemaMigration

namespace Database

def IsOpen (db : Database) (s : SessionId) : Prop := ∃ ws, db.sessions.lookup s = some ws

structure Sound (db : Database) : Prop where
  numbered : ∀ s : Nat, db.IsOpen s → s ≤ db.begun
  owned : ∀ lock s, (lock, s) ∈ db.locks → db.IsOpen s
  single : (db.locks.map (·.1)).Nodup

/-- The second database is one that others may have changed, but nothing that session `s` has. -/
structure Keeps (s : SessionId) (db e : Database) : Prop where
  writes : e.sessions.lookup s = db.sessions.lookup s
  locks : ∀ lock, e.locks.lookup lock = some s ↔ db.locks.lookup lock = some s
  begun : db.begun ≤ e.begun

variable {db e e' : Database} {s t : Nat}

namespace Keeps

theorem refl (s : SessionId) (db : Database) : Keeps s db db :=
  ⟨rfl, fun _ => Iff.rfl, Nat.le_refl _⟩

theorem trans (h : Keeps s db e) (h' : Keeps s e e') : Keeps s db e' :=
  ⟨h'.writes.trans h.writes, fun lock => (h'.locks lock).trans (h.locks lock),
    Nat.le_trans h.begun h'.begun⟩

theorem isOpen_iff (h : Keeps s db e) : e.IsOpen s ↔ db.IsOpen s := by
  unfold IsOpen
  rw [h.writes]

end Keeps

/-- Work of any kind: a session that is not open any more has not been opened again. -/
structure Ages (db e : Database) : Prop where
  begun : db.begun ≤ e.begun
  opens : ∀ t : Nat, e.IsOpen t → db.IsOpen t ∨ db.begun < t

namespace Ages

theorem refl (db : Database) : Ages db db := ⟨Nat.le_refl _, fun _ ht => Or.inl ht⟩

theorem trans (h : Ages db e) (h' : Ages e e') : Ages db e' where
  begun := Nat.le_trans h.begun h'.begun
  opens := by
    intro t ht
    rcases h'.opens t ht with ht | hlt
    · exact h.opens t ht
    · exact Or.inr (Nat.lt_of_le_of_lt h.begun hlt)

theorem isOpen (h : Ages db e) (ht : e.IsOpen t) (hb : t ≤ db.begun) : db.IsOpen t :=
  (h.opens t ht).resolve_right (Nat.not_lt_of_le hb)

end Ages

theorem IsOpen.apart_or_own (h : db.IsOpen t) (own : Option SessionId) :
    (db.IsOpen t ∧ own ≠ some t) ∨ own = some t := by
  by_cases hown : own = some t
  · exact Or.inr hown
  · exact Or.inl ⟨h, hown⟩

/-! ## Changing the rules -/

def asked (db : Database) (c : Call) : Database :=
  { db with rules := (consultRules c db.rules).2 }

section

variable (c : Call)

@[simp] theorem asked_rows : (db.asked c).rows = db.rows := rfl

@[simp] theorem asked_sessions : (db.asked c).sessions = db.sessions := rfl

end

theorem Sound.withRules (h : db.Sound) (rules : List Rule) : Sound { db with rules } :=
  ⟨h.numbered, h.owned, h.single⟩

theorem Sound.asked (h : db.Sound) (c : Call) : (db.asked c).Sound := h.withRules _

theorem keeps_withRules (s : SessionId) (db : Database) (rules : List Rule) :
    Keeps s db { db with rules } := ⟨rfl, fun _ => Iff.rfl, Nat.le_refl _⟩

theorem keeps_asked (s : SessionId) (db : Database) (c : Call) : Keeps s db (db.asked c) :=
  keeps_withRules s db _

theorem ages_asked (db : Database) (c : Call) : Ages db (db.asked c) :=
  ⟨Nat.le_refl _, fun _ ht => Or.inl ht⟩

/-! ## Beginning -/

theorem not_isOpen_succ (h : db.Sound) : ¬ db.IsOpen (db.begun + 1) := by
  intro ho
  have := h.numbered _ ho
  omega

theorem lookup_openSession (h : db.Sound) (t : Nat) :
    db.openSession.sessions.lookup t =
      if t = db.begun + 1 then some [] else db.sessions.lookup t := by
  apply lookup_append_singleton
  by_contra hne
  obtain ⟨ws, hws⟩ := Option.ne_none_iff_exists'.1 hne
  exact not_isOpen_succ h ⟨ws, hws⟩

theorem isOpen_openSession_iff (h : db.Sound) :
    db.openSession.IsOpen t ↔ t = db.begun + 1 ∨ db.IsOpen t := by
  unfold IsOpen
  rw [lookup_openSession h]
  by_cases ht : t = db.begun + 1
  · simp [ht]
  · simp [ht]

theorem Sound.openSession (h : db.Sound) : db.openSession.Sound where
  numbered := by
    intro t ht
    rcases (isOpen_openSession_iff h).1 ht with rfl | ht
    · exact Nat.le_refl _
    · exact Nat.le_trans (h.numbered t ht) (Nat.le_succ _)
  owned := fun lock t ht => (isOpen_openSession_iff h).2 (Or.inr (h.owned lock t ht))
  single := h.single

theorem keeps_openSession (h : db.Sound) (ht : t ≤ db.begun) : Keeps t db db.openSession where
  writes := by rw [lookup_openSession h, if_neg (by omega)]
  locks := fun _ => Iff.rfl
  begun := Nat.le_succ _

/-! ## Ending -/

theorem lookup_endSession (db : Database) (s t : SessionId) :
    (db.endSession s).sessions.lookup t = if t = s then none else db.sessions.lookup t := by
  have h := lookup_filter_key db.sessions (fun i => decide (i ≠ s)) t
  rw [endSession, h]
  by_cases ht : t = s
  · simp [ht]
  · simp [ht]

theorem isOpen_endSession_iff : (db.endSession s).IsOpen t ↔ t ≠ s ∧ db.IsOpen t := by
  unfold IsOpen
  rw [lookup_endSession]
  by_cases ht : t = s
  · simp [ht]
  · simp [ht]

theorem Sound.endSession (h : db.Sound) (s : SessionId) : (db.endSession s).Sound where
  numbered := fun t ht => h.numbered t (isOpen_endSession_iff.1 ht).2
  owned := by
    intro lock t ht
    obtain ⟨hm, hne⟩ := List.mem_filter.1 ht
    exact isOpen_endSession_iff.2 ⟨by simpa using hne, h.owned lock t hm⟩
  single := h.single.sublist (List.filter_sublist.map _)

theorem ages_endSession (db : Database) (s : SessionId) : Ages db (db.endSession s) :=
  ⟨Nat.le_refl _, fun _ ht => Or.inl (isOpen_endSession_iff.1 ht).2⟩

theorem keeps_endSession (h : db.Sound) (ht : t ≠ s) : Keeps t db (db.endSession s) where
  writes := by rw [lookup_endSession, if_neg ht]
  locks := by
    intro lock
    have hf := lookup_filter_value h.single (fun i => decide (i ≠ s)) lock
    rw [Database.endSession, hf, Option.filter_eq_some_iff]
    simp [ht]
  begun := Nat.le_refl _

theorem Sound.commit (h : db.Sound) (s : SessionId) : (db.commit s).Sound :=
  ⟨(h.endSession s).numbered, (h.endSession s).owned, (h.endSession s).single⟩

theorem keeps_commit (h : db.Sound) (ht : t ≠ s) : Keeps t db (db.commit s) :=
  ⟨(keeps_endSession h ht).writes, (keeps_endSession h ht).locks, Nat.le_refl _⟩

/-! ## Staging -/

theorem lookup_stage (db : Database) (s t : SessionId) (w : RowWrite) :
    (db.stage s w).sessions.lookup t =
      if t = s then (db.sessions.lookup t).map (· ++ [w]) else db.sessions.lookup t :=
  lookup_map_key db.sessions s t (· ++ [w])

theorem isOpen_stage_iff {w : RowWrite} : (db.stage s w).IsOpen t ↔ db.IsOpen t := by
  unfold IsOpen
  rw [lookup_stage]
  by_cases ht : t = s
  · simp [ht]
  · simp [ht]

theorem Sound.stage (h : db.Sound) (s : SessionId) (w : RowWrite) : (db.stage s w).Sound where
  numbered := fun t ht => h.numbered t (isOpen_stage_iff.1 ht)
  owned := fun lock t ht => isOpen_stage_iff.2 (h.owned lock t ht)
  single := h.single

theorem keeps_stage {w : RowWrite} (ht : t ≠ s) : Keeps t db (db.stage s w) where
  writes := by rw [lookup_stage, if_neg ht]
  locks := fun _ => Iff.rfl
  begun := Nat.le_refl _

/-! ## Locks -/

theorem grant?_eq_some {lock : String} (h : db.grant? s lock = some e) :
    (db.locks.lookup lock = none ∧ e = { db with locks := db.locks ++ [(lock, s)] }) ∨
      (db.locks.lookup lock = some s ∧ e = db) := by
  unfold grant? at h
  split at h
  · rename_i hnone
    cases h
    exact Or.inl ⟨hnone, rfl⟩
  · rename_i owner howner
    split_ifs at h with ho
    cases h
    exact Or.inr ⟨by rw [howner, ho], rfl⟩

theorem lookup_of_grant? {lock : String} (h : db.grant? s lock = some e) :
    e.locks.lookup lock = some s := by
  rcases grant?_eq_some h with ⟨hnone, rfl⟩ | ⟨hs, rfl⟩
  · rw [lookup_append_singleton hnone, if_pos rfl]
  · exact hs

theorem sessions_of_grant? {lock : String} (h : db.grant? s lock = some e) :
    e.sessions = db.sessions := by
  rcases grant?_eq_some h with ⟨-, rfl⟩ | ⟨-, rfl⟩ <;> rfl

theorem rows_of_grant? {lock : String} (h : db.grant? s lock = some e) : e.rows = db.rows := by
  rcases grant?_eq_some h with ⟨-, rfl⟩ | ⟨-, rfl⟩ <;> rfl

theorem begun_of_grant? {lock : String} (h : db.grant? s lock = some e) : e.begun = db.begun := by
  rcases grant?_eq_some h with ⟨-, rfl⟩ | ⟨-, rfl⟩ <;> rfl

theorem isOpen_grant?_iff {lock : String} (h : db.grant? s lock = some e) :
    e.IsOpen t ↔ db.IsOpen t := by
  unfold IsOpen
  rw [sessions_of_grant? h]

theorem ages_of_grant? {lock : String} (h : db.grant? s lock = some e) : Ages db e :=
  ⟨Nat.le_of_eq (begun_of_grant? h).symm, fun _ ht => Or.inl ((isOpen_grant?_iff h).1 ht)⟩

theorem Sound.grant? (h : db.Sound) (hs : db.IsOpen s) {lock : String}
    (hg : db.grant? s lock = some e) : e.Sound := by
  rcases grant?_eq_some hg with ⟨hnone, rfl⟩ | ⟨-, rfl⟩
  · refine ⟨h.numbered, ?_, ?_⟩
    · intro lock' t ht
      rcases List.mem_append.1 ht with ht | ht
      · exact h.owned lock' t ht
      · cases List.mem_singleton.1 ht
        exact hs
    · rw [List.map_append, List.nodup_append]
      refine ⟨h.single, by simp, ?_⟩
      rintro lock' hl _ hs rfl
      simp only [List.map_cons, List.map_nil, List.mem_singleton] at hs
      subst hs
      exact lookup_ne_none_of_mem hl hnone
  · exact h

theorem keeps_grant? {lock : String} (hg : db.grant? s lock = some e) (ht : t ≠ s) :
    Keeps t db e where
  writes := by rw [sessions_of_grant? hg]
  locks := by
    intro lock'
    rcases grant?_eq_some hg with ⟨hnone, rfl⟩ | ⟨-, rfl⟩
    · rw [lookup_append_singleton hnone]
      by_cases hl : lock' = lock
      · subst hl
        simp [hnone, Ne.symm ht]
      · simp [hl]
    · exact Iff.rfl
  begun := Nat.le_of_eq (begun_of_grant? hg).symm

theorem Sound.free (h : db.Sound) (s : SessionId) (lock : String) : (db.free s lock).2.Sound := by
  unfold Database.free
  split_ifs
  · exact ⟨h.numbered, fun lock' t ht => h.owned lock' t (List.mem_filter.1 ht).1,
      h.single.sublist (List.filter_sublist.map _)⟩
  · exact h

theorem keeps_free {lock : String} (ht : t ≠ s) : Keeps t db (db.free s lock).2 := by
  unfold free
  split_ifs with hs
  · refine ⟨rfl, ?_, Nat.le_refl _⟩
    intro lock'
    have hf := lookup_filter_key db.locks (fun i => decide (i ≠ lock)) lock'
    rw [hf]
    by_cases hl : lock' = lock
    · subst hl
      simp [hs, Ne.symm ht]
    · simp [hl]
  · exact Keeps.refl t db

theorem sessions_free (db : Database) (s : SessionId) (lock : String) :
    (db.free s lock).2.sessions = db.sessions := by
  unfold free
  split_ifs <;> rfl

theorem begun_free (db : Database) (s : SessionId) (lock : String) :
    (db.free s lock).2.begun = db.begun := by
  unfold free
  split_ifs <;> rfl

end Database

end SchemaMigration
