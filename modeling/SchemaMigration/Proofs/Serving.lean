import SchemaMigration.Proofs.Sessions

/-!
# What a call does

What the scripted database can answer to each kind of call, and what the call leaves behind. Only a
lock can be waited for, and only a commit writes rows.
-/

namespace SchemaMigration

/-- Whether a rule's reply is the answer to a call: rows to a query, a result to a statement. -/
def Call.Prescribes : (c : Call) → RuleReply → c.Answer → Prop
  | .query _ _ _, .rows rows, a => a = rows
  | .execute _ _, .result r, a => a = r
  | .executeWith _ _ _, .result r, a => a = r
  | _, _, _ => False

/-- The session that a program is left with once a call is answered. -/
def Call.leaves : (c : Call) → Except DbError c.Answer → Option SessionId
  | .begin _, .ok s => some s
  | .begin _, .error _ => none
  | .execute s _, _ | .query s _ _, _ => s
  | .executeWith s _ _, _ => some s
  | .commit _, _ | .rollback _, _ => none

namespace Database

/-- The reply of the first rule that decides a call. -/
def ruled (db : Database) (c : Call) : Option RuleReply := (consultRules c db.rules).1

theorem serve_cases (db : Database) (c : Call) :
    db.serve c = .blocked (db.asked c) ∨
      (∃ e, db.serve c = (db.asked c).fail e c) ∨
      db.serve c = (db.asked c).usual c ∨
      ∃ reply a, db.ruled c = some reply ∧ c.Prescribes reply a ∧
        db.serve c = .answered (.ok a) (db.asked c) := by
  unfold serve ruled asked
  rcases consultRules c db.rules with ⟨_ | reply, rules⟩
  · exact Or.inr (Or.inr (Or.inl rfl))
  · cases reply with
    | fail e => exact Or.inr (Or.inl ⟨e, rfl⟩)
    | block => exact Or.inl rfl
    | rows rows =>
      cases c with
      | query s q ps => exact Or.inr (Or.inr (Or.inr ⟨_, rows, rfl, rfl, rfl⟩))
      | _ => exact Or.inr (Or.inr (Or.inl rfl))
    | result r =>
      cases c with
      | execute s q => exact Or.inr (Or.inr (Or.inr ⟨_, r, rfl, rfl, rfl⟩))
      | executeWith s q ps => exact Or.inr (Or.inr (Or.inr ⟨_, r, rfl, rfl, rfl⟩))
      | _ => exact Or.inr (Or.inr (Or.inl rfl))

theorem serve_of_not_ruled {db : Database} {c : Call} (h : db.ruled c = none) :
    db.serve c = (db.asked c).usual c := by
  unfold ruled at h
  unfold serve asked
  rcases hconsult : consultRules c db.rules with ⟨reply, rules⟩
  rw [hconsult] at h
  cases h
  rfl

variable {db db' : Database} {s : SessionId}

/-! ## Each kind of call -/

theorem serve_begin {options : TxOptions} {r : Except DbError SessionId}
    (h : db.serve (.begin options) = .answered r db') :
    (∃ e, r = .error e ∧ db' = db.asked (.begin options)) ∨
      (r = .ok (db.begun + 1) ∧ db' = (db.asked (.begin options)).openSession) := by
  rcases serve_cases db (.begin options) with hs | ⟨e, hs⟩ | hs | ⟨reply, a, -, hp, -⟩
  · cases h.symm.trans hs
  · cases h.symm.trans hs
    exact Or.inl ⟨e, rfl, rfl⟩
  · cases h.symm.trans hs
    exact Or.inr ⟨rfl, rfl⟩
  · exact hp.elim

theorem serve_execute {s : Option SessionId} {q : Command} {r : Except DbError ExecResult}
    (h : db.serve (.execute s q) = .answered r db') : db' = db.asked (.execute s q) := by
  rcases serve_cases db (.execute s q) with hs | ⟨e, hs⟩ | hs | ⟨reply, a, -, -, hs⟩
  · cases h.symm.trans hs
  · cases h.symm.trans hs
    rfl
  · cases s <;> cases h.symm.trans hs <;> rfl
  · cases h.symm.trans hs
    rfl

theorem serve_executeWith {q : Command} {ps : List SqlValue} {r : Except DbError ExecResult}
    (h : db.serve (.executeWith s q ps) = .answered r db') :
    (∃ e, r = .error e ∧ db' = db.asked (.executeWith s q ps)) ∨
      (∃ x, db.ruled (.executeWith s q ps) = some (.result x) ∧
        db' = db.asked (.executeWith s q ps)) ∨
      (rowWrite? q.text ps = none ∧ (∃ x, r = .ok x) ∧ db' = db.asked (.executeWith s q ps)) ∨
      ∃ w, rowWrite? q.text ps = some w ∧ (∃ x, r = .ok x) ∧
        db' = (db.asked (.executeWith s q ps)).stage s w := by
  rcases serve_cases db (.executeWith s q ps) with hs | ⟨e, hs⟩ | hs | ⟨reply, a, hr, hp, hs⟩
  · cases h.symm.trans hs
  · cases h.symm.trans hs
    exact Or.inl ⟨e, rfl, rfl⟩
  · right; right
    have hu := h.symm.trans hs
    simp only [usual] at hu
    split at hu
    · rename_i w hw
      cases hu
      exact Or.inr ⟨w, hw, ⟨_, rfl⟩, rfl⟩
    · rename_i hw
      cases hu
      exact Or.inl ⟨hw, ⟨_, rfl⟩, rfl⟩
  · cases h.symm.trans hs
    cases reply with
    | result x => exact Or.inr (Or.inl ⟨x, hr, rfl⟩)
    | _ => exact hp.elim

theorem serve_query {s : Option SessionId} {q : Command} {ps : List SqlValue}
    {v : Verdict (List Row)} (h : db.serve (.query s q ps) = v) :
    v = .blocked (db.asked (.query s q ps)) ∨
      (∃ e, v = .answered (.error e) (db.asked (.query s q ps))) ∨
      (∃ rows, db.ruled (.query s q ps) = some (.rows rows) ∧
        v = .answered (.ok rows) (db.asked (.query s q ps))) ∨
      v = (db.asked (.query s q ps)).answerQuery s q.text ps := by
  subst h
  rcases serve_cases db (.query s q ps) with hs | ⟨e, hs⟩ | hs | ⟨reply, a, hr, hp, hs⟩
  · exact Or.inl hs
  · exact Or.inr (Or.inl ⟨e, hs⟩)
  · exact Or.inr (Or.inr (Or.inr hs))
  · cases reply with
    | rows told =>
      cases hp
      exact Or.inr (Or.inr (Or.inl ⟨a, hr, hs⟩))
    | _ => exact hp.elim

theorem serve_commit {r : Except DbError Unit} (h : db.serve (.commit s) = .answered r db') :
    (∃ e, r = .error e ∧ db' = (db.asked (.commit s)).endSession s) ∨
      (r = .ok () ∧ db' = (db.asked (.commit s)).commit s) := by
  rcases serve_cases db (.commit s) with hs | ⟨e, hs⟩ | hs | ⟨reply, a, -, hp, -⟩
  · cases h.symm.trans hs
  · cases h.symm.trans hs
    exact Or.inl ⟨e, rfl, rfl⟩
  · cases h.symm.trans hs
    exact Or.inr ⟨rfl, rfl⟩
  · exact hp.elim

theorem serve_rollback {r : Except DbError Unit} (h : db.serve (.rollback s) = .answered r db') :
    db' = (db.asked (.rollback s)).endSession s := by
  rcases serve_cases db (.rollback s) with hs | ⟨e, hs⟩ | hs | ⟨reply, a, -, hp, -⟩
  · cases h.symm.trans hs
  · cases h.symm.trans hs
    rfl
  · cases h.symm.trans hs
    rfl
  · exact hp.elim

/-! ## The usual answer to a query -/

theorem answerQuery_cases (db : Database) (s : Option SessionId) (sql : String)
    (ps : List SqlValue) :
    (∃ rows, db.answerQuery s sql ps = .answered (.ok rows) db) ∨
      ∃ t lock, s = some t ∧ ps = [.text lock] ∧
        ((∃ e, db.grant? t lock = some e ∧
            db.answerQuery s sql ps = .answered (.ok [[.int 1]]) e) ∨
          (startsWithText "SELECT GET_LOCK" sql = true ∧
            db.answerQuery s sql ps = .waiting t lock [[.int 1]] db) ∨
          db.answerQuery s sql ps = .answered (.ok (db.free t lock).1) (db.free t lock).2) := by
  unfold answerQuery
  by_cases hload : startsWithText "SELECT library, migration, done FROM " sql = true
  · rw [if_pos hload]
    exact Or.inl ⟨_, rfl⟩
  rw [if_neg hload]
  split
  · rename_i t lock
    by_cases htake : startsWithText "SELECT GET_LOCK" sql = true
    · rw [if_pos htake]
      refine Or.inr ⟨t, lock, rfl, rfl, ?_⟩
      cases hg : db.grant? t lock with
      | some e => exact Or.inl ⟨e, rfl, rfl⟩
      | none => exact Or.inr (Or.inl ⟨htake, rfl⟩)
    rw [if_neg htake]
    by_cases hfree : startsWithText "SELECT RELEASE_LOCK" sql = true
    · rw [if_pos hfree]
      exact Or.inr ⟨t, lock, rfl, rfl, Or.inr (Or.inr rfl)⟩
    · rw [if_neg hfree]
      exact Or.inl ⟨_, rfl⟩
  · exact Or.inl ⟨_, rfl⟩

/-! ## Any call -/

theorem serve_blocked {c : Call} (h : db.serve c = .blocked db') : db' = db.asked c := by
  rcases serve_cases db c with hs | ⟨e, hs⟩ | hs | ⟨reply, a, -, -, hs⟩
  · cases h.symm.trans hs
    rfl
  · cases c <;> cases h.symm.trans hs
  · have hu := h.symm.trans hs
    cases c with
    | execute s q => cases s <;> cases hu
    | executeWith s q ps =>
      simp only [usual] at hu
      split at hu <;> cases hu
    | query s q ps =>
      rcases answerQuery_cases (db.asked (.query s q ps)) s q.text ps with
        ⟨rows, ha⟩ | ⟨t, lock, -, -, ⟨e, -, ha⟩ | ⟨-, ha⟩ | ha⟩ <;> cases hu.trans ha
    | _ => cases hu
  · cases h.symm.trans hs

theorem serve_waiting {c : Call} {t : SessionId} {lock : String} {a : c.Answer}
    (h : db.serve c = .waiting t lock a db') :
    c.kind = .query ∧ c.session? = some t ∧ c.leaves (.ok a) = some t ∧ db' = db.asked c := by
  rcases serve_cases db c with hs | ⟨e, hs⟩ | hs | ⟨reply, a, -, -, hs⟩
  · cases h.symm.trans hs
  · cases c <;> cases h.symm.trans hs
  · have hu := h.symm.trans hs
    cases c with
    | execute s q => cases s <;> cases hu
    | executeWith s q ps =>
      simp only [usual] at hu
      split at hu <;> cases hu
    | query s q ps =>
      rcases answerQuery_cases (db.asked (.query s q ps)) s q.text ps with
        ⟨rows, ha⟩ | ⟨t, lock, rfl, -, ⟨e, -, ha⟩ | ⟨-, ha⟩ | ha⟩ <;> cases hu.trans ha
      exact ⟨rfl, rfl, rfl, rfl⟩
    | _ => cases hu
  · cases h.symm.trans hs

/--
Work on the database that came with the session `own`, if any, and is left with `left`: it may have
done anything with those, and has kept all else.
-/
structure Moves (own left : Option SessionId) (db db' : Database) : Prop where
  sound : db'.Sound
  keeps : ∀ t : Nat, t ≤ db.begun → own ≠ some t → Keeps t db db'
  begun : db.begun ≤ db'.begun
  session : ∀ t : Nat, left = some t → db'.IsOpen t ∧ (own = some t ∨ db.begun < t)

theorem Moves.refl {own : Option SessionId} (h : db.Sound) (ho : ∀ t, own = some t → db.IsOpen t) :
    Moves own own db db :=
  ⟨h, fun t _ _ => Keeps.refl t db, Nat.le_refl _, fun t ht => ⟨ho t ht, Or.inl ht⟩⟩

theorem Moves.trans {own mid left : Option SessionId} {db'' : Database} (h : Moves own mid db db')
    (h' : Moves mid left db' db'') : Moves own left db db'' where
  sound := h'.sound
  keeps := by
    intro t ht hne
    refine (h.keeps t ht hne).trans (h'.keeps t (Nat.le_trans ht h.begun) ?_)
    intro hm
    rcases (h.session t hm).2 with ho | hlt
    · exact hne ho
    · omega
  begun := Nat.le_trans h.begun h'.begun
  session := by
    intro t ht
    obtain ⟨hopen, hm | hlt⟩ := h'.session t ht
    · exact ⟨hopen, (h.session t hm).2⟩
    · exact ⟨hopen, Or.inr (Nat.lt_of_le_of_lt h.begun hlt)⟩

theorem Moves.asked {own : Option SessionId} (c : Call) (h : db.Sound)
    (ho : ∀ t, own = some t → db.IsOpen t) : Moves own own db (db.asked c) :=
  ⟨h.asked c, fun t _ _ => keeps_asked t db c, Nat.le_refl _, fun t ht => ⟨ho t ht, Or.inl ht⟩⟩

theorem Moves.locks {s : Nat} (hse : db'.sessions = db.sessions) (hb : db'.begun = db.begun)
    (hs : db'.Sound) (hk : ∀ t : Nat, t ≠ s → Keeps t db db') (ho : db.IsOpen s) :
    Moves (some s) (some s) db db' where
  sound := hs
  keeps := by
    intro t _ hne
    apply hk
    rintro rfl
    exact hne rfl
  begun := Nat.le_of_eq hb.symm
  session := by
    rintro t ⟨⟩
    unfold IsOpen
    rw [hse]
    exact ⟨ho, Or.inl rfl⟩

theorem Moves.ended (h : db.Sound) (s : Nat) : Moves (some s) none db (db.endSession s) where
  sound := h.endSession s
  keeps := by
    intro t _ hne
    apply keeps_endSession h
    rintro rfl
    exact hne rfl
  begun := Nat.le_refl _
  session := fun _ ht => by cases ht

theorem query_moves {s : Option SessionId} {q : Command} {ps : List SqlValue}
    {r : Except DbError (List Row)} (h : db.Sound) (ho : ∀ t, s = some t → db.IsOpen t)
    (hv : db.serve (.query s q ps) = .answered r db') : Moves s s db db' := by
  have same : Moves s s db (db.asked (.query s q ps)) := .asked _ h ho
  rcases serve_query hv with hb | ⟨e, he⟩ | ⟨rows, -, he⟩ | hu
  · cases hb
  · cases he
    exact same
  · cases he
    exact same
  rcases answerQuery_cases (db.asked (.query s q ps)) s q.text ps with
    ⟨rows, he⟩ | ⟨u, lock, rfl, -, ⟨e, hg, he⟩ | ⟨-, he⟩ | he⟩
  · cases hu.trans he
    exact same
  · cases hu.trans he
    refine same.trans (.locks (sessions_of_grant? hg) (begun_of_grant? hg) ?_ ?_ (ho u rfl))
    · exact (h.asked _).grant? (ho u rfl) hg
    · exact fun t ht => keeps_grant? hg ht
  · cases hu.trans he
  · cases hu.trans he
    refine same.trans (.locks (sessions_free _ u lock) (begun_free _ u lock) ?_ ?_ (ho u rfl))
    · exact (h.asked _).free u lock
    · exact fun t ht => keeps_free ht

theorem serve_moves {c : Call} {r : Except DbError c.Answer} (h : db.Sound)
    (ho : ∀ t, c.session? = some t → db.IsOpen t) (hv : db.serve c = .answered r db') :
    Moves c.session? (c.leaves r) db db' := by
  have ha := h.asked c
  cases c with
  | begin options =>
    rcases serve_begin hv with ⟨e, rfl, rfl⟩ | ⟨rfl, rfl⟩
    · exact .asked _ h ho
    · refine ⟨ha.openSession, ?_, Nat.le_succ _, ?_⟩
      · intro t ht _
        exact (keeps_asked t db _).trans (keeps_openSession ha ht)
      · rintro t ⟨⟩
        exact ⟨(isOpen_openSession_iff ha).2 (Or.inl rfl), Or.inr (Nat.lt_succ_self _)⟩
  | execute s q =>
    obtain rfl := serve_execute hv
    exact .asked _ h ho
  | executeWith s q ps =>
    rcases serve_executeWith hv with ⟨e, -, rfl⟩ | ⟨x, -, rfl⟩ | ⟨-, -, rfl⟩ | ⟨w, -, -, rfl⟩
    · exact .asked _ h ho
    · exact .asked _ h ho
    · exact .asked _ h ho
    · refine ⟨ha.stage s w, ?_, Nat.le_refl _, fun t ht => ⟨?_, Or.inl ht⟩⟩
      · intro t _ hne
        refine (keeps_asked t db _).trans (keeps_stage ?_)
        rintro rfl
        exact hne rfl
      · exact isOpen_stage_iff.2 (ho t ht)
  | query s q ps => exact query_moves h ho hv
  | commit s =>
    have asked : Moves (some s) (some s) db (db.asked (.commit s)) := .asked _ h ho
    rcases serve_commit hv with ⟨e, -, rfl⟩ | ⟨-, rfl⟩
    · exact asked.trans (.ended ha s)
    · refine asked.trans ⟨ha.commit s, ?_, Nat.le_refl _, fun _ ht => by cases ht⟩
      intro t _ hne
      apply keeps_commit ha
      rintro rfl
      exact hne rfl
  | rollback s =>
    obtain rfl := serve_rollback hv
    have asked : Moves (some s) (some s) db (db.asked (.rollback s)) := .asked _ h ho
    exact asked.trans (.ended ha s)

theorem serve_query_keeps {s : Option SessionId} {q : Command} {ps : List SqlValue}
    {r : Except DbError (List Row)} (hv : db.serve (.query s q ps) = .answered r db') :
    ∃ locks, db' = { db.asked (.query s q ps) with locks } := by
  rcases serve_query hv with hb | ⟨e, he⟩ | ⟨rows, -, he⟩ | hu
  · cases hb
  · cases he
    exact ⟨_, rfl⟩
  · cases he
    exact ⟨_, rfl⟩
  rcases answerQuery_cases (db.asked (.query s q ps)) s q.text ps with
    ⟨rows, he⟩ | ⟨u, lock, -, -, ⟨e, hg, he⟩ | ⟨-, he⟩ | he⟩
  · cases hu.trans he
    exact ⟨_, rfl⟩
  · cases hu.trans he
    rcases grant?_eq_some hg with ⟨-, rfl⟩ | ⟨-, rfl⟩
    · exact ⟨_, rfl⟩
    · exact ⟨_, rfl⟩
  · cases hu.trans he
  · cases hu.trans he
    unfold free
    split_ifs
    · exact ⟨_, rfl⟩
    · exact ⟨_, rfl⟩

theorem rows_of_serve {c : Call} {r : Except DbError c.Answer} (hc : c.kind ≠ .commit)
    (hv : db.serve c = .answered r db') : db'.rows = db.rows := by
  cases c with
  | begin options =>
    rcases serve_begin hv with ⟨e, -, rfl⟩ | ⟨-, rfl⟩ <;> rfl
  | execute s q =>
    obtain rfl := serve_execute hv
    rfl
  | executeWith s q ps =>
    rcases serve_executeWith hv with ⟨e, -, rfl⟩ | ⟨x, -, rfl⟩ | ⟨-, -, rfl⟩ | ⟨w, -, -, rfl⟩ <;>
      rfl
  | query s q ps =>
    obtain ⟨locks, rfl⟩ := serve_query_keeps hv
    rfl
  | commit s => exact absurd rfl hc
  | rollback s =>
    obtain rfl := serve_rollback hv
    rfl

/-! ## Numbers -/

theorem serve_opens {c : Call} {r : Except DbError c.Answer} (hv : db.serve c = .answered r db') :
    db.begun ≤ db'.begun ∧ (∀ t : Nat, db'.IsOpen t → db.IsOpen t ∨ db.begun < t) ∧
      ∀ t : Nat, c.leaves r = some t → c.session? = some t ∨ db.begun < t ∧ t ≤ db'.begun := by
  have same : db.begun ≤ db.begun ∧ (∀ t : Nat, db.IsOpen t → db.IsOpen t ∨ db.begun < t) :=
    ⟨Nat.le_refl _, fun _ ht => Or.inl ht⟩
  cases c with
  | begin options =>
    rcases serve_begin hv with ⟨e, rfl, rfl⟩ | ⟨rfl, rfl⟩
    · exact ⟨same.1, same.2, fun _ ht => by cases ht⟩
    · refine ⟨Nat.le_succ _, ?_, ?_⟩
      · rintro t ⟨ws, hws⟩
        have happend : (db.sessions ++ [(db.begun + 1, [])]).lookup t = some ws := hws
        rw [List.lookup_append, Option.or_eq_some_iff] at happend
        rcases happend with hold | ⟨-, hnew⟩
        · exact Or.inl ⟨ws, hold⟩
        · rw [lookup_cons_ite] at hnew
          split at hnew
          · omega
          · cases hnew
      · rintro t ⟨⟩
        exact Or.inr ⟨Nat.lt_succ_self _, Nat.le_refl _⟩
  | execute s q =>
    obtain rfl := serve_execute hv
    exact ⟨same.1, same.2, fun _ ht => Or.inl ht⟩
  | executeWith s q ps =>
    rcases serve_executeWith hv with ⟨e, -, rfl⟩ | ⟨x, -, rfl⟩ | ⟨-, -, rfl⟩ | ⟨w, -, -, rfl⟩
    · exact ⟨same.1, same.2, fun _ ht => Or.inl ht⟩
    · exact ⟨same.1, same.2, fun _ ht => Or.inl ht⟩
    · exact ⟨same.1, same.2, fun _ ht => Or.inl ht⟩
    · exact ⟨Nat.le_refl _, fun t ht => Or.inl (isOpen_stage_iff.1 ht), fun _ ht => Or.inl ht⟩
  | query s q ps =>
    obtain ⟨locks, rfl⟩ := serve_query_keeps hv
    exact ⟨same.1, same.2, fun _ ht => Or.inl ht⟩
  | commit s =>
    rcases serve_commit hv with ⟨e, -, rfl⟩ | ⟨-, rfl⟩
    · exact ⟨Nat.le_refl _, fun t ht => Or.inl (isOpen_endSession_iff.1 ht).2,
        fun _ ht => by cases ht⟩
    · refine ⟨Nat.le_refl _, fun t ht => ?_, fun _ ht => by cases ht⟩
      have hend : ((db.asked (.commit s)).endSession s).IsOpen t := ht
      exact Or.inl (isOpen_endSession_iff.1 hend).2
  | rollback s =>
    obtain rfl := serve_rollback hv
    exact ⟨Nat.le_refl _, fun t ht => Or.inl (isOpen_endSession_iff.1 ht).2,
      fun _ ht => by cases ht⟩

theorem serve_ages {c : Call} {r : Except DbError c.Answer} (hv : db.serve c = .answered r db') :
    Ages db db' := by
  obtain ⟨hbegun, hopens, -⟩ := serve_opens hv
  exact ⟨hbegun, hopens⟩

theorem serve_leaves {c : Call} {r : Except DbError c.Answer} (h : db.Sound)
    (hv : db.serve c = .answered r db') {t : Nat} (ht : db'.IsOpen t) :
    (db.IsOpen t ∧ c.session? ≠ some t) ∨ c.leaves r = some t := by
  have ended {s : Nat} (hs : (db.endSession s).IsOpen t) : db.IsOpen t ∧ some s ≠ some t := by
    obtain ⟨hne, ho⟩ := isOpen_endSession_iff.1 hs
    exact ⟨ho, fun he => hne (Option.some.inj he).symm⟩
  cases c with
  | begin options =>
    rcases serve_begin hv with ⟨e, rfl, rfl⟩ | ⟨rfl, rfl⟩
    · exact Or.inl ⟨ht, by simp [Call.session?]⟩
    · rcases (isOpen_openSession_iff (h.asked _)).1 ht with rfl | ht
      · exact Or.inr rfl
      · exact Or.inl ⟨ht, by simp [Call.session?]⟩
  | execute s q =>
    obtain rfl := serve_execute hv
    exact IsOpen.apart_or_own ht s
  | executeWith s q ps =>
    rcases serve_executeWith hv with ⟨e, -, rfl⟩ | ⟨x, -, rfl⟩ | ⟨-, -, rfl⟩ | ⟨w, -, -, rfl⟩
    · exact IsOpen.apart_or_own ht (some s)
    · exact IsOpen.apart_or_own ht (some s)
    · exact IsOpen.apart_or_own ht (some s)
    · exact (isOpen_stage_iff.1 ht).apart_or_own (some s)
  | query s q ps =>
    obtain ⟨locks, rfl⟩ := serve_query_keeps hv
    exact IsOpen.apart_or_own ht s
  | commit s =>
    rcases serve_commit hv with ⟨e, -, rfl⟩ | ⟨-, rfl⟩
    · exact Or.inl (ended ht)
    · exact Or.inl (ended ht)
  | rollback s =>
    obtain rfl := serve_rollback hv
    exact Or.inl (ended ht)

/-! ## Rules -/

theorem consultRules_replies {Q : RuleReply → Prop} {rules : List Rule}
    (h : ∀ rule ∈ rules, Q rule.reply) (c : Call) :
    (∀ reply, (consultRules c rules).1 = some reply → Q reply) ∧
      ∀ rule ∈ (consultRules c rules).2, Q rule.reply := by
  induction rules with
  | nil => exact ⟨(fun _ hr => by cases hr), (fun _ hr => by cases hr)⟩
  | cons rule rules ih =>
    have hrule := h rule (by simp)
    obtain ⟨hreply, hrules⟩ := ih fun r hr => h r (by simp [hr])
    have hconsult : (rule.consult c).1.reply = rule.reply := by
      unfold Rule.consult
      repeat' split
      all_goals rfl
    unfold consultRules
    split
    · rename_i rule' he
      rw [he] at hconsult
      refine ⟨?_, ?_⟩
      · rintro _ ⟨⟩
        rw [hconsult]
        exact hrule
      · intro r hr
        rcases List.mem_cons.1 hr with rfl | hr
        · rw [hconsult]
          exact hrule
        · exact h r (by simp [hr])
    · rename_i rule' he
      rw [he] at hconsult
      refine ⟨hreply, ?_⟩
      intro r hr
      rcases List.mem_cons.1 hr with rfl | hr
      · rw [hconsult]
        exact hrule
      · exact hrules r hr

theorem rules_of_serve {c : Call} {r : Except DbError c.Answer}
    (hv : db.serve c = .answered r db') : db'.rules = (consultRules c db.rules).2 := by
  cases c with
  | begin options =>
    rcases serve_begin hv with ⟨e, -, rfl⟩ | ⟨-, rfl⟩ <;> rfl
  | execute s q =>
    obtain rfl := serve_execute hv
    rfl
  | executeWith s q ps =>
    rcases serve_executeWith hv with ⟨e, -, rfl⟩ | ⟨x, -, rfl⟩ | ⟨-, -, rfl⟩ | ⟨w, -, -, rfl⟩ <;>
      rfl
  | query s q ps =>
    obtain ⟨locks, rfl⟩ := serve_query_keeps hv
    rfl
  | commit s =>
    rcases serve_commit hv with ⟨e, -, rfl⟩ | ⟨-, rfl⟩ <;> rfl
  | rollback s =>
    obtain rfl := serve_rollback hv
    rfl

end Database

end SchemaMigration
