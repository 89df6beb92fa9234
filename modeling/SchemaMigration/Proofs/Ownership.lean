import SchemaMigration.Proofs.Course
import SchemaMigration.Scenario.Step

/-!
# One session at a time

An operation has no session or one, and calls and lets go of that one alone. So it leaves the
sessions of all others as they are, and what it ends with tells which session is still open.
-/

namespace SchemaMigration

namespace Program

variable {α β : Type}

/-- A program with the session `own` works on no other, and has `after a` when it ends in `a`. -/
def Owns (after : α → Option SessionId) (own : Option SessionId) : Program α → Prop
  | .done a => after a = own
  | .log _ next => next.Owns after own
  | .close s next => own = some s ∧ next.Owns after none
  | .call c next => c.session? = own ∧ ∀ reply, (next reply).Owns after (c.leaves reply)

variable {after : α → Option SessionId} {own : Option SessionId}

theorem Owns.bind {later : β → Option SessionId} {p : Program α} {f : α → Program β}
    (h : p.Owns after own) (hf : ∀ a, (f a).Owns later (after a)) : (p >>= f).Owns later own := by
  induction p generalizing own with
  | done a =>
    obtain rfl : after a = own := h
    exact hf a
  | log r next ih => exact ih h
  | close s next ih => exact ⟨h.1, ih h.2⟩
  | call c next ih => exact ⟨h.1, fun reply => ih reply (h.2 reply)⟩

theorem Owns.perform (c : Call) : (perform c).Owns c.leaves c.session? := ⟨rfl, fun _ => rfl⟩

/-! ## On the database -/

end Program

variable {α : Type} {after : α → Option SessionId} {own : Option SessionId}

def Suspended.Owns (after : α → Option SessionId) : Suspended α → Prop
  | .blocked _ => True
  | .waiting s _ resume => resume.Owns after (some s)

def Standing.session? (after : α → Option SessionId) : Standing α → Option SessionId
  | .ended a => after a
  | .suspended held => held.session?

def Standing.Owns (after : α → Option SessionId) : Standing α → Prop
  | .ended _ => True
  | .suspended held => held.Owns after

namespace Program

variable {P : Terms}

theorem Owns.advance {p : Program α} {db : Database} (h : p.Owns after own) (hdb : db.Sound)
    (ho : ∀ t, own = some t → db.IsOpen t) :
    (p.advance db).standing.Owns after ∧
      db.Moves own ((p.advance db).standing.session? after) (p.advance db).database := by
  induction p generalizing own db with
  | done a =>
    obtain rfl : after a = own := h
    exact ⟨trivial, .refl hdb ho⟩
  | log r next ih => exact ih h hdb ho
  | close s next ih =>
    obtain ⟨rfl, hnext⟩ := h
    have hended : db.Moves (some s) none (db.drop s) := .ended hdb s
    obtain ⟨howns, hmoves⟩ := ih hnext hended.sound (fun _ ht => by cases ht)
    exact ⟨howns, hended.trans hmoves⟩
  | call c next ih =>
    obtain ⟨rfl, hnext⟩ := h
    unfold Program.advance
    cases hs : db.serve c with
    | answered reply db' =>
      have hcall := Database.serve_moves hdb ho hs
      obtain ⟨howns, hmoves⟩ :=
        ih reply (hnext reply) hcall.sound fun t ht => (hcall.session t ht).1
      exact ⟨howns, hcall.trans hmoves⟩
    | blocked db' =>
      obtain rfl := Database.serve_blocked hs
      exact ⟨trivial, .asked c hdb ho⟩
    | waiting s lock granted db' =>
      obtain ⟨-, hsession, hleaves, rfl⟩ := Database.serve_waiting hs
      refine ⟨?_, ?_⟩
      · have := hnext (.ok granted)
        rwa [hleaves] at this
      · have hasked := Database.Moves.asked c hdb ho
        rwa [hsession] at hasked ⊢

theorem advance_ages (p : Program α) (db : Database) : db.Ages (p.advance db).database := by
  induction p generalizing db with
  | done a => exact .refl db
  | log r next ih => exact ih db
  | close s next ih => exact (Database.ages_endSession db s).trans (ih _)
  | call c next ih =>
    unfold Program.advance
    cases hs : db.serve c with
    | answered reply db' => exact (Database.serve_ages hs).trans (ih reply db')
    | blocked db' =>
      obtain rfl := Database.serve_blocked hs
      exact Database.ages_asked db c
    | waiting s lock granted db' =>
      obtain ⟨-, -, -, rfl⟩ := Database.serve_waiting hs
      exact Database.ages_asked db c

theorem Owns.advance_leaves {p : Program α} {db : Database} (h : p.Owns after own)
    (hdb : db.Sound) (ho : ∀ t, own = some t → db.IsOpen t) {t : Nat}
    (ht : (p.advance db).database.IsOpen t) :
    (db.IsOpen t ∧ own ≠ some t) ∨ (p.advance db).standing.session? after = some t := by
  induction p generalizing own db with
  | done a =>
    obtain rfl : after a = own := h
    exact ht.apart_or_own (after a)
  | log r next ih => exact ih h hdb ho ht
  | close s next ih =>
    obtain ⟨rfl, hnext⟩ := h
    rcases ih hnext (hdb.endSession s) (fun _ hs => by cases hs) ht with ⟨hopen, -⟩ | hleft
    · obtain ⟨hne, hopen⟩ := Database.isOpen_endSession_iff.1 hopen
      exact Or.inl ⟨hopen, fun he => hne (Option.some.inj he).symm⟩
    · exact Or.inr hleft
  | call c next ih =>
    obtain ⟨rfl, hnext⟩ := h
    unfold Program.advance at ht ⊢
    cases hs : db.serve c with
    | answered reply db' =>
      rw [hs] at ht
      have hmoves := Database.serve_moves hdb ho hs
      rcases ih reply (hnext reply) hmoves.sound (fun u hu => (hmoves.session u hu).1) ht with
        ⟨hopen, hne⟩ | hleft
      · exact Or.inl ((Database.serve_leaves hdb hs hopen).resolve_right hne)
      · exact Or.inr hleft
    | blocked db' =>
      obtain rfl := Database.serve_blocked hs
      rw [hs] at ht
      have hopen : db.IsOpen t := ht
      exact hopen.apart_or_own c.session?
    | waiting s lock granted db' =>
      obtain ⟨-, hsession, -, rfl⟩ := Database.serve_waiting hs
      rw [hs] at ht
      have hopen : db.IsOpen t := ht
      rw [hsession]
      exact hopen.apart_or_own (some s)

theorem Course.numbered {p : Program α} {sc sc' : Scene} {es : List Event} {st : Standing α}
    (h : Course P p sc es st sc') (hp : p.Owns after own)
    (ho : ∀ t : Nat, own = some t → t ≤ sc.database.begun) :
    sc.database.begun ≤ sc'.database.begun ∧
      ∀ t : Nat, st.session? after = some t → t ≤ sc'.database.begun := by
  induction h generalizing own with
  | done a sc =>
    obtain rfl : after a = own := hp
    exact ⟨Nat.le_refl _, ho⟩
  | log _ ih => exact ih hp ho
  | close _ ih => exact ih hp.2 fun _ ht => by cases ht
  | answered _ hs _ ih =>
    obtain ⟨rfl, hnext⟩ := hp
    obtain ⟨hbegun, -, hleaves⟩ := Database.serve_opens hs
    obtain ⟨hle, hsession⟩ := ih (hnext _) fun t ht => by
      rcases hleaves t ht with hsame | ⟨-, hnew⟩
      · exact Nat.le_trans (ho t hsame) hbegun
      · exact hnew
    exact ⟨Nat.le_trans hbegun hle, hsession⟩
  | blocked _ hs =>
    obtain ⟨rfl, -⟩ := hp
    obtain rfl := Database.serve_blocked hs
    exact ⟨Nat.le_refl _, ho⟩
  | waiting _ hs =>
    obtain ⟨rfl, -⟩ := hp
    obtain ⟨-, hsession, -, rfl⟩ := Database.serve_waiting hs
    refine ⟨Nat.le_refl _, ?_⟩
    rintro t ⟨⟩
    exact ho _ hsession
  | @granted c next sc s lock granted db e e' es st sc' _ hs he hk hg _ ih =>
    obtain ⟨rfl, hnext⟩ := hp
    obtain ⟨-, hsession, hleaves, rfl⟩ := Database.serve_waiting hs
    have hbegun : sc.database.begun ≤ e'.begun := by
      rw [Database.begun_of_grant? hg]
      exact hk.begun
    have hnext' : (next (.ok granted)).Owns after (some s) := hleaves ▸ hnext _
    obtain ⟨hle, hst⟩ := ih hnext' fun t ht => by
      cases ht
      exact Nat.le_trans (ho s hsession) hbegun
    exact ⟨Nat.le_trans hbegun hle, hst⟩

theorem Course.avoids {p : Program α} {sc sc' : Scene} {es : List Event} {st : Standing α}
    {s : Nat} (h : Course P p sc es st sc') (hp : p.Owns after own) (hs : own ≠ some s)
    (hb : s ≤ sc.database.begun) : ∀ c, .call c ∈ es → c.session? ≠ some s := by
  induction h generalizing own with
  | done a sc => simp
  | log _ ih => exact ih hp hs hb
  | close _ ih =>
    intro c hc
    simp only [List.mem_cons, reduceCtorEq, false_or] at hc
    exact ih hp.2 (by simp) hb c hc
  | answered _ hv _ ih =>
    obtain ⟨rfl, hnext⟩ := hp
    obtain ⟨hbegun, -, hleaves⟩ := Database.serve_opens hv
    intro c hc
    rcases List.mem_cons.1 hc with hc | hc
    · cases hc
      exact hs
    -- The session from now on is the same one, or it is new and has a higher number than `s`.
    · refine ih (hnext _) ?_ (Nat.le_trans hb hbegun) c hc
      intro hleft
      rcases hleaves s hleft with hsame | ⟨hnew, -⟩
      · exact hs hsame
      · exact absurd hb (Nat.not_le_of_lt hnew)
  | blocked _ _ =>
    intro c hc
    cases List.mem_singleton.1 hc
    exact hp.1 ▸ hs
  | waiting _ _ =>
    intro c hc
    cases List.mem_singleton.1 hc
    exact hp.1 ▸ hs
  | @granted c next sc t lock granted db e e' es st sc' _ hv he hk hg _ ih =>
    obtain ⟨rfl, hnext⟩ := hp
    obtain ⟨-, hsession, hleaves, rfl⟩ := Database.serve_waiting hv
    have hbegun : sc.database.begun ≤ e'.begun := by
      rw [Database.begun_of_grant? hg]
      exact hk.begun
    have hnext' : (next (.ok granted)).Owns after (some t) := hleaves ▸ hnext _
    intro c' hc
    rcases List.mem_cons.1 hc with hc | hc
    · cases hc
      exact hs
    · exact ih hnext' (hsession ▸ hs) (Nat.le_trans hb hbegun) c' hc

theorem Course.stays_closed {p : Program α} {sc sc' : Scene} {es : List Event} {st : Standing α}
    {s : Nat} (h : Course P p sc es st sc') (hp : p.Only (·.kind ≠ .query))
    (hs : ¬ sc.database.IsOpen s) (hb : s ≤ sc.database.begun) : ¬ sc'.database.IsOpen s := by
  induction h with
  | done a sc => exact hs
  | log _ ih => exact ih hp hs hb
  | close _ ih =>
    apply ih hp _ hb
    exact fun ho => hs (Database.isOpen_endSession_iff.1 ho).2
  | answered _ hv _ ih =>
    obtain ⟨hbegun, hopens, -⟩ := Database.serve_opens hv
    refine ih (hp.2 _) ?_ (Nat.le_trans hb hbegun)
    intro ho
    rcases hopens s ho with hold | hnew
    · exact hs hold
    · exact absurd hb (Nat.not_le_of_lt hnew)
  | blocked _ hv =>
    obtain rfl := Database.serve_blocked hv
    exact hs
  | waiting _ hv => exact absurd (Database.serve_waiting hv).1 hp.1
  | granted _ hv => exact absurd (Database.serve_waiting hv).1 hp.1

end Program

/-! ## The engine's own operations -/

open Program

theorem rollbackQuietly_owns (name : MigrationName) (s : SessionId) :
    (rollbackQuietly name s).Owns (fun _ => none) (some s) := by
  refine (Owns.perform (.rollback s)).bind ?_
  rintro (e | _)
  · exact rfl
  · exact rfl

theorem Driver.enter_owns (d : Driver) (name : MigrationName) :
    (d.enter name).Owns Except.toOption none := by
  refine (Owns.perform (.begin d.options.migrationTx)).bind ?_
  rintro (e | s)
  · exact rfl
  · show Program.Owns _ (some s) _
    cases d.schemaOverride with
    | none => exact rfl
    | some schema =>
      refine (Owns.perform (.execute (some s) (.useSchema schema))).bind ?_
      rintro (e | _)
      · exact (rollbackQuietly_owns name s).bind fun _ => rfl
      · exact rfl

theorem CallbackAction.run_owns (a : CallbackAction) (s : SessionId) (st : Callback.State) :
    (a.run s st).Owns (fun _ => some s) (some s) := by
  cases a with
  | execute sql => exact (Owns.perform (.execute (some s) (.custom sql))).bind fun _ => rfl
  | executeWith sql ps => exact (Owns.perform (.executeWith s (.custom sql) ps)).bind fun _ => rfl
  | query sql ps => exact (Owns.perform (.query (some s) (.custom sql) ps)).bind fun _ => rfl
  | append text => exact rfl
  | appendColumn i type => exact rfl
  | fail cause => exact rfl

theorem Callback.runFrom_owns (callback : Callback) (s : SessionId) (st : Callback.State) :
    (Callback.runFrom s st callback).Owns (fun _ => some s) (some s) := by
  induction callback generalizing st with
  | nil => exact rfl
  | cons step rest ih =>
    have hstep : (step.run s st).Owns (fun _ => some s) (some s) :=
      (step.action.run_owns s st).bind fun _ => rfl
    refine hstep.bind ?_
    rintro (cause | st')
    · exact rfl
    · exact ih st'

def Migration.send (m : Migration) (s : SessionId) (sql : String) :
    Program (Except MigrateError ExecResult) :=
  if (classify sql).permits m.hasSkipIf then do
    Program.debug ("Executing " ++ (classify sql).text ++ " script for " ++ m.name.text)
    return (← Program.perform (.execute (some s) (.script sql))).mapError fun e =>
      .execution m.name .execute (some sql) (.database e)
  else return .error (.policy m.name (classify sql) sql)

theorem Migration.submit_eq (m : Migration) (s : SessionId) (sql : String) :
    m.submit s sql = m.send s sql ∨
      ∃ text, m.submit s sql = Program.debug text >>= fun _ => m.send s sql := by
  unfold submit
  split
  · exact Or.inr ⟨_, rfl⟩
  · exact Or.inl rfl

theorem Migration.submit_owns (m : Migration) (s : SessionId) (sql : String) :
    (m.submit s sql).Owns (fun _ => some s) (some s) := by
  have hsend : (m.send s sql).Owns (fun _ => some s) (some s) := by
    unfold send
    split
    · exact (Owns.perform (.execute (some s) (.script sql))).bind fun _ => rfl
    · exact rfl
  rcases m.submit_eq s sql with h | ⟨text, h⟩
  · rw [h]
    exact hsend
  · rw [h]
    exact hsend

theorem Migration.apply_owns (m : Migration) (s : SessionId) :
    (m.apply s).Owns (fun _ => some s) (some s) := by
  unfold apply
  split
  · exact m.submit_owns s _
  · refine (Callback.runFrom_owns _ s {}).bind ?_
    rintro (cause | sql)
    · exact rfl
    · exact m.submit_owns s sql
  · refine (Callback.runFrom_owns _ s {}).bind ?_
    rintro (cause | _)
    · exact rfl
    · exact rfl

theorem Driver.saveStatus_owns (d : Driver) (s : SessionId) (name : MigrationName) (done : Bool)
    (error : String) :
    (d.saveStatus s name done error).Owns (fun _ => some s) (some s) :=
  (Owns.perform (.executeWith s (.saveStatus d.tracking) (statusParams name done error))).bind
    fun _ => rfl

theorem Driver.attempt_owns (d : Driver) (m : Migration) (s : SessionId) :
    (d.attempt m s).Owns (fun _ => none) (some s) := by
  refine (m.apply_owns s).bind ?_
  rintro (e | result)
  · exact (rollbackQuietly_owns m.name s).bind fun _ => rfl
  refine (d.saveStatus_owns s m.name true "").bind ?_
  rintro (e | _)
  · exact (rollbackQuietly_owns m.name s).bind fun _ => rfl
  refine (Owns.perform (.commit s)).bind ?_
  rintro (e | _)
  · exact rfl
  · exact rfl

theorem Driver.recordFailure_owns (d : Driver) (name : MigrationName) (text : String) :
    (d.recordFailure name text).Owns (fun _ => none) none := by
  refine (d.enter_owns name).bind ?_
  rintro (e | s)
  · exact rfl
  refine (d.saveStatus_owns s name false text).bind ?_
  rintro (e | _)
  · exact (rollbackQuietly_owns name s).bind fun _ => rfl
  refine (Owns.perform (.commit s)).bind ?_
  rintro (e | _)
  · exact rfl
  · exact rfl

theorem Driver.settleFailure_owns (d : Driver) (m : Migration) (e : MigrateError) :
    (d.settleFailure m e).Owns (fun _ => none) none := by
  refine (d.recordFailure_owns m.name e.recordedText).bind ?_
  rintro (⟨phase, cause⟩ | _)
  · exact rfl
  · exact rfl

theorem Driver.run_owns (d : Driver) (m : Migration) : (d.run m).Owns (fun _ => none) none := by
  refine (d.enter_owns m.name).bind ?_
  rintro (e | s)
  · exact rfl
  refine (d.attempt_owns m s).bind ?_
  rintro (e | result)
  · exact d.settleFailure_owns m e
  · exact rfl

/-! ## Operations without a session -/

theorem Driver.ensureTracking_owns (d : Driver) :
    d.ensureTracking.Owns (fun _ => none) none := by
  unfold ensureTracking
  extract_lets failed createTable
  have htable : createTable.Owns (fun _ => none) none := by
    refine (Owns.perform (.execute none (.createTracking d.tracking))).bind ?_
    rintro (e | _)
    · exact rfl
    · exact rfl
  cases d.tracking.schema with
  | none => exact htable
  | some schema =>
    refine (Owns.perform (.execute none (.createSchema schema))).bind ?_
    rintro (e | _)
    · exact rfl
    · exact htable

theorem LoadState.recordRows_owns (tracking : TrackingTable) (st : LoadState) (rows : List Row) :
    (LoadState.recordRows tracking st rows).Owns (fun _ => none) none := by
  induction rows generalizing st with
  | nil => exact rfl
  | cons row rest ih =>
    unfold LoadState.recordRows
    split
    · exact rfl
    · split
      · exact ih _
      · exact ih _

theorem Driver.loadStatuses_owns (d : Driver) (ms : List Migration) :
    (d.loadStatuses ms).Owns (fun _ => none) none := by
  refine (Owns.perform (.query none (.loadStatuses d.tracking) [])).bind ?_
  rintro (e | rows)
  · exact rfl
  refine (LoadState.recordRows_owns d.tracking _ rows).bind ?_
  rintro ⟨st, _ | e⟩
  · exact rfl
  · exact rfl

theorem ask_owns (default : Option Identifier) (q : Question) :
    (ask default q).Owns (fun _ => none) none := by
  unfold ask
  split
  · exact rfl
  · refine (Owns.perform (.query none (.ask q) _)).bind ?_
    rintro (e | rows)
    · exact rfl
    · exact rfl

theorem Migration.shouldSkip_owns (m : Migration) :
    m.shouldSkip.Owns (fun _ => none) none := by
  unfold shouldSkip
  cases m.skipIf with
  | none => exact rfl
  | some condition =>
    cases condition with
    | always skip => exact rfl
    | fails cause => exact rfl
    | asks q => exact (ask_owns none q).bind fun _ => rfl

/-! ## Locking -/

theorem takeLock_owns (lockName : String) : (takeLock lockName).Owns Except.toOption none := by
  refine (Owns.perform (.begin {})).bind ?_
  rintro (e | s)
  · exact rfl
  refine (Owns.perform (.query (some s) .takeLock [.text lockName])).bind ?_
  rintro (e | rows)
  · exact ⟨rfl, rfl⟩
  dsimp only
  split
  · exact rfl
  · refine (Owns.perform (.rollback s)).bind ?_
    rintro (e | _)
    · exact rfl
    · exact rfl

theorem freeLock_owns (lockName : String) (s : SessionId) :
    (freeLock lockName s).Owns (fun _ => none) (some s) := by
  refine (Owns.perform (.query (some s) .freeLock [.text lockName])).bind fun released => ?_
  refine (Owns.perform (.rollback s)).bind fun closed => ?_
  show Program.Owns _ none _
  split
  · split
    · exact rfl
    · exact rfl
  · exact rfl
  · split
    · exact rfl
    · exact rfl

theorem forceFreeLock_owns (lockName : String) (s : SessionId) :
    (forceFreeLock lockName s).Owns (fun _ => none) (some s) :=
  (freeLock_owns lockName s).bind fun _ => rfl

end SchemaMigration
