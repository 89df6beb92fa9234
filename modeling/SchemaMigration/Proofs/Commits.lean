import SchemaMigration.Proofs.Calls
import SchemaMigration.Proofs.Launch

/-!
# Where an operation commits

A commit that succeeded is the last call of its operation. So whatever the database holds up has
written nothing yet. Only a run commits at all.
-/

namespace SchemaMigration

/-- The call is a commit, and it succeeded. -/
def Call.commits : (c : Call) → Except DbError c.Answer → Bool
  | .commit _, .ok _ => true
  | _, _ => false

theorem Database.rows_of_not_commits {db db' : Database} {c : Call} {r : Except DbError c.Answer}
    (hc : ¬ c.commits r = true) (hv : db.serve c = .answered r db') : db'.rows = db.rows := by
  cases c with
  | commit s =>
    rcases serve_commit hv with ⟨e, rfl, rfl⟩ | ⟨rfl, -⟩
    · rfl
    · exact absurd rfl hc
  | _ => exact rows_of_serve (by simp [Call.kind]) hv

namespace Program

variable {α β : Type} {last : α → Prop}

/-- The program ends without another call, in one of these ways. -/
def Yields (last : α → Prop) : Program α → Prop
  | .done a => last a
  | .log _ next => next.Yields last
  | .close _ _ | .call _ _ => False

/-- After a commit that succeeded, the program ends at once, in one of these ways. -/
def CommitsLast (last : α → Prop) : Program α → Prop
  | .done _ => True
  | .log _ next | .close _ next => next.CommitsLast last
  | .call c next => ∀ reply,
    if c.commits reply then (next reply).Yields last else (next reply).CommitsLast last

theorem Yields.bind {last' : β → Prop} {p : Program α} {f : α → Program β} (h : p.Yields last)
    (hf : ∀ a, last a → (f a).Yields last') : (p >>= f).Yields last' := by
  induction p with
  | done a => exact hf a h
  | log r next ih => exact ih h
  | close s next ih => exact h
  | call c next ih => exact h

theorem CommitsLast.bind {last' : β → Prop} {p : Program α} {f : α → Program β}
    (h : p.CommitsLast last) (hf : ∀ a, (f a).CommitsLast last')
    (hl : ∀ a, last a → (f a).Yields last') : (p >>= f).CommitsLast last' := by
  induction p with
  | done a => exact hf a
  | log r next ih => exact ih h
  | close s next ih => exact ih h
  | call c next ih =>
    intro reply
    have hreply := h reply
    by_cases hc : c.commits reply = true
    · rw [if_pos hc] at hreply ⊢
      exact hreply.bind hl
    · rw [if_neg hc] at hreply ⊢
      exact ih reply hreply

theorem Only.commitsLast {p : Program α} (h : p.Only (·.kind ≠ .commit)) : p.CommitsLast last := by
  induction p with
  | done a => trivial
  | log r next ih => exact ih h
  | close s next ih => exact ih h
  | call c next ih =>
    intro reply
    have hc : c.commits reply = false := by
      cases c with
      | commit s => exact absurd rfl h.1
      | _ => rfl
    rw [hc]
    exact ih reply (h.2 reply)

theorem Only.before {p : Program α} {f : α → Program β} {last' : β → Prop}
    (h : p.Only (·.kind ≠ .commit)) (hf : ∀ a, (f a).CommitsLast last') :
    (p >>= f).CommitsLast last' := by
  have hp : p.CommitsLast fun _ => False := h.commitsLast
  exact hp.bind hf fun _ ha => ha.elim

variable {P : Terms} {sc sc' : Scene} {es : List Event}

theorem Course.ended_of_yields {p : Program α} {st : Standing α} (h : Course P p sc es st sc')
    (hp : p.Yields last) : ∃ a, st = .ended a := by
  induction h with
  | done a sc => exact ⟨a, rfl⟩
  | log _ ih => exact ih hp
  | _ => exact hp.elim

theorem Course.rows_of_suspended {p : Program α} {held : Suspended α}
    (h : Course P p sc es (.suspended held) sc') (hp : p.CommitsLast last)
    (hr : sc.database.rows = sc.rows) : sc'.database.rows = sc'.rows := by
  generalize hst : Standing.suspended held = st at h
  induction h with
  | done a sc => cases hst
  | log _ ih => exact ih hp hr hst
  | close _ ih => exact ih hp hr hst
  | @answered c next sc reply db es st sc' _ hs rest ih =>
    -- After a commit there is nothing left that could be held up.
    have hreply := hp reply
    by_cases hc : c.commits reply = true
    · rw [if_pos hc] at hreply
      obtain ⟨a, ha⟩ := rest.ended_of_yields hreply
      cases hst.trans ha
    · rw [if_neg hc] at hreply
      exact ih hreply ((Database.rows_of_not_commits hc hs).trans hr) hst
  | blocked _ hs =>
    rw [Scene.after_database, Database.serve_blocked hs]
    exact hr
  | waiting _ hs =>
    rw [Scene.after_database, (Database.serve_waiting hs).2.2.2]
    exact hr
  | @granted c next sc s lock granted db e e' es st sc' _ hs _ _ _ rest ih =>
    have hreply := hp (.ok granted)
    by_cases hc : c.commits (.ok granted) = true
    · rw [if_pos hc] at hreply
      obtain ⟨a, ha⟩ := rest.ended_of_yields hreply
      cases hst.trans ha
    · rw [if_neg hc] at hreply
      exact ih hreply rfl hst

end Program

open Program

/-! ## A run -/

theorem rollbackQuietly_commits_nothing (name : MigrationName) (s : SessionId) :
    (rollbackQuietly name s).Only (·.kind ≠ .commit) :=
  (rollbackQuietly_only name s).mono fun _ => Call.Enters.ne_commit

theorem Driver.saveStatus_commits_nothing (d : Driver) (s : SessionId) (name : MigrationName)
    (done : Bool) (error : String) :
    (d.saveStatus s name done error).Only (·.kind ≠ .commit) :=
  (d.saveStatus_only s name done error).mono fun _ hc => hc.2

theorem Migration.submit_commits_nothing (m : Migration) (s : SessionId) (sql : String) :
    (m.submit s sql).Only (·.kind ≠ .commit) := by
  have hsend : (m.send s sql).Only (·.kind ≠ .commit) := by
    unfold send
    split
    · exact ⟨by simp [Call.kind], fun _ => trivial⟩
    · trivial
  rcases m.submit_eq s sql with h | ⟨text, h⟩
  · rw [h]
    exact hsend
  · rw [h]
    exact hsend

theorem Migration.apply_commits_nothing (m : Migration) (s : SessionId) :
    (m.apply s).Only (·.kind ≠ .commit) := by
  cases hw : m.action.writer? s with
  | none => exact (apply_only hw).mono fun _ hc => hc.2
  | some w =>
    rw [apply_of_writer? hw]
    refine ((MigrationAction.writer?_only hw).mono fun _ hc => hc.2).bind ?_
    rintro (cause | sql)
    · trivial
    · exact m.submit_commits_nothing s sql

theorem Driver.conclude_commits_last (d : Driver) (m : Migration) (s : SessionId)
    (r : Except MigrateError ExecResult) :
    (d.conclude m s r).CommitsLast fun r => ∃ x, r = .ok x := by
  have hrollback := rollbackQuietly_commits_nothing m.name s
  cases r with
  | error e => exact hrollback.before fun _ => trivial
  | ok x =>
    refine (d.saveStatus_commits_nothing s m.name true "").before ?_
    rintro (e | _)
    · exact hrollback.before fun _ => trivial
    · rintro (e | _)
      · trivial
      · exact ⟨x, rfl⟩

theorem Driver.recordFailure_commits_last (d : Driver) (name : MigrationName) (text : String) :
    (d.recordFailure name text).CommitsLast fun r => r = .ok () := by
  refine ((d.enter_only name).mono fun _ => Call.Enters.ne_commit).before ?_
  rintro (e | s)
  · trivial
  refine (d.saveStatus_commits_nothing s name false text).before ?_
  rintro (e | _)
  · exact (rollbackQuietly_commits_nothing name s).before fun _ => trivial
  · rintro (e | _)
    · trivial
    · exact rfl

theorem Driver.report_commits_last (d : Driver) (m : Migration)
    (r : Except MigrateError ExecResult) : (d.report m r).CommitsLast fun _ => True := by
  cases r with
  | error e =>
    refine (d.recordFailure_commits_last m.name e.recordedText).bind ?_ ?_
    · rintro (⟨phase, cause⟩ | _)
      · trivial
      · trivial
    · rintro _ rfl
      trivial
  | ok x => trivial

theorem Driver.run_commits_last (d : Driver) (m : Migration) :
    (d.run m).CommitsLast fun _ => True := by
  rw [run_eq]
  refine ((d.enter_only m.name).mono fun _ => Call.Enters.ne_commit).before ?_
  rintro (e | s)
  · trivial
  · dsimp only
    rw [attempt_eq]
    refine ((m.apply_commits_nothing s).before (d.conclude_commits_last m s)).bind
      (d.report_commits_last m) ?_
    rintro _ ⟨x, rfl⟩
    trivial

/-! ## Every other operation -/

theorem Task.commits_nothing {t : Task} (h : ∀ d place m, t ≠ .run d place m) :
    t.program.Only (·.kind ≠ .commit) := by
  have hask (default : Option Identifier) (q : Question) :
      (SchemaMigration.ask default q).Only (·.kind ≠ .commit) :=
    ask_calls fun _ _ => by simp [Call.kind]
  have hfree (lockName : String) (s : SessionId) : (freeLock lockName s).Only (·.kind ≠ .commit) :=
    freeLock_calls (by simp [Call.kind]) (by simp [Call.kind])
  cases t with
  | ensure d =>
    have hensure : d.ensureTracking.Only (·.kind ≠ .commit) :=
      Driver.ensureTracking_calls (fun _ _ => by simp [Call.kind]) (by simp [Call.kind])
    exact hensure.bind fun _ => trivial
  | load d places ms =>
    have hload : (d.loadStatuses ms).Only (·.kind ≠ .commit) :=
      Driver.loadStatuses_calls ms (by simp [Call.kind])
    exact hload.bind fun _ => trivial
  | run d place m => exact absurd rfl (h d place m)
  | acquire d id lockName =>
    have htake : (takeLock lockName).Only (·.kind ≠ .commit) :=
      takeLock_calls (by simp [Call.kind]) (fun _ => by simp [Call.kind])
        fun _ => by simp [Call.kind]
    exact htake.bind fun _ => trivial
  | release lockName s => exact (hfree lockName s).bind fun _ => trivial
  | force lockName s =>
    have hforce : (forceFreeLock lockName s).Only (·.kind ≠ .commit) :=
      (hfree lockName s).bind fun _ => trivial
    exact hforce.bind fun _ => trivial
  | ask d q => exact (hask d.schemaOverride q).bind fun _ => trivial
  | skip m =>
    have hskip : m.shouldSkip.Only (·.kind ≠ .commit) := Migration.shouldSkip_calls (hask none)
    exact hskip.bind fun _ => trivial

theorem Task.commits_last (t : Task) : t.program.CommitsLast fun _ => True := by
  cases t with
  | run d place m =>
    exact (d.run_commits_last m).bind (fun _ => trivial) fun _ _ => trivial
  | _ => exact (commits_nothing (by simp)).commitsLast

end SchemaMigration
