import SchemaMigration.Proofs.Ownership

/-!
# Calls of an operation

Which calls the engine makes around the author's own code, and the parts of a run that they belong
to.
-/

namespace SchemaMigration

/-! ## Sorts of calls -/

/-- The session and the text of a call that sends a script. -/
def Call.script? (c : Call) : Option (Option SessionId × String) :=
  match c with
  | .execute _ (.script _) | .executeWith _ (.script _) _ | .query _ (.script _) _ =>
    some (c.session?, c.sql)
  | _ => none

/-- A call that enters a transaction, or leaves it when that fails. -/
def Call.Enters : Call → Prop
  | .begin _ | .execute _ (.useSchema _) | .rollback _ => True
  | _ => False

/-- A call that records an outcome, in a transaction of its own or not. -/
def Call.Records : Call → Prop
  | .executeWith _ (.saveStatus _) _ | .commit _ => True
  | c => c.Enters

namespace Call

theorem Enters.script? {c : Call} (h : c.Enters) : c.script? = none := by
  unfold Enters at h
  split at h
  · rfl
  · rfl
  · rfl
  · cases h

theorem Enters.ne_commit {c : Call} (h : c.Enters) : c.kind ≠ .commit := by
  unfold Enters at h
  split at h
  · simp [kind]
  · simp [kind]
  · simp [kind]
  · cases h

theorem Enters.records {c : Call} (h : c.Enters) : c.Records := by
  unfold Records
  split
  · trivial
  · trivial
  · exact h

theorem Records.script? {c : Call} (h : c.Records) : c.script? = none := by
  unfold Records at h
  split at h
  · rfl
  · rfl
  · exact Enters.script? h

theorem Records.ne_query {c : Call} (h : c.Records) : c.kind ≠ .query := by
  unfold Records Enters at h
  rintro hquery
  cases c with
  | query s q ps => exact h
  | _ => cases hquery

end Call

open Program

/-! ## Calls around the author's code -/

section

variable {φ : Call → Prop}

theorem rollbackQuietly_calls (name : MigrationName) {s : SessionId} (hrollback : φ (.rollback s)) :
    (rollbackQuietly name s).Only φ := by
  refine (Only.perform hrollback).bind ?_
  rintro (e | _)
  · trivial
  · trivial

theorem Driver.enter_calls (d : Driver) (name : MigrationName)
    (hbegin : φ (.begin d.options.migrationTx))
    (huse : ∀ s schema, d.schemaOverride = some schema → φ (.execute (some s) (.useSchema schema)))
    (hrollback : ∀ s, φ (.rollback s)) : (d.enter name).Only φ := by
  refine (Only.perform hbegin).bind ?_
  rintro (e | s)
  · trivial
  dsimp only
  split
  · trivial
  · rename_i schema hschema
    refine (Only.perform (huse s schema hschema)).bind ?_
    rintro (e | _)
    · exact (rollbackQuietly_calls name (hrollback s)).bind fun _ => trivial
    · trivial

theorem Driver.saveStatus_calls {d : Driver} {s : SessionId} {name : MigrationName} {done : Bool}
    {error : String}
    (h : φ (.executeWith s (.saveStatus d.tracking) (statusParams name done error))) :
    (d.saveStatus s name done error).Only φ := by
  have hcall : (perform (.executeWith s (.saveStatus d.tracking)
      (statusParams name done error))).Only φ := .perform h
  exact hcall.bind fun _ => trivial

theorem Driver.recordFailure_calls {d : Driver} {name : MigrationName} {text : String}
    (henter : (d.enter name).Only φ)
    (hsave : ∀ s, φ (.executeWith s (.saveStatus d.tracking) (statusParams name false text)))
    (hcommit : ∀ s, φ (.commit s)) (hrollback : ∀ s, φ (.rollback s)) :
    (d.recordFailure name text).Only φ := by
  refine henter.bind ?_
  rintro (e | s)
  · trivial
  refine (saveStatus_calls (hsave s)).bind ?_
  rintro (e | _)
  · exact (rollbackQuietly_calls name (hrollback s)).bind fun _ => trivial
  refine (Only.perform (hcommit s)).bind ?_
  rintro (e | _)
  · trivial
  · trivial

end

theorem rollbackQuietly_only (name : MigrationName) (s : SessionId) :
    (rollbackQuietly name s).Only Call.Enters := rollbackQuietly_calls name trivial

theorem Driver.enter_only (d : Driver) (name : MigrationName) :
    (d.enter name).Only Call.Enters :=
  d.enter_calls name trivial (fun _ _ _ => trivial) fun _ => trivial

theorem Driver.saveStatus_only (d : Driver) (s : SessionId) (name : MigrationName) (done : Bool)
    (error : String) :
    (d.saveStatus s name done error).Only fun c => c.Records ∧ c.kind ≠ .commit :=
  saveStatus_calls ⟨trivial, by simp [Call.kind]⟩

theorem Driver.recordFailure_only (d : Driver) (name : MigrationName) (text : String) :
    (d.recordFailure name text).Only Call.Records :=
  recordFailure_calls ((d.enter_only name).mono fun _ => Call.Enters.records) (fun _ => trivial)
    (fun _ => trivial) fun _ => trivial

theorem Driver.settleFailure_only (d : Driver) (m : Migration) (e : MigrateError) :
    (d.settleFailure m e).Only Call.Records := by
  refine (d.recordFailure_only m.name e.recordedText).bind ?_
  rintro (⟨phase, cause⟩ | _)
  · trivial
  · trivial

/-- The author's own code sends texts of its own, and ends no transaction. -/
def Call.IsCustom (c : Call) : Prop := c.script? = none ∧ c.kind ≠ .commit

theorem CallbackAction.run_only (a : CallbackAction) (s : SessionId) (st : Callback.State) :
    (a.run s st).Only Call.IsCustom := by
  cases a with
  | execute sql => exact (Only.perform ⟨rfl, by simp [Call.kind]⟩).bind fun _ => trivial
  | executeWith sql ps => exact (Only.perform ⟨rfl, by simp [Call.kind]⟩).bind fun _ => trivial
  | query sql ps => exact (Only.perform ⟨rfl, by simp [Call.kind]⟩).bind fun _ => trivial
  | append text => trivial
  | appendColumn i type => trivial
  | fail cause => trivial

theorem Callback.runFrom_only (callback : Callback) (s : SessionId) (st : Callback.State) :
    (Callback.runFrom s st callback).Only Call.IsCustom := by
  induction callback generalizing st with
  | nil => trivial
  | cons step rest ih =>
    have hstep : (step.run s st).Only Call.IsCustom :=
      (step.action.run_only s st).bind fun _ => trivial
    refine hstep.bind ?_
    rintro (cause | st')
    · trivial
    · exact ih st'

/-! ## The parts of a run -/

namespace Driver

variable (d : Driver) (m : Migration) (s : SessionId)

/-- The rest of an attempt, once the migration's own action has ended. -/
def conclude : Except MigrateError ExecResult → Program (Except MigrateError ExecResult)
  | .error e => do
    rollbackQuietly m.name s
    return .error e
  | .ok result => do
    match ← d.saveStatus s m.name true "" with
    | .error e =>
      rollbackQuietly m.name s
      return .error (.execution m.name .statusSave none (.database e))
    | .ok _ =>
      match ← Program.perform (.commit s) with
      | .ok _ => return .ok result
      | .error e => return .error (.execution m.name .commit none (.database e))

/-- The rest of a run, once its attempt has ended. -/
def report : Except MigrateError ExecResult → Program Outcome
  | .error e => d.settleFailure m e
  | .ok result => do
    Program.info ("Finished migration " ++ m.name.text ++ " (" ++
      decimalText result.rowsAffected.toNat ++ " rows affected)")
    return ⟨.ok result, .succeeded⟩

theorem attempt_eq : d.attempt m s = m.apply s >>= d.conclude m s := by
  unfold attempt
  congr

theorem attempt_report : d.attempt m s >>= d.report m =
    m.apply s >>= fun r => d.conclude m s r >>= d.report m := by
  rw [attempt_eq, LawfulMonad.bind_assoc]

theorem conclude_error_report (e : MigrateError) : d.conclude m s (.error e) >>= d.report m =
    rollbackQuietly m.name s >>= fun _ => d.settleFailure m e := by
  rw [conclude, LawfulMonad.bind_assoc]
  rfl

theorem run_eq : d.run m = Program.info ("Starting migration " ++ m.name.text) >>= fun _ =>
    d.enter m.name >>= fun
      | .error e => pure ⟨.error (.execution m.name e.phase e.sql (.database e.cause)), m.status⟩
      | .ok s => d.attempt m s >>= d.report m := by
  unfold run
  congr

section

variable {d m s} {φ : Call → Prop} {r : Except MigrateError ExecResult}

theorem conclude_calls
    (hsave : φ (.executeWith s (.saveStatus d.tracking) (statusParams m.name true "")))
    (hcommit : φ (.commit s)) (hrollback : φ (.rollback s)) : (d.conclude m s r).Only φ := by
  cases r with
  | error e => exact (rollbackQuietly_calls m.name hrollback).bind fun _ => trivial
  | ok result =>
    refine (saveStatus_calls hsave).bind ?_
    rintro (e | _)
    · exact (rollbackQuietly_calls m.name hrollback).bind fun _ => trivial
    refine (Only.perform hcommit).bind ?_
    rintro (e | _)
    · trivial
    · trivial

theorem report_calls (hrecord : ∀ text, (d.recordFailure m.name text).Only φ) :
    (d.report m r).Only φ := by
  cases r with
  | error e =>
    refine (hrecord e.recordedText).bind ?_
    rintro (⟨phase, cause⟩ | _)
    · trivial
    · trivial
  | ok result => trivial

end

theorem conclude_only (r : Except MigrateError ExecResult) :
    (d.conclude m s r).Only Call.Records := conclude_calls trivial trivial trivial

theorem report_only (r : Except MigrateError ExecResult) : (d.report m r).Only Call.Records :=
  report_calls (d.recordFailure_only m.name)

end Driver

/-- What gives the script of a migration, if it has one. -/
def MigrationAction.writer? (s : SessionId) :
    MigrationAction → Option (Program (Except Cause String))
  | .script sql => some (return .ok sql)
  | .generated generator => some (generator.run s)
  | .computed _ => none

theorem MigrationAction.exists_computed {a : MigrationAction} {s : SessionId}
    (h : a.writer? s = none) : ∃ action, a = .computed action := by
  cases a with
  | computed action => exact ⟨action, rfl⟩
  | _ => cases h

theorem MigrationAction.writer?_only {a : MigrationAction} {s : SessionId}
    {w : Program (Except Cause String)} (h : a.writer? s = some w) : w.Only Call.IsCustom := by
  cases a with
  | script sql =>
    cases h
    trivial
  | generated generator =>
    cases h
    exact generator.runFrom_only s {}
  | computed action => cases h

theorem MigrationAction.writer?_owns {a : MigrationAction} {s : SessionId}
    {w : Program (Except Cause String)} (h : a.writer? s = some w) :
    w.Owns (fun _ => some s) (some s) := by
  cases a with
  | script sql =>
    cases h
    exact rfl
  | generated generator =>
    cases h
    exact generator.runFrom_owns s {}
  | computed action => cases h

theorem Migration.apply_of_writer? {m : Migration} {s : SessionId}
    {w : Program (Except Cause String)} (h : m.action.writer? s = some w) :
    m.apply s = m.generateAndSubmit s w := by
  unfold apply
  split
  · rename_i sql haction
    rw [haction] at h
    cases h
    rfl
  · rename_i generator haction
    rw [haction] at h
    cases h
    rfl
  · rename_i action haction
    rw [haction] at h
    cases h

theorem Migration.apply_only {m : Migration} {s : SessionId} (h : m.action.writer? s = none) :
    (m.apply s).Only Call.IsCustom := by
  obtain ⟨action, haction⟩ := MigrationAction.exists_computed h
  unfold apply
  rw [haction]
  refine (Callback.runFrom_only action s {}).bind ?_
  rintro (cause | _)
  · trivial
  · trivial

theorem Migration.submit_course {P : Terms} {m : Migration} {s : SessionId} {sql : String}
    {sc sc' : Scene} {es : List Event} {st : Standing (Except MigrateError ExecResult)}
    (h : Course P (m.submit s sql) sc es st sc') :
    ((classify sql).permits m.hasSkipIf = false ∧ es = [] ∧ sc' = sc ∧
        st = .ended (.error (.policy m.name (classify sql) sql))) ∨
      (classify sql).permits m.hasSkipIf = true ∧ Course P (do
        return (← Program.perform (.execute (some s) (.script sql))).mapError fun e =>
          MigrateError.execution m.name .execute (some sql) (.database e)) sc es st sc' := by
  have hsend : Course P (m.send s sql) sc es st sc' := by
    rcases m.submit_eq s sql with he | ⟨text, he⟩
    · rwa [he] at h
    · rw [he] at h
      exact Course.of_log h
  unfold send at hsend
  split at hsend
  · rename_i hc
    exact Or.inr ⟨hc, Course.of_log hsend⟩
  · rename_i hc
    refine Or.inl ⟨by simpa using hc, ?_⟩
    cases hsend
    exact ⟨rfl, rfl, rfl⟩

/-! ## Other operations -/

section

variable {φ : Call → Prop}

theorem Driver.ensureTracking_calls {d : Driver}
    (hschema : ∀ schema, d.tracking.schema = some schema → φ (.execute none (.createSchema schema)))
    (htable : φ (.execute none (.createTracking d.tracking))) : d.ensureTracking.Only φ := by
  unfold ensureTracking
  extract_lets failed createTable
  have hcreate : createTable.Only φ := by
    refine ⟨htable, ?_⟩
    rintro (e | _)
    · trivial
    · trivial
  split
  · exact hcreate
  · rename_i schema heq
    refine ⟨hschema schema heq, ?_⟩
    rintro (e | _)
    · trivial
    · exact hcreate

theorem LoadState.recordRows_calls (tracking : TrackingTable) (st : LoadState) (rows : List Row) :
    (LoadState.recordRows tracking st rows).Only φ := by
  induction rows generalizing st with
  | nil => trivial
  | cons row rest ih =>
    unfold LoadState.recordRows
    split
    · trivial
    · split
      · exact ih _
      · exact ih _

theorem Driver.loadStatuses_calls {d : Driver} (ms : List Migration)
    (hload : φ (.query none (.loadStatuses d.tracking) [])) : (d.loadStatuses ms).Only φ := by
  refine ⟨hload, ?_⟩
  rintro (e | rows)
  · trivial
  · refine (LoadState.recordRows_calls d.tracking _ rows).bind ?_
    rintro ⟨st, _ | e⟩
    · trivial
    · trivial

theorem ask_calls {default : Option Identifier} {q : Question}
    (hask : ∀ params, q.params default = .ok params → φ (.query none (.ask q) params)) :
    (ask default q).Only φ := by
  unfold ask
  split
  · trivial
  · rename_i params hparams
    refine ⟨hask params hparams, ?_⟩
    rintro (e | rows)
    · trivial
    · trivial

theorem Migration.shouldSkip_calls {m : Migration} (hask : ∀ q, (ask none q).Only φ) :
    m.shouldSkip.Only φ := by
  unfold shouldSkip
  cases m.skipIf with
  | none => trivial
  | some condition =>
    cases condition with
    | always skip => trivial
    | fails cause => trivial
    | asks q => exact (hask q).bind fun _ => trivial

theorem takeLock_calls {lockName : String} (hbegin : φ (.begin {}))
    (htake : ∀ s, φ (.query (some s) .takeLock [.text lockName]))
    (hrollback : ∀ s, φ (.rollback s)) : (takeLock lockName).Only φ := by
  refine ⟨hbegin, ?_⟩
  rintro (e | s)
  · trivial
  refine ⟨htake s, ?_⟩
  rintro (e | rows)
  · trivial
  show Program.Only _ (if saysYes rows then _ else _)
  split
  · trivial
  · refine ⟨hrollback s, ?_⟩
    rintro (e | _)
    · trivial
    · trivial

theorem freeLock_calls {lockName : String} {s : SessionId}
    (hfree : φ (.query (some s) .freeLock [.text lockName])) (hrollback : φ (.rollback s)) :
    (freeLock lockName s).Only φ := by
  refine ⟨hfree, fun released => ⟨hrollback, fun closed => ?_⟩⟩
  cases released with
  | error e =>
    cases closed with
    | error c => trivial
    | ok _ => trivial
  | ok rows =>
    cases closed with
    | error e => trivial
    | ok _ =>
      show Program.Only _ (if saysYes rows then _ else _)
      split
      · trivial
      · trivial

end

end SchemaMigration
