import SchemaMigration.Proofs.Calls
import SchemaMigration.Proofs.Reached

/-!
# What a run leaves

However a run goes, its result, the tracking rows and the status of its migration agree: all that it
was to write is there, or a note that it failed, or nothing. The rows are compared with those of
when the run was last set going; its commits come after that.
-/

namespace SchemaMigration

/-! ## What a migration writes -/

/-- The tracking row that a call stages when the database takes it as usual. -/
def Call.stages : Call → List RowWrite
  | .executeWith _ q ps => (Database.rowWrite? q.text ps).toList
  | _ => []

/-- The tracking row that a step of a callback stages. -/
def CallbackAction.rowWrites : CallbackAction → List RowWrite
  | .executeWith sql ps => (Database.rowWrite? sql ps).toList
  | _ => []

def Callback.rowWrites (callback : Callback) : List RowWrite :=
  callback.flatMap (·.action.rowWrites)

/-- The tracking rows that the author's own code stages, in order. -/
def MigrationAction.rowWrites : MigrationAction → List RowWrite
  | .script _ => []
  | .generated callback | .computed callback => callback.rowWrites

/-- No rule gives the result of a statement with parameters: it does what it says, or it fails. -/
def recordsWrites : Terms := fun db c =>
  c.kind = .executeWith → ∀ r, db.ruled c ≠ some (.result r)

theorem recordsWrites_of_replies (db : Database) (c : Call)
    (h : ∀ reply, db.ruled c = some reply → ∀ r, reply ≠ .result r) : recordsWrites db c :=
  fun _ r hr => h _ hr r rfl

/-! ## How a run may end -/

def ExactlyOne (p q r : Prop) : Prop := (p ∧ ¬ q ∧ ¬ r) ∨ (¬ p ∧ q ∧ ¬ r) ∨ (¬ p ∧ ¬ q ∧ r)

namespace Driver.Outcome

/-- The steps whose failure is recorded. -/
def recordedPhases : List Phase := [.generate, .classify, .execute, .statusSave, .commit]

/-- The steps before the migration's own action. -/
def entryPhases : List Phase := [.begin, .namespaceSwitch]

variable (o : Outcome) (m : Migration) (old new : TrackingRows)

/-- The run succeeded: its own writes are there, in order, and then the note that it is done. -/
structure Applied : Prop where
  result : ∃ r, o.result = .ok r
  rows : new = (old.writeAll m.action.rowWrites).write ⟨m.name, true, ""⟩
  status : o.status = { done := true, error := none }

/-- The run failed: only its own row is written, and says why. -/
structure Recorded (e : MigrateError) : Prop where
  result : o.result = .error e
  fatal : e.isFatal = false
  phase : ∃ p ∈ recordedPhases, e.phase = some p
  rows : new = old.write ⟨m.name, false, e.recordedText⟩
  status : o.status = { done := false, error := some e.recordedText }

/-- The run failed and left no trace: it did not begin, or its failure could not be recorded. -/
structure Unrecorded (e : MigrateError) : Prop where
  result : o.result = .error e
  reason : e.isFatal = true ∨ ∃ p ∈ entryPhases, e.phase = some p
  rows : new = old
  status : o.status = m.status

variable {m o old new}

theorem Applied.not_recorded {e : MigrateError} (h : Applied o m old new) :
    ¬ Recorded o m old new e := by
  intro h'
  obtain ⟨r, hr⟩ := h.result
  cases hr.symm.trans h'.result

theorem Applied.not_unrecorded {e : MigrateError} (h : Applied o m old new) :
    ¬ Unrecorded o m old new e := by
  intro h'
  obtain ⟨r, hr⟩ := h.result
  cases hr.symm.trans h'.result

theorem Unrecorded.not_recordable {e : MigrateError} (h : Unrecorded o m old new e) :
    ¬ (e.isFatal = false ∧ ∃ p ∈ recordedPhases, e.phase = some p) := by
  rintro ⟨hfatal, p, hp, hphase⟩
  rcases h.reason with hfatal' | ⟨q, hq, hphase'⟩
  · rw [hfatal] at hfatal'
    cases hfatal'
  · cases hphase.symm.trans hphase'
    revert hp hq
    cases p <;> simp [recordedPhases, entryPhases]

theorem Recorded.not_unrecorded {e e' : MigrateError} (h : Recorded o m old new e) :
    ¬ Unrecorded o m old new e' := by
  intro h'
  cases h.result.symm.trans h'.result
  exact h'.not_recordable ⟨h.fatal, h.phase⟩

end Driver.Outcome

/-! ## A transaction in the making -/

namespace Scene

/-- No transaction of the program is open, and the rows are those that it was set going with. -/
structure Calm (sc : Scene) : Prop where
  sound : sc.database.Sound
  rows : sc.database.rows = sc.rows

/-- The program's transaction is `s`, and it is to write `ws`. -/
structure Stages (sc : Scene) (s : SessionId) (ws : List RowWrite) : Prop extends Calm sc where
  staged : sc.database.sessions.lookup s = some ws

theorem Calm.start {db : Database} (h : db.Sound) : (start db).Calm := ⟨h, rfl⟩

theorem Stages.asked {sc : Scene} {s : SessionId} {ws : List RowWrite} (h : sc.Stages s ws)
    (c : Call) : (sc.after (sc.database.asked c)).Stages s ws :=
  ⟨⟨h.sound.asked c, h.rows⟩, h.staged⟩

theorem Stages.isOpen {sc : Scene} {s : SessionId} {ws : List RowWrite} (h : sc.Stages s ws) :
    sc.database.IsOpen s := ⟨ws, h.staged⟩

end Scene

open Program Scene

variable {sc sc' : Scene} {es : List Event} {s : SessionId} {ws : List RowWrite}

theorem Scene.Stages.granted {c : Call} {t : SessionId} {lock : String} {granted : c.Answer}
    {db e e' : Database} (hs : c.session? = some s)
    (hv : sc.database.serve c = .waiting t lock granted db) (he : e.Sound) (hk : db.Keeps t e)
    (hg : e.grant? t lock = some e') (hsc : sc.Stages s ws) : (start e').Stages s ws := by
  obtain ⟨-, ht, -, rfl⟩ := Database.serve_waiting hv
  obtain rfl : s = t := Option.some.inj (hs.symm.trans ht)
  have hstaged : e'.sessions.lookup s = some ws := by
    rw [Database.sessions_of_grant? hg, hk.writes]
    exact hsc.staged
  exact ⟨.start (he.grant? (hk.isOpen_iff.2 hsc.isOpen) hg), hstaged⟩

theorem Scene.Stages.answered {c : Call} {r : Except DbError c.Answer} {db : Database}
    (hs : c.session? = some s) (hl : ∀ r, c.leaves r = some s) (hp : recordsWrites sc.database c)
    (hv : sc.database.serve c = .answered r db) (hsc : sc.Stages s ws) :
    (∃ e, r = .error e ∧ (sc.after db).Stages s ws) ∨
      ∃ a, r = .ok a ∧ (sc.after db).Stages s (ws ++ c.stages) := by
  cases c with
  | begin options => cases hs
  | execute t q =>
    obtain rfl := Database.serve_execute hv
    have hnone : ws ++ (Call.execute t q).stages = ws := List.append_nil ws
    rw [hnone]
    cases r with
    | error e => exact Or.inl ⟨e, rfl, hsc.asked _⟩
    | ok a => exact Or.inr ⟨a, rfl, hsc.asked _⟩
  | query t q ps =>
    obtain rfl : t = some s := hs
    have hopen : ∀ u, some s = some u → sc.database.IsOpen u := by
      rintro u ⟨⟩
      exact hsc.isOpen
    have hmoves := Database.query_moves hsc.sound hopen hv
    obtain ⟨locks, rfl⟩ := Database.serve_query_keeps hv
    have hdb : (sc.after { sc.database.asked (.query (some s) q ps) with locks }).Stages s ws :=
      ⟨⟨hmoves.sound, hsc.rows⟩, hsc.staged⟩
    have hnone : ws ++ (Call.query (some s) q ps).stages = ws := List.append_nil ws
    rw [hnone]
    cases r with
    | error e => exact Or.inl ⟨e, rfl, hdb⟩
    | ok a => exact Or.inr ⟨a, rfl, hdb⟩
  | executeWith t q ps =>
    obtain rfl : t = s := Option.some.inj hs
    rcases Database.serve_executeWith hv with
      ⟨e, rfl, rfl⟩ | ⟨x, hx, -⟩ | ⟨hw, ⟨x, rfl⟩, rfl⟩ | ⟨w, hw, ⟨x, rfl⟩, rfl⟩
    · exact Or.inl ⟨e, rfl, hsc.asked _⟩
    · exact absurd hx (hp rfl x)
    · rw [Call.stages, hw, Option.toList_none, List.append_nil]
      exact Or.inr ⟨x, rfl, hsc.asked _⟩
    · rw [Call.stages, hw, Option.toList_some]
      refine Or.inr ⟨x, rfl, ⟨(hsc.sound.asked _).stage t w, hsc.rows⟩, ?_⟩
      rw [after_database, Database.lookup_stage, if_pos rfl, Database.asked_sessions, hsc.staged]
      rfl
  | commit t => cases hl (.ok ())
  | rollback t => cases hl (.ok ())

theorem Scene.Stages.perform {c : Call} {r : Except DbError c.Answer} (hs : c.session? = some s)
    (hl : ∀ r, c.leaves r = some s) (h : Course recordsWrites (perform c) sc es (.ended r) sc')
    (hsc : sc.Stages s ws) :
    (∃ e, r = .error e ∧ sc'.Stages s ws) ∨ ∃ a, r = .ok a ∧ sc'.Stages s (ws ++ c.stages) := by
  obtain ⟨-, hp, ⟨db, hv, rfl⟩ | ⟨t, lock, granted, db, e, e', hv, he, hk, hg, rfl, rfl⟩⟩ :=
    Course.perform_ended h
  · exact hsc.answered hs hl hp hv
  · have hc : c.stages = [] := by
      cases c with
      | executeWith t q ps => cases (Database.serve_waiting hv).1
      | _ => rfl
    rw [hc, List.append_nil]
    exact Or.inr ⟨granted, rfl, hsc.granted hs hv he hk hg⟩

/-! ## The author's own code -/

theorem CallbackAction.stages_of_course {a : CallbackAction} {st : Callback.State}
    {r : Except Cause Callback.State}
    (h : Course recordsWrites (a.run s st) sc es (.ended r) sc') (hsc : sc.Stages s ws) :
    (∃ cause, r = .error cause ∧ sc'.Stages s ws) ∨
      ∃ st', r = .ok st' ∧ sc'.Stages s (ws ++ a.rowWrites) := by
  have hnone : ws ++ [] = ws := List.append_nil ws
  cases a with
  | execute sql =>
    obtain ⟨r₁, es₁, sc₁, es₂, h₁, h₂, -⟩ := Course.bind_ended h
    obtain ⟨rfl, -, rfl⟩ := Course.pure_ended h₂
    rcases hsc.perform rfl (fun _ => rfl) h₁ with ⟨e, rfl, hs₁⟩ | ⟨x, rfl, hs₁⟩
    · exact Or.inl ⟨_, rfl, hs₁⟩
    · exact Or.inr ⟨_, rfl, hs₁⟩
  | executeWith sql ps =>
    obtain ⟨r₁, es₁, sc₁, es₂, h₁, h₂, -⟩ := Course.bind_ended h
    obtain ⟨rfl, -, rfl⟩ := Course.pure_ended h₂
    rcases hsc.perform rfl (fun _ => rfl) h₁ with ⟨e, rfl, hs₁⟩ | ⟨x, rfl, hs₁⟩
    · exact Or.inl ⟨_, rfl, hs₁⟩
    · exact Or.inr ⟨_, rfl, hs₁⟩
  | query sql ps =>
    obtain ⟨r₁, es₁, sc₁, es₂, h₁, h₂, -⟩ := Course.bind_ended h
    obtain ⟨rfl, -, rfl⟩ := Course.pure_ended h₂
    rcases hsc.perform rfl (fun _ => rfl) h₁ with ⟨e, rfl, hs₁⟩ | ⟨x, rfl, hs₁⟩
    · exact Or.inl ⟨_, rfl, hs₁⟩
    · exact Or.inr ⟨_, rfl, hs₁⟩
  | append text =>
    obtain ⟨rfl, -, rfl⟩ := Course.pure_ended h
    exact Or.inr ⟨_, rfl, hnone.symm ▸ hsc⟩
  | appendColumn i type =>
    obtain ⟨rfl, -, rfl⟩ := Course.pure_ended h
    cases type.read st.row i with
    | error e => exact Or.inl ⟨_, rfl, hsc⟩
    | ok text => exact Or.inr ⟨_, rfl, hnone.symm ▸ hsc⟩
  | fail cause =>
    obtain ⟨rfl, -, rfl⟩ := Course.pure_ended h
    exact Or.inl ⟨_, rfl, hsc⟩

theorem Callback.stages_of_course {callback : Callback} {st : Callback.State}
    {r : Except Cause String}
    (h : Course recordsWrites (Callback.runFrom s st callback) sc es (.ended r) sc')
    (hsc : sc.Stages s ws) :
    (∃ cause ws', r = .error cause ∧ sc'.Stages s ws') ∨
      ∃ text, r = .ok text ∧ sc'.Stages s (ws ++ callback.rowWrites) := by
  induction callback generalizing st sc es ws with
  | nil =>
    obtain ⟨rfl, -, rfl⟩ := Course.pure_ended h
    have hnone : ws ++ Callback.rowWrites [] = ws := List.append_nil ws
    rw [hnone]
    exact Or.inr ⟨_, rfl, hsc⟩
  | cons step rest ih =>
    obtain ⟨r₁, es₁, sc₁, es₂, h₁, h₂, -⟩ := Course.bind_ended h
    obtain ⟨r₀, es₀, sc₀, es₀', h₀, h₀', -⟩ := Course.bind_ended h₁
    obtain ⟨rfl, -, rfl⟩ := Course.pure_ended h₀'
    rcases CallbackAction.stages_of_course h₀ hsc with ⟨cause, rfl, hs₁⟩ | ⟨st', rfl, hs₁⟩
    · obtain ⟨rfl, -, rfl⟩ := Course.pure_ended h₂
      exact Or.inl ⟨_, ws, rfl, hs₁⟩
    · have hcons : ws ++ Callback.rowWrites (step :: rest) =
          ws ++ step.action.rowWrites ++ Callback.rowWrites rest := by
        simp [Callback.rowWrites]
      rw [hcons]
      exact ih h₂ hs₁

/-! ## The engine's own steps -/

theorem Scene.Stages.ended (hsc : sc.Stages s ws) (c : Call) :
    (sc.after ((sc.database.asked c).endSession s)).Calm :=
  ⟨(hsc.sound.asked c).endSession s, hsc.rows⟩

theorem rollbackQuietly_calm {name : MigrationName} {u : Unit}
    (h : Course recordsWrites (rollbackQuietly name s) sc es (.ended u) sc')
    (hsc : sc.Stages s ws) : sc'.Calm := by
  obtain ⟨r, es₁, sc₁, es₂, h₁, h₂, -⟩ := Course.bind_ended h
  obtain ⟨db, hv, rfl⟩ := Course.perform_at_once (by simp [Call.kind]) h₁
  obtain rfl := Database.serve_rollback hv
  have hcalm := hsc.ended (.rollback s)
  cases r with
  | ok _ =>
    obtain ⟨-, -, rfl⟩ := Course.pure_ended h₂
    exact hcalm
  | error e =>
    cases h₂ with
    | log rest =>
      cases rest
      exact hcalm

theorem Driver.enter_outcome {d : Driver} {name : MigrationName}
    {r : Except EntryFailure SessionId}
    (h : Course recordsWrites (d.enter name) sc es (.ended r) sc') (hsc : sc.Calm) :
    (∃ e, r = .error e ∧ e.phase ∈ Outcome.entryPhases ∧ sc'.Calm) ∨
      ∃ s, r = .ok s ∧ sc'.Stages s [] := by
  obtain ⟨r₁, es₁, sc₁, es₂, h₁, h₂, -⟩ := Course.bind_ended h
  obtain ⟨db, hv, rfl⟩ := Course.perform_at_once (by simp [Call.kind]) h₁
  rcases Database.serve_begin hv with ⟨e, rfl, rfl⟩ | ⟨rfl, rfl⟩
  · obtain ⟨rfl, -, rfl⟩ := Course.pure_ended h₂
    exact Or.inl ⟨_, rfl, by simp [Outcome.entryPhases], hsc.sound.asked _, hsc.rows⟩
  have hbegun : (sc.after (sc.database.asked (.begin d.options.migrationTx)).openSession).Stages
      (sc.database.begun + 1) [] := by
    have ha := hsc.sound.asked (.begin d.options.migrationTx)
    refine ⟨⟨ha.openSession, hsc.rows⟩, ?_⟩
    exact (Database.lookup_openSession ha _).trans (if_pos rfl)
  dsimp only at h₂
  split at h₂
  · obtain ⟨rfl, -, rfl⟩ := Course.pure_ended h₂
    exact Or.inr ⟨_, rfl, hbegun⟩
  · obtain ⟨r₂, es₃, sc₂, es₄, h₃, h₄, -⟩ := Course.bind_ended h₂
    rcases hbegun.perform rfl (fun _ => rfl) h₃ with ⟨e, rfl, hs⟩ | ⟨x, rfl, hs⟩
    · obtain ⟨u, es₅, sc₃, es₆, h₅, h₆, -⟩ := Course.bind_ended h₄
      obtain ⟨rfl, -, rfl⟩ := Course.pure_ended h₆
      exact Or.inl ⟨_, rfl, by simp [Outcome.entryPhases], rollbackQuietly_calm h₅ hs⟩
    · obtain ⟨rfl, -, rfl⟩ := Course.pure_ended h₄
      exact Or.inr ⟨_, rfl, hs⟩

theorem startsWithText_saveStatus (table : TrackingTable) :
    startsWithText "REPLACE INTO " (Command.saveStatus table).text = true := by
  have htext : (Command.saveStatus table).text = "REPLACE INTO " ++ table.text ++
      " (library, migration, done, error, updated_at) VALUES (?, ?, ?, ?, now())" := rfl
  rw [htext, String.append_assoc, startsWithText_append]

theorem rowWrite?_saveStatus (table : TrackingTable) (name : MigrationName) (done : Bool)
    (error : String) :
    Database.rowWrite? (Command.saveStatus table).text (statusParams name done error) =
      some ⟨name, done, error⟩ :=
  if_pos (startsWithText_saveStatus table)

theorem Driver.saveStatus_outcome {d : Driver} {name : MigrationName} {done : Bool}
    {error : String} {r : Except DbError Unit}
    (h : Course recordsWrites (d.saveStatus s name done error) sc es (.ended r) sc')
    (hsc : sc.Stages s ws) :
    (∃ e, r = .error e ∧ sc'.Stages s ws) ∨
      r = .ok () ∧ sc'.Stages s (ws ++ [⟨name, done, error⟩]) := by
  obtain ⟨r₁, es₁, sc₁, es₂, h₁, h₂, -⟩ := Course.bind_ended (Course.of_log h)
  obtain ⟨rfl, -, rfl⟩ := Course.pure_ended h₂
  rcases hsc.perform rfl (fun _ => rfl) h₁ with ⟨e, rfl, hs⟩ | ⟨x, rfl, hs⟩
  · exact Or.inl ⟨e, rfl, hs⟩
  · rw [Call.stages, rowWrite?_saveStatus] at hs
    exact Or.inr ⟨rfl, hs⟩

theorem commit_outcome {r : Except DbError Unit}
    (h : Course recordsWrites (perform (.commit s)) sc es (.ended r) sc') (hsc : sc.Stages s ws) :
    (∃ e, r = .error e ∧ sc'.Calm) ∨ r = .ok () ∧ sc'.database.rows = sc'.rows.writeAll ws := by
  obtain ⟨db, hv, rfl⟩ := Course.perform_at_once (by simp [Call.kind]) h
  rcases Database.serve_commit hv with ⟨e, rfl, rfl⟩ | ⟨rfl, rfl⟩
  · exact Or.inl ⟨e, rfl, hsc.ended (.commit s)⟩
  · refine Or.inr ⟨rfl, ?_⟩
    let db := sc.database.asked (.commit s)
    show db.rows.writeAll (db.staged s) = _
    rw [Database.staged, Database.asked_sessions, hsc.staged, Database.asked_rows, hsc.rows]
    rfl

/-! ## An attempt -/

/-- An error of an attempt that is recorded. -/
structure MigrateError.IsRecorded (e : MigrateError) : Prop where
  fatal : e.isFatal = false
  phase : ∃ p ∈ Driver.Outcome.recordedPhases, e.phase = some p

theorem Migration.submit_outcome {m : Migration} {sql : String}
    {r : Except MigrateError ExecResult}
    (h : Course recordsWrites (m.submit s sql) sc es (.ended r) sc') (hsc : sc.Stages s ws) :
    (∃ e, r = .error e ∧ e.IsRecorded ∧ sc'.Stages s ws) ∨ ∃ x, r = .ok x ∧ sc'.Stages s ws := by
  rcases Migration.submit_course h with ⟨-, -, rfl, hr⟩ | ⟨-, h⟩
  · cases hr
    exact Or.inl ⟨_, rfl, ⟨rfl, .classify, by simp [Driver.Outcome.recordedPhases], rfl⟩, hsc⟩
  obtain ⟨r₁, es₁, sc₁, es₂, h₁, h₂, -⟩ := Course.bind_ended h
  obtain ⟨rfl, -, rfl⟩ := Course.pure_ended h₂
  have hnone : ws ++ [] = ws := List.append_nil ws
  rcases hsc.perform rfl (fun _ => rfl) h₁ with ⟨e, rfl, hs⟩ | ⟨x, rfl, hs⟩
  · exact Or.inl ⟨_, rfl, ⟨rfl, .execute, by simp [Driver.Outcome.recordedPhases], rfl⟩, hs⟩
  · exact Or.inr ⟨x, rfl, hnone ▸ hs⟩

theorem Migration.apply_outcome {m : Migration} {r : Except MigrateError ExecResult}
    (h : Course recordsWrites (m.apply s) sc es (.ended r) sc') (hsc : sc.Stages s []) :
    (∃ e ws, r = .error e ∧ e.IsRecorded ∧ sc'.Stages s ws) ∨
      ∃ x, r = .ok x ∧ sc'.Stages s m.action.rowWrites := by
  unfold apply at h
  split at h
  · rename_i sql haction
    rw [haction]
    rcases submit_outcome h hsc with ⟨e, rfl, he, hs⟩ | ⟨x, rfl, hs⟩
    · exact Or.inl ⟨e, _, rfl, he, hs⟩
    · exact Or.inr ⟨x, rfl, hs⟩
  · rename_i generator haction
    rw [haction]
    obtain ⟨r₁, es₁, sc₁, es₂, h₁, h₂, -⟩ := Course.bind_ended h
    rcases Callback.stages_of_course h₁ hsc with ⟨cause, ws, rfl, hs⟩ | ⟨sql, rfl, hs⟩
    · obtain ⟨rfl, -, rfl⟩ := Course.pure_ended h₂
      exact Or.inl ⟨_, ws, rfl, ⟨rfl, .generate, by simp [Driver.Outcome.recordedPhases], rfl⟩, hs⟩
    · rcases submit_outcome h₂ hs with ⟨e, rfl, he, hs⟩ | ⟨x, rfl, hs⟩
      · exact Or.inl ⟨e, _, rfl, he, hs⟩
      · exact Or.inr ⟨x, rfl, hs⟩
  · rename_i action haction
    rw [haction]
    obtain ⟨r₁, es₁, sc₁, es₂, h₁, h₂, -⟩ := Course.bind_ended h
    rcases Callback.stages_of_course h₁ hsc with ⟨cause, ws, rfl, hs⟩ | ⟨text, rfl, hs⟩
    · obtain ⟨rfl, -, rfl⟩ := Course.pure_ended h₂
      exact Or.inl ⟨_, ws, rfl, ⟨rfl, .execute, by simp [Driver.Outcome.recordedPhases], rfl⟩, hs⟩
    · obtain ⟨rfl, -, rfl⟩ := Course.pure_ended h₂
      exact Or.inr ⟨_, rfl, hs⟩

theorem Driver.attempt_outcome {d : Driver} {m : Migration} {r : Except MigrateError ExecResult}
    (h : Course recordsWrites (d.attempt m s) sc es (.ended r) sc') (hsc : sc.Stages s []) :
    (∃ e, r = .error e ∧ e.IsRecorded ∧ sc'.Calm) ∨
      ∃ x, r = .ok x ∧
        sc'.database.rows = (sc'.rows.writeAll m.action.rowWrites).write ⟨m.name, true, ""⟩ := by
  -- Each step that fails drops what is staged; what is left at the commit is all of it.
  obtain ⟨r₁, es₁, sc₁, es₂, h₁, h₂, -⟩ := Course.bind_ended h
  rcases Migration.apply_outcome h₁ hsc with ⟨e, ws, rfl, he, hs⟩ | ⟨x, rfl, hs⟩
  · obtain ⟨u, es₃, sc₂, es₄, h₃, h₄, -⟩ := Course.bind_ended h₂
    obtain ⟨rfl, -, rfl⟩ := Course.pure_ended h₄
    exact Or.inl ⟨e, rfl, he, rollbackQuietly_calm h₃ hs⟩
  obtain ⟨r₂, es₃, sc₂, es₄, h₃, h₄, -⟩ := Course.bind_ended h₂
  rcases saveStatus_outcome h₃ hs with ⟨e, rfl, hs⟩ | ⟨rfl, hs⟩
  · obtain ⟨u, es₅, sc₃, es₆, h₅, h₆, -⟩ := Course.bind_ended h₄
    obtain ⟨rfl, -, rfl⟩ := Course.pure_ended h₆
    refine Or.inl ⟨_, rfl, ⟨rfl, .statusSave, ?_, rfl⟩, rollbackQuietly_calm h₅ hs⟩
    simp [Outcome.recordedPhases]
  obtain ⟨r₃, es₅, sc₃, es₆, h₅, h₆, -⟩ := Course.bind_ended h₄
  rcases commit_outcome h₅ hs with ⟨e, rfl, hs⟩ | ⟨rfl, hrows⟩
  · obtain ⟨rfl, -, rfl⟩ := Course.pure_ended h₆
    exact Or.inl ⟨_, rfl, ⟨rfl, .commit, by simp [Outcome.recordedPhases], rfl⟩, hs⟩
  · obtain ⟨rfl, -, rfl⟩ := Course.pure_ended h₆
    refine Or.inr ⟨x, rfl, ?_⟩
    rw [hrows, TrackingRows.writeAll_append, TrackingRows.writeAll_singleton]

theorem Driver.recordFailure_outcome {d : Driver} {name : MigrationName} {text : String}
    {r : Except (Phase × DbError) Unit}
    (h : Course recordsWrites (d.recordFailure name text) sc es (.ended r) sc') (hsc : sc.Calm) :
    (∃ e, r = .error e ∧ sc'.database.rows = sc'.rows) ∨
      r = .ok () ∧ sc'.database.rows = sc'.rows.write ⟨name, false, text⟩ := by
  obtain ⟨r₁, es₁, sc₁, es₂, h₁, h₂, -⟩ := Course.bind_ended h
  rcases enter_outcome h₁ hsc with ⟨e, rfl, -, hs⟩ | ⟨s, rfl, hs⟩
  · obtain ⟨rfl, -, rfl⟩ := Course.pure_ended h₂
    exact Or.inl ⟨_, rfl, hs.rows⟩
  obtain ⟨r₂, es₃, sc₂, es₄, h₃, h₄, -⟩ := Course.bind_ended h₂
  rcases saveStatus_outcome h₃ hs with ⟨e, rfl, hs⟩ | ⟨rfl, hs⟩
  · obtain ⟨u, es₅, sc₃, es₆, h₅, h₆, -⟩ := Course.bind_ended h₄
    obtain ⟨rfl, -, rfl⟩ := Course.pure_ended h₆
    exact Or.inl ⟨_, rfl, (rollbackQuietly_calm h₅ hs).rows⟩
  obtain ⟨r₃, es₅, sc₃, es₆, h₅, h₆, -⟩ := Course.bind_ended h₄
  rcases commit_outcome h₅ hs with ⟨e, rfl, hs⟩ | ⟨rfl, hrows⟩
  · obtain ⟨rfl, -, rfl⟩ := Course.pure_ended h₆
    exact Or.inl ⟨_, rfl, hs.rows⟩
  · obtain ⟨rfl, -, rfl⟩ := Course.pure_ended h₆
    exact Or.inr ⟨rfl, hrows⟩

theorem Driver.settleFailure_outcome {d : Driver} {m : Migration} {e : MigrateError} {o : Outcome}
    (h : Course recordsWrites (d.settleFailure m e) sc es (.ended o) sc') (he : e.IsRecorded)
    (hsc : sc.Calm) :
    o.Recorded m sc'.rows sc'.database.rows e ∨ ∃ phase cause,
      o.Unrecorded m sc'.rows sc'.database.rows
        (.statusPersistence m.name phase (some e) cause) := by
  obtain ⟨r, es₁, sc₁, es₂, h₁, h₂, -⟩ := Course.bind_ended (Course.of_log (Course.of_log h))
  rcases recordFailure_outcome h₁ hsc with ⟨⟨phase, cause⟩, rfl, hrows⟩ | ⟨rfl, hrows⟩
  · obtain ⟨rfl, -, rfl⟩ := Course.pure_ended h₂
    exact Or.inr ⟨phase, cause, rfl, Or.inl rfl, hrows, rfl⟩
  · obtain ⟨rfl, -, rfl⟩ := Course.pure_ended h₂
    exact Or.inl ⟨rfl, he.fatal, he.phase, hrows, rfl⟩

/-! ## A run -/

theorem Driver.run_outcome {d : Driver} {m : Migration} {o : Outcome}
    (h : Course recordsWrites (d.run m) sc es (.ended o) sc') (hsc : sc.Calm) :
    o.Applied m sc'.rows sc'.database.rows ∨
      (∃ e, o.Recorded m sc'.rows sc'.database.rows e) ∨
      ∃ e, o.Unrecorded m sc'.rows sc'.database.rows e := by
  obtain ⟨r, es₁, sc₁, es₂, h₁, h₂, -⟩ := Course.bind_ended (Course.of_log h)
  rcases enter_outcome h₁ hsc with ⟨e, rfl, hphase, hs⟩ | ⟨s, rfl, hs⟩
  · obtain ⟨rfl, -, rfl⟩ := Course.pure_ended h₂
    exact Or.inr (Or.inr ⟨_, rfl, Or.inr ⟨_, hphase, rfl⟩, hs.rows, rfl⟩)
  obtain ⟨r₁, es₃, sc₂, es₄, h₃, h₄, -⟩ := Course.bind_ended h₂
  rcases attempt_outcome h₃ hs with ⟨e, rfl, he, hs⟩ | ⟨x, rfl, hrows⟩
  · rcases settleFailure_outcome h₄ he hs with hrecorded | ⟨phase, cause, hunrecorded⟩
    · exact Or.inr (Or.inl ⟨e, hrecorded⟩)
    · exact Or.inr (Or.inr ⟨_, hunrecorded⟩)
  · dsimp only at h₄
    have h₅ := Course.of_log h₄
    obtain ⟨rfl, -, rfl⟩ := Course.pure_ended h₅
    exact Or.inl ⟨⟨x, rfl⟩, hrows, rfl⟩

/-! ## A run in a scenario -/

def Answer.ranOk? : Answer → Option ExecResult
  | .ran (.ok x) => some x
  | _ => none

theorem Answer.eq_of_ranOk? {a : Answer} {x : ExecResult} (h : a.ranOk? = some x) :
    a = .ran (.ok x) := by
  unfold ranOk? at h
  split at h
  · cases h
    rfl
  · cases h

namespace World

/-- Step `s` starts a run of the migration `m`, which is at `place`, or goes on with one. -/
inductive Runs (P : Terms) (d : Driver) (place : Nat) (m : Migration) : World → Step → Prop
  | start {w : World} {s : Step} {l : Launch} (h : w.Reached P)
      (ht : w.Starts s (.run d place m) l) : Runs P d place m w s
  | again {w : World} {key : String} (h : w.Underway P (.run d place m) key) :
      Runs P d place m w (.poll key)

variable {P : Terms} {d : Driver} {place : Nat} {m : Migration} {w : World} {s : Step}

theorem Runs.reached (h : w.Runs P d place m s) : w.Reached P := by
  cases h with
  | start h _ => exact h
  | again h => exact h.reached

theorem Runs.present {l : Launch} (h : w.Runs P d place m s) (hl : w.launch? s = some l)
    (hs : w.Serves P s) :
    w.Fits (.run d place m) ∧ ∃ db₀ es, Present P (.run d place m) l db₀ es := by
  cases h with
  | start h ht =>
    cases ht.launch?.symm.trans hl
    exact ⟨ht.fits h.sound, _, _, ht.present h.sound hs⟩
  | again h =>
    obtain ⟨p, db₀, es, sc, hp, hpast⟩ := h.past
    exact ⟨h.fits, db₀, _, hpast.present h.reached.sound hp hl hs⟩

theorem launch?_of_ran {r : Except MigrateError ExecResult} (hw : w.Sound)
    (ha : (w.step s).answer = .ran r) : ∃ l, w.launch? s = some l := by
  cases hl : w.launch? s with
  | none => exact absurd ha ((hw.idle hl).answer r)
  | some l => exact ⟨l, rfl⟩

theorem serves_recordsWrites (h : ∀ rule ∈ w.database.rules, ∀ r, rule.reply ≠ .result r)
    (s : Step) : w.Serves recordsWrites s := Serves.of_replies recordsWrites_of_replies h s

theorem Runs.ended {r : Except MigrateError ExecResult} (h : w.Runs P d place m s)
    (hs : w.Serves P s) (ha : (w.step s).answer = .ran r) :
    ∃ o db₀ es sc m', db₀.Sound ∧ Course P (d.run m) (.start db₀) es (.ended o) sc ∧
      sc.rows = w.database.rows ∧ sc.database.rows = (w.step s).world.database.rows ∧
      o.result = r ∧ (w.step s).world.migrations[place]? = some m' ∧ m'.plan = m.plan ∧
      m'.status = o.status := by
  have hw := h.reached.sound
  obtain ⟨l, hl⟩ := launch?_of_ran hw ha
  obtain ⟨hfits, db₀, es, hpresent⟩ := h.present hl hs
  have hcourse := hpresent.course
  have hanswer : l.turn.answer = .ran r := (congrArg Turn.answer (make_of_launch? hl)).symm.trans ha
  cases hst : l.progress.standing with
  | suspended held =>
    rw [(turn_suspended hst).2] at hanswer
    cases hanswer
  | ended st =>
    rw [hst] at hcourse
    obtain ⟨o, es₁, sc, es₂, hrun, hend, -⟩ := Course.bind_ended hcourse
    obtain ⟨rfl, -, hsc⟩ := Course.pure_ended hend
    have hmigrations : (w.step s).world.migrations =
        w.migrations.modify place fun m => { m with status := o.status } := by
      show (w.make s).world.migrations = _
      rw [make_of_launch? hl, (turn_ended hst).1, ← migrations_of_launch? hl]
      rfl
    have hresult : o.result = r := by
      rw [(turn_ended hst).2] at hanswer
      cases hanswer
      rfl
    obtain ⟨m₀, hm₀, hplan⟩ := hfits.migration
    refine ⟨o, db₀, es₁, sc, { m₀ with status := o.status }, hpresent.sound, hrun, ?_, ?_,
      hresult, ?_, ?_, rfl⟩
    · rw [← hsc]
      exact rows_of_launch? hl
    · rw [← hsc, rows_step hl]
      rfl
    · rw [hmigrations, List.getElem?_modify, hm₀]
      simp
    · exact hplan

/--
A run that ends has one of three outcomes: it succeeded and wrote all, it failed and wrote why, or
it failed and wrote nothing. What it returns, the rows and the migration's status tell the same one.
-/
theorem run_outcome_atomic {r : Except MigrateError ExecResult}
    (h : w.Runs recordsWrites d place m s) (hs : w.Serves recordsWrites s)
    (ha : (w.step s).answer = .ran r) :
    ∃ m', (w.step s).world.migrations[place]? = some m' ∧ m'.plan = m.plan ∧
      let o : Driver.Outcome := ⟨r, m'.status⟩
      let old := w.database.rows
      let new := (w.step s).world.database.rows
      ExactlyOne (o.Applied m old new) (∃ e, o.Recorded m old new e)
        (∃ e, o.Unrecorded m old new e) := by
  obtain ⟨o, db₀, es, sc, m', hsound, hrun, hold, hnew, rfl, hm', hplan, hstatus⟩ := h.ended hs ha
  refine ⟨m', hm', hplan, ?_⟩
  have ho : (⟨o.result, m'.status⟩ : Driver.Outcome) = o := by rw [hstatus]
  -- The run was last set going in this step, so it compares with the rows before the step.
  have houtcome := Driver.run_outcome hrun (.start hsound)
  rw [hold, hnew] at houtcome
  rw [ho]
  rcases houtcome with happlied | ⟨e, hrecorded⟩ | ⟨e, hunrecorded⟩
  · refine Or.inl ⟨happlied, ?_, ?_⟩
    · exact fun ⟨_, h⟩ => happlied.not_recorded h
    · exact fun ⟨_, h⟩ => happlied.not_unrecorded h
  · refine Or.inr (Or.inl ⟨?_, ⟨e, hrecorded⟩, ?_⟩)
    · exact fun h => h.not_recorded hrecorded
    · exact fun ⟨_, h⟩ => hrecorded.not_unrecorded h
  · refine Or.inr (Or.inr ⟨?_, ?_, ⟨e, hunrecorded⟩⟩)
    · exact fun h => h.not_unrecorded hunrecorded
    · exact fun ⟨_, h⟩ => h.not_unrecorded hunrecorded

/-- A computed migration that records another one as done, too: it succeeds, and writes both. -/
theorem run_outcome_atomic_computed :
    let m : Migration :=
      { name := ⟨"lib", "two"⟩
        action := .computed
          [⟨.executeWith "REPLACE INTO t" [.text "lib", .text "one", .bool true, .text ""], none⟩] }
    let w := ((initial [] [] [m]).step (.create "a" {} none)).world
    let s : Step := .operate "a" "k" (.run 0)
    let new := (w.step s).world.database.rows
    ∃ d x m', w.Runs recordsWrites d 0 m s ∧ w.Serves recordsWrites s ∧
      (w.step s).answer = .ran (.ok x) ∧ (w.step s).world.migrations[0]? = some m' ∧
      (⟨.ok x, m'.status⟩ : Driver.Outcome).Applied m [] new ∧
      new = [(⟨"lib", "one"⟩, ⟨true, "", 1⟩), (⟨"lib", "two"⟩, ⟨true, "", 1⟩)] := by
  intro m w s new
  have hw : w.Reached recordsWrites :=
    (Reached.start [] [] [m]).step (serves_recordsWrites (fun _ h => by cases h) _)
  have hs : w.Serves recordsWrites s := by
    apply serves_recordsWrites
    have hrules : w.database.rules = [] := by decide +kernel
    simp [hrules]
  obtain ⟨⟨d, st⟩, hd⟩ : ∃ e, w.labelled? "a" = some e :=
    Option.isSome_iff_exists.1 (by decide +kernel)
  have hruns : w.Runs recordsWrites st.driver 0 m s := .start hw (.run hd rfl)
  obtain ⟨x, hx⟩ : ∃ x, (w.step s).answer.ranOk? = some x :=
    Option.isSome_iff_exists.1 (by decide +kernel)
  have hr := Answer.eq_of_ranOk? hx
  obtain ⟨m', hm', -, hone⟩ := run_outcome_atomic hruns hs hr
  refine ⟨_, x, m', hruns, hs, hr, hm', ?_, by decide +kernel⟩
  -- A run that succeeded has none of the two outcomes that are failures.
  rcases hone with ⟨happlied, -⟩ | ⟨-, ⟨e, hrecorded⟩, -⟩ | ⟨-, -, ⟨e, hunrecorded⟩⟩
  · exact happlied
  · cases hrecorded.result
  · cases hunrecorded.result

end World

end SchemaMigration
