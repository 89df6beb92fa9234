import SchemaMigration.Proofs.Calls
import SchemaMigration.Proofs.Outcome
import SchemaMigration.Proofs.Scripts
import SchemaMigration.Proofs.Transactions

/-!
# What may be sent

A run sends the script of its migration when its class is permitted, as it was classified and once.
A script that is not permitted is never sent, and its transaction is rolled back before anything
else is done.
-/

namespace SchemaMigration

/-! ## Scripts that were sent -/

def Event.script? : Event → Option (Option SessionId × String)
  | .call c => c.script?
  | .drop _ => none

def sentScripts (es : List Event) : List (Option SessionId × String) := es.filterMap Event.script?

theorem sentScripts_append (es es' : List Event) :
    sentScripts (es ++ es') = sentScripts es ++ sentScripts es' := List.filterMap_append

theorem sentScripts_eq_nil {es : List Event} (h : ∀ c, .call c ∈ es → c.script? = none) :
    sentScripts es = [] := by
  apply List.filterMap_eq_nil_iff.2
  intro e he
  cases e with
  | call c => exact h c he
  | drop s => rfl

open Program

/-! ## Where a script comes in -/

/-- What a run does from when it has the script of its migration. -/
def Driver.proceed (d : Driver) (m : Migration) (s : SessionId) (sql : String) :
    Program Outcome := do
  let r ← m.submit s sql
  d.report m (← d.conclude m s r)

/-- A run has entered the transaction `s` and got `sql` for its script there. -/
inductive Driver.Wrote (d : Driver) (m : Migration) (s : SessionId) (sql : String) :
    List Exchange → Prop
  | intro {xs ys} (zs : List Exchange) (opens : d.Opens s xs)
      (written : m.action.Writes s ys (.ok sql)) : Wrote d m s sql (xs ++ ys ++ zs)

/--
A run has no script: it entered no transaction, or its author's code failed there, or it is held up
before it got that far, or its migration is not a script.
-/
inductive Driver.Unwritten (d : Driver) (m : Migration) : List Exchange → Option Call → Prop
  | entering {xs c next} (h : (d.enter m.name).Follows xs (.call c next)) :
      Unwritten d m xs (some c)
  | stayedOut {xs e} (h : d.StaysOut xs e) : Unwritten d m xs none
  | writing {s w xs ys c next} (opens : d.Opens s xs) (hw : m.action.writer? s = some w)
      (h : w.Follows ys (.call c next)) : Unwritten d m (xs ++ ys) (some c)
  | failed {s xs ys cause} (zs : List Exchange) (held : Option Call) (opens : d.Opens s xs)
      (written : m.action.Writes s ys (.error cause)) : Unwritten d m (xs ++ ys ++ zs) held
  | computed {action} (xs : List Exchange) (held : Option Call) (h : m.action = .computed action) :
      Unwritten d m xs held

section

variable {P : Terms} {d : Driver} {m : Migration} {s : SessionId} {sql : String}
  {sc sc' : Scene} {es : List Event} {xs ys : List Exchange} {held : Option Call}
  {st : Standing Driver.Outcome}

theorem Program.Course.scripts_of_only {α : Type} {p : Program α} {st : Standing α}
    (h : Course P p sc es st sc') (hp : p.Only (·.script? = none)) : sentScripts es = [] :=
  sentScripts_eq_nil (h.calls_of_only hp)

theorem Driver.enter_scripts {r : Standing (Except EntryFailure SessionId)}
    (h : Course P (d.enter m.name) sc es r sc') : sentScripts es = [] :=
  h.scripts_of_only ((d.enter_only m.name).mono fun _ => Call.Enters.script?)

theorem MigrationAction.writer_scripts {w : Program (Except Cause String)}
    {r : Standing (Except Cause String)} (hw : m.action.writer? s = some w)
    (h : Course P w sc es r sc') : sentScripts es = [] :=
  h.scripts_of_only ((writer?_only hw).mono fun _ hc => hc.1)

theorem Driver.rest_only (r : Except MigrateError ExecResult) :
    (d.conclude m s r >>= d.report m).Only (·.script? = none) :=
  ((d.conclude_only m s r).bind (d.report_only m)).mono fun _ => Call.Records.script?

theorem sentScripts_shown_append (xs ys : List Exchange) (held : Option Call) :
    sentScripts (shown (xs ++ ys) held) = sentScripts (shown xs none) ++
      sentScripts (shown ys held) := by
  rw [shown_append, sentScripts_append]

theorem Driver.apply_writes {xs : List Exchange} (opens : d.Opens s xs)
    (h : Dialogue P (m.apply s >>= fun r => d.conclude m s r >>= d.report m) sc ys held st sc') :
    (d.Unwritten m (xs ++ ys) held ∧ sentScripts (shown ys held) = []) ∨
      ∃ sql, d.Wrote m s sql (xs ++ ys) := by
  cases hw : m.action.writer? s with
  | none =>
    obtain ⟨action, haction⟩ := MigrationAction.exists_computed hw
    have happly := (Migration.apply_only hw).mono fun _ hc => hc.1
    exact Or.inl ⟨.computed _ _ haction, h.course.scripts_of_only (happly.bind rest_only)⟩
  | some w =>
    rw [Migration.apply_of_writer? hw, Migration.generateAndSubmit, LawfulMonad.bind_assoc] at h
    rcases Dialogue.bind_inv h with ⟨r, ys, sc₁, zs, hwriter, hrest, rfl⟩ | ⟨r, hwriter, -⟩
    · have hwritten : m.action.Writes s ys r :=
        MigrationAction.writes_iff.2 ⟨w, hw, hwriter.follows_ended.1⟩
      rw [← List.append_assoc]
      cases r with
      | error cause =>
        rw [sentScripts_shown_append, MigrationAction.writer_scripts hw hwriter.course,
          hrest.course.scripts_of_only (rest_only _)]
        exact Or.inl ⟨.failed zs held opens hwritten, rfl⟩
      | ok sql => exact Or.inr ⟨sql, .intro zs opens hwritten⟩
    · obtain ⟨c, next, rfl, hfollows⟩ := hwriter.follows_suspended
      exact Or.inl ⟨.writing opens hw hfollows, MigrationAction.writer_scripts hw hwriter.course⟩

theorem Driver.run_writes (h : Dialogue P (d.run m) sc xs held st sc') :
    (d.Unwritten m xs held ∧ sentScripts (shown xs held) = []) ∨ ∃ s sql, d.Wrote m s sql xs := by
  rw [run_eq] at h
  rcases Dialogue.bind_inv (Dialogue.of_log h) with
    ⟨r, xs, sc₁, ys, henter, hrest, rfl⟩ | ⟨r, henter, -⟩
  · have hscripts := enter_scripts henter.course
    rcases enter_follows henter.follows_ended.1 with ⟨s, rfl, hopens⟩ | ⟨e, rfl, hout⟩
    · dsimp only at hrest
      rw [attempt_report] at hrest
      rw [sentScripts_shown_append, hscripts, List.nil_append]
      exact (apply_writes hopens hrest).imp_right fun ⟨sql, hwrote⟩ => ⟨s, sql, hwrote⟩
    · cases hrest
      rw [List.append_nil]
      exact Or.inl ⟨.stayedOut hout, hscripts⟩
  · obtain ⟨c, next, rfl, hfollows⟩ := henter.follows_suspended
    exact Or.inl ⟨.entering hfollows, enter_scripts henter.course⟩

theorem Driver.dialogue_of_apply {sc₁ : Scene} {xs ys : List Exchange}
    (entered : Dialogue P (d.enter m.name) sc xs none (.ended (.ok s)) sc₁)
    (rest : Dialogue P (m.apply s >>= fun r => d.conclude m s r >>= d.report m) sc₁ ys held st
      sc') : Dialogue P (d.run m) sc (xs ++ ys) held st sc' := by
  rw [← attempt_report] at rest
  rw [run_eq]
  exact .log (entered.bind rest)

theorem Driver.Opens.parts (opens : d.Opens s xs)
    (h : Dialogue P (d.run m) sc (xs ++ ys) held st sc') :
    ∃ sc₁, Dialogue P (d.enter m.name) sc xs none (.ended (.ok s)) sc₁ ∧
      Dialogue P (m.apply s >>= fun r => d.conclude m s r >>= d.report m) sc₁ ys held st sc' := by
  rw [run_eq] at h
  obtain ⟨sc₁, hentered, hrest⟩ := Dialogue.after (Dialogue.of_log h) (opens.enter_follows m.name)
  dsimp only at hrest
  rw [attempt_report] at hrest
  exact ⟨sc₁, hentered, hrest⟩

theorem Driver.Wrote.parts (hw : d.Wrote m s sql xs)
    (h : Dialogue P (d.run m) sc xs held st sc') :
    ∃ w xs₁ sc₁ xs₂ sc₂ xs₃, m.action.writer? s = some w ∧ xs = xs₁ ++ xs₂ ++ xs₃ ∧
      Dialogue P (d.enter m.name) sc xs₁ none (.ended (.ok s)) sc₁ ∧
      Dialogue P w sc₁ xs₂ none (.ended (.ok sql)) sc₂ ∧
      Dialogue P (d.proceed m s sql) sc₂ xs₃ held st sc' := by
  cases hw with
  | @intro xs₁ xs₂ xs₃ opens written =>
    obtain ⟨w, hw, hfollows⟩ := MigrationAction.writes_iff.1 written
    rw [List.append_assoc] at h
    obtain ⟨sc₁, hentered, hrest⟩ := opens.parts h
    rw [Migration.apply_of_writer? hw, Migration.generateAndSubmit, LawfulMonad.bind_assoc]
      at hrest
    obtain ⟨sc₂, hwritten, hproceed⟩ := Dialogue.after hrest hfollows
    exact ⟨w, xs₁, sc₁, xs₂, sc₂, xs₃, hw, rfl, hentered, hwritten, hproceed⟩

theorem Driver.dialogue_of_written {w : Program (Except Cause String)} {sc₁ sc₂ : Scene}
    {xs ys zs : List Exchange} (hw : m.action.writer? s = some w)
    (entered : Dialogue P (d.enter m.name) sc xs none (.ended (.ok s)) sc₁)
    (written : Dialogue P w sc₁ ys none (.ended (.ok sql)) sc₂)
    (rest : Dialogue P (d.proceed m s sql) sc₂ zs held st sc') :
    Dialogue P (d.run m) sc (xs ++ ys ++ zs) held st sc' := by
  rw [List.append_assoc]
  apply dialogue_of_apply entered
  rw [Migration.apply_of_writer? hw, Migration.generateAndSubmit, LawfulMonad.bind_assoc]
  exact written.bind rest

/-! ## A script that is permitted -/

theorem Migration.submit_scripts {st : Standing (Except MigrateError ExecResult)}
    (h : Course P (m.submit s sql) sc es st sc') :
    sentScripts es = if (classify sql).permits m.hasSkipIf then [(some s, sql)] else [] := by
  rcases Migration.submit_course h with ⟨hc, rfl, -⟩ | ⟨hc, hsubmit⟩
  · rw [hc]
    rfl
  rw [if_pos hc]
  rcases Course.bind_inv hsubmit with ⟨r, es₁, sc₁, es₂, hsend, hrest, rfl⟩ | ⟨held, hsend, -⟩
  · obtain rfl := Course.perform_events hsend
    cases hrest
    rfl
  · obtain rfl := Course.perform_events hsend
    rfl

theorem Driver.proceed_scripts (h : Course P (d.proceed m s sql) sc es st sc') :
    sentScripts es = if (classify sql).permits m.hasSkipIf then [(some s, sql)] else [] := by
  rcases Course.bind_inv h with ⟨r, es₁, sc₁, es₂, hsubmit, hrest, rfl⟩ | ⟨held, hsubmit, -⟩
  · rw [sentScripts_append, Migration.submit_scripts hsubmit, hrest.scripts_of_only (rest_only r),
      List.append_nil]
  · exact Migration.submit_scripts hsubmit

theorem Driver.Wrote.scripts (hwrote : d.Wrote m s sql xs)
    (h : Dialogue P (d.run m) sc xs held st sc') :
    sentScripts (shown xs held) =
      if (classify sql).permits m.hasSkipIf then [(some s, sql)] else [] := by
  obtain ⟨w, xs₁, sc₁, xs₂, sc₂, xs₃, hw, rfl, hentered, hwritten, hproceed⟩ := hwrote.parts h
  rw [sentScripts_shown_append, sentScripts_shown_append, enter_scripts hentered.course,
    MigrationAction.writer_scripts hw hwritten.course, proceed_scripts hproceed.course]
  rfl

/-! ## A script that is refused -/

/-- The run failed because its script was refused, whether or not that could be recorded. -/
def Driver.Outcome.Refuses (o : Driver.Outcome) (m : Migration) (c : ScriptClass) (sql : String) :
    Prop :=
  o.result = .error (.policy m.name c sql) ∨ ∃ phase cause,
    o.result = .error (.statusPersistence m.name phase (some (.policy m.name c sql)) cause)

/-- The transaction is rolled back: it was not committed before, and nothing is done in it after. -/
def RollsBack (s : SessionId) (es : List Event) : Prop :=
  ∃ before after, es = before ++ .call (.rollback s) :: after ∧ .call (.commit s) ∉ before ∧
    ∀ c, .call c ∈ after → c.session? ≠ some s

theorem rollbackQuietly_course {name : MigrationName} {st : Standing Unit}
    (h : Course P (rollbackQuietly name s) sc es st sc') :
    es = [.call (.rollback s)] ∧ ∀ u, st = .ended u →
      sc'.database = (sc.database.asked (.rollback s)).endSession s := by
  rcases Course.bind_inv h with ⟨r, es₁, sc₁, es₂, hcall, hrest, rfl⟩ | ⟨held, hcall, rfl⟩
  · obtain ⟨db, hv, rfl⟩ := Course.perform_at_once (by simp [Call.kind]) hcall
    obtain rfl := Course.perform_events hcall
    obtain rfl := Database.serve_rollback hv
    cases r with
    | ok _ =>
      cases hrest
      exact ⟨rfl, fun _ _ => rfl⟩
    | error e =>
      cases hrest with
      | log hrest =>
        cases hrest
        exact ⟨rfl, fun _ _ => rfl⟩
  · refine ⟨Course.perform_events hcall, ?_⟩
    intro u hu
    cases hu

theorem Driver.settleFailure_result {e : MigrateError} {o : Outcome}
    (h : Course P (d.settleFailure m e) sc es (.ended o) sc') :
    o.result = .error e ∨
      ∃ phase cause, o.result = .error (.statusPersistence m.name phase (some e) cause) := by
  obtain ⟨r, es₁, sc₁, es₂, -, hrest, -⟩ := Course.bind_ended (Course.of_log (Course.of_log h))
  cases r with
  | ok _ =>
    obtain ⟨rfl, -, -⟩ := Course.pure_ended hrest
    exact Or.inl rfl
  | error e =>
    obtain ⟨rfl, -, -⟩ := Course.pure_ended hrest
    exact Or.inr ⟨e.1, e.2, rfl⟩

theorem Driver.conclude_of_refused (h : Course P (d.proceed m s sql) sc es st sc')
    (hc : (classify sql).permits m.hasSkipIf = false) :
    Course P (d.conclude m s (.error (.policy m.name (classify sql) sql)) >>= d.report m) sc es st
      sc' := by
  -- Refusing makes no call, so the course is that of what follows.
  rcases Course.bind_inv h with ⟨r, es₁, sc₁, es₂, hsubmit, hrest, rfl⟩ | ⟨held, hsubmit, -⟩
  · rcases Migration.submit_course hsubmit with ⟨-, rfl, rfl, hr⟩ | ⟨hc', -⟩
    · cases hr
      exact hrest
    · cases hc.symm.trans hc'
  · rcases Migration.submit_course hsubmit with ⟨-, -, -, hst⟩ | ⟨hc', -⟩
    · cases hst
    · cases hc.symm.trans hc'

theorem Driver.proceed_refused (h : Course P (d.proceed m s sql) sc es st sc')
    (hc : (classify sql).permits m.hasSkipIf = false) (hs : s ≤ sc.database.begun) :
    ∃ es', es = .call (.rollback s) :: es' ∧ (∀ c, .call c ∈ es' → c.session? ≠ some s) ∧
      ∀ o, st = .ended o → o.Refuses m (classify sql) sql ∧ ¬ sc'.database.IsOpen s := by
  have hconclude := conclude_of_refused h hc
  rw [conclude_error_report] at hconclude
  rcases Course.bind_inv hconclude with ⟨u, es₁, sc₁, es₂, hroll, hsettle, rfl⟩ | ⟨held, hroll, rfl⟩
  · obtain ⟨rfl, hdb⟩ := rollbackQuietly_course hroll
    have hdb := hdb u rfl
    have hs₁ : s ≤ sc₁.database.begun := by
      rw [hdb]
      exact hs
    have hclosed : ¬ sc₁.database.IsOpen s := by
      rw [hdb]
      exact fun ho => (Database.isOpen_endSession_iff.1 ho).1 rfl
    refine ⟨es₂, rfl, ?_, ?_⟩
    · exact hsettle.avoids (d.settleFailure_owns m _) (by simp) hs₁
    · rintro o rfl
      have honly := (d.settleFailure_only m (.policy m.name (classify sql) sql)).mono
        fun _ => Call.Records.ne_query
      exact ⟨settleFailure_result hsettle, hsettle.stays_closed honly hclosed hs₁⟩
  · obtain ⟨rfl, -⟩ := rollbackQuietly_course hroll
    refine ⟨[], rfl, by simp, ?_⟩
    rintro o ⟨⟩

theorem Driver.Wrote.refused (hwrote : d.Wrote m s sql xs)
    (h : Dialogue P (d.run m) sc xs held st sc')
    (hc : (classify sql).permits m.hasSkipIf = false) :
    RollsBack s (shown xs held) ∧
      ∀ o, st = .ended o → o.Refuses m (classify sql) sql ∧ ¬ sc'.database.IsOpen s := by
  obtain ⟨w, xs₁, sc₁, xs₂, sc₂, xs₃, hw, rfl, hentered, hwritten, hproceed⟩ := hwrote.parts h
  have hbegun : s ≤ sc₁.database.begun :=
    (hentered.course.numbered (d.enter_owns m.name) (fun _ ht => by cases ht)).2 s rfl
  have hwriter := hwritten.course.numbered (MigrationAction.writer?_owns hw) fun t ht => by
    cases ht
    exact hbegun
  obtain ⟨es, hes, hafter, hended⟩ :=
    proceed_refused hproceed.course hc (Nat.le_trans hbegun hwriter.1)
  -- Before the rollback there was only entering and the author's own code. Neither commits.
  refine ⟨⟨shown xs₁ none ++ shown xs₂ none, es, ?_, ?_, hafter⟩, hended⟩
  · rw [shown_append, shown_append, hes]
  · intro hcommit
    rcases List.mem_append.1 hcommit with hcommit | hcommit
    · exact (hentered.course.calls_of_only (d.enter_only m.name) _ hcommit).ne_commit rfl
    · exact (hwritten.course.calls_of_only (MigrationAction.writer?_only hw) _ hcommit).2 rfl

/-! ## A run -/

/--
A run has a script once it has entered its transaction and its author's code has given one. Then it
sends the script if and only if that is permitted: as it was classified, in that transaction, once.
Without a script it sends none. A script that mixes schema changes with data changes is not sent
under any condition: the transaction is rolled back, and the run fails and says why.
-/
theorem Driver.run_sends_permitted (h : Dialogue P (d.run m) sc xs held st sc') :
    ((d.Unwritten m xs held ∧ sentScripts (shown xs held) = []) ∨ ∃ s sql, d.Wrote m s sql xs) ∧
    ∀ s sql, d.Wrote m s sql xs →
      sentScripts (shown xs held) =
          (if (classify sql).permits m.hasSkipIf then [(some s, sql)] else []) ∧
        (Mixes sql → sentScripts (shown xs held) = [] ∧ RollsBack s (shown xs held) ∧
          ∀ o, st = .ended o → o.Refuses m .mixed sql ∧ ¬ sc'.database.IsOpen s) := by
  refine ⟨run_writes h, ?_⟩
  intro s sql hwrote
  have hscripts := hwrote.scripts h
  refine ⟨hscripts, ?_⟩
  intro hmixes
  have hclass := hmixes.classify
  have hc : (classify sql).permits m.hasSkipIf = false := by
    rw [hclass]
    rfl
  rw [hc] at hscripts
  have hrefused := hwrote.refused h hc
  rw [hclass] at hrefused
  exact ⟨hscripts, hrefused⟩

end

/-- Of two scripts that a generator gives, the guarded one is sent and the one that mixes is not. -/
theorem Driver.run_sends_permitted_generated :
    let d : Driver := ⟨{}, ⟨none, ⟨"t", by decide⟩⟩, some ⟨"app", by decide⟩⟩
    let generator (sql : String) : Callback :=
      [⟨.query "SELECT 1" [], none⟩, ⟨.append sql, none⟩]
    let m (sql : String) : Migration :=
      { name := ⟨"lib", "one"⟩, action := .generated (generator sql)
        skipIf := some (.always false) }
    let guarded := "CREATE TABLE IF NOT EXISTS u (a int)"
    let mixed := "DROP TABLE t; CALL p"
    (∃ xs o sc', Dialogue anyTerms (d.run (m guarded)) (.start {}) xs none (.ended o) sc' ∧
      d.Wrote (m guarded) 1 guarded xs ∧ sentScripts (shown xs none) = [(some 1, guarded)]) ∧
    ∃ xs o sc', Dialogue anyTerms (d.run (m mixed)) (.start {}) xs none (.ended o) sc' ∧
      d.Wrote (m mixed) 1 mixed xs ∧ Mixes mixed ∧ sentScripts (shown xs none) = [] ∧
      RollsBack 1 (shown xs none) ∧ o.Refuses (m mixed) .mixed mixed ∧
      ¬ sc'.database.IsOpen 1 := by
  intro d generator m guarded mixed
  let db : Database := { sessions := [(1, [])], begun := 1 }
  have hrun (sql : String)
      (hends : ((d.proceed (m sql) 1 sql).advance db).standing.isEnded = true) :
      ∃ xs o sc', Dialogue anyTerms (d.run (m sql)) (.start {}) xs none (.ended o) sc' ∧
        d.Wrote (m sql) 1 sql xs := by
    have hentered : Dialogue anyTerms (d.enter (m sql).name) (.start {}) _ none (.ended (.ok 1))
        ((Scene.start {}).after db) :=
      .answered trivial rfl (.answered trivial rfl (.done _ _))
    have hwriter : (m sql).action.writer? 1 = some ((generator sql).run 1) := rfl
    have hwritten : Dialogue anyTerms ((generator sql).run 1) ((Scene.start {}).after db) _ none
        (.ended (.ok ("" ++ sql))) ((Scene.start {}).after db) :=
      .answered trivial rfl (.done _ _)
    rw [String.empty_append] at hwritten
    have hmakes : (d.proceed (m sql) 1 sql).Makes anyTerms db :=
      Makes.of_replies (Q := fun _ => True) (fun _ _ _ => trivial) _ (by simp [db])
    obtain ⟨o, ho⟩ := Standing.exists_of_isEnded hends
    have hrest := @Course.advance _ _ _ ((Scene.start {}).after db) hmakes
    rw [Scene.after_database, ho] at hrest
    obtain ⟨zs, hrest, -⟩ := hrest.dialogue_ended
    have hwrote : (m sql).action.Writes 1 _ (.ok sql) :=
      MigrationAction.writes_iff.2 ⟨_, hwriter, hwritten.follows_ended.1⟩
    exact ⟨_, o, _, dialogue_of_written hwriter hentered hwritten hrest,
      .intro zs (.switched rfl) hwrote⟩
  refine ⟨?_, ?_⟩
  · obtain ⟨xs, o, sc', hdialogue, hwrote⟩ := hrun guarded (by decide +kernel)
    have hsends := ((run_sends_permitted hdialogue).2 1 guarded hwrote).1
    have hpermitted : (classify guarded).permits true = true := by decide +kernel
    exact ⟨xs, o, sc', hdialogue, hwrote, hsends.trans (if_pos hpermitted)⟩
  · obtain ⟨xs, o, sc', hdialogue, hwrote⟩ := hrun mixed (by decide +kernel)
    obtain ⟨-, hrefused⟩ := (run_sends_permitted hdialogue).2 1 mixed hwrote
    obtain ⟨hscripts, hrolls, hended⟩ := hrefused mixes_drop_call
    exact ⟨xs, o, sc', hdialogue, hwrote, mixes_drop_call, hscripts, hrolls, hended o rfl⟩

end SchemaMigration
