import SchemaMigration.Proofs.Sent
import SchemaMigration.Proofs.Transactions

/-!
# What a failed run tells

The error of a run is that of the first step that failed. Only when the failure could not be
recorded is there another error around it, which is that of the step of recording that failed. What
a rollback is answered never shows.
-/

namespace SchemaMigration

/-! ## The step that fails -/

/-- A step of a run's first transaction that failed, and why. -/
inductive FailedStep where
  | begin (cause : DbError)
  | switch (schema : Identifier) (cause : DbError)
  | generate (cause : Cause)
  /-- The script is not sent. -/
  | refuse (sql : String)
  | send (sql : String) (cause : DbError)
  | compute (cause : Cause)
  | save (cause : DbError)
  | commit (cause : DbError)

namespace FailedStep

def phase : FailedStep → Phase
  | begin _ => .begin
  | switch _ _ => .namespaceSwitch
  | generate _ => .generate
  | refuse _ => .classify
  | send _ _ | compute _ => .execute
  | save _ => .statusSave
  | commit _ => .commit

def kind : FailedStep → ErrorKind
  | refuse _ => .policy
  | _ => .execution

/-- The statement that was at fault, if it is the engine's to name: the switch or the script. -/
def sql? : FailedStep → Option String
  | switch schema _ => some ("USE " ++ schema.text)
  | refuse sql | send sql _ => some sql
  | begin _ | generate _ | compute _ | save _ | commit _ => none

/-- Nothing is recorded of a transaction that was not entered. -/
def isEntry : FailedStep → Bool
  | begin _ | switch _ _ => true
  | _ => false

def error (name : MigrationName) : FailedStep → MigrateError
  | begin e => .execution name .begin none (.database e)
  | switch schema e => .execution name .namespaceSwitch (some ("USE " ++ schema.text)) (.database e)
  | generate cause => .execution name .generate none cause
  | refuse sql => .policy name (classify sql) sql
  | send sql e => .execution name .execute (some sql) (.database e)
  | compute cause => .execution name .execute none cause
  | save e => .execution name .statusSave none (.database e)
  | commit e => .execution name .commit none (.database e)

variable (step : FailedStep) (name : MigrationName)

theorem error_phase : (step.error name).phase = some step.phase := by
  cases step <;> rfl

theorem error_kind : (step.error name).kind = step.kind := by
  cases step <;> rfl

theorem error_sql : (step.error name).sql = step.sql? := by
  cases step <;> rfl

theorem error_migration : (step.error name).migration = some name := by
  cases step <;> rfl

theorem error_not_fatal : (step.error name).isFatal = false := by
  cases step <;> rfl

theorem phase_of_not_isEntry (h : step.isEntry = false) :
    step.phase ≠ .begin ∧ step.phase ≠ .namespaceSwitch := by
  cases step with
  | begin e | switch schema e => cases h
  | _ => exact ⟨Phase.noConfusion, Phase.noConfusion⟩

end FailedStep

/-- What passes while a migration fails to do what it is for, and at which step it does. -/
inductive Migration.FailsAt (m : Migration) (s : SessionId) : List Exchange → FailedStep → Prop
  | generate {xs cause} (written : m.action.Writes s xs (.error cause)) :
      FailsAt m s xs (.generate cause)
  | refuse {xs sql} (written : m.action.Writes s xs (.ok sql))
      (h : (classify sql).permits m.hasSkipIf = false) : FailsAt m s xs (.refuse sql)
  | send {xs sql e} (written : m.action.Writes s xs (.ok sql))
      (h : (classify sql).permits m.hasSkipIf = true) :
      FailsAt m s (xs ++ [.call (.execute (some s) (.script sql)) (.error e)]) (.send sql e)
  | compute {action xs cause} (h : m.action = .computed action)
      (made : action.Made s xs (.error cause)) : FailsAt m s xs (.compute cause)

/-- A run's first transaction that fails, and the step at which it does: the first to fail. -/
inductive Driver.StopsAt (d : Driver) (m : Migration) : List Exchange → FailedStep → Prop
  | begin {e} : StopsAt d m [.call (.begin d.options.migrationTx) (.error e)] (.begin e)
  | switch {s schema e r} (h : d.schemaOverride = some schema) :
      StopsAt d m [.call (.begin d.options.migrationTx) (.ok s),
        .call (.execute (some s) (.useSchema schema)) (.error e), .call (.rollback s) r]
        (.switch schema e)
  | act {s xs ys step r} (opens : d.Opens s xs) (fails : m.FailsAt s ys step) :
      StopsAt d m (xs ++ ys ++ [.call (.rollback s) r]) step
  | save {s xs ys e r} (opens : d.Opens s xs) (acted : m.Acts s ys true) :
      StopsAt d m (xs ++ ys ++
        [.call (d.saving s ⟨m.name, true, ""⟩) (.error e), .call (.rollback s) r]) (.save e)
  | commit {s xs ys x e} (opens : d.Opens s xs) (acted : m.Acts s ys true) :
      StopsAt d m (xs ++ ys ++
        [.call (d.saving s ⟨m.name, true, ""⟩) (.ok x), .call (.commit s) (.error e)]) (.commit e)

/-! ## Failures of recording -/

/-- What a call is for in a transaction that records a failure. A rollback is not counted. -/
def Call.recording? : Call → Option Phase
  | .begin _ => some .begin
  | .execute _ (.useSchema _) => some .namespaceSwitch
  | .executeWith _ (.saveStatus _) _ => some .statusSave
  | .commit _ => some .commit
  | _ => none

def Exchange.failure? : Exchange → Option (Phase × DbError)
  | .call c (.error e) => c.recording?.map fun phase => (phase, e)
  | _ => none

def failures (xs : List Exchange) : List (Phase × DbError) := xs.filterMap Exchange.failure?

/-! ## Rollbacks -/

/-- The exchange without what a rollback was answered. -/
def Exchange.unheard : Exchange → Exchange
  | .call (.rollback s) _ => .call (.rollback s) (.ok ())
  | x => x

/-- The exchanges are the same but for what rollbacks were answered. -/
def SameUnheard (xs ys : List Exchange) : Prop :=
  xs.map Exchange.unheard = ys.map Exchange.unheard

theorem Exchange.eq_of_unheard {x y : Exchange} (h : y.unheard = x.unheard)
    (hx : ∀ c r, x = .call c r → c.kind ≠ .rollback) : y = x := by
  have hself : x.unheard = x := by
    unfold unheard
    split
    · rename_i s r
      exact absurd rfl (hx _ r rfl)
    · rfl
  rw [hself] at h
  unfold unheard at h
  split at h
  · exact absurd rfl (hx _ _ h.symm)
  · exact h

theorem Exchange.of_unheard_rollback {y : Exchange} {s : SessionId}
    (h : y.unheard = .call (.rollback s) (.ok ())) : ∃ r, y = .call (.rollback s) r := by
  unfold unheard at h
  split at h
  · rename_i t r
    cases h
    exact ⟨r, rfl⟩
  · exact ⟨_, h⟩

theorem SameUnheard.eq {xs ys : List Exchange} (h : SameUnheard ys xs)
    (hxs : ∀ c r, .call c r ∈ xs → c.kind ≠ .rollback) : ys = xs := by
  induction xs generalizing ys with
  | nil => exact List.map_eq_nil_iff.1 h
  | cons x xs ih =>
    obtain ⟨y, ys, rfl, hy, hrest⟩ := List.map_eq_cons_iff.1 h
    have hhead : y = x := Exchange.eq_of_unheard hy fun c r hx => hxs c r (hx ▸ List.mem_cons_self)
    rw [hhead, ih hrest fun c r hc => hxs c r (List.mem_cons_of_mem x hc)]

namespace Program

variable {α β : Type} {p : Program α} {f : α → Program β}

/-- What the program gives does not depend on what its rollbacks are answered. -/
def Heedless (p : Program α) : Prop :=
  ∀ xs ys a, p.Follows xs (.done a) → SameUnheard ys xs → p.Follows ys (.done a)

theorem Heedless.bind (hp : p.Heedless) (hf : ∀ a, (f a).Heedless) : (p >>= f).Heedless := by
  intro xs ys b h hsame
  obtain ⟨a, xs₁, xs₂, h₁, h₂, rfl⟩ := Follows.bind_done h
  rw [SameUnheard, List.map_append] at hsame
  obtain ⟨ys₁, ys₂, rfl, hsame₁, hsame₂⟩ := List.map_eq_append_iff.1 hsame
  exact ((hp _ _ _ h₁ hsame₁).bind f).trans (hf a _ _ _ h₂ hsame₂)

theorem Heedless.of_only (hp : p.Only (·.kind ≠ .rollback)) : p.Heedless := by
  intro xs ys a h hsame
  rwa [hsame.eq (h.calls_of_only hp).1]

theorem Heedless.log (r : LogRecord) (h : p.Heedless) : (Program.log r p).Heedless := by
  intro xs ys a hfollows hsame
  cases hfollows with
  | log rest => exact .log (h _ _ _ rest hsame)

theorem Heedless.pure (a : α) : (pure a : Program α).Heedless := .of_only trivial

theorem Heedless.perform {c : Call} (h : c.kind ≠ .rollback) : (perform c).Heedless :=
  .of_only (.perform h)

end Program

open Program

theorem rollbackQuietly_gives (name : MigrationName) (s : SessionId) (r : Except DbError Unit) :
    (rollbackQuietly name s).Follows [.call (.rollback s) r] (.done ()) := by
  cases r with
  | ok u => exact .call _ (.refl _)
  | error e => exact .call _ (.log (.refl _))

theorem rollbackQuietly_heedless (name : MigrationName) (s : SessionId) :
    (rollbackQuietly name s).Heedless := by
  intro xs ys u h hsame
  obtain ⟨r, rfl⟩ := rollbackQuietly_follows h
  obtain ⟨y, ys, rfl, hy, hrest⟩ := List.map_eq_cons_iff.1 hsame
  cases List.map_eq_nil_iff.1 hrest
  obtain ⟨r', rfl⟩ := Exchange.of_unheard_rollback hy
  exact rollbackQuietly_gives name s r'

namespace Driver

variable (d : Driver) (m : Migration) (s : SessionId)

theorem enter_heedless (name : MigrationName) : (d.enter name).Heedless := by
  refine (Heedless.perform (by simp [Call.kind])).bind ?_
  rintro (e | s)
  · exact .pure _
  dsimp only
  split
  · exact .pure _
  · refine (Heedless.perform (by simp [Call.kind])).bind ?_
    rintro (e | _)
    · exact (rollbackQuietly_heedless name s).bind fun _ => .pure _
    · exact .pure _

theorem recordIn_heedless {ε α : Type} (w : RowWrite) (notSaved notCommitted : DbError → ε)
    (a : α) : (d.recordIn s w notSaved notCommitted a).Heedless := by
  have hsave : (d.saveStatus s w.name w.done w.error).Heedless :=
    .of_only (saveStatus_calls (by simp [Call.kind]))
  refine hsave.bind ?_
  rintro (e | _)
  · exact (rollbackQuietly_heedless w.name s).bind fun _ => .pure _
  · refine (Heedless.perform (by simp [Call.kind])).bind ?_
    rintro (e | _)
    · exact .pure _
    · exact .pure _

theorem attempt_heedless : (d.attempt m s).Heedless := by
  have happly : (m.apply s).Heedless := by
    refine .of_only ((m.apply_makes s).mono ?_)
    rintro c ⟨-, command, params, hstatement, -⟩ hkind
    cases c with
    | rollback t => cases hstatement
    | _ => cases hkind
  rw [attempt_eq]
  refine happly.bind ?_
  rintro (e | result)
  · exact (rollbackQuietly_heedless m.name s).bind fun _ => .pure _
  · rw [conclude_eq]
    exact d.recordIn_heedless s _ _ _ result

theorem settleFailure_heedless (e : MigrateError) : (d.settleFailure m e).Heedless := by
  have hrecord : (d.recordFailure m.name e.recordedText).Heedless := by
    rw [recordFailure_eq]
    refine (d.enter_heedless m.name).bind ?_
    rintro (e | s)
    · exact .pure _
    · exact d.recordIn_heedless s _ _ _ ()
  refine .log _ (.log _ (hrecord.bind ?_))
  rintro (⟨phase, cause⟩ | _)
  · exact .pure _
  · exact .pure _

theorem run_heedless : (d.run m).Heedless := by
  rw [run_eq]
  refine .log _ ((d.enter_heedless m.name).bind ?_)
  rintro (e | s)
  · exact .pure _
  · refine (d.attempt_heedless m s).bind ?_
    rintro (e | result)
    · exact d.settleFailure_heedless m e
    · exact .log _ (.pure _)

end Driver

/-! ## The first transaction -/

section

variable {d : Driver} {m : Migration} {s : SessionId} {xs : List Exchange} {e : MigrateError}

theorem Migration.apply_fails (h : (m.apply s).Follows xs (.done (.error e))) :
    ∃ step, m.FailsAt s xs step ∧ step.isEntry = false ∧ e = step.error m.name := by
  have hsubmit {sql : String} {ys zs : List Exchange} (hw : m.action.Writes s ys (.ok sql))
      (hs : (m.submit s sql).Follows zs (.done (.error e))) :
      ∃ step, m.FailsAt s (ys ++ zs) step ∧ step.isEntry = false ∧ e = step.error m.name := by
    rcases submit_follows hs with ⟨hc, rfl, he⟩ | ⟨hc, reply, rfl, he⟩
    · cases he
      rw [List.append_nil]
      exact ⟨_, .refuse hw hc, rfl, rfl⟩
    · cases reply with
      | ok x => cases he
      | error cause =>
        cases he
        exact ⟨_, .send hw hc, rfl, rfl⟩
  unfold apply at h
  split at h
  · rename_i sql haction
    have hw : m.action.Writes s [] (.ok sql) := by
      rw [haction]
      exact ⟨rfl, rfl⟩
    exact hsubmit hw h
  · rename_i generator haction
    obtain ⟨r, ys, zs, hwrite, hrest, rfl⟩ := Follows.bind_done h
    have hw : m.action.Writes s ys r := by
      rw [haction]
      exact Callback.made_of_follows hwrite
    cases r with
    | ok sql => exact hsubmit hw hrest
    | error cause =>
      obtain ⟨he, rfl⟩ := Follows.of_pure hrest
      cases he
      rw [List.append_nil]
      exact ⟨_, .generate hw, rfl, rfl⟩
  · rename_i action haction
    obtain ⟨r, ys, zs, hact, hrest, rfl⟩ := Follows.bind_done h
    cases r with
    | ok text => cases (Follows.of_pure hrest).1
    | error cause =>
      obtain ⟨he, rfl⟩ := Follows.of_pure hrest
      cases he
      rw [List.append_nil]
      exact ⟨_, .compute haction (Callback.made_of_follows hact), rfl, rfl⟩

namespace Driver

theorem attempt_fails {ys : List Exchange} (opens : d.Opens s ys)
    (h : (d.attempt m s).Follows xs (.done (.error e))) :
    ∃ step, d.StopsAt m (ys ++ xs) step ∧ step.isEntry = false ∧ e = step.error m.name := by
  rw [attempt_eq] at h
  obtain ⟨r, xs₁, zs, happly, hrest, rfl⟩ := Follows.bind_done h
  rw [← List.append_assoc]
  cases r with
  | error e₁ =>
    obtain ⟨u, vs, us, hroll, hpure, rfl⟩ := Follows.bind_done hrest
    obtain ⟨r₂, rfl⟩ := rollbackQuietly_follows hroll
    obtain ⟨he, rfl⟩ := Follows.of_pure hpure
    cases he
    obtain ⟨step, hfails, hentry, he⟩ := Migration.apply_fails happly
    exact ⟨step, .act opens hfails, hentry, he⟩
  | ok result =>
    have hacts := Migration.apply_follows happly
    rw [conclude_eq] at hrest
    rcases recordIn_cases hrest with ⟨cause, r', rfl, he⟩ | ⟨x, cause, rfl, he⟩ | ⟨x, u, -, he⟩
    · cases he
      exact ⟨_, .save opens hacts, rfl, rfl⟩
    · cases he
      exact ⟨_, .commit opens hacts, rfl, rfl⟩
    · cases he

theorem StaysOut.stopsAt {entry : EntryFailure} (h : d.StaysOut xs entry) :
    ∃ step, d.StopsAt m xs step ∧ step.isEntry = true ∧
      step.error m.name = .execution m.name entry.phase entry.sql (.database entry.cause) := by
  cases h with
  | notBegun => exact ⟨_, .begin, rfl, rfl⟩
  | notSwitched hschema => exact ⟨_, .switch hschema, rfl, rfl⟩

end Driver

end

/-! ## The second transaction -/

section

variable {d : Driver} {m : Migration} {s : SessionId} {xs : List Exchange}

theorem failures_append (xs ys : List Exchange) :
    failures (xs ++ ys) = failures xs ++ failures ys := List.filterMap_append

theorem Exchange.failure?_rollback (r : Except DbError Unit) :
    (Exchange.call (.rollback s) r).failure? = none := by
  cases r <;> rfl

namespace Driver

theorem Opens.failures (h : d.Opens s xs) : failures xs = [] := by
  cases h <;> rfl

theorem StaysOut.failures {entry : EntryFailure} (h : d.StaysOut xs entry) :
    failures xs = [(entry.phase, entry.cause)] := by
  cases h with
  | notBegun => rfl
  | notSwitched _ =>
    simp only [SchemaMigration.failures, List.filterMap_cons, Exchange.failure?_rollback]
    rfl

theorem recordFailure_cases {name : MigrationName} {text : String}
    {r : Except (Phase × DbError) Unit} (h : (d.recordFailure name text).Follows xs (.done r)) :
    (failures xs = [] ∧ r = .ok ()) ∨ ∃ failure, failures xs = [failure] ∧ r = .error failure := by
  rw [recordFailure_eq] at h
  obtain ⟨r₁, ys, zs, henter, hrest, rfl⟩ := Follows.bind_done h
  rcases enter_follows henter with ⟨s, rfl, hopens⟩ | ⟨e, rfl, hout⟩
  · rw [failures_append, hopens.failures, List.nil_append]
    rcases recordIn_cases hrest with ⟨e, r', rfl, rfl⟩ | ⟨x, e, rfl, rfl⟩ | ⟨x, u, rfl, rfl⟩
    · refine Or.inr ⟨_, ?_, rfl⟩
      simp only [SchemaMigration.failures, List.filterMap_cons, Exchange.failure?_rollback]
      rfl
    · exact Or.inr ⟨_, rfl, rfl⟩
    · exact Or.inl ⟨rfl, rfl⟩
  · obtain ⟨rfl, rfl⟩ := Follows.of_pure hrest
    rw [List.append_nil]
    exact Or.inr ⟨_, hout.failures, rfl⟩

theorem settleFailure_cases {e : MigrateError} {o : Outcome}
    (h : (d.settleFailure m e).Follows xs (.done o)) :
    (failures xs = [] ∧ o = ⟨.error e, .failed e.recordedText⟩) ∨
      ∃ phase cause, failures xs = [(phase, cause)] ∧
        o = ⟨.error (.statusPersistence m.name phase (some e) cause), m.status⟩ := by
  obtain ⟨r, ys, zs, hrecord, hrest, rfl⟩ := Follows.bind_done (Follows.of_log (Follows.of_log h))
  rcases recordFailure_cases hrecord with ⟨hnone, rfl⟩ | ⟨⟨phase, cause⟩, hone, rfl⟩
  · obtain ⟨rfl, rfl⟩ := Follows.of_pure hrest
    rw [List.append_nil]
    exact Or.inl ⟨hnone, rfl⟩
  · obtain ⟨rfl, rfl⟩ := Follows.of_pure hrest
    rw [List.append_nil]
    exact Or.inr ⟨phase, cause, hone, rfl⟩

theorem settleFailure_of_committed {e : MigrateError}
    (h : d.Transacts ⟨m.name, false, e.recordedText⟩ nothingToDo xs .committed) :
    (d.settleFailure m e).Follows xs (.done ⟨.error e, .failed e.recordedText⟩) := by
  cases h with
  | @acted s xs ys zs _ opens acted seals =>
    obtain ⟨rfl, -⟩ := acted
    cases seals with
    | @committed x u =>
      have hrecord : (d.recordFailure m.name e.recordedText).Follows
          (xs ++ [.call (d.saving s ⟨m.name, false, e.recordedText⟩) (.ok x),
            .call (.commit s) (.ok u)]) (.done (.ok ())) := by
        rw [recordFailure_eq]
        exact ((opens.enter_follows m.name).bind _).trans (.log (.call _ (.call _ (.refl _))))
      rw [List.append_nil]
      exact .log (.log (hrecord.bind _))

end Driver

end

/-! ## A run -/

namespace Driver

/--
What the error of a run tells whose first transaction stopped at a step. It is the error of that
step, unless the second transaction failed to record it: then it holds both.
-/
structure Tells (d : Driver) (m : Migration) (first second : List Exchange) (step : FailedStep)
    (e : MigrateError) : Prop where
  stops : d.StopsAt m first step
  records : if step.isEntry then second = []
    else ∃ ending, d.Transacts ⟨m.name, false, (step.error m.name).recordedText⟩ nothingToDo second
      ending
  migration : e.migration = some m.name
  phase : e.phase.isSome = true
  plain : e.isFatal = false → e = step.error m.name ∧ e.kind = step.kind ∧
    e.phase = some step.phase ∧ e.sql = step.sql?
  fatal : e.isFatal = true ↔ failures second ≠ []
  compound : ∀ phase cause, (phase, cause) ∈ failures second →
    e = .statusPersistence m.name phase (some (step.error m.name)) cause
  earlier : ∀ e₀, e.earlier = some e₀ → e₀ = step.error m.name ∧ e₀.isFatal = false ∧
    e₀.phase ≠ some .begin ∧ e₀.phase ≠ some .namespaceSwitch
  /-- After the first transaction, what is left of the run is to record the error of the step. -/
  given : step.isEntry = false → (d.run m).Follows first (d.settleFailure m (step.error m.name))
  /-- The run would have given that error if it had been recorded. -/
  otherwise : step.isEntry = false → ∀ second',
    d.Transacts ⟨m.name, false, (step.error m.name).recordedText⟩ nothingToDo second' .committed →
      (d.run m).Follows (first ++ second')
        (.done ⟨.error (step.error m.name), .failed (step.error m.name).recordedText⟩)

variable {d : Driver} {m : Migration} {first second xs : List Exchange} {step : FailedStep}
  {e : MigrateError} {o : Outcome}

theorem Tells.of_plain (stops : d.StopsAt m first step)
    (records : if step.isEntry then second = []
      else ∃ ending, d.Transacts ⟨m.name, false, (step.error m.name).recordedText⟩ nothingToDo
        second ending)
    (given : step.isEntry = false →
      (d.run m).Follows first (d.settleFailure m (step.error m.name)))
    (hnone : failures second = []) : d.Tells m first second step (step.error m.name) where
  stops := stops
  records := records
  migration := step.error_migration m.name
  phase := by rw [step.error_phase]; rfl
  plain _ := ⟨rfl, step.error_kind m.name, step.error_phase m.name, step.error_sql m.name⟩
  fatal := by simp [step.error_not_fatal, hnone]
  compound phase cause h := by simp [hnone] at h
  earlier e₀ h := by cases step <;> cases h
  given := given
  otherwise hentry _ h := (given hentry).trans (settleFailure_of_committed h)

theorem Tells.of_compound {phase : Phase} {cause : DbError} (stops : d.StopsAt m first step)
    (hentry : step.isEntry = false)
    (records : ∃ ending, d.Transacts ⟨m.name, false, (step.error m.name).recordedText⟩ nothingToDo
      second ending)
    (given : (d.run m).Follows first (d.settleFailure m (step.error m.name)))
    (hone : failures second = [(phase, cause)]) :
    d.Tells m first second step
      (.statusPersistence m.name phase (some (step.error m.name)) cause) where
  stops := stops
  records := by rw [hentry]; exact records
  migration := rfl
  phase := rfl
  plain h := by cases h
  fatal := by simp [hone, MigrateError.isFatal]
  compound phase' cause' h := by
    rw [hone] at h
    cases List.mem_singleton.1 h
    rfl
  earlier e₀ h := by
    cases h
    obtain ⟨hbegin, hswitch⟩ := step.phase_of_not_isEntry hentry
    rw [step.error_phase]
    exact ⟨rfl, step.error_not_fatal m.name, by simpa using hbegin, by simpa using hswitch⟩
  given _ := given
  otherwise _ _ h := given.trans (settleFailure_of_committed h)

theorem run_fails (h : (d.run m).Follows xs (.done o)) (he : o.result = .error e) :
    ∃ first second step, xs = first ++ second ∧ d.Tells m first second step e := by
  rw [run_eq] at h
  obtain ⟨r₁, ys, zs, henter, hrest, rfl⟩ := Follows.bind_done (Follows.of_log h)
  rcases enter_follows henter with ⟨s, rfl, hopens⟩ | ⟨entry, rfl, hout⟩
  · obtain ⟨r₂, xs₁, second, hattempt, hreport, rfl⟩ := Follows.bind_done hrest
    cases r₂ with
    | ok result =>
      unfold report at hreport
      have hdone := Follows.of_log hreport
      obtain ⟨rfl, -⟩ := Follows.of_pure hdone
      cases he
    | error e₀ =>
      obtain ⟨step, hstops, hentry, rfl⟩ := attempt_fails hopens hattempt
      have hgiven : (d.run m).Follows (ys ++ xs₁) (d.settleFailure m (step.error m.name)) := by
        rw [run_eq]
        exact .log ((henter.bind _).trans (hattempt.bind _))
      have hrecords := (settleFailure_follows hreport).1
      refine ⟨ys ++ xs₁, second, step, by simp, ?_⟩
      rcases settleFailure_cases hreport with ⟨hnone, rfl⟩ | ⟨phase, cause, hone, rfl⟩
      · cases he
        refine .of_plain hstops ?_ (fun _ => hgiven) hnone
        rw [hentry]
        exact hrecords
      · cases he
        exact .of_compound hstops hentry hrecords hgiven hone
  · obtain ⟨rfl, rfl⟩ := Follows.of_pure hrest
    obtain ⟨step, hstops, hentry, hstep⟩ := hout.stopsAt (m := m)
    cases he
    rw [← hstep]
    refine ⟨ys, [], step, rfl, .of_plain hstops ?_ (fun h => ?_) rfl⟩
    · rw [hentry]
      rfl
    · rw [hentry] at h
      cases h

variable {P : Terms} {sc sc' : Scene} {es : List Event}

/--
The error of a run that fails tells the step that failed first, and the failure to record that if
there was one. With other answers to its rollbacks, the run gives the same.
-/
theorem run_error_tells (h : Course P (d.run m) sc es (.ended o) sc') (he : o.result = .error e) :
    ∃ first second step, es = (first ++ second).map Exchange.event ∧
      sc.Gives (first ++ second) sc' ∧ d.Tells m first second step e ∧
      ∀ xs o', SameUnheard xs (first ++ second) →
        ((d.run m).Follows xs (.done o') ↔ o' = o) := by
  obtain ⟨xs, hfollows, hgives, rfl⟩ := h.exchanges
  obtain ⟨first, second, step, rfl, htells⟩ := run_fails hfollows he
  refine ⟨first, second, step, rfl, hgives, htells, ?_⟩
  intro xs o' hsame
  have hother := d.run_heedless m _ _ _ hfollows hsame
  constructor
  · exact fun h => h.result_eq hother
  · rintro rfl
    exact hother

/-- The error that a run has ended with. -/
def failureOf? : Standing Outcome → Option MigrateError
  | .ended ⟨.error e, _⟩ => some e
  | _ => none

theorem failureOf?_eq_some {st : Standing Outcome} {e : MigrateError}
    (h : failureOf? st = some e) : ∃ status, st = .ended ⟨.error e, status⟩ := by
  rcases st with ⟨_ | _, status⟩ | held <;> cases h
  exact ⟨status, rfl⟩

/-- The script fails, its rollback fails, and then what happened cannot be saved. -/
theorem run_error_tells_unsaved :
    let m : Migration := { name := ⟨"lib", "one"⟩, action := .script "SELECT 1" }
    let d : Driver := ⟨{}, ⟨none, ⟨"t", by decide⟩⟩, some ⟨"app", by decide⟩⟩
    let sc : Scene := .start { rules := [
      { contains := "SELECT 1", reply := .fail (.execution "no") },
      { kind := some .executeWith, reply := .fail (.execution "full") },
      { kind := some .rollback, reply := .fail (.connection "gone") }] }
    ∃ es o sc' e first second step, Course anyTerms (d.run m) sc es (.ended o) sc' ∧
      o.result = .error e ∧ e.isFatal = true ∧ e.phase = some .statusSave ∧
      es = (first ++ second).map Exchange.event ∧ d.Tells m first second step e := by
  intro m d sc
  have hfatal : (failureOf? ((d.run m).advance sc.database).standing).map
      (fun e => (e.isFatal, e.phase)) = some (true, some .statusSave) := by
    decide +kernel
  obtain ⟨e, he, hfatal⟩ := Option.map_eq_some_iff.1 hfatal
  obtain ⟨status, hst⟩ := failureOf?_eq_some he
  have hmakes : (d.run m).Makes anyTerms sc.database :=
    Makes.of_replies (Q := fun _ => True) (fun _ _ _ => trivial) _ fun _ _ => trivial
  have hcourse := Course.advance hmakes
  rw [hst] at hcourse
  obtain ⟨first, second, step, hevents, -, htells, -⟩ := run_error_tells hcourse rfl
  obtain ⟨hisFatal, hphase⟩ := Prod.mk.inj hfatal
  exact ⟨_, _, _, e, first, second, step, hcourse, rfl, hisFatal, hphase, hevents, htells⟩

end Driver

end SchemaMigration
