import SchemaMigration.Proofs.Commits

/-!
# What an operation sends

Every call that an operation can make, whatever it is answered: with which text, in which session,
and with which values bound to it. What the author of a migration sends is told apart from what the
engine does.
-/

namespace SchemaMigration

/-! ## Ends of a program -/

namespace Program

variable {α β : Type} {φ : Call → Prop}

/-- With some replies, the program ends like this. -/
def Gives (a : α) : Program α → Prop
  | .done b => b = a
  | .log _ next | .close _ next => next.Gives a
  | .call _ next => ∃ reply, (next reply).Gives a

/-- What comes after a program matters for the ends only that the program has. -/
theorem Only.bind_gives {p : Program α} {f : α → Program β} (h : p.Only φ)
    (hf : ∀ a, p.Gives a → (f a).Only φ) : (p >>= f).Only φ := by
  induction p with
  | done a => exact hf a rfl
  | log r next ih => exact ih h hf
  | close s next ih => exact ih h hf
  | call c next ih =>
    exact ⟨h.1, fun reply => ih reply (h.2 reply) fun a ha => hf a ⟨reply, ha⟩⟩

end Program

open Program

/-! ## Calls of the author -/

/-- The text that a step of a callback sends, if it sends one. -/
def CallbackAction.sql? : CallbackAction → Option String
  | execute sql | executeWith sql _ | query sql _ => some sql
  | append _ | appendColumn _ _ | fail _ => none

def MigrationAction.callback : MigrationAction → Callback
  | script _ => []
  | generated callback | computed callback => callback

/-- What a migration itself sends: its script, as it is or as it is made, and its own calls. -/
inductive Migration.Authors (m : Migration) : Command → Prop
  | script {sql : String} (haction : m.action = .script sql) : Authors m (.script sql)
  | generated {generator : Callback} {s : SessionId} {sql : String}
      (haction : m.action = .generated generator) (hsql : (generator.run s).Gives (.ok sql)) :
      Authors m (.script sql)
  | custom {step : CallbackStep} {sql : String} (hstep : step ∈ m.action.callback)
      (hsql : step.action.sql? = some sql) : Authors m (.custom sql)

/-- The text and the values that a call brings to the database. The others are no statements. -/
def Call.statement? : Call → Option (Command × List SqlValue)
  | execute _ c => some (c, [])
  | executeWith _ c params | query _ c params => some (c, params)
  | begin _ | commit _ | rollback _ => none

/-- The call is made in this session, and what it sends is the migration's own. -/
def Migration.Makes (m : Migration) (s : SessionId) (c : Call) : Prop :=
  c.session? = some s ∧ ∃ command params, c.statement? = some (command, params) ∧ m.Authors command

theorem CallbackAction.run_makes {m : Migration} {step : CallbackStep} (s : SessionId)
    (st : Callback.State) (h : step ∈ m.action.callback) :
    (step.action.run s st).Only (m.Makes s) := by
  cases ha : step.action with
  | execute sql =>
    have hc : m.Makes s (.execute (some s) (.custom sql)) :=
      ⟨rfl, _, _, rfl, .custom h (by rw [ha]; rfl)⟩
    exact (Only.perform hc).bind fun _ => trivial
  | executeWith sql params =>
    have hc : m.Makes s (.executeWith s (.custom sql) params) :=
      ⟨rfl, _, _, rfl, .custom h (by rw [ha]; rfl)⟩
    exact (Only.perform hc).bind fun _ => trivial
  | query sql params =>
    have hc : m.Makes s (.query (some s) (.custom sql) params) :=
      ⟨rfl, _, _, rfl, .custom h (by rw [ha]; rfl)⟩
    exact (Only.perform hc).bind fun _ => trivial
  | append text => trivial
  | appendColumn i type => trivial
  | fail cause => trivial

theorem Callback.runFrom_makes {m : Migration} {callback : Callback} (s : SessionId)
    (st : Callback.State) (h : callback ⊆ m.action.callback) :
    (Callback.runFrom s st callback).Only (m.Makes s) := by
  induction callback generalizing st with
  | nil => trivial
  | cons step rest ih =>
    have hstep : (step.run s st).Only (m.Makes s) :=
      (CallbackAction.run_makes s st (h List.mem_cons_self)).bind fun _ => trivial
    refine hstep.bind ?_
    rintro (cause | st')
    · trivial
    · exact ih st' fun _ hmem => h (List.mem_cons_of_mem _ hmem)

theorem Migration.submit_makes {m : Migration} {sql : String} (s : SessionId)
    (h : m.Authors (.script sql)) : (m.submit s sql).Only (m.Makes s) := by
  have hsend : (m.send s sql).Only (m.Makes s) := by
    unfold send
    split
    · exact ⟨⟨rfl, _, _, rfl, h⟩, fun _ => trivial⟩
    · trivial
  rcases m.submit_eq s sql with heq | ⟨text, heq⟩
  · rw [heq]
    exact hsend
  · rw [heq]
    exact hsend

theorem Migration.apply_makes (m : Migration) (s : SessionId) :
    (m.apply s).Only (m.Makes s) := by
  unfold apply
  split
  · rename_i sql haction
    exact submit_makes s (.script haction)
  · rename_i generator haction
    have hrun : (generator.run s).Only (m.Makes s) :=
      Callback.runFrom_makes s {} (by rw [haction]; exact List.Subset.refl _)
    refine hrun.bind_gives ?_
    rintro (cause | sql) hgives
    · trivial
    · exact submit_makes s (.generated haction hgives)
  · rename_i action haction
    have hrun : (action.run s).Only (m.Makes s) :=
      Callback.runFrom_makes s {} (by rw [haction]; exact List.Subset.refl _)
    refine hrun.bind ?_
    rintro (cause | _)
    · trivial
    · trivial

/-! ## Calls of the engine -/

/--
What the engine sends for a driver, and what is bound to it: the names of a migration, the text of
an error, the name of a lock and the arguments of a question are values and nothing else.
-/
inductive Driver.Sends (d : Driver) : Call → Prop
  | begin (options : TxOptions) : Sends d (.begin options)
  | commit (s : SessionId) : Sends d (.commit s)
  | rollback (s : SessionId) : Sends d (.rollback s)
  | useSchema {schema : Identifier} (s : SessionId) (h : d.schemaOverride = some schema) :
      Sends d (.execute (some s) (.useSchema schema))
  | createSchema {schema : Identifier} (h : d.tracking.schema = some schema) :
      Sends d (.execute none (.createSchema schema))
  | createTracking : Sends d (.execute none (.createTracking d.tracking))
  | loadStatuses : Sends d (.query none (.loadStatuses d.tracking) [])
  | saveStatus (s : SessionId) (name : MigrationName) (done : Bool) (error : String) :
      Sends d (.executeWith s (.saveStatus d.tracking)
        [.text name.library, .text name.name, .bool done, .text error])
  | takeLock (s : SessionId) (lockName : String) :
      Sends d (.query (some s) .takeLock [.text lockName])
  | freeLock (s : SessionId) (lockName : String) :
      Sends d (.query (some s) .freeLock [.text lockName])
  | ask {default : Option Identifier} {q : Question} {params : List SqlValue}
      (h : q.params default = .ok params) : Sends d (.query none (.ask q) params)

theorem ask_sends (d : Driver) (default : Option Identifier) (q : Question) :
    (ask default q).Only d.Sends := ask_calls fun _ hparams => .ask hparams

theorem freeLock_sends (d : Driver) (lockName : String) (s : SessionId) :
    (freeLock lockName s).Only d.Sends := freeLock_calls (.freeLock s lockName) (.rollback s)

theorem Driver.run_sends (d : Driver) (m : Migration) :
    (d.run m).Only fun c => d.Sends c ∨ ∃ s, m.Makes s c := by
  have henter : (d.enter m.name).Only d.Sends :=
    d.enter_calls m.name (.begin _) (fun s _ hschema => .useSchema s hschema) .rollback
  have hreport (r : Except MigrateError ExecResult) : (d.report m r).Only d.Sends :=
    report_calls fun text =>
      recordFailure_calls henter (fun s => .saveStatus s m.name false text) .commit .rollback
  have hconclude (s : SessionId) (r : Except MigrateError ExecResult) :
      (d.conclude m s r).Only d.Sends :=
    conclude_calls (.saveStatus s m.name true "") (.commit s) (.rollback s)
  rw [run_eq]
  refine Only.bind trivial fun _ => (henter.mono fun _ => Or.inl).bind ?_
  rintro (e | s)
  · trivial
  dsimp only
  rw [attempt_eq]
  refine Only.bind ?_ fun r => (hreport r).mono fun _ => Or.inl
  refine ((m.apply_makes s).mono fun _ hc => Or.inr ⟨s, hc⟩).bind fun r => ?_
  exact (hconclude s r).mono fun _ => Or.inl

/-! ## Tasks -/

/-- The task is one of this driver, or of none: any lock, and any condition for skipping. -/
def Task.IsOf (d : Driver) : Task → Prop
  | .ensure d' | .load d' _ _ | .run d' _ _ | .ask d' _ => d' = d
  | .acquire _ _ _ | .release _ _ | .force _ _ | .skip _ => True

/-- What the task sends on behalf of the author of a migration. -/
def Task.Makes (t : Task) (c : Call) : Prop := ∃ d place m s, t = .run d place m ∧ m.Makes s c

theorem Task.sends {d : Driver} {t : Task} (h : t.IsOf d) :
    t.program.Only fun c => d.Sends c ∨ t.Makes c := by
  have hengine {α : Type} {p : Program α} {f : α → Settlement} (hp : p.Only d.Sends) :
      (p >>= fun a => pure (f a)).Only fun c => d.Sends c ∨ t.Makes c :=
    (hp.mono fun _ => Or.inl).bind fun _ => trivial
  cases t with
  | ensure d' =>
    obtain rfl : d' = d := h
    exact hengine (Driver.ensureTracking_calls (fun _ => .createSchema) .createTracking)
  | load d' places ms =>
    obtain rfl : d' = d := h
    exact hengine (Driver.loadStatuses_calls ms .loadStatuses)
  | run d' place m =>
    obtain rfl : d' = d := h
    refine Only.bind ((d'.run_sends m).mono fun c hc => ?_) fun _ => trivial
    exact hc.imp_right fun ⟨s, hs⟩ => ⟨d', place, m, s, rfl, hs⟩
  | acquire d' id lockName =>
    exact hengine (takeLock_calls (.begin _) (fun s => .takeLock s lockName) .rollback)
  | release lockName s => exact hengine (freeLock_sends d lockName s)
  | force lockName s => exact hengine ((freeLock_sends d lockName s).bind fun _ => trivial)
  | ask d' q =>
    obtain rfl : d' = d := h
    exact hengine (ask_sends d' _ q)
  | skip m => exact hengine (Migration.shouldSkip_calls (ask_sends d none))

end SchemaMigration
