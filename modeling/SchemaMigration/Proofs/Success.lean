import SchemaMigration.Proofs.Calls
import SchemaMigration.Proofs.Exclusion
import SchemaMigration.Proofs.Loading
import SchemaMigration.Proofs.Outcome

/-!
# Without rules

What each operation does on a database whose rules decide nothing: how it ends, and how it leaves
the database, whatever other sessions and locks there are.
-/

namespace SchemaMigration

theorem Database.serve_usual {db : Database} (h : db.rules = []) (c : Call) :
    db.serve c = db.usual c := by
  obtain ⟨rows, sessions, begun, locks, rules⟩ := db
  cases h
  rfl

namespace Program

/-- Started on `db`, the program ends with `a` and leaves `db'`. -/
structure Finishes {α : Type} (p : Program α) (db : Database) (a : α) (db' : Database) : Prop where
  standing : (p.advance db).standing = .ended a
  database : (p.advance db).database = db'

variable {α β : Type} {p : Program α} {f : α → Program β} {a : α} {b : β} {db db₁ db' : Database}

theorem Finishes.pure (a : α) (db : Database) : (pure a : Program α).Finishes db a db := ⟨rfl, rfl⟩

theorem Finishes.bind (h : p.Finishes db a db₁) (hf : (f a).Finishes db₁ b db') :
    (p >>= f).Finishes db b db' := by
  induction p generalizing db with
  | done a' =>
    obtain ⟨hst, hdb⟩ := h
    cases hst
    cases hdb
    exact hf
  | log r next ih =>
    obtain ⟨hst, hdb⟩ := @ih db ⟨h.standing, h.database⟩
    exact ⟨hst, hdb⟩
  | close s next ih =>
    obtain ⟨hst, hdb⟩ := @ih (db.drop s) ⟨h.standing, h.database⟩
    exact ⟨hst, hdb⟩
  | call c next ih =>
    obtain ⟨hst, hdb⟩ := h
    show (Program.call c fun reply => next reply >>= f).Finishes db b db'
    cases hv : db.serve c with
    | answered reply e =>
      simp only [advance, hv] at hst hdb
      obtain ⟨hst', hdb'⟩ := @ih reply e ⟨hst, hdb⟩
      exact ⟨by simp only [advance, hv]; exact hst', by simp only [advance, hv]; exact hdb'⟩
    | blocked e =>
      simp only [advance, hv] at hst
      cases hst
    | waiting s lock granted e =>
      simp only [advance, hv] at hst
      cases hst

theorem Finishes.log (r : LogRecord) (h : p.Finishes db a db') :
    (Program.log r p).Finishes db a db' := ⟨h.standing, h.database⟩

theorem Finishes.perform {c : Call} {r : Except DbError c.Answer} (hrules : db.rules = [])
    (h : db.usual c = .answered r db') : (perform c).Finishes db r db' := by
  have hv : db.serve c = .answered r db' := (Database.serve_usual hrules c).trans h
  constructor <;> simp only [Program.perform, advance, hv] <;> rfl

variable {s : SessionId}

theorem begin_finishes (options : TxOptions) (hrules : db.rules = []) :
    (perform (.begin options)).Finishes db (.ok (db.begun + 1)) db.openSession :=
  .perform hrules rfl

theorem execute_finishes (s : SessionId) (q : Command) (hrules : db.rules = []) :
    (perform (.execute (some s) q)).Finishes db (.ok { rowsAffected := 1 }) db :=
  .perform hrules rfl

theorem executeApart_finishes (q : Command) (hrules : db.rules = []) :
    (perform (.execute none q)).Finishes db (.ok {}) db :=
  .perform hrules rfl

theorem query_finishes {s : Option SessionId} {q : Command} {params : List SqlValue}
    {rows : List Row} (hrules : db.rules = [])
    (h : db.answerQuery s q.text params = .answered (.ok rows) db') :
    (perform (.query s q params)).Finishes db (.ok rows) db' :=
  .perform hrules h

theorem commit_finishes (s : SessionId) (hrules : db.rules = []) :
    (perform (.commit s)).Finishes db (.ok ()) (db.commit s) :=
  .perform hrules rfl

theorem rollback_finishes (s : SessionId) (hrules : db.rules = []) :
    (perform (.rollback s)).Finishes db (.ok ()) (db.endSession s) :=
  .perform hrules rfl

end Program

open Program

/-! ## The action of a migration -/

/-- A query that takes an advisory lock. -/
def CallbackAction.takesLock : CallbackAction → Bool
  | .query sql [.text _] => startsWithText "SELECT GET_LOCK" sql
  | _ => false

def MigrationAction.takesLock : MigrationAction → Bool
  | .script _ => false
  | .generated callback | .computed callback => callback.any (·.action.takesLock)

/-- What a program gives that ends without an error. -/
def Progress.success? {ε α : Type} (p : Progress (Except ε α)) : Option α :=
  match p.standing with
  | .ended (.ok a) => some a
  | _ => none

/-- The script may be sent, or the callback succeeds in session `s` on the database. -/
def Migration.works (m : Migration) (db : Database) (s : SessionId) : Bool :=
  match m.action with
  | .script sql => (classify sql).permits m.hasSkipIf
  | .generated generator =>
    ((generator.run s).advance db).success?.any fun sql => (classify sql).permits m.hasSkipIf
  | .computed action => ((action.run s).advance db).success?.isSome

variable {db db' : Database} {s : SessionId}

theorem Database.answerQuery_of_not_takesLock {sql : String} {params : List SqlValue}
    (hown : ∀ lock, db.locks.lookup lock ≠ some s)
    (hl : (CallbackAction.query sql params).takesLock = false) :
    ∃ rows, db.answerQuery (some s) sql params = .answered (.ok rows) db := by
  unfold answerQuery
  by_cases hload : startsWithText "SELECT library, migration, done FROM " sql = true
  · rw [if_pos hload]
    exact ⟨_, rfl⟩
  rw [if_neg hload]
  split
  · rename_i t lock ht
    cases ht
    have htake : startsWithText "SELECT GET_LOCK" sql = false := hl
    rw [htake, if_neg Bool.false_ne_true, free, if_neg (hown lock)]
    split <;> exact ⟨_, rfl⟩
  · exact ⟨_, rfl⟩

theorem CallbackAction.finishes {a : CallbackAction} (st : Callback.State)
    (hrules : db.rules = []) (hown : ∀ lock, db.locks.lookup lock ≠ some s)
    (hw : a.rowWrites = []) (hl : a.takesLock = false) :
    ∃ r, (a.run s st).Finishes db r db := by
  cases a with
  | execute sql => exact ⟨_, (execute_finishes s _ hrules).bind (.pure _ _)⟩
  | executeWith sql params =>
    have hnone : Database.rowWrite? (Command.custom sql).text params = none :=
      Option.toList_eq_nil_iff.1 hw
    have husual : db.usual (.executeWith s (.custom sql) params) =
        .answered (.ok { rowsAffected := 1 }) db := by
      simp only [Database.usual, hnone]
    exact ⟨_, (Finishes.perform hrules husual).bind (.pure _ _)⟩
  | query sql params =>
    obtain ⟨rows, husual⟩ := Database.answerQuery_of_not_takesLock hown hl
    exact ⟨_, (query_finishes (q := .custom sql) hrules husual).bind (.pure _ _)⟩
  | append text => exact ⟨_, .pure _ _⟩
  | appendColumn i type => exact ⟨_, .pure _ _⟩
  | fail cause => exact ⟨_, .pure _ _⟩

theorem Callback.finishes {callback : Callback} (st : Callback.State) (hrules : db.rules = [])
    (hown : ∀ lock, db.locks.lookup lock ≠ some s) (hw : callback.rowWrites = [])
    (hl : callback.any (·.action.takesLock) = false) :
    ∃ r, (callback.runFrom s st).Finishes db r db := by
  induction callback generalizing st with
  | nil => exact ⟨_, .pure _ _⟩
  | cons step rest ih =>
    obtain ⟨hstep, hrest⟩ := List.append_eq_nil_iff.1 hw
    rw [List.any_cons, Bool.or_eq_false_iff] at hl
    obtain ⟨r, hr⟩ := CallbackAction.finishes st hrules hown hstep hl.1
    have hfirst : (step.run s st).Finishes db (r.mapError step.inContext) db := hr.bind (.pure _ _)
    cases r with
    | error cause => exact ⟨_, hfirst.bind (.pure _ _)⟩
    | ok st' =>
      obtain ⟨r', hr'⟩ := ih st' hrest hl.2
      exact ⟨r', hfirst.bind hr'⟩

theorem Progress.success?_of_finishes {ε α : Type} {p : Program (Except ε α)} {r : Except ε α}
    (h : p.Finishes db r db') : (p.advance db).success? = r.toOption := by
  rw [success?, h.standing]
  cases r <;> rfl

theorem Migration.submit_finishes {m : Migration} {sql : String} (hrules : db.rules = [])
    (hsql : (classify sql).permits m.hasSkipIf = true) :
    (m.submit s sql).Finishes db (.ok { rowsAffected := 1 }) db := by
  have hsend : (m.send s sql).Finishes db (.ok { rowsAffected := 1 }) db := by
    unfold send
    rw [if_pos hsql]
    exact .log _ ((execute_finishes s _ hrules).bind (.pure _ _))
  rcases m.submit_eq s sql with h | ⟨text, h⟩
  · rwa [h]
  · rw [h]
    exact .log _ hsend

theorem Migration.apply_finishes {m : Migration} (hrules : db.rules = [])
    (hown : ∀ lock, db.locks.lookup lock ≠ some s) (hw : m.action.rowWrites = [])
    (hl : m.action.takesLock = false) (hm : m.works db s = true) :
    ∃ x, (m.apply s).Finishes db (.ok x) db := by
  unfold works at hm
  unfold apply
  cases haction : m.action with
  | script sql =>
    rw [haction] at hm
    exact ⟨_, m.submit_finishes hrules hm⟩
  | generated generator =>
    rw [haction] at hm hw hl
    obtain ⟨r, hr⟩ := Callback.finishes {} hrules hown hw hl
    dsimp only [Callback.run] at hm
    rw [Progress.success?_of_finishes hr] at hm
    cases r with
    | error cause => cases hm
    | ok sql => exact ⟨_, hr.bind (m.submit_finishes hrules hm)⟩
  | computed action =>
    rw [haction] at hm hw hl
    obtain ⟨r, hr⟩ := Callback.finishes {} hrules hown hw hl
    dsimp only [Callback.run] at hm
    rw [Progress.success?_of_finishes hr] at hm
    cases r with
    | error cause => cases hm
    | ok text => exact ⟨_, hr.bind (.pure _ _)⟩

/-! ## A run -/

namespace Database

/-- The database once the writes were committed, each in a transaction of its own. -/
def committing (db : Database) (ws : List RowWrite) : Database :=
  { db with begun := db.begun + ws.length, rows := db.rows.writeAll ws }

theorem committing_committing (db : Database) (w : RowWrite) (ws : List RowWrite) :
    (db.committing [w]).committing ws = db.committing (w :: ws) := by
  have hlength : db.begun + 1 + ws.length = db.begun + (w :: ws).length := by
    rw [List.length_cons]
    omega
  rw [committing, committing, committing, ← hlength]
  rfl

theorem Sound.ne_of_mem_sessions (h : db.Sound) {e : SessionId × List RowWrite}
    (he : e ∈ db.sessions) : e.1 ≠ db.begun + 1 := by
  intro hb
  have hopen : db.IsOpen e.1 :=
    Option.ne_none_iff_exists'.1 (lookup_ne_none_of_mem (List.mem_map_of_mem he))
  rw [hb] at hopen
  exact not_isOpen_succ h hopen

theorem Sound.ne_of_mem_locks (h : db.Sound) {e : String × SessionId} (he : e ∈ db.locks) :
    e.2 ≠ db.begun + 1 := by
  intro hb
  have hopen := h.owned e.1 e.2 he
  rw [hb] at hopen
  exact not_isOpen_succ h hopen

theorem Sound.not_locked_succ (h : db.Sound) (lock : String) :
    db.openSession.locks.lookup lock ≠ some (db.begun + 1) :=
  fun hlock => h.ne_of_mem_locks (mem_of_lookup_eq_some hlock) rfl

theorem Sound.endSession_append (h : db.Sound) (ws : List RowWrite) :
    (db.sessions ++ [(db.begun + 1, ws)]).filter (·.1 ≠ db.begun + 1) = db.sessions := by
  have hothers : db.sessions.filter (·.1 ≠ db.begun + 1) = db.sessions :=
    List.filter_eq_self.2 fun e he => by simpa using h.ne_of_mem_sessions he
  rw [List.filter_append, hothers]
  simp

theorem Sound.commit_openSession (h : db.Sound) (w : RowWrite) :
    ((db.openSession.stage (db.begun + 1) w).commit (db.begun + 1)) = db.committing [w] := by
  have hothers : (db.stage (db.begun + 1) w).sessions = db.sessions := by
    refine (List.map_congr_left fun e he => ?_).trans (List.map_id' _)
    exact if_neg (h.ne_of_mem_sessions he)
  have hstage : (db.openSession.stage (db.begun + 1) w).sessions =
      db.sessions ++ [(db.begun + 1, [w])] := by
    simp only [Database.openSession, Database.stage, List.map_append] at hothers ⊢
    rw [hothers]
    simp
  have hstaged : (db.openSession.stage (db.begun + 1) w).staged (db.begun + 1) = [w] := by
    rw [staged, lookup_stage, if_pos rfl, lookup_openSession h, if_pos rfl]
    rfl
  have hlocks : db.locks.filter (·.2 ≠ db.begun + 1) = db.locks :=
    List.filter_eq_self.2 fun e he => by simpa using h.ne_of_mem_locks he
  rw [Database.commit, hstaged, Database.endSession, hstage, h.endSession_append]
  show Database.mk _ _ _ (db.locks.filter (·.2 ≠ db.begun + 1)) _ = _
  rw [hlocks]
  rfl

end Database

theorem Driver.enter_finishes (d : Driver) (name : MigrationName) (hrules : db.rules = []) :
    (d.enter name).Finishes db (.ok (db.begun + 1)) db.openSession := by
  have hrules' : db.openSession.rules = [] := hrules
  refine (begin_finishes _ hrules).bind ?_
  dsimp only
  cases d.schemaOverride with
  | none => exact .pure _ _
  | some schema => exact Finishes.bind (execute_finishes _ _ hrules') (.pure _ _)

theorem Driver.saveStatus_finishes (d : Driver) (name : MigrationName) (done : Bool)
    (error : String) (hrules : db.rules = []) :
    (d.saveStatus s name done error).Finishes db (.ok ()) (db.stage s ⟨name, done, error⟩) := by
  have husual : db.usual (.executeWith s (.saveStatus d.tracking) (statusParams name done error)) =
      .answered (.ok { rowsAffected := 1 }) (db.stage s ⟨name, done, error⟩) := by
    simp only [Database.usual, rowWrite?_saveStatus]
  exact .log _ ((Finishes.perform hrules husual).bind (.pure _ _))

theorem Driver.run_finishes (d : Driver) {m : Migration} (hdb : db.Sound) (hrules : db.rules = [])
    (hw : m.action.rowWrites = []) (hl : m.action.takesLock = false)
    (hm : m.works db.openSession (db.begun + 1) = true) :
    ∃ x, (d.run m).Finishes db ⟨.ok x, .succeeded⟩ (db.committing [⟨m.name, true, ""⟩]) := by
  have hopened : db.openSession.rules = [] := hrules
  obtain ⟨x, happly⟩ := m.apply_finishes hopened hdb.not_locked_succ hw hl hm
  refine ⟨x, .log _ ((d.enter_finishes m.name hrules).bind ?_)⟩
  have hattempt : (d.attempt m (db.begun + 1)).Finishes db.openSession (.ok x)
      (db.committing [⟨m.name, true, ""⟩]) := by
    have hrules' : (db.openSession.stage (db.begun + 1) ⟨m.name, true, ""⟩).rules = [] := hrules
    refine happly.bind (Finishes.bind (d.saveStatus_finishes m.name true "" hrules) ?_)
    rw [← hdb.commit_openSession]
    exact Finishes.bind (commit_finishes (db.begun + 1) hrules') (.pure _ _)
  exact hattempt.bind (.log _ (.pure _ _))

/-! ## The tracking table -/

theorem Driver.ensureTracking_finishes (d : Driver) (hrules : db.rules = []) :
    d.ensureTracking.Finishes db (.ok ()) db := by
  unfold ensureTracking
  extract_lets failed createTable
  have htable : createTable.Finishes db (.ok ()) db :=
    (executeApart_finishes _ hrules).bind (.log _ (.pure _ _))
  cases d.tracking.schema with
  | none => exact htable
  | some schema => exact .log _ ((executeApart_finishes _ hrules).bind htable)

theorem LoadState.recordRows_finishes (db : Database) (tracking : TrackingTable)
    (rows : TrackingRows) (st : LoadState) :
    (recordRows tracking st (rows.map Database.statusRow)).Finishes db
      (st.recordAll (rows.map recordedStatus), none) db := by
  induction rows generalizing st with
  | nil => exact .pure _ _
  | cons entry rows ih =>
    rw [List.map_cons, recordRows, ofRow_statusRow]
    dsimp only
    split
    · exact .log _ (ih _)
    · exact ih _

theorem Driver.loadStatuses_finishes (d : Driver) {ms : List Migration} (hrules : db.rules = [])
    (hrows : (db.rows.map (·.1)).Nodup) (hms : (ms.map (·.name)).Nodup) :
    ∃ names, (d.loadStatuses ms).Finishes db ⟨ms.map (·.loaded db.rows), .ok names⟩ db := by
  -- The rows are told in the order of their names, which changes nothing: no name has two.
  have hperm := perm_sorted db.rows
  have hsorted : (db.rows.sorted.map (·.1)).Nodup := (hperm.map _).nodup_iff.2 hrows
  have htold : db.answerQuery none (Command.loadStatuses d.tracking).text [] =
      .answered (.ok (db.rows.sorted.map Database.statusRow)) db :=
    if_pos (startsWithText_loadStatuses d.tracking)
  have hloaded : ms.map (·.loaded db.rows.sorted) = ms.map (·.loaded db.rows) :=
    List.map_congr_left fun m _ => m.loaded_perm hperm hsorted
  have hrecord := LoadState.recordRows_finishes db d.tracking db.rows.sorted { migrations := ms }
  rw [LoadState.recordAll_eq hsorted hms, hloaded] at hrecord
  exact ⟨_, (query_finishes hrules htold).bind (Finishes.bind hrecord (.log _ (.pure _ _)))⟩

/-! ## The lock -/

theorem takeLock_finishes {lock : String} (hrules : db.rules = [])
    (hlock : db.locks.lookup lock = none) :
    (takeLock lock).Finishes db (.ok (db.begun + 1))
      { db.openSession with locks := db.locks ++ [(lock, db.begun + 1)] } := by
  have hrules' : db.openSession.rules = [] := hrules
  have hgrant : db.openSession.grant? (db.begun + 1) lock =
      some { db.openSession with locks := db.locks ++ [(lock, db.begun + 1)] } := by
    have hfree : db.openSession.locks.lookup lock = none := hlock
    rw [Database.grant?, hfree]
    rfl
  have htaken : db.openSession.answerQuery (some (db.begun + 1)) Command.takeLock.text
      [.text lock] = .answered (.ok [[.int 1]])
        { db.openSession with locks := db.locks ++ [(lock, db.begun + 1)] } := by
    rw [answerQuery_takeLock, hgrant]
  refine .log _ ((begin_finishes _ hrules).bind ?_)
  exact Finishes.bind (query_finishes hrules' htaken) (.log _ (.pure _ _))

theorem freeLock_finishes {lock : String} (hrules : db.rules = [])
    (hlock : db.locks.lookup lock = some s) :
    (freeLock lock s).Finishes db (.ok ())
      ({ db with locks := db.locks.filter (·.1 ≠ lock) }.endSession s) := by
  have hrules' : Database.rules { db with locks := db.locks.filter (·.1 ≠ lock) } = [] := hrules
  have hload : startsWithText "SELECT library, migration, done FROM " Command.freeLock.text =
      false := by
    decide
  have htake : startsWithText "SELECT GET_LOCK" Command.freeLock.text = false := by decide
  have hfree : startsWithText "SELECT RELEASE_LOCK" Command.freeLock.text = true := by decide
  have hfreed : db.answerQuery (some s) Command.freeLock.text [.text lock] =
      .answered (.ok [[.int 1]]) { db with locks := db.locks.filter (·.1 ≠ lock) } := by
    simp [Database.answerQuery, hload, htake, hfree, Database.free, hlock]
  refine (query_finishes hrules hfreed).bind ?_
  refine Finishes.bind (rollback_finishes s hrules') ?_
  exact .log _ (.pure _ _)

theorem Database.Sound.freed {e : Database} {lock : String} (h : db.Sound)
    (hlock : db.locks.lookup lock = none)
    (hsessions : e.sessions = db.sessions ++ [(db.begun + 1, [])])
    (hlocks : e.locks = db.locks ++ [(lock, db.begun + 1)]) :
    { e with locks := e.locks.filter (·.1 ≠ lock) }.endSession (db.begun + 1) =
      { e with sessions := db.sessions, locks := db.locks } := by
  have hnames : db.locks.filter (·.1 ≠ lock) = db.locks := by
    refine List.filter_eq_self.2 fun e he => ?_
    have hne : e.1 ≠ lock := by
      rintro rfl
      exact lookup_ne_none_of_mem (List.mem_map_of_mem he) hlock
    simpa using hne
  have hothers : db.locks.filter (·.2 ≠ db.begun + 1) = db.locks :=
    List.filter_eq_self.2 fun e he => by simpa using h.ne_of_mem_locks he
  have hfreed : ((db.locks ++ [(lock, db.begun + 1)]).filter (·.1 ≠ lock)).filter
      (·.2 ≠ db.begun + 1) = db.locks := by
    rw [List.filter_append, hnames]
    simpa using hothers
  rw [Database.endSession, hsessions, hlocks, h.endSession_append, hfreed]

end SchemaMigration
