import SchemaMigration.Proofs.Calls
import SchemaMigration.Proofs.Exchanges

/-!
# The transactions of a run

A run has one transaction, and a second one after it when the first was entered and not committed.
Each is a list of exchanges of a fixed shape, all on one session, and has ended when the next one
begins. The replies decide which of the shapes it is.
-/

namespace SchemaMigration

/-! ## What the author's code asks for -/

/-- The call that a step of a callback makes, if it makes one. -/
def CallbackAction.call? (s : SessionId) : CallbackAction → Option Call
  | execute sql => some (.execute (some s) (.custom sql))
  | executeWith sql params => some (.executeWith s (.custom sql) params)
  | query sql params => some (.query (some s) (.custom sql) params)
  | append _ | appendColumn _ _ | fail _ => none

def Callback.calls (s : SessionId) (callback : Callback) : List Call :=
  callback.filterMap (·.action.call? s)

/-- What passes while a callback runs in the transaction `s`, up to its result. -/
structure Callback.Made (callback : Callback) (s : SessionId) (xs : List Exchange)
    (r : Except Cause String) : Prop where
  follows : (callback.run s).Follows xs (.done r)
  calls : xs.map Exchange.event <+: (callback.calls s).map .call

/-- What passes while a migration gets its script, if it has one, up to the script. -/
def MigrationAction.Writes (s : SessionId) :
    MigrationAction → List Exchange → Except Cause String → Prop
  | .script sql, xs, r => xs = [] ∧ r = .ok sql
  | .generated generator, xs, r => generator.Made s xs r
  | .computed _, _, _ => False

/-- What passes while a migration does what it is for, and whether that succeeds. -/
inductive Migration.Acts (m : Migration) (s : SessionId) : List Exchange → Bool → Prop
  | computed {action xs r} (h : m.action = .computed action) (made : action.Made s xs r) :
      Acts m s xs r.isOk
  | unwritten {xs cause} (written : m.action.Writes s xs (.error cause)) : Acts m s xs false
  | refused {xs sql} (written : m.action.Writes s xs (.ok sql))
      (h : (classify sql).permits m.hasSkipIf = false) : Acts m s xs false
  | sent {xs sql reply} (written : m.action.Writes s xs (.ok sql))
      (h : (classify sql).permits m.hasSkipIf = true) :
      Acts m s (xs ++ [.call (.execute (some s) (.script sql)) reply]) reply.isOk

/-! ## Transactions -/

/-- How far a transaction of a run came. -/
inductive Ending where
  | notBegun
  | notSwitched
  | notActed
  | notSaved
  | notCommitted
  | committed
deriving DecidableEq

/-- The transaction was entered, and what was to be committed in it was not. -/
def Ending.isUndone : Ending → Bool
  | notActed | notSaved | notCommitted => true
  | notBegun | notSwitched | committed => false

namespace Driver

/-- The call that stages the tracking row `w` in the transaction `s`. -/
def saving (d : Driver) (s : SessionId) (w : RowWrite) : Call :=
  .executeWith s (.saveStatus d.tracking) (statusParams w.name w.done w.error)

/-- The transaction `s` begins, and switches to the schema that the driver's options name. -/
inductive Opens (d : Driver) (s : SessionId) : List Exchange → Prop
  | plain (h : d.schemaOverride = none) : Opens d s [.call (.begin d.options.migrationTx) (.ok s)]
  | switched {schema r} (h : d.schemaOverride = some schema) :
      Opens d s [.call (.begin d.options.migrationTx) (.ok s),
        .call (.execute (some s) (.useSchema schema)) (.ok r)]

/-- The transaction is not entered: it does not begin, or does not switch to the schema. -/
inductive StaysOut (d : Driver) : List Exchange → EntryFailure → Prop
  | notBegun {e} :
      StaysOut d [.call (.begin d.options.migrationTx) (.error e)] ⟨.begin, none, e⟩
  | notSwitched {s schema e r} (h : d.schemaOverride = some schema) :
      StaysOut d [.call (.begin d.options.migrationTx) (.ok s),
        .call (.execute (some s) (.useSchema schema)) (.error e), .call (.rollback s) r]
        ⟨.namespaceSwitch, some ("USE " ++ schema.text), e⟩

/-- The tracking row `w` is staged and committed, as far as that goes. -/
inductive Seals (d : Driver) (s : SessionId) (w : RowWrite) : List Exchange → Ending → Prop
  | notSaved {e r} :
      Seals d s w [.call (d.saving s w) (.error e), .call (.rollback s) r] .notSaved
  | notCommitted {x e} :
      Seals d s w [.call (d.saving s w) (.ok x), .call (.commit s) (.error e)] .notCommitted
  | committed {x u} :
      Seals d s w [.call (d.saving s w) (.ok x), .call (.commit s) (.ok u)] .committed

/-- A transaction from its beginning to its end. It saves the row `w` once `acts` has succeeded. -/
inductive Transacts (d : Driver) (w : RowWrite) (acts : SessionId → List Exchange → Bool → Prop) :
    List Exchange → Ending → Prop
  | notBegun {e} :
      Transacts d w acts [.call (.begin d.options.migrationTx) (.error e)] .notBegun
  | notSwitched {s schema e r} (h : d.schemaOverride = some schema) :
      Transacts d w acts [.call (.begin d.options.migrationTx) (.ok s),
        .call (.execute (some s) (.useSchema schema)) (.error e), .call (.rollback s) r]
        .notSwitched
  | notActed {s xs ys r} (opens : d.Opens s xs) (acted : acts s ys false) :
      Transacts d w acts (xs ++ ys ++ [.call (.rollback s) r]) .notActed
  | acted {s xs ys zs ending} (opens : d.Opens s xs) (acted : acts s ys true)
      (seals : d.Seals s w zs ending) : Transacts d w acts (xs ++ ys ++ zs) ending

/-- The second transaction has nothing to do before it saves. -/
def nothingToDo (_ : SessionId) (ys : List Exchange) (ok : Bool) : Prop := ys = [] ∧ ok = true

end Driver

/-! ## The calls of one session -/

def Exchange.IsOn (s : SessionId) : Exchange → Prop
  | call c _ => c.session? = some s
  | drop _ => False

/-- The options of the transaction that an event begins. -/
def Event.begun? : Event → Option TxOptions
  | .call (.begin options) => some options
  | _ => none

def begun (xs : List Exchange) : List TxOptions := xs.filterMap (·.event.begun?)

theorem begun_append (xs ys : List Exchange) : begun (xs ++ ys) = begun xs ++ begun ys :=
  List.filterMap_append

section

variable {s : SessionId} {xs : List Exchange}

theorem Exchange.IsOn.opened? {x : Exchange} (h : x.IsOn s) : x.opened? = none := by
  cases x with
  | drop t => rfl
  | call c r =>
    cases c with
    | begin options => cases h
    | _ => rfl

theorem Exchange.IsOn.begun? {x : Exchange} (h : x.IsOn s) : x.event.begun? = none := by
  cases x with
  | drop t => rfl
  | call c r =>
    cases c with
    | begin options => cases h
    | _ => rfl

theorem opened_of_isOn (h : ∀ x ∈ xs, x.IsOn s) : opened xs = [] :=
  List.filterMap_eq_nil_iff.2 fun x hx => (h x hx).opened?

theorem begun_of_isOn (h : ∀ x ∈ xs, x.IsOn s) : begun xs = [] :=
  List.filterMap_eq_nil_iff.2 fun x hx => (h x hx).begun?

theorem Callback.Made.isOn {callback : Callback} {r : Except Cause String}
    (h : callback.Made s xs r) : ∀ x ∈ xs, x.IsOn s := by
  intro x hx
  have hevent : x.event ∈ (callback.calls s).map .call :=
    h.calls.subset (List.mem_map_of_mem hx)
  obtain ⟨c, hc, he⟩ := List.mem_map.1 hevent
  obtain ⟨step, -, hstep⟩ := List.mem_filterMap.1 hc
  cases x with
  | drop t => cases he
  | call c' r' =>
    cases he
    cases ha : step.action with
    | append | appendColumn | fail =>
      rw [ha] at hstep
      cases hstep
    | _ =>
      rw [ha] at hstep
      cases hstep
      exact rfl

theorem MigrationAction.Writes.isOn {a : MigrationAction} {r : Except Cause String}
    (h : a.Writes s xs r) : ∀ x ∈ xs, x.IsOn s := by
  cases a with
  | script sql =>
    obtain ⟨rfl, -⟩ := h
    simp
  | generated generator => exact Callback.Made.isOn h
  | computed action => exact h.elim

theorem Migration.Acts.isOn {m : Migration} {ok : Bool} (h : m.Acts s xs ok) :
    ∀ x ∈ xs, x.IsOn s := by
  cases h with
  | computed _ made => exact made.isOn
  | unwritten written => exact written.isOn
  | refused written _ => exact written.isOn
  | sent written _ =>
    intro x hx
    rcases List.mem_append.1 hx with hx | hx
    · exact written.isOn x hx
    · cases List.mem_singleton.1 hx
      exact rfl

end

namespace Driver

variable {d : Driver} {w : RowWrite} {acts : SessionId → List Exchange → Bool → Prop}
  {s : SessionId} {xs : List Exchange} {ending : Ending}

theorem Opens.opened (h : d.Opens s xs) : opened xs = [s] := by
  cases h <;> rfl

theorem Opens.begun (h : d.Opens s xs) : begun xs = [d.options.migrationTx] := by
  cases h <;> rfl

theorem Opens.drops (h : d.Opens s xs) : ∀ t, .drop t ∉ xs := by
  cases h <;> simp

theorem Seals.isOn (h : d.Seals s w xs ending) : ∀ x ∈ xs, x.IsOn s := by
  cases h <;> simp [Exchange.IsOn, saving, Call.session?]

theorem Seals.ends (h : d.Seals s w xs ending) : ∃ ys x, xs = ys ++ [x] ∧ x.Ends s := by
  cases h
  · exact ⟨[_], _, rfl, rfl⟩
  · exact ⟨[_], _, rfl, rfl⟩
  · exact ⟨[_], _, rfl, rfl⟩

/-- What the shape of a transaction says about its session: it is the only one, and it ends. -/
structure Single (d : Driver) (xs : List Exchange) : Prop where
  begun : begun xs = [d.options.migrationTx]
  drops : ∀ t, .drop t ∉ xs
  ends : ∀ t ∈ opened xs, ∃ ys x, xs = ys ++ [x] ∧ x.Ends t

theorem single_of_opens {ys zs : List Exchange} (opens : d.Opens s xs)
    (hys : ∀ x ∈ ys ++ zs, x.IsOn s) (hends : ∃ vs x, zs = vs ++ [x] ∧ x.Ends s) :
    d.Single (xs ++ ys ++ zs) := by
  rw [List.append_assoc]
  refine ⟨?_, ?_, ?_⟩
  · rw [begun_append, opens.begun, begun_of_isOn hys]
    rfl
  · intro t ht
    rcases List.mem_append.1 ht with ht | ht
    · exact opens.drops t ht
    · exact hys _ ht
  · intro t ht
    rw [opened_append, opens.opened, opened_of_isOn hys, List.append_nil] at ht
    cases List.mem_singleton.1 ht
    obtain ⟨vs, x, rfl, hx⟩ := hends
    exact ⟨xs ++ ys ++ vs, x, by simp, hx⟩

theorem Transacts.single (h : d.Transacts w acts xs ending)
    (hacts : ∀ s ys ok, acts s ys ok → ∀ x ∈ ys, x.IsOn s) : d.Single xs := by
  cases h with
  | notBegun => exact ⟨rfl, by simp, by simp [opened, Exchange.opened?]⟩
  | @notSwitched s schema e r h =>
    refine ⟨rfl, by simp, ?_⟩
    intro t ht
    cases List.mem_singleton.1 ht
    exact ⟨[_, _], _, rfl, rfl⟩
  | @notActed s xs ys r opens acted =>
    refine single_of_opens opens ?_ ⟨[], _, rfl, rfl⟩
    intro x hx
    rcases List.mem_append.1 hx with hx | hx
    · exact hacts s ys _ acted x hx
    · cases List.mem_singleton.1 hx
      exact rfl
  | @acted s xs ys zs ending opens acted seals =>
    refine single_of_opens opens ?_ seals.ends
    intro x hx
    rcases List.mem_append.1 hx with hx | hx
    · exact hacts s ys _ acted x hx
    · exact seals.isOn x hx

theorem StaysOut.transacts {e : EntryFailure} (h : d.StaysOut xs e) :
    ∃ ending, d.Transacts w acts xs ending ∧ ending.isUndone = false := by
  cases h with
  | notBegun => exact ⟨_, .notBegun, rfl⟩
  | notSwitched hschema => exact ⟨_, .notSwitched hschema, rfl⟩

theorem Single.closed {sc sc' : Scene} (h : d.Single xs) (hsc : sc.Gives xs sc') :
    ∀ t ∈ opened xs, ¬ sc'.database.IsOpen t := by
  intro t ht
  obtain ⟨ys, x, rfl, hx⟩ := h.ends t ht
  obtain ⟨sc₁, -, hlast⟩ := hsc.append_inv
  exact hlast.closed_of_ends hx

end Driver

/-! ## What each part of a run comes through -/

open Program

section

variable {d : Driver} {m : Migration} {s : SessionId} {xs : List Exchange}

theorem CallbackAction.run_follows {a : CallbackAction} {st : Callback.State}
    {r : Except Cause Callback.State} (h : (a.run s st).Follows xs (.done r)) :
    xs.map Exchange.event = (a.call? s).toList.map .call := by
  cases a with
  | execute | executeWith | query =>
    obtain ⟨reply, zs, rfl, hrest⟩ := Follows.of_call h
    obtain ⟨-, rfl⟩ := Follows.of_pure hrest
    rfl
  | append | appendColumn | fail =>
    obtain ⟨-, rfl⟩ := Follows.of_pure h
    rfl

theorem Callback.runFrom_follows {callback : Callback} {st : State} {r : Except Cause String}
    (h : (runFrom s st callback).Follows xs (.done r)) :
    xs.map Exchange.event <+: (callback.calls s).map .call := by
  induction callback generalizing st xs with
  | nil =>
    obtain ⟨-, rfl⟩ := Follows.of_pure h
    exact List.nil_prefix
  | cons step rest ih =>
    have hcalls : (calls s (step :: rest)).map Event.call =
        (step.action.call? s).toList.map .call ++ (calls s rest).map .call := by
      unfold calls
      rw [List.filterMap_cons]
      cases step.action.call? s <;> rfl
    obtain ⟨r₁, ys, zs, hstep, hrest, rfl⟩ := Follows.bind_done h
    obtain ⟨r₂, ys₁, ys₂, haction, hpure, rfl⟩ := Follows.bind_done hstep
    obtain ⟨rfl, rfl⟩ := Follows.of_pure hpure
    rw [List.append_nil, List.map_append, CallbackAction.run_follows haction, hcalls]
    apply List.prefix_append_right_inj _ |>.2
    cases r₂ with
    | error cause =>
      obtain ⟨-, rfl⟩ := Follows.of_pure hrest
      exact List.nil_prefix
    | ok st' => exact ih hrest

theorem Callback.made_of_follows {callback : Callback} {r : Except Cause String}
    (h : (callback.run s).Follows xs (.done r)) : callback.Made s xs r :=
  ⟨h, runFrom_follows h⟩

theorem MigrationAction.writes_iff {a : MigrationAction} {r : Except Cause String} :
    a.Writes s xs r ↔ ∃ w, a.writer? s = some w ∧ w.Follows xs (.done r) := by
  cases a with
  | script sql =>
    constructor
    · rintro ⟨rfl, rfl⟩
      exact ⟨_, rfl, .refl _⟩
    · rintro ⟨w, hw, h⟩
      cases hw
      obtain ⟨hr, hxs⟩ := Follows.of_pure h
      exact ⟨hxs, hr⟩
  | generated generator =>
    constructor
    · exact fun h => ⟨_, rfl, h.follows⟩
    · rintro ⟨w, hw, h⟩
      cases hw
      exact Callback.made_of_follows h
  | computed action =>
    constructor
    · exact False.elim
    · rintro ⟨w, hw, -⟩
      cases hw

theorem rollbackQuietly_follows {name : MigrationName} {u : Unit}
    (h : (rollbackQuietly name s).Follows xs (.done u)) : ∃ r, xs = [.call (.rollback s) r] := by
  obtain ⟨r, zs, rfl, hrest⟩ := Follows.of_call h
  refine ⟨r, ?_⟩
  cases r with
  | ok _ =>
    obtain ⟨-, rfl⟩ := Follows.of_pure hrest
    rfl
  | error e =>
    cases hrest with
    | log hrest =>
      cases hrest
      rfl

theorem Migration.submit_follows {sql : String} {r : Except MigrateError ExecResult}
    (h : (m.submit s sql).Follows xs (.done r)) :
    ((classify sql).permits m.hasSkipIf = false ∧ xs = [] ∧
        r = .error (.policy m.name (classify sql) sql)) ∨
      (classify sql).permits m.hasSkipIf = true ∧
        ∃ reply, xs = [.call (.execute (some s) (.script sql)) reply] ∧
          r = reply.mapError fun e => .execution m.name .execute (some sql) (.database e) := by
  have hsend : (m.send s sql).Follows xs (.done r) := by
    rcases m.submit_eq s sql with he | ⟨text, he⟩
    · rwa [he] at h
    · rw [he] at h
      exact Follows.of_log h
  unfold send at hsend
  split at hsend
  · rename_i hc
    obtain ⟨reply, zs, rfl, hrest⟩ := Follows.of_call (Follows.of_log hsend)
    obtain ⟨rfl, rfl⟩ := Follows.of_pure hrest
    exact Or.inr ⟨hc, reply, rfl, rfl⟩
  · rename_i hc
    obtain ⟨rfl, rfl⟩ := Follows.of_pure hsend
    exact Or.inl ⟨by simpa using hc, rfl, rfl⟩

theorem Migration.acts_of_written {ys : List Exchange} {sql : String}
    {r : Except MigrateError ExecResult} (hw : m.action.Writes s xs (.ok sql))
    (h : (m.submit s sql).Follows ys (.done r)) : m.Acts s (xs ++ ys) r.isOk := by
  rcases submit_follows h with ⟨hc, rfl, rfl⟩ | ⟨hc, reply, rfl, rfl⟩
  · rw [List.append_nil]
    exact .refused hw hc
  · have hr : (reply.mapError fun e => MigrateError.execution m.name .execute (some sql)
        (.database e)).isOk = reply.isOk := by
      cases reply <;> rfl
    rw [hr]
    exact .sent hw hc

theorem Migration.apply_follows {r : Except MigrateError ExecResult}
    (h : (m.apply s).Follows xs (.done r)) : m.Acts s xs r.isOk := by
  unfold apply at h
  split at h
  · rename_i sql haction
    have hw : m.action.Writes s [] (.ok sql) := by
      rw [haction]
      exact ⟨rfl, rfl⟩
    exact acts_of_written hw h
  · rename_i generator haction
    obtain ⟨r₁, ys, zs, hwrite, hrest, rfl⟩ := Follows.bind_done h
    have hw : m.action.Writes s ys r₁ := by
      rw [haction]
      exact Callback.made_of_follows hwrite
    cases r₁ with
    | ok sql => exact acts_of_written hw hrest
    | error cause =>
      obtain ⟨rfl, rfl⟩ := Follows.of_pure hrest
      rw [List.append_nil]
      exact .unwritten hw
  · rename_i action haction
    obtain ⟨r₁, ys, zs, hact, hrest, rfl⟩ := Follows.bind_done h
    have hr : r.isOk = r₁.isOk ∧ zs = [] := by
      cases r₁ with
      | ok text =>
        obtain ⟨rfl, rfl⟩ := Follows.of_pure hrest
        exact ⟨rfl, rfl⟩
      | error cause =>
        obtain ⟨rfl, rfl⟩ := Follows.of_pure hrest
        exact ⟨rfl, rfl⟩
    rw [hr.1, hr.2, List.append_nil]
    exact .computed haction (Callback.made_of_follows hact)

namespace Driver

theorem enter_follows {name : MigrationName} {r : Except EntryFailure SessionId}
    (h : (d.enter name).Follows xs (.done r)) :
    (∃ s, r = .ok s ∧ d.Opens s xs) ∨ ∃ e, r = .error e ∧ d.StaysOut xs e := by
  obtain ⟨r₁, zs, rfl, hrest⟩ := Follows.of_call h
  cases r₁ with
  | error e =>
    obtain ⟨rfl, rfl⟩ := Follows.of_pure hrest
    exact Or.inr ⟨_, rfl, .notBegun⟩
  | ok s =>
    cases hschema : d.schemaOverride with
    | none =>
      simp only [hschema] at hrest
      obtain ⟨rfl, rfl⟩ := Follows.of_pure hrest
      exact Or.inl ⟨s, rfl, .plain hschema⟩
    | some schema =>
      simp only [hschema] at hrest
      obtain ⟨r₂, zs, rfl, hentered⟩ := Follows.of_call hrest
      cases r₂ with
      | ok x =>
        obtain ⟨rfl, rfl⟩ := Follows.of_pure hentered
        exact Or.inl ⟨s, rfl, .switched hschema⟩
      | error e =>
        obtain ⟨u, ys, zs, hroll, hfailed, rfl⟩ := Follows.bind_done hentered
        obtain ⟨r₃, rfl⟩ := rollbackQuietly_follows hroll
        obtain ⟨rfl, rfl⟩ := Follows.of_pure hfailed
        exact Or.inr ⟨_, rfl, .notSwitched hschema⟩

theorem Opens.enter_follows (h : d.Opens s xs) (name : MigrationName) :
    (d.enter name).Follows xs (.done (.ok s)) := by
  cases h with
  | plain hschema =>
    simp only [enter, hschema]
    exact .call _ (.refl _)
  | switched hschema =>
    simp only [enter, hschema]
    exact .call _ (.call _ (.refl _))

/-- Stages a row and commits it. Both transactions of a run end so, unless they fail before. -/
def recordIn {ε α : Type} (d : Driver) (s : SessionId) (w : RowWrite)
    (notSaved notCommitted : DbError → ε) (a : α) : Program (Except ε α) := do
  match ← d.saveStatus s w.name w.done w.error with
  | .error e =>
    rollbackQuietly w.name s
    return .error (notSaved e)
  | .ok _ =>
    match ← Program.perform (.commit s) with
    | .ok _ => return .ok a
    | .error e => return .error (notCommitted e)

theorem recordIn_cases {ε α : Type} {w : RowWrite} {notSaved notCommitted : DbError → ε} {a : α}
    {r : Except ε α} (h : (d.recordIn s w notSaved notCommitted a).Follows xs (.done r)) :
    (∃ e r', xs = [.call (d.saving s w) (.error e), .call (.rollback s) r'] ∧
        r = .error (notSaved e)) ∨
      (∃ x e, xs = [.call (d.saving s w) (.ok x), .call (.commit s) (.error e)] ∧
        r = .error (notCommitted e)) ∨
      ∃ x u, xs = [.call (d.saving s w) (.ok x), .call (.commit s) (.ok u)] ∧ r = .ok a := by
  obtain ⟨r₁, ys, zs, hsave, hrest, rfl⟩ := Follows.bind_done h
  obtain ⟨reply, us, rfl, hpure⟩ := Follows.of_call (Follows.of_log hsave)
  obtain ⟨rfl, rfl⟩ := Follows.of_pure hpure
  cases reply with
  | error e =>
    obtain ⟨u, ys, zs, hroll, hfailed, rfl⟩ := Follows.bind_done hrest
    obtain ⟨r₂, rfl⟩ := rollbackQuietly_follows hroll
    obtain ⟨rfl, rfl⟩ := Follows.of_pure hfailed
    exact Or.inl ⟨e, r₂, rfl, rfl⟩
  | ok x =>
    obtain ⟨r₂, zs, rfl, hlast⟩ := Follows.of_call hrest
    cases r₂ with
    | ok u =>
      obtain ⟨rfl, rfl⟩ := Follows.of_pure hlast
      exact Or.inr (Or.inr ⟨x, u, rfl, rfl⟩)
    | error e =>
      obtain ⟨rfl, rfl⟩ := Follows.of_pure hlast
      exact Or.inr (Or.inl ⟨x, e, rfl, rfl⟩)

theorem recordIn_follows {ε α : Type} {w : RowWrite} {notSaved notCommitted : DbError → ε} {a : α}
    {r : Except ε α} (h : (d.recordIn s w notSaved notCommitted a).Follows xs (.done r)) :
    ∃ ending, d.Seals s w xs ending ∧
      (r = .ok a ∧ ending = .committed ∨ (∃ e, r = .error e) ∧ ending.isUndone = true) := by
  rcases recordIn_cases h with ⟨e, r', rfl, rfl⟩ | ⟨x, e, rfl, rfl⟩ | ⟨x, u, rfl, rfl⟩
  · exact ⟨_, .notSaved, Or.inr ⟨⟨_, rfl⟩, rfl⟩⟩
  · exact ⟨_, .notCommitted, Or.inr ⟨⟨_, rfl⟩, rfl⟩⟩
  · exact ⟨_, .committed, Or.inl ⟨rfl, rfl⟩⟩

theorem conclude_eq (result : ExecResult) :
    d.conclude m s (.ok result) = d.recordIn s ⟨m.name, true, ""⟩
      (fun e => .execution m.name .statusSave none (.database e))
      (fun e => .execution m.name .commit none (.database e)) result := by
  unfold conclude recordIn
  congr

theorem recordFailure_eq (name : MigrationName) (text : String) :
    d.recordFailure name text = d.enter name >>= fun
      | .error e => pure (.error (e.phase, e.cause))
      | .ok s => d.recordIn s ⟨name, false, text⟩ (fun e => (.statusSave, e))
          (fun e => (.commit, e)) () := by
  unfold recordFailure recordIn
  congr

theorem attempt_follows {ys : List Exchange} {r : Except MigrateError ExecResult}
    (opens : d.Opens s ys) (h : (d.attempt m s).Follows xs (.done r)) :
    ∃ ending, d.Transacts ⟨m.name, true, ""⟩ m.Acts (ys ++ xs) ending ∧
      ((∃ x, r = .ok x) ∧ ending = .committed ∨ (∃ e, r = .error e) ∧ ending.isUndone = true) := by
  rw [attempt_eq] at h
  obtain ⟨r₁, xs₁, zs, happly, hrest, rfl⟩ := Follows.bind_done h
  have hacts := Migration.apply_follows happly
  rw [← List.append_assoc]
  cases r₁ with
  | error e =>
    obtain ⟨u, vs, us, hroll, hpure, rfl⟩ := Follows.bind_done hrest
    obtain ⟨r₂, rfl⟩ := rollbackQuietly_follows hroll
    obtain ⟨rfl, rfl⟩ := Follows.of_pure hpure
    exact ⟨_, .notActed opens hacts, Or.inr ⟨⟨e, rfl⟩, rfl⟩⟩
  | ok result =>
    rw [conclude_eq] at hrest
    obtain ⟨ending, hseals, hr⟩ := recordIn_follows hrest
    refine ⟨ending, .acted opens hacts hseals, ?_⟩
    rcases hr with ⟨rfl, hending⟩ | hr
    · exact Or.inl ⟨⟨result, rfl⟩, hending⟩
    · exact Or.inr hr

theorem recordFailure_follows {name : MigrationName} {text : String}
    {r : Except (Phase × DbError) Unit} (h : (d.recordFailure name text).Follows xs (.done r)) :
    ∃ ending, d.Transacts ⟨name, false, text⟩ nothingToDo xs ending := by
  rw [recordFailure_eq] at h
  obtain ⟨r₁, ys, zs, henter, hrest, rfl⟩ := Follows.bind_done h
  rcases enter_follows henter with ⟨s, rfl, hopens⟩ | ⟨e, rfl, hout⟩
  · obtain ⟨ending, hseals, -⟩ := recordIn_follows hrest
    have hacted : d.Transacts ⟨name, false, text⟩ nothingToDo _ ending :=
      .acted hopens ⟨rfl, rfl⟩ hseals
    rw [List.append_nil] at hacted
    exact ⟨ending, hacted⟩
  · obtain ⟨-, rfl⟩ := Follows.of_pure hrest
    rw [List.append_nil]
    obtain ⟨ending, htransacts, -⟩ := hout.transacts
    exact ⟨ending, htransacts⟩

theorem settleFailure_follows {e : MigrateError} {o : Outcome}
    (h : (d.settleFailure m e).Follows xs (.done o)) :
    (∃ ending, d.Transacts ⟨m.name, false, e.recordedText⟩ nothingToDo xs ending) ∧
      ∀ c r, .call c r ∈ xs → c.kind ≠ .query := by
  have honly := (d.settleFailure_only m e).mono fun _ => Call.Records.ne_query
  refine ⟨?_, (h.calls_of_only honly).1⟩
  obtain ⟨r, ys, zs, hrecord, hrest, rfl⟩ := Follows.bind_done (Follows.of_log (Follows.of_log h))
  obtain ⟨ending, htransacts⟩ := recordFailure_follows hrecord
  have hnone : zs = [] := by
    rcases r with e | u
    · exact (Follows.of_pure hrest).2
    · exact (Follows.of_pure hrest).2
  rw [hnone, List.append_nil]
  exact ⟨ending, htransacts⟩

/-- The second transaction of a run, which there is if the first one is `ending`. -/
def FallsBack (d : Driver) (m : Migration) (ending : Ending) (xs : List Exchange) : Prop :=
  if ending.isUndone then ∃ text ending', d.Transacts ⟨m.name, false, text⟩ nothingToDo xs ending'
  else xs = []

theorem run_follows {o : Outcome} (h : (d.run m).Follows xs (.done o)) :
    ∃ first second ending, xs = first ++ second ∧
      d.Transacts ⟨m.name, true, ""⟩ m.Acts first ending ∧ d.FallsBack m ending second ∧
      ∀ c r, .call c r ∈ second → c.kind ≠ .query := by
  rw [run_eq] at h
  obtain ⟨r₁, ys, zs, henter, hrest, rfl⟩ := Follows.bind_done (Follows.of_log h)
  rcases enter_follows henter with ⟨s, rfl, hopens⟩ | ⟨e, rfl, hout⟩
  · obtain ⟨r₂, xs₁, second, hattempt, hreport, rfl⟩ := Follows.bind_done hrest
    obtain ⟨ending, htransacts, hr⟩ := attempt_follows hopens hattempt
    refine ⟨ys ++ xs₁, second, ending, by simp, htransacts, ?_⟩
    rcases hr with ⟨⟨x, rfl⟩, rfl⟩ | ⟨⟨e, rfl⟩, hundone⟩
    · unfold report at hreport
      have hdone := Follows.of_log hreport
      obtain ⟨-, rfl⟩ := Follows.of_pure hdone
      exact ⟨rfl, by simp⟩
    · obtain ⟨hfallback, hquery⟩ := settleFailure_follows hreport
      refine ⟨?_, hquery⟩
      rw [FallsBack, if_pos hundone]
      exact ⟨_, hfallback⟩
  · obtain ⟨-, rfl⟩ := Follows.of_pure hrest
    obtain ⟨ending, htransacts, hundone⟩ := hout.transacts
    refine ⟨ys, [], ending, rfl, htransacts, ?_, by simp⟩
    rw [FallsBack, hundone]
    rfl

/-! ## A run -/

/--
The events of a run as one or two transactions. Each has the shape that its ending goes with, is
given by the database, and has ended before the next one begins.
-/
structure InTransactions (d : Driver) (m : Migration) (sc sc' : Scene) (es : List Event)
    (first second : List Exchange) (ending : Ending) (between : Scene) : Prop where
  events : es = (first ++ second).map Exchange.event
  attempt : d.Transacts ⟨m.name, true, ""⟩ m.Acts first ending
  fallback : d.FallsBack m ending second
  given : sc.Gives first between ∧ between.Gives second sc'
  begins : es.filterMap Event.begun? =
    List.replicate (if ending.isUndone then 2 else 1) d.options.migrationTx
  drops : ∀ s, .drop s ∉ es
  apart : (opened (first ++ second)).Pairwise (· < ·)
  ended : ∀ s ∈ opened first, ¬ between.database.IsOpen s
  closed : ∀ s ∈ opened (first ++ second), ¬ sc'.database.IsOpen s

theorem FallsBack.nil_or_single {ending : Ending} (h : d.FallsBack m ending xs) :
    ending.isUndone = false ∧ xs = [] ∨ ending.isUndone = true ∧ d.Single xs := by
  unfold FallsBack at h
  split at h
  · rename_i hundone
    obtain ⟨text, ending', htransacts⟩ := h
    refine Or.inr ⟨hundone, htransacts.single ?_⟩
    rintro s ys ok ⟨rfl, -⟩
    simp
  · rename_i hundone
    exact Or.inl ⟨by simpa using hundone, h⟩

variable {P : Terms} {sc sc' : Scene} {es : List Event} {o : Outcome}

/--
A run that ends has had one transaction, or two when the first was entered and not committed. Both
begin with the options for migrations, neither is let go of without being ended, and neither is
open afterwards.
-/
theorem run_transactions (h : Course P (d.run m) sc es (.ended o) sc') :
    ∃ first second ending between,
      d.InTransactions m sc sc' es first second ending between := by
  obtain ⟨xs, hfollows, hgives, rfl⟩ := h.exchanges
  obtain ⟨first, second, ending, rfl, hfirst, hsecond, hquery⟩ := run_follows hfollows
  obtain ⟨between, hgives₁, hgives₂⟩ := hgives.append_inv
  have hsingle := hfirst.single fun _ _ _ hacts => hacts.isOn
  have hended := hsingle.closed hgives₁
  have hbegun (xs : List Exchange) : (xs.map Exchange.event).filterMap Event.begun? = begun xs :=
    List.filterMap_map
  have hdrops {xs : List Exchange} {s : SessionId} (hs : .drop s ∈ xs.map Exchange.event) :
      .drop s ∈ xs := by
    obtain ⟨x | t, hx, he⟩ := List.mem_map.1 hs
    · cases he
    · cases he
      exact hx
  refine ⟨first, second, ending, between, rfl, hfirst, hsecond, ⟨hgives₁, hgives₂⟩, ?_, ?_,
    hgives.numbered.2.2, hended, ?_⟩
  · rw [hbegun, begun_append, hsingle.begun]
    rcases hsecond.nil_or_single with ⟨hundone, rfl⟩ | ⟨hundone, hsingle₂⟩
    · rw [hundone]
      rfl
    · rw [hundone, hsingle₂.begun]
      rfl
  · intro s hs
    rcases List.mem_append.1 (hdrops hs) with hs | hs
    · exact hsingle.drops s hs
    rcases hsecond.nil_or_single with ⟨-, rfl⟩ | ⟨-, hsingle₂⟩
    · cases hs
    · exact hsingle₂.drops s hs
  · intro s hs
    rw [opened_append] at hs
    rcases List.mem_append.1 hs with hs | hs
    -- The second transaction never waits, so nobody else can do anything in the meantime.
    · exact hgives₂.stays_closed hquery (hended s hs) (hgives₁.numbered.2.1 s hs).2
    rcases hsecond.nil_or_single with ⟨-, rfl⟩ | ⟨-, hsingle₂⟩
    · cases hs
    · exact hsingle₂.closed hgives₂ s hs

/-- A script that fails, under a schema that both transactions switch to. -/
theorem run_transactions_failed :
    let m : Migration := { name := ⟨"lib", "one"⟩, action := .script "SELECT 1" }
    let d : Driver := ⟨{}, ⟨none, ⟨"t", by decide⟩⟩, some ⟨"app", by decide⟩⟩
    let sc : Scene := .start
      { rules := [{ contains := "SELECT 1", reply := .fail (.execution "no") }] }
    ∃ es o sc', Course anyTerms (d.run m) sc es (.ended o) sc' ∧
      (∃ first second ending between,
        d.InTransactions m sc sc' es first second ending between) ∧
      es.filterMap Event.begun? = [{}, {}] := by
  intro m d sc
  obtain ⟨o, ho⟩ : ∃ o, ((d.run m).advance sc.database).standing = .ended o :=
    Standing.exists_of_isEnded (by decide +kernel)
  have hmakes : (d.run m).Makes anyTerms sc.database :=
    Makes.of_replies (Q := fun _ => True) (fun _ _ _ => trivial) _ fun _ _ => trivial
  have hcourse := Course.advance hmakes
  rw [ho] at hcourse
  exact ⟨_, o, _, hcourse, run_transactions hcourse, by decide +kernel⟩

end Driver

end

end SchemaMigration
