import Mathlib.Data.List.Induction
import SchemaMigration.Proofs.Calls
import SchemaMigration.Proofs.Outcome
import SchemaMigration.Proofs.Policy

/-!
# What is recorded of a cause

The author's own code may put texts in front of what went wrong. A run that fails for it returns all
of them. It records the one in front alone, and that is not what went wrong, unless nothing was put
in front of it.
-/

namespace SchemaMigration

/-! ## Causes with texts in front -/

namespace Cause

variable (root : String) (contexts : List String)

/-- A message with texts put in front of it, one after the other. -/
def wrapped : Cause := contexts.foldl (fun cause text => .context text cause) (.message root)

theorem wrapped_concat (text : String) :
    wrapped root (contexts ++ [text]) = .context text (wrapped root contexts) := by
  simp [wrapped]

theorem text_wrapped : (wrapped root contexts).text = contexts.getLast?.getD root := by
  induction contexts using List.reverseRecOn with
  | nil => rfl
  | append_singleton contexts text _ =>
    rw [wrapped_concat]
    simp [Cause.text]

theorem chain_wrapped : (wrapped root contexts).chain = contexts.reverse ++ [root] := by
  induction contexts using List.reverseRecOn with
  | nil => rfl
  | append_singleton contexts text ih =>
    rw [wrapped_concat, Cause.chain, ih]
    simp

end Cause

/-! ## Callbacks that fail -/

/-- The author's own code, with the step that fails when it does. -/
def MigrationAction.callback? : MigrationAction → Option (Phase × Callback)
  | .script _ => none
  | .generated generator => some (.generate, generator)
  | .computed action => some (.execute, action)

/-- A run has entered the transaction `s`, and its callback has failed there for `cause`. -/
inductive Driver.Threw (d : Driver) (m : Migration) (phase : Phase) (cause : Cause) :
    List Exchange → Prop
  | intro {callback s xs ys} (zs : List Exchange)
      (hm : m.action.callback? = some (phase, callback)) (opens : d.Opens s xs)
      (thrown : callback.Made s ys (.error cause)) : Threw d m phase cause (xs ++ ys ++ zs)

open Program

theorem Migration.apply_thrown {m : Migration} {s : SessionId} {phase : Phase}
    {callback : Callback} {cause : Cause} {xs : List Exchange}
    (hm : m.action.callback? = some (phase, callback))
    (h : (callback.run s).Follows xs (.done (.error cause))) :
    (m.apply s).Follows xs (.done (.error (.execution m.name phase none cause))) := by
  unfold apply
  split
  · rename_i sql haction
    rw [haction] at hm
    cases hm
  · rename_i generator haction
    rw [haction] at hm
    cases hm
    exact h.bind _
  · rename_i action haction
    rw [haction] at hm
    cases hm
    exact h.bind _

theorem Driver.Threw.outcome {d : Driver} {m : Migration} {phase : Phase} {cause : Cause}
    {xs : List Exchange} {sc sc' : Scene} {o : Outcome} (ht : d.Threw m phase cause xs)
    (h : Dialogue recordsWrites (d.run m) sc xs none (.ended o) sc') (hsc : sc.Calm) :
    o.Recorded m sc'.rows sc'.database.rows (.execution m.name phase none cause) ∨
      (∃ p e, o.result = .error
          (.statusPersistence m.name p (some (.execution m.name phase none cause)) e)) ∧
        sc'.database.rows = sc'.rows ∧ o.status = m.status := by
  cases ht with
  | @intro callback s xs ys zs hm opens thrown =>
    rw [List.append_assoc] at h
    obtain ⟨sc₁, hentered, happly⟩ := opens.parts h
    obtain ⟨sc₂, hfailed, hrest⟩ := Dialogue.after happly (Migration.apply_thrown hm thrown.follows)
    have hs : sc₁.Stages s [] := by
      rcases enter_outcome hentered.course hsc with ⟨e, he, -⟩ | ⟨s', hs', hs⟩
      · cases he
      · cases hs'
        exact hs
    obtain ⟨e, ws, he, hrecorded, hs⟩ | ⟨x, hx, -⟩ := Migration.apply_outcome hfailed.course hs
    swap
    · cases hx
    cases he
    rw [conclude_error_report] at hrest
    obtain ⟨u, es₁, sc₃, es₂, hrollback, hsettle, -⟩ := Course.bind_ended hrest.course
    rcases settleFailure_outcome hsettle hrecorded (rollbackQuietly_calm hrollback hs) with
      hyes | ⟨p, e, hno⟩
    · exact Or.inl hyes
    · exact Or.inr ⟨⟨p, e, hno.result⟩, hno.rows, hno.status⟩

/-! ## What is recorded -/

/--
A run whose callback failed returns the cause with every text that was put in front of it. When the
failure could be recorded, the tracking row and the migration's status have the outermost text. That
is the root's own if nothing was put in front of it, or if what was is the same text.
-/
theorem Driver.run_records_outermost {d : Driver} {m : Migration} {phase : Phase} {root : String}
    {contexts : List String} {o : Outcome} {sc sc' : Scene} {xs : List Exchange}
    (h : Dialogue recordsWrites (d.run m) sc xs none (.ended o) sc')
    (ht : d.Threw m phase (.wrapped root contexts) xs) (hsc : sc.Calm) :
    let failure : MigrateError := .execution m.name phase none (.wrapped root contexts)
    let outermost := contexts.getLast?.getD root
    failure.sources = contexts.reverse ++ [root] ∧
      (outermost = root ↔ contexts = [] ∨ contexts.getLast? = some root) ∧
      ((o.result = .error failure ∧ o.status = .failed outermost ∧
          ∃ row, sc'.database.rows.lookup m.name = some row ∧ row.done = false ∧
            row.error = outermost) ∨
        (∃ p e, o.result = .error (.statusPersistence m.name p (some failure) e)) ∧
          o.status = m.status ∧ sc'.database.rows = sc'.rows) := by
  intro failure outermost
  refine ⟨Cause.chain_wrapped root contexts, ?_, ?_⟩
  · cases hlast : contexts.getLast? with
    | none => simp [outermost, List.getLast?_eq_none_iff.1 hlast]
    | some text =>
      have hne : contexts ≠ [] := by
        rintro rfl
        cases hlast
      simp [outermost, hlast, hne]
  · have htext : failure.recordedText = outermost := Cause.text_wrapped root contexts
    rcases ht.outcome h hsc with hrecorded | ⟨hresult, hrows, hstatus⟩
    · refine Or.inl ⟨hrecorded.result, ?_, ?_⟩
      · rw [← htext]
        exact hrecorded.status
      · rw [hrecorded.rows, TrackingRows.lookup_write, if_pos rfl]
        exact ⟨_, rfl, rfl, htext⟩
    · exact Or.inr ⟨hresult, hstatus, hrows⟩

/-- A generator whose step puts its own text in front of a cause that has one already. -/
theorem Driver.run_records_outermost_of_step :
    let m : Migration :=
      { name := ⟨"lib", "one"⟩
        action := .generated
          [⟨.append "SELECT ", none⟩, ⟨.fail (.context "inner" (.message "root")), some "outer"⟩] }
    let d : Driver := ⟨{}, ⟨none, ⟨"t", by decide⟩⟩, none⟩
    ∃ xs o sc', Dialogue recordsWrites (d.run m) (.start {}) xs none (.ended o) sc' ∧
      d.Threw m .generate (.wrapped "root" ["inner", "outer"]) xs ∧ (Scene.start {}).Calm ∧
      o.status = .failed "outer" ∧ ∃ row, sc'.database.rows.lookup m.name = some row ∧
        row.done = false ∧ row.error = "outer" := by
  intro m d
  let db : Database := { sessions := [(1, [])], begun := 1 }
  let rest : Program Outcome :=
    m.apply 1 >>= fun r => d.conclude m 1 r >>= d.report m
  obtain ⟨o, ho⟩ : ∃ o, (rest.advance db).standing = .ended o :=
    Standing.exists_of_isEnded (by decide +kernel)
  let begins : Exchange := .call (.begin {}) (.ok 1)
  have hentered : Dialogue recordsWrites (d.enter m.name) (.start {}) [begins] none
      (.ended (.ok 1)) ((Scene.start {}).after db) := .answered nofun rfl (.done _ _)
  have hmakes : rest.Makes recordsWrites db :=
    Makes.of_replies recordsWrites_of_replies _ (by simp [db])
  have hcourse := @Course.advance _ _ _ ((Scene.start {}).after db) hmakes
  rw [Scene.after_database, ho] at hcourse
  obtain ⟨zs, hrest, -⟩ := hcourse.dialogue_ended
  have hrun := dialogue_of_apply hentered hrest
  have hthrew : d.Threw m .generate (.wrapped "root" ["inner", "outer"]) ([begins] ++ [] ++ zs) :=
    .intro zs rfl (.plain rfl) (Callback.made_of_follows (.refl _))
  have hcalm : (Scene.start {}).Calm := .start (World.sound_initial [] [] []).database
  have hrows : (rest.advance db).database.rows ≠ [] := by decide +kernel
  obtain ⟨-, -, ⟨-, hstatus, hrow⟩ | ⟨-, -, hunchanged⟩⟩ := run_records_outermost hrun hthrew hcalm
  · exact ⟨_, o, _, hrun, hthrew, hcalm, hstatus, hrow⟩
  · rw [Scene.after_database] at hunchanged
    exact absurd hunchanged hrows

/-- What went wrong is not what is recorded of it. -/
theorem World.run_records_context :
    let cause : Cause := .wrapped "root" ["outer"]
    let m : Migration := { name := ⟨"lib", "one"⟩, action := .computed [⟨.fail cause, none⟩] }
    let w := ((initial [] [] [m]).step (.create "d" {} none)).world
    let w' := (w.step (.operate "d" "k" (.run 0))).world
    cause.chain.getLast? = some "root" ∧
      w'.database.rows.lookup m.name = some ⟨false, "outer", 1⟩ ∧
      w'.migrations.map (·.status) = [.failed "outer"] := by
  decide +kernel

end SchemaMigration
