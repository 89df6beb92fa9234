import SchemaMigration.Proofs.Commits
import SchemaMigration.Proofs.Loading
import SchemaMigration.Proofs.Outcome

/-!
# The history of attempts

The tracking rows are the rows of the start with all recorded attempts written over them, in the
order in which they ended. So a row tells the latest attempt of its name that was recorded, and how
many there were.
-/

namespace SchemaMigration

/-! ## Records of a name -/

def recordsOf (name : MigrationName) (ws : List RowWrite) : List RowWrite :=
  ws.filter (·.name = name)

theorem recordsOf_cons (name : MigrationName) (w : RowWrite) (ws : List RowWrite) :
    recordsOf name (w :: ws) =
      if w.name = name then w :: recordsOf name ws else recordsOf name ws := by
  unfold recordsOf
  rw [List.filter_cons]
  by_cases h : w.name = name
  · simp [h]
  · simp [h]

namespace TrackingRows

/-- The rows that were given: of several with one name, the last. -/
def seeded (entries : List (MigrationName × TrackingRow)) : TrackingRows :=
  entries.foldl (fun rows entry => rows.put entry.1 entry.2) []

theorem nodup_seeded (entries : List (MigrationName × TrackingRow)) :
    ((seeded entries).map (·.1)).Nodup := by
  have hfold (rows : TrackingRows) (hrows : (rows.map (·.1)).Nodup) :
      ((entries.foldl (fun rows entry => rows.put entry.1 entry.2) rows).map (·.1)).Nodup := by
    induction entries generalizing rows with
    | nil => exact hrows
    | cons entry entries ih =>
      have hput : ((rows.put entry.1 entry.2).map (·.1)).Nodup := by
        rw [put_eq_putKey]
        exact nodup_map_fst_putKey hrows _ _
      exact ih _ hput
  exact hfold [] List.nodup_nil

variable {rows : TrackingRows} (ws : List RowWrite) (name : MigrationName)

theorem nodup_writeAll (hrows : (rows.map (·.1)).Nodup) :
    ((rows.writeAll ws).map (·.1)).Nodup := by
  induction ws generalizing rows with
  | nil => exact hrows
  | cons w ws ih => exact ih (nodup_write hrows w)

theorem writesOf_write (rows : TrackingRows) (w : RowWrite) :
    (rows.write w).writesOf name = rows.writesOf name + if w.name = name then 1 else 0 := by
  rw [writesOf, lookup_write]
  by_cases h : name = w.name
  · rw [if_pos h, if_pos h.symm, h]
  · rw [if_neg h, if_neg fun he => h he.symm]
    rfl

theorem lookup_writeAll (rows : TrackingRows) :
    (rows.writeAll ws).lookup name =
      match (recordsOf name ws).getLast? with
      | none => rows.lookup name
      | some w => some ⟨w.done, w.error, rows.writesOf name + (recordsOf name ws).length⟩ := by
  induction ws generalizing rows with
  | nil => rfl
  | cons w ws ih =>
    have hcons : rows.writeAll (w :: ws) = (rows.write w).writeAll ws := rfl
    rw [hcons, ih, recordsOf_cons, writesOf_write, lookup_write]
    -- A record of the name counts, and decides the row unless a later one does.
    by_cases h : w.name = name
    · rw [if_pos h, if_pos h.symm, if_pos h, List.getLast?_cons]
      cases hlast : (recordsOf name ws).getLast? with
      | none =>
        rw [List.getLast?_eq_none_iff] at hlast
        simp [hlast, h]
      | some w' =>
        simp
        omega
    · rw [if_neg h, if_neg fun he => h he.symm, if_neg h]
      rfl

variable {ws name}

theorem lookup_writeAll_of_nil (h : recordsOf name ws = []) :
    (rows.writeAll ws).lookup name = rows.lookup name := by
  rw [lookup_writeAll, h]
  rfl

theorem lookup_writeAll_of_last {w : RowWrite} (h : (recordsOf name ws).getLast? = some w) :
    (rows.writeAll ws).lookup name =
      some ⟨w.done, w.error, rows.writesOf name + (recordsOf name ws).length⟩ := by
  rw [lookup_writeAll, h]

end TrackingRows

/-! ## What a run records -/

namespace Driver.Outcome

/-- The record of a run, by what it returned: none if it did not begin or could not record. -/
def record? (o : Outcome) (name : MigrationName) : Option RowWrite :=
  match o.result with
  | .ok _ => some ⟨name, true, ""⟩
  | .error e =>
    if e.isFatal = false ∧ ∃ p ∈ recordedPhases, e.phase = some p then
      some ⟨name, false, e.recordedText⟩
    else none

variable {o : Outcome} {m : Migration} {old new : TrackingRows} {e : MigrateError}

theorem Applied.rows_of_record? (h : o.Applied m old new) (hm : m.action.rowWrites = []) :
    new = old.writeAll (o.record? m.name).toList := by
  obtain ⟨r, hr⟩ := h.result
  rw [h.rows, hm, record?, hr]
  rfl

theorem Recorded.rows_of_record? (h : o.Recorded m old new e) :
    new = old.writeAll (o.record? m.name).toList := by
  rw [h.rows, record?, h.result]
  dsimp only
  rw [if_pos ⟨h.fatal, h.phase⟩]
  rfl

theorem Unrecorded.rows_of_record? (h : o.Unrecorded m old new e) :
    new = old.writeAll (o.record? m.name).toList := by
  rw [h.rows, record?, h.result]
  dsimp only
  rw [if_neg h.not_recordable]
  rfl

end Driver.Outcome

/-- The record that an operation makes when it ends, if it is a run. -/
def Settlement.record? (migrations : List Migration) : Settlement → Option RowWrite
  | .ran place o => (migrations[place]?).bind fun m => o.record? m.name
  | _ => none

theorem Task.records_nothing {P : Terms} {t : Task} (ht : ∀ d place m, t ≠ .run d place m)
    {st : Settlement} {sc sc' : Scene} {es : List Event}
    (h : Program.Course P t.program sc es (.ended st) sc') (migrations : List Migration) :
    st.record? migrations = none := by
  cases t with
  | run d place m => exact absurd rfl (ht d place m)
  | _ =>
    obtain ⟨r, es₁, sc₁, es₂, -, hend, -⟩ := Program.Course.bind_ended h
    cases hend
    rfl

/-! ## A scenario's history -/

namespace World

/-- What the operation that ends in a step leaves to be done, if one ends. -/
def settlement? (w : World) (s : Step) : Option Settlement :=
  match w.launch? s with
  | none => none
  | some l =>
    match l.progress.standing with
    | .ended st => some st
    | .suspended _ => none

/-- The record that a step makes. -/
def record? (w : World) (s : Step) : Option RowWrite :=
  (w.settlement? s).bind (·.record? w.migrations)

def after (w : World) : List Step → World
  | [] => w
  | s :: rest => (w.step s).world.after rest

/-- The records that some steps make, in order. -/
def history (w : World) : List Step → List RowWrite
  | [] => []
  | s :: rest => (w.record? s).toList ++ (w.step s).world.history rest

/-- Every call of some steps is decided on the terms. -/
def ServesAll (P : Terms) (w : World) : List Step → Prop
  | [] => True
  | s :: rest => w.Serves P s ∧ (w.step s).world.ServesAll P rest

variable {w : World} {s : Step} {ss : List Step}

theorem reached_after (h : w.Reached anyTerms) (ss : List Step) :
    (w.after ss).Reached anyTerms := by
  induction ss generalizing w with
  | nil => exact h
  | cons s ss ih => exact ih (h.step (w.serves_anyTerms s))

theorem settlement?_of_ended {l : Launch} {st : Settlement} (hl : w.launch? s = some l)
    (hst : l.progress.standing = .ended st) : w.settlement? s = some st := by
  simp only [settlement?, hl, hst]

theorem settlement?_of_suspended {l : Launch} {held : Suspended Settlement}
    (hl : w.launch? s = some l) (hst : l.progress.standing = .suspended held) :
    w.settlement? s = none := by
  simp only [settlement?, hl, hst]

theorem settlement?_of_idle (hl : w.launch? s = none) : w.settlement? s = none := by
  simp only [settlement?, hl]

theorem Present.run_record? {d : Driver} {place : Nat} {m : Migration} {l : Launch} {db₀ : Database}
    {es : List Event} {st : Settlement} (h : Present recordsWrites (.run d place m) l db₀ es)
    (hst : l.progress.standing = .ended st) (hfits : w.Fits (.run d place m))
    (hm : ∀ m ∈ w.migrations, m.action.rowWrites = []) :
    l.progress.database.rows =
      l.world.database.rows.writeAll (st.record? w.migrations).toList := by
  have hcourse := h.course
  rw [hst] at hcourse
  obtain ⟨o, es₁, sc, es₂, hrun, hend, -⟩ := Program.Course.bind_ended hcourse
  obtain ⟨rfl, -, rfl⟩ := Program.Course.pure_ended hend
  obtain ⟨m₀, hm₀, hplan⟩ := hfits.migration
  have hname : m₀.name = m.name := Migration.name_of_plan hplan
  have hwrites : m.action.rowWrites = [] := by
    rw [← Migration.action_of_plan hplan]
    exact hm m₀ (List.mem_of_getElem? hm₀)
  have hrecord : (Settlement.ran place o).record? w.migrations = o.record? m.name := by
    rw [Settlement.record?, hm₀, Option.bind_some, hname]
  rw [hrecord]
  rcases Driver.run_outcome hrun (.start h.sound) with
    happlied | ⟨e, hrecorded⟩ | ⟨e, hunrecorded⟩
  · exact happlied.rows_of_record? hwrites
  · exact hrecorded.rows_of_record?
  · exact hunrecorded.rows_of_record?

theorem Reached.rows_of_record? (h : w.Reached recordsWrites) (hs : w.Serves recordsWrites s)
    (hm : ∀ m ∈ w.migrations, m.action.rowWrites = []) :
    (w.step s).world.database.rows = w.database.rows.writeAll (w.record? s).toList := by
  unfold record?
  cases hl : w.launch? s with
  | none =>
    rw [settlement?_of_idle hl]
    exact h.sound.rows_step_idle hl
  | some l =>
    obtain ⟨task, db₀, es, hfits, hpresent⟩ := h.present hl hs
    have hcourse := hpresent.course
    rw [rows_step hl, ← rows_of_launch? hl]
    cases hst : l.progress.standing with
    | suspended held =>
      rw [hst] at hcourse
      rw [settlement?_of_suspended hl hst]
      exact hcourse.rows_of_suspended task.commits_last rfl
    | ended st =>
      rw [settlement?_of_ended hl hst, Option.bind_some]
      -- Of the operations that end, only a run writes rows.
      by_cases hrun : ∃ d place m, task = .run d place m
      · obtain ⟨d, place, m, rfl⟩ := hrun
        exact hpresent.run_record? hst hfits hm
      · have hnone (d place m) : task ≠ .run d place m := fun ht => hrun ⟨d, place, m, ht⟩
        rw [hst] at hcourse
        rw [Task.records_nothing hnone hcourse]
        exact hcourse.rows_of_only (Task.commits_nothing hnone) rfl

theorem Reached.step_rowWrites (h : w.Reached recordsWrites)
    (hm : ∀ m ∈ w.migrations, m.action.rowWrites = []) :
    ∀ m ∈ (w.step s).world.migrations, m.action.rowWrites = [] := by
  intro m hmem
  have hplan : m.plan ∈ (w.step s).world.migrations.map Migration.plan :=
    List.mem_map_of_mem hmem
  rw [(h.sound.step_grows s).plans] at hplan
  obtain ⟨m₀, hm₀, hplan⟩ := List.mem_map.1 hplan
  rw [← Migration.action_of_plan hplan]
  exact hm m₀ hm₀

theorem Reached.rows_after (h : w.Reached recordsWrites) (hs : w.ServesAll recordsWrites ss)
    (hm : ∀ m ∈ w.migrations, m.action.rowWrites = []) :
    (w.after ss).database.rows = w.database.rows.writeAll (w.history ss) := by
  induction ss generalizing w with
  | nil => rfl
  | cons s ss ih =>
    rw [after, ih (h.step hs.1) hs.2 (h.step_rowWrites hm), h.rows_of_record? hs.1 hm, history,
      TrackingRows.writeAll_append]

/--
After any steps there is one row for a name at most. It tells the latest attempt that was recorded,
and counts all of them; a name without a recorded attempt is as it was. And what a load then gives
is what the rows tell.
-/
theorem history_round_trip (seed : List (MigrationName × TrackingRow)) {rules : List Rule}
    {migrations : List Migration} (hm : ∀ m ∈ migrations, m.action.rowWrites = [])
    (hs : (initial (TrackingRows.seeded seed) rules migrations).ServesAll recordsWrites ss) :
    let start := initial (TrackingRows.seeded seed) rules migrations
    let old := start.database.rows
    let db := (start.after ss).database
    (db.rows.map (·.1)).Nodup ∧
    (∀ name, let records := recordsOf name (start.history ss)
      (records = [] → db.rows.lookup name = old.lookup name) ∧
      ∀ w, records.getLast? = some w →
        db.rows.lookup name = some ⟨w.done, w.error, old.writesOf name + records.length⟩) ∧
    ∀ (d : Driver) (ms : List Migration), (ms.map (·.name)).Nodup →
      db.ruled (.query none (.loadStatuses d.tracking) []) = none →
      ∃ names, ((d.loadStatuses ms).advance db).standing =
          .ended ⟨ms.map (·.loaded db.rows), .ok names⟩ ∧ names.Nodup ∧
        ∀ name, name ∈ names ↔ (∃ row, db.rows.lookup name = some row ∧ row.done = true) ∧
          ∀ m ∈ ms, m.name ≠ name := by
  intro start old db
  have hrows : db.rows = old.writeAll (start.history ss) :=
    (Reached.start _ rules migrations).rows_after hs hm
  have hnodup : (db.rows.map (·.1)).Nodup := by
    rw [hrows]
    exact TrackingRows.nodup_writeAll _ (TrackingRows.nodup_seeded seed)
  refine ⟨hnodup, ?_, ?_⟩
  · intro name records
    rw [hrows]
    exact ⟨TrackingRows.lookup_writeAll_of_nil, fun _ => TrackingRows.lookup_writeAll_of_last⟩
  · intro d ms hms hq
    have hmakes : (d.loadStatuses ms).Makes anyTerms (Scene.start db).database :=
      Program.Makes.of_replies (Q := fun _ => True) (fun _ _ _ => trivial) _ fun _ _ => trivial
    exact Driver.loadStatuses_course (Program.Course.advance hmakes) hq hnodup hms

/-- A migration that is run twice has one row, beside that of one which is not defined any more. -/
theorem history_round_trip_again :
    let m : Migration := { name := ⟨"lib", "one"⟩, action := .computed [] }
    let seed : List (MigrationName × TrackingRow) := [(⟨"lib", "old"⟩, { done := true })]
    let run : Step := .operate "a" "k" (.run 0)
    let ss : List Step := [.create "a" {} none, run, run]
    (initial (TrackingRows.seeded seed) [] [m]).ServesAll recordsWrites ss ∧
      ((initial (TrackingRows.seeded seed) [] [m]).after ss).database.rows.lookup m.name =
        some ⟨true, "", 2⟩ ∧
      ∀ d : Driver, ∃ names,
        ((d.loadStatuses [m]).advance
          ((initial (TrackingRows.seeded seed) [] [m]).after ss).database).standing =
          .ended ⟨[{ m with status := { done := true } }], .ok names⟩ ∧ ⟨"lib", "old"⟩ ∈ names := by
  intro m seed run ss
  have hnone {w : World} (h : w.database.rules = []) (s : Step) : w.Serves recordsWrites s := by
    apply serves_recordsWrites
    simp [h]
  have hs : (initial (TrackingRows.seeded seed) [] [m]).ServesAll recordsWrites ss :=
    ⟨hnone rfl _, hnone (by decide +kernel) _, hnone (by decide +kernel) _, trivial⟩
  have hm : ∀ m' ∈ [m], m'.action.rowWrites = [] := by
    intro m' hm'
    cases List.mem_singleton.1 hm'
    rfl
  obtain ⟨-, hrows, hload⟩ := history_round_trip seed hm hs
  have hlast : (recordsOf m.name
      ((initial (TrackingRows.seeded seed) [] [m]).history ss)).getLast? =
        some ⟨m.name, true, ""⟩ := by
    decide +kernel
  have hcount : (initial (TrackingRows.seeded seed) [] [m]).database.rows.writesOf m.name +
      (recordsOf m.name ((initial (TrackingRows.seeded seed) [] [m]).history ss)).length = 2 := by
    decide +kernel
  have hrow := (hrows m.name).2 _ hlast
  rw [hcount] at hrow
  refine ⟨hs, hrow, ?_⟩
  intro d
  have hrules : ((initial (TrackingRows.seeded seed) [] [m]).after ss).database.rules = [] := by
    decide +kernel
  have hq : ((initial (TrackingRows.seeded seed) [] [m]).after ss).database.ruled
      (.query none (.loadStatuses d.tracking) []) = none := by
    rw [Database.ruled, hrules]
    rfl
  obtain ⟨names, hst, -, hnames⟩ := hload d [m] (by simp) hq
  refine ⟨names, ?_, ?_⟩
  · rw [hst, List.map_singleton, Migration.loaded, hrow]
  · refine (hnames _).2 ⟨⟨{ done := true }, ?_, rfl⟩, ?_⟩
    · decide +kernel
    · intro m' hm'
      cases List.mem_singleton.1 hm'
      decide

end World

end SchemaMigration
