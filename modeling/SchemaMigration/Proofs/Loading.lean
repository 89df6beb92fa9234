import SchemaMigration.Proofs.Course
import SchemaMigration.Proofs.Keyed

/-!
# Loading statuses

The rows that the database tells are those that it has, whatever their order. Reading them gives
every migration with a row what the row says, and tells the names that no migration has.
-/

namespace SchemaMigration

/-! ## Telling a row and reading it -/

def recordedStatus (entry : MigrationName × TrackingRow) : RecordedStatus := ⟨entry.1, entry.2.done⟩

theorem ofRow_statusRow (entry : MigrationName × TrackingRow) :
    RecordedStatus.ofRow (Database.statusRow entry) = .ok (recordedStatus entry) := by
  obtain ⟨⟨library, name⟩, ⟨done, error, writes⟩⟩ := entry
  cases done
  · rfl
  · rfl

theorem perm_sorted (rows : TrackingRows) : rows.sorted.Perm rows := List.mergeSort_perm _ _

/-! ## One row -/

section

variable {ms : List Migration} {m : Migration} {name : MigrationName} {status : MigrationStatus}

theorem setLast_of_unknown (h : ms.all (·.name ≠ name) = true) : setLast ms name status = ms := by
  induction ms with
  | nil => rfl
  | cons m rest ih =>
    rw [List.all_cons, Bool.and_eq_true, decide_eq_true_iff] at h
    rw [setLast, if_neg fun hm => h.1 hm.1, ih h.2]

theorem setLast_cons : setLast (m :: ms) name status =
    (if m.name = name ∧ ms.all (·.name ≠ name) then { m with status } else m) ::
      setLast ms name status := by
  rw [setLast]
  split
  · rename_i h
    rw [setLast_of_unknown h.2]
  · rfl

theorem names_setLast : (setLast ms name status).map (·.name) = ms.map (·.name) := by
  induction ms with
  | nil => rfl
  | cons m rest ih =>
    rw [setLast_cons, List.map_cons, List.map_cons, ih]
    split <;> rfl

theorem setLast_eq_map (hms : (ms.map (·.name)).Nodup) :
    setLast ms name status = ms.map fun m => if m.name = name then { m with status } else m := by
  induction ms with
  | nil => rfl
  | cons m ms ih =>
    obtain ⟨hm, hms⟩ := List.nodup_cons.1 hms
    rw [setLast_cons, List.map_cons, ih hms]
    congr 1
    by_cases hname : m.name = name
    · have hrest : ms.all (·.name ≠ name) = true := by
        simpa [hname] using hm
      rw [if_pos ⟨hname, hrest⟩, if_pos hname]
    · rw [if_neg fun h => hname h.1, if_neg hname]

end

namespace LoadState

variable {st : LoadState}

theorem knows_iff {name : MigrationName} :
    st.knows name = true ↔ name ∈ st.migrations.map (·.name) := by
  simp [knows]

theorem migrations_record (st : LoadState) (r : RecordedStatus) :
    (st.record r).migrations = setLast st.migrations r.name { done := r.done } := by
  unfold record
  by_cases hknown : st.knows r.name = true
  · rw [if_pos hknown]
  · have hall : st.migrations.all (·.name ≠ r.name) = true := by
      simpa [knows] using hknown
    rw [if_neg hknown, setLast_of_unknown hall]
    split <;> rfl

theorem names_record (st : LoadState) (r : RecordedStatus) :
    (st.record r).migrations.map (·.name) = st.migrations.map (·.name) := by
  rw [migrations_record, names_setLast]

theorem knows_record (st : LoadState) (r : RecordedStatus) (name : MigrationName) :
    (st.record r).knows name = st.knows name := by
  rw [Bool.eq_iff_iff, knows_iff, knows_iff, names_record]

end LoadState

/-! ## All rows -/

/-- The migration with what the rows say of it, if they say anything. -/
def Migration.loaded (rows : TrackingRows) (m : Migration) : Migration :=
  match rows.lookup m.name with
  | none => m
  | some row => { m with status := { done := row.done, error := none } }

theorem Migration.loaded_cons (rows : TrackingRows) (name : MigrationName) (row : TrackingRow)
    (m : Migration) :
    m.loaded ((name, row) :: rows) =
      if m.name = name then { m with status := { done := row.done } } else m.loaded rows := by
  unfold loaded
  rw [lookup_cons_ite]
  by_cases h : m.name = name
  · rw [if_pos h, if_pos h]
  · rw [if_neg h, if_neg h]

namespace LoadState

def recordAll (st : LoadState) (rs : List RecordedStatus) : LoadState := rs.foldl record st

theorem recordRows_course {P : Terms} {tracking : TrackingTable} {rows : TrackingRows}
    {st : LoadState} {sc sc' : Scene} {es : List Event}
    {standing : Standing (LoadState × Option DbError)}
    (h : Program.Course P (recordRows tracking st (rows.map Database.statusRow)) sc es standing
      sc') : standing = .ended (st.recordAll (rows.map recordedStatus), none) := by
  induction rows generalizing st with
  | nil =>
    cases h
    rfl
  | cons entry rows ih =>
    rw [List.map_cons, recordRows, ofRow_statusRow] at h
    dsimp only at h
    split at h
    · exact ih (Program.Course.of_log h)
    · exact ih h

/-- The names that the rows tell: those that are done and not known. -/
def driftedIn (st : LoadState) (rows : TrackingRows) : List MigrationName :=
  (rows.filter fun e => e.2.done && !st.knows e.1).map (·.1)

variable {st : LoadState} {rows : TrackingRows} {name : MigrationName} {row : TrackingRow}

theorem mem_driftedIn : name ∈ st.driftedIn rows ↔
    (∃ row, (name, row) ∈ rows ∧ row.done = true) ∧ ∀ m ∈ st.migrations, m.name ≠ name := by
  have hknown : st.knows name = false ↔ ∀ m ∈ st.migrations, m.name ≠ name := by
    simp [knows]
  simp only [← hknown, driftedIn, List.mem_map, List.mem_filter, Bool.and_eq_true,
    Bool.not_eq_true']
  constructor
  · rintro ⟨⟨n, row⟩, ⟨hmem, hdone, hnew⟩, rfl⟩
    exact ⟨⟨row, hmem, hdone⟩, hnew⟩
  · rintro ⟨⟨row, hmem, hdone⟩, hnew⟩
    exact ⟨(name, row), ⟨hmem, hdone, hnew⟩, rfl⟩

theorem loaded_record (hst : (st.migrations.map (·.name)).Nodup) (hname : rows.lookup name = none) :
    (st.record ⟨name, row.done⟩).migrations.map (·.loaded rows) =
      st.migrations.map (·.loaded ((name, row) :: rows)) := by
  rw [migrations_record, setLast_eq_map hst, List.map_map]
  apply List.map_congr_left
  intro m _
  rw [Function.comp_apply, Migration.loaded_cons]
  by_cases hm : m.name = name
  · rw [if_pos hm, if_pos hm, Migration.loaded, hm, hname]
  · rw [if_neg hm, if_neg hm]

theorem drifted_record (st : LoadState) (r : RecordedStatus) : (st.record r).drifted =
    st.drifted ++ if r.done && !st.knows r.name then [r.name] else [] := by
  unfold record
  cases st.knows r.name <;> cases r.done <;> simp

theorem driftedIn_cons : st.driftedIn ((name, row) :: rows) =
    (if row.done && !st.knows name then [name] else []) ++
      (st.record ⟨name, row.done⟩).driftedIn rows := by
  simp only [driftedIn, knows_record, List.filter_cons]
  split <;> rfl

theorem recordAll_eq (hrows : (rows.map (·.1)).Nodup) (hst : (st.migrations.map (·.name)).Nodup) :
    st.recordAll (rows.map recordedStatus) =
      { migrations := st.migrations.map (·.loaded rows)
        drifted := st.drifted ++ st.driftedIn rows } := by
  induction rows generalizing st with
  | nil =>
    have hsame : st.migrations.map (·.loaded []) = st.migrations := List.map_id' _
    rw [hsame]
    simp [recordAll, driftedIn]
  | cons entry rows ih =>
    obtain ⟨name, row⟩ := entry
    obtain ⟨hname, hrows⟩ := List.nodup_cons.1 hrows
    have hnames : ((st.record ⟨name, row.done⟩).migrations.map (·.name)).Nodup := by
      rw [names_record]
      exact hst
    show (st.record ⟨name, row.done⟩).recordAll (rows.map recordedStatus) = _
    rw [ih hrows hnames, loaded_record hst (lookup_eq_none_of_not_mem hname), drifted_record,
      driftedIn_cons, List.append_assoc]

end LoadState

/-! ## Loading -/

theorem Migration.loaded_perm {rows rows' : TrackingRows} (h : rows.Perm rows')
    (hrows : (rows.map (·.1)).Nodup) (m : Migration) : m.loaded rows = m.loaded rows' := by
  rw [loaded, loaded, lookup_perm h hrows]

theorem startsWithText_loadStatuses (table : TrackingTable) :
    startsWithText "SELECT library, migration, done FROM " (Command.loadStatuses table).text =
      true := startsWithText_append _ _

theorem Database.serve_loadStatuses {db : Database} {d : Driver}
    (h : db.ruled (.query none (.loadStatuses d.tracking) []) = none) :
    db.serve (.query none (.loadStatuses d.tracking) []) =
      .answered (.ok (db.rows.sorted.map statusRow))
        (db.asked (.query none (.loadStatuses d.tracking) [])) := by
  rw [serve_of_not_ruled h]
  exact if_pos (startsWithText_loadStatuses d.tracking)

variable {P : Terms} {d : Driver} {ms : List Migration} {sc sc' : Scene} {es : List Event}
  {st : Standing Loaded}

theorem Driver.loadStatuses_told (h : Program.Course P (d.loadStatuses ms) sc es st sc')
    (hq : sc.database.ruled (.query none (.loadStatuses d.tracking) []) = none) :
    let loaded := LoadState.recordAll { migrations := ms }
      (sc.database.rows.sorted.map recordedStatus)
    st = .ended ⟨loaded.migrations, .ok loaded.drifted⟩ := by
  have hserve := Database.serve_loadStatuses hq
  rcases Program.Course.bind_inv h with
    ⟨r, es₁, sc₁, es₂, hcall, hrest, -⟩ | ⟨held, hcall, -⟩
  · obtain ⟨hr, -⟩ := hcall.perform_answered hserve
    cases hr
    dsimp only at hrest
    rcases Program.Course.bind_inv hrest with
      ⟨p, es₃, sc₂, es₄, hrecord, hrest', -⟩ | ⟨held, hrecord, -⟩
    · cases LoadState.recordRows_course hrecord
      cases Program.Course.of_log hrest'
      rfl
    · cases LoadState.recordRows_course hrecord
  · cases (hcall.perform_answered hserve).1

theorem Driver.loadStatuses_course (h : Program.Course P (d.loadStatuses ms) sc es st sc')
    (hq : sc.database.ruled (.query none (.loadStatuses d.tracking) []) = none)
    (hrows : (sc.database.rows.map (·.1)).Nodup) (hms : (ms.map (·.name)).Nodup) :
    ∃ names, st = .ended ⟨ms.map (·.loaded sc.database.rows), .ok names⟩ ∧ names.Nodup ∧
      ∀ name, name ∈ names ↔ (∃ row, sc.database.rows.lookup name = some row ∧ row.done = true) ∧
        ∀ m ∈ ms, m.name ≠ name := by
  -- The rows are told in the order of their names, which changes nothing: no name has two.
  have hperm := perm_sorted sc.database.rows
  have hsorted : (sc.database.rows.sorted.map (·.1)).Nodup := (hperm.map _).nodup_iff.2 hrows
  have hst := loadStatuses_told h hq
  rw [LoadState.recordAll_eq hsorted hms] at hst
  have hloaded : ms.map (·.loaded sc.database.rows.sorted) = ms.map (·.loaded sc.database.rows) :=
    List.map_congr_left fun m _ => m.loaded_perm hperm hsorted
  let st₀ : LoadState := { migrations := ms }
  refine ⟨st₀.driftedIn sc.database.rows.sorted, ?_, ?_, ?_⟩
  · rw [hst, ← hloaded]
    rfl
  · exact hsorted.sublist (List.filter_sublist.map _)
  · intro name
    rw [LoadState.mem_driftedIn]
    simp only [hperm.mem_iff, lookup_eq_some_iff_mem hrows]
    rfl

end SchemaMigration
