import Mathlib.Data.List.Forall2
import SchemaMigration.Proofs.Success

/-!
# Rows of any kind

A query for statuses may tell any rows: several of one name, names that no migration has or that
several have, and rows that cannot be read. They are taken in one after the other up to the first
that cannot be read, and of a name the last row and the last migration are those that count.
-/

namespace SchemaMigration

/-! ## One row -/

namespace Row

variable {α : Type} {row : Row} {i : Nat} {expected : String} {view : SqlValue → Option α}
  {e : DbError} {a : α}

/-- The column is not there, or its value cannot stand for what is expected. -/
inductive Misses (row : Row) (i : Nat) (expected : String) (view : SqlValue → Option α) :
    DbError → Prop
  | absent (h : row[i]? = none) : Misses row i expected view (.missingColumn i)
  | other {v : SqlValue} (h : row[i]? = some v) (hv : view v = none) :
    Misses row i expected view (.typeMismatch i expected v.describe)

theorem read_eq_ok_iff :
    row.read i expected view = .ok a ↔ ∃ v, row[i]? = some v ∧ view v = some a := by
  unfold read column
  cases hi : row[i]? with
  | none => exact ⟨nofun, fun ⟨v, hv, _⟩ => nomatch hv⟩
  | some v => cases hv : view v <;> simp [bind, Except.bind, hv]

theorem read_eq_error_iff :
    row.read i expected view = .error e ↔ row.Misses i expected view e := by
  unfold read column
  constructor
  · intro h
    cases hi : row[i]? with
    | none =>
      rw [hi] at h
      cases h
      exact .absent hi
    | some v =>
      cases hv : view v with
      | none =>
        simp only [hi, bind, Except.bind, hv] at h
        cases h
        exact .other hi hv
      | some a =>
        simp only [hi, bind, Except.bind, hv] at h
        cases h
  · rintro (⟨hi⟩ | ⟨hi, hv⟩)
    · rw [hi]
      rfl
    · simp only [hi, bind, Except.bind, hv]

/-- The row has a library, a name, and a value that is true or not. -/
structure Says (row : Row) (r : RecordedStatus) : Prop where
  library : row[0]? = some (.text r.name.library)
  name : row[1]? = some (.text r.name.name)
  done : ∃ v, row[2]? = some v ∧ v.asBool = some r.done

/-- The first column that cannot be read, and why. -/
inductive Unreadable (row : Row) : DbError → Prop
  | library {e : DbError} (h : row.Misses 0 "text" SqlValue.asText e) : Unreadable row e
  | name {l : String} {e : DbError} (h₀ : row[0]? = some (.text l))
    (h : row.Misses 1 "text" SqlValue.asText e) : Unreadable row e
  | done {l n : String} {e : DbError} (h₀ : row[0]? = some (.text l))
    (h₁ : row[1]? = some (.text n)) (h : row.Misses 2 "boolean" SqlValue.asBool e) :
    Unreadable row e

theorem getText_eq_ok_iff {text : String} : row.getText i = .ok text ↔
    row[i]? = some (.text text) := by
  rw [getText, read_eq_ok_iff]
  constructor
  · rintro ⟨v, hi, hv⟩
    cases v with
    | text s =>
      cases hv
      exact hi
    | _ => cases hv
  · exact fun hi => ⟨_, hi, rfl⟩

end Row

namespace RecordedStatus

variable {row : Row} {r : RecordedStatus} {e : DbError}

theorem ofRow_cases (row : Row) :
    (∃ r, ofRow row = .ok r ∧ row.Says r) ∨ ∃ e, ofRow row = .error e ∧ row.Unreadable e := by
  unfold ofRow
  cases h₀ : row.getText 0 with
  | error e => exact Or.inr ⟨e, rfl, .library (Row.read_eq_error_iff.1 h₀)⟩
  | ok library =>
    have hlibrary := Row.getText_eq_ok_iff.1 h₀
    cases h₁ : row.getText 1 with
    | error e => exact Or.inr ⟨e, rfl, .name hlibrary (Row.read_eq_error_iff.1 h₁)⟩
    | ok name =>
      have hname := Row.getText_eq_ok_iff.1 h₁
      cases h₂ : row.getBool 2 with
      | error e => exact Or.inr ⟨e, rfl, .done hlibrary hname (Row.read_eq_error_iff.1 h₂)⟩
      | ok done =>
        exact Or.inl ⟨⟨⟨library, name⟩, done⟩, rfl, hlibrary, hname, Row.read_eq_ok_iff.1 h₂⟩

theorem ofRow_of_says (h : row.Says r) : ofRow row = .ok r := by
  have hlibrary := Row.getText_eq_ok_iff.2 h.library
  have hname := Row.getText_eq_ok_iff.2 h.name
  have hdone : row.getBool 2 = .ok r.done := Row.read_eq_ok_iff.2 h.done
  simp only [ofRow, hlibrary, hname, hdone]
  rfl

theorem ofRow_of_unreadable (h : row.Unreadable e) : ofRow row = .error e := by
  cases h with
  | library h =>
    have hlibrary : row.getText 0 = .error e := Row.read_eq_error_iff.2 h
    simp only [ofRow, hlibrary]
    rfl
  | name h₀ h =>
    have hname : row.getText 1 = .error e := Row.read_eq_error_iff.2 h
    simp only [ofRow, Row.getText_eq_ok_iff.2 h₀, hname]
    rfl
  | done h₀ h₁ h =>
    have hdone : row.getBool 2 = .error e := Row.read_eq_error_iff.2 h
    simp only [ofRow, Row.getText_eq_ok_iff.2 h₀, Row.getText_eq_ok_iff.2 h₁, hdone]
    rfl

end RecordedStatus

/-! ## Migrations -/

/-- The migration at `i` is the last of its name. -/
def IsLastAt (ms : List Migration) (i : Nat) (m : Migration) : Prop :=
  ms[i]? = some m ∧ ∀ m' ∈ ms.drop (i + 1), m'.name ≠ m.name

/-- The record is the last of its name. -/
def IsLastRecord (read : List RecordedStatus) (r : RecordedStatus) : Prop :=
  ∃ before after, read = before ++ r :: after ∧ ∀ r' ∈ after, r'.name ≠ r.name

/-- The last record of a name. -/
def lastRecord? (read : List RecordedStatus) (name : MigrationName) : Option RecordedStatus :=
  match read with
  | [] => none
  | r :: rest => (lastRecord? rest name).or (if r.name = name then some r else none)

section

variable {read : List RecordedStatus} {r : RecordedStatus} {name : MigrationName}

theorem lastRecord?_eq_none_iff : lastRecord? read name = none ↔ ∀ r ∈ read, r.name ≠ name := by
  induction read with
  | nil => simp [lastRecord?]
  | cons r rest ih => simp [lastRecord?, ih, and_comm]

theorem IsLastRecord.lastRecord?_eq (h : IsLastRecord read r) :
    lastRecord? read r.name = some r := by
  obtain ⟨before, after, rfl, hafter⟩ := h
  induction before with
  | nil =>
    rw [List.nil_append, lastRecord?, lastRecord?_eq_none_iff.2 hafter]
    simp
  | cons r' before ih =>
    rw [List.cons_append, lastRecord?, ih]
    rfl

end

/-- The migration with what the last record of its name says, if there is one. -/
def Migration.told (read : List RecordedStatus) (m : Migration) : Migration :=
  match lastRecord? read m.name with
  | none => m
  | some r => { m with status := { done := r.done, error := none } }

/-- Each last migration of a name is told what is recorded of it. -/
def tellLast (read : List RecordedStatus) (ms : List Migration) : List Migration :=
  match ms with
  | [] => []
  | m :: rest => (if rest.all (·.name ≠ m.name) then m.told read else m) :: tellLast read rest

section

variable {read : List RecordedStatus} {r : RecordedStatus} {name : MigrationName}
  {status : MigrationStatus} {ms : List Migration} {m : Migration} {i : Nat}

theorem all_names_setLast (p : MigrationName → Bool) :
    (setLast ms name status).all (fun m => p m.name) = ms.all fun m => p m.name := by
  have h (l : List Migration) : l.all (fun m => p m.name) = (l.map (·.name)).all p := by
    rw [List.all_map]
    rfl
  rw [h, h, names_setLast]

theorem Migration.told_cons :
    m.told (r :: read) =
      told read (if m.name = r.name then { m with status := { done := r.done } } else m) := by
  unfold told
  rw [lastRecord?]
  by_cases hname : m.name = r.name
  · rw [if_pos hname, if_pos hname.symm]
    cases lastRecord? read m.name <;> rfl
  · rw [if_neg hname, if_neg (Ne.symm hname), Option.or_none]

theorem tellLast_cons (read : List RecordedStatus) (r : RecordedStatus) (ms : List Migration) :
    tellLast (r :: read) ms = tellLast read (setLast ms r.name { done := r.done }) := by
  induction ms with
  | nil => rfl
  | cons m rest ih =>
    have hrest (name : MigrationName) :
        (setLast rest r.name { done := r.done }).all (·.name ≠ name) = rest.all (·.name ≠ name) :=
      all_names_setLast (p := fun n => n ≠ name)
    rw [setLast_cons, tellLast, tellLast, ih]
    congr 1
    by_cases hlast : rest.all (·.name ≠ m.name) = true
    · by_cases hname : m.name = r.name
      · have hboth : m.name = r.name ∧ rest.all (·.name ≠ r.name) = true := ⟨hname, hname ▸ hlast⟩
        rw [if_pos hlast, if_pos hboth, hrest, if_pos hlast, Migration.told_cons, if_pos hname]
      · have hother : ¬(m.name = r.name ∧ rest.all (·.name ≠ r.name) = true) :=
          fun h => hname h.1
        rw [if_pos hlast, if_neg hother, hrest, if_pos hlast, Migration.told_cons, if_neg hname]
    · have hneither : ¬(m.name = r.name ∧ rest.all (·.name ≠ r.name) = true) := by
        rintro ⟨hname, hall⟩
        exact hlast (hname ▸ hall)
      rw [if_neg hlast, if_neg hneither, hrest, if_neg hlast]

theorem length_tellLast : (tellLast read ms).length = ms.length := by
  induction ms with
  | nil => rfl
  | cons m rest ih => rw [tellLast, List.length_cons, List.length_cons, ih]

theorem tellLast_of_last (h : IsLastAt ms i m) : (tellLast read ms)[i]? = some (m.told read) := by
  obtain ⟨hm, hbehind⟩ := h
  induction ms generalizing i with
  | nil => cases hm
  | cons m' rest ih =>
    cases i with
    | zero =>
      cases hm
      have hall : rest.all (·.name ≠ m.name) = true := by simpa using hbehind
      rw [tellLast, if_pos hall]
      rfl
    | succ i => exact ih hm hbehind

theorem tellLast_of_not_last (hm : ms[i]? = some m) (h : ¬IsLastAt ms i m) :
    (tellLast read ms)[i]? = some m := by
  induction ms generalizing i with
  | nil => cases hm
  | cons m' rest ih =>
    cases i with
    | zero =>
      cases hm
      have hall : ¬rest.all (·.name ≠ m.name) = true := by
        intro hall
        exact h ⟨rfl, by simpa using hall⟩
      rw [tellLast, if_neg hall]
      rfl
    | succ i => exact ih hm h

end

/-! ## All rows -/

/--
The rows are read up to the one at `k`: either all of them, or that one is the first that cannot be
read.
-/
structure ReadUpTo (rows : List Row) (k : Nat) (read : List RecordedStatus)
    (failure : Option DbError) : Prop where
  before : List.Forall₂ Row.Says (rows.take k) read
  stop : match failure with
    | none => k = rows.length
    | some e => ∃ row, rows[k]? = some row ∧ row.Unreadable e

namespace ReadUpTo

variable {row : Row} {rest : List Row} {rows : List Row} {k k' : Nat}
  {read read' : List RecordedStatus} {failure failure' : Option DbError}

theorem nil_inv (h : ReadUpTo [] k read failure) : k = 0 ∧ read = [] ∧ failure = none := by
  obtain ⟨hbefore, hstop⟩ := h
  rw [List.take_nil] at hbefore
  cases hbefore
  cases failure with
  | none => exact ⟨hstop, rfl, rfl⟩
  | some e =>
    obtain ⟨row, hrow, -⟩ := hstop
    cases hrow

theorem cons_inv (h : ReadUpTo (row :: rest) k read failure) :
    (∃ e, k = 0 ∧ read = [] ∧ failure = some e ∧ row.Unreadable e) ∨
      ∃ k₁ r read₁, k = k₁ + 1 ∧ read = r :: read₁ ∧ row.Says r ∧
        ReadUpTo rest k₁ read₁ failure := by
  obtain ⟨hbefore, hstop⟩ := h
  cases k with
  | zero =>
    cases hbefore
    cases failure with
    | none => cases hstop
    | some e =>
      obtain ⟨row', hrow, hbad⟩ := hstop
      cases hrow
      exact Or.inl ⟨e, rfl, rfl, rfl, hbad⟩
  | succ k =>
    rw [List.take_succ_cons] at hbefore
    cases hbefore with
    | cons hsays hbefore =>
      refine Or.inr ⟨k, _, _, rfl, rfl, hsays, hbefore, ?_⟩
      cases failure with
      | none => exact Nat.succ.inj hstop
      | some e => exact hstop

theorem unique (h : ReadUpTo rows k read failure) (h' : ReadUpTo rows k' read' failure') :
    k = k' ∧ read = read' ∧ failure = failure' := by
  induction rows generalizing k k' read read' with
  | nil =>
    obtain ⟨rfl, rfl, rfl⟩ := h.nil_inv
    obtain ⟨rfl, rfl, rfl⟩ := h'.nil_inv
    exact ⟨rfl, rfl, rfl⟩
  | cons row rest ih =>
    rcases h.cons_inv with ⟨e, rfl, rfl, rfl, hbad⟩ | ⟨k, r, read, rfl, rfl, hsays, hrest⟩
    · have he := RecordedStatus.ofRow_of_unreadable hbad
      rcases h'.cons_inv with ⟨e', rfl, rfl, rfl, hbad'⟩ | ⟨k', r', read', -, -, hsays', -⟩
      · cases he.symm.trans (RecordedStatus.ofRow_of_unreadable hbad')
        exact ⟨rfl, rfl, rfl⟩
      · cases he.symm.trans (RecordedStatus.ofRow_of_says hsays')
    · have hr := RecordedStatus.ofRow_of_says hsays
      rcases h'.cons_inv with ⟨e', -, -, -, hbad'⟩ | ⟨k', r', read', rfl, rfl, hsays', hrest'⟩
      · cases hr.symm.trans (RecordedStatus.ofRow_of_unreadable hbad')
      · cases hr.symm.trans (RecordedStatus.ofRow_of_says hsays')
        obtain ⟨rfl, rfl, rfl⟩ := ih hrest hrest'
        exact ⟨rfl, rfl, rfl⟩

end ReadUpTo

namespace LoadState

theorem recordAll_cons (st : LoadState) (r : RecordedStatus) (read : List RecordedStatus) :
    st.recordAll (r :: read) = (st.record r).recordAll read := rfl

theorem migrations_recordAll (st : LoadState) (read : List RecordedStatus) :
    (st.recordAll read).migrations = tellLast read st.migrations := by
  induction read generalizing st with
  | nil =>
    have hsame (ms : List Migration) : tellLast [] ms = ms := by
      induction ms with
      | nil => rfl
      | cons m rest ih =>
        rw [tellLast, ih]
        split <;> rfl
    exact (hsame _).symm
  | cons r read ih => rw [recordAll_cons, ih, migrations_record, tellLast_cons]

theorem drifted_recordAll (st : LoadState) (read : List RecordedStatus) :
    (st.recordAll read).drifted =
      st.drifted ++ (read.filter fun r => r.done && !st.knows r.name).map (·.name) := by
  induction read generalizing st with
  | nil => simp [recordAll]
  | cons r read ih =>
    simp only [recordAll_cons, ih, knows_record, drifted_record, List.filter_cons,
      List.append_assoc]
    split <;> rfl

theorem recordRows_reads (db : Database) (tracking : TrackingTable) (rows : List Row)
    (st : LoadState) :
    ∃ k read failure, ReadUpTo rows k read failure ∧
      (recordRows tracking st rows).Finishes db (st.recordAll read, failure) db := by
  induction rows generalizing st with
  | nil => exact ⟨0, [], none, ⟨.nil, rfl⟩, .pure _ _⟩
  | cons row rest ih =>
    rcases RecordedStatus.ofRow_cases row with ⟨r, hrow, hsays⟩ | ⟨e, hrow, hbad⟩
    · obtain ⟨k, read, failure, ⟨hbefore, hstop⟩, hfinishes⟩ := ih (st.record r)
      refine ⟨k + 1, r :: read, failure, ⟨.cons hsays hbefore, ?_⟩, ?_⟩
      · cases failure with
        | none => exact congrArg (· + 1) hstop
        | some e => exact hstop
      · rw [recordRows, hrow]
        dsimp only
        split
        · exact .log _ hfinishes
        · exact hfinishes
    · refine ⟨0, [], some e, ⟨.nil, row, rfl, hbad⟩, ?_⟩
      rw [recordRows, hrow]
      exact .pure _ _

end LoadState

/-! ## Loading -/

/--
What loading gives for records that were read: of each name with a record, the last migration has
what the last record says, and no other migration is changed. The names that no migration has are
told only if all rows could be read.
-/
structure Loads (table : String) (ms : List Migration) (read : List RecordedStatus)
    (failure : Option DbError) (l : Loaded) : Prop where
  length : l.migrations.length = ms.length
  told : ∀ i m r, IsLastAt ms i m → IsLastRecord read r → r.name = m.name →
    l.migrations[i]? = some { m with status := { done := r.done, error := none } }
  kept : ∀ i m, ms[i]? = some m → ¬IsLastAt ms i m ∨ (∀ r ∈ read, r.name ≠ m.name) →
    l.migrations[i]? = some m
  result : l.result = match failure with
    | none => .ok ((read.filter fun r => r.done && !ms.any (·.name = r.name)).map (·.name))
    | some e => .error (.tracking table "load statuses" e)

theorem Loads.of_recordAll (table : String) (ms : List Migration) (read : List RecordedStatus)
    (failure : Option DbError) :
    let st := LoadState.recordAll { migrations := ms } read
    Loads table ms read failure ⟨st.migrations, match failure with
      | none => .ok st.drifted
      | some e => .error (.tracking table "load statuses" e)⟩ := by
  have hmigrations := LoadState.migrations_recordAll { migrations := ms } read
  have hdrifted := LoadState.drifted_recordAll { migrations := ms } read
  refine ⟨?_, ?_, ?_, ?_⟩
  · rw [hmigrations, length_tellLast]
  · intro i m r hm hr hname
    rw [hmigrations, tellLast_of_last hm, Migration.told, ← hname, hr.lastRecord?_eq]
  · intro i m hm hcase
    rw [hmigrations]
    by_cases hlast : IsLastAt ms i m
    · have hnone := lastRecord?_eq_none_iff.2 (hcase.resolve_left (not_not_intro hlast))
      rw [tellLast_of_last hlast, Migration.told, hnone]
    · exact tellLast_of_not_last hm hlast
  · cases failure with
    | none => exact congrArg Except.ok hdrifted
    | some e => rfl

/--
Whatever rows the query gives, loading ends. It has taken in the rows before the first that cannot
be read, and tells of that one; the rows of the database stay as they are.
-/
theorem Driver.loadStatuses_takes_in {d : Driver} {ms : List Migration} {rows : List Row}
    {db db' : Database}
    (h : db.serve (.query none (.loadStatuses d.tracking) []) = .answered (.ok rows) db') :
    ∃ k read failure l, ReadUpTo rows k read failure ∧ (d.loadStatuses ms).Finishes db l db' ∧
      Loads d.tracking.text ms read failure l ∧ db'.rows = db.rows := by
  have hrows : db'.rows = db.rows := Database.rows_of_serve (by simp [Call.kind]) h
  have hcall : (Program.perform (.query none (.loadStatuses d.tracking) [])).Finishes db
      (.ok rows) db' := by
    constructor <;> simp only [Program.perform, Program.advance, h] <;> rfl
  obtain ⟨k, read, failure, hread, hrecord⟩ :=
    LoadState.recordRows_reads db' d.tracking rows { migrations := ms }
  refine ⟨k, read, failure, _, hread, ?_, .of_recordAll d.tracking.text ms read failure, hrows⟩
  refine hcall.bind (Program.Finishes.bind hrecord ?_)
  cases failure with
  | none => exact .log _ (.pure _ _)
  | some e => exact .pure _ _

/--
Two rows of one name, one row that no migration has, and one without a name: of two migrations of
the name, the second has what the second row says.
-/
theorem Driver.loadStatuses_takes_in_malformed :
    let d : Driver := ⟨{}, ⟨none, ⟨"t", by decide⟩⟩, none⟩
    let one : Migration := { name := ⟨"lib", "one"⟩, action := .script "SELECT 1" }
    let rows : List Row :=
      [[.text "lib", .text "one", .int 1], [.text "lib", .text "two", .text "1"],
        [.text "lib", .text "one", .bool false], [.text "lib"]]
    let read : List RecordedStatus := [⟨one.name, true⟩, ⟨⟨"lib", "two"⟩, true⟩, ⟨one.name, false⟩]
    let db : Database := { rules := [{ kind := some .query, reply := .rows rows }] }
    ReadUpTo rows 3 read (some (.missingColumn 1)) ∧
      ∃ l, (d.loadStatuses [one, one]).Finishes db l db ∧
        Loads "t" [one, one] read (some (.missingColumn 1)) l := by
  intro d one rows read db
  have hruled : consultRules (.query none (.loadStatuses d.tracking) []) db.rules =
      (some (.rows rows), db.rules) := by
    decide +kernel
  have hserve : db.serve (.query none (.loadStatuses d.tracking) []) = .answered (.ok rows) db := by
    rw [Database.serve, hruled]
  obtain ⟨k, read', failure, l, hread', hfinishes, hloads, -⟩ :=
    @loadStatuses_takes_in d [one, one] rows db db hserve
  have hread : ReadUpTo rows 3 read (some (.missingColumn 1)) := by
    refine ⟨.cons ?_ (.cons ?_ (.cons ?_ .nil)), _, rfl, .name rfl (.absent rfl)⟩
    · exact ⟨rfl, rfl, _, rfl, rfl⟩
    · exact ⟨rfl, rfl, _, rfl, rfl⟩
    · exact ⟨rfl, rfl, _, rfl, rfl⟩
  obtain ⟨-, rfl, rfl⟩ := hread.unique hread'
  exact ⟨hread, l, hfinishes, hloads⟩

end SchemaMigration
