import Mathlib.Tactic.Common
import SchemaMigration.Config.Source
import SchemaMigration.Engine.Driver
import SchemaMigration.Proofs.Grammar
import SchemaMigration.Proofs.Scripts
import SchemaMigration.Scripted.Database

/-!
# Options that are accepted

Options are checked when they are read and again when a driver is made from them. The two checks
accept the same options and find the same fault with all others, and a driver that was made has what
its options say. Making one asks nothing of the database.
-/

namespace SchemaMigration

/-! ## Faults -/

/-- What is wrong with some options. The override is at fault only if the tracking table is not. -/
inductive Options.Rejected (o : Options) : ConfigError → Prop
  | tracking {e : ConfigError} (h : NameUse.tracking.Rejects o.trackingTable e) : o.Rejected e
  | override {schema : String} (htracking : IsQualified o.trackingTable)
      (hschema : o.schemaOverride = some schema) (h : ¬ IsSimple schema) :
      o.Rejected (.invalidIdentifier .schemaOverride schema)

/-- The driver has these options, and the names in them as they are written there. -/
structure Driver.Has (d : Driver) (o : Options) : Prop where
  options : d.options = o
  tracking : d.tracking.text = o.trackingTable
  schemaOverride : d.schemaOverride.map Identifier.text = o.schemaOverride

/-! ## The check of a driver -/

namespace Driver

variable {o : Options} {d : Driver} {e : ConfigError}

theorem overrideOf_of_some {schema : String} (h : o.schemaOverride = some schema) :
    overrideOf o = (Identifier.parse schema .schemaOverride).map some := by
  unfold overrideOf
  rw [h]
  dsimp only
  cases Identifier.parse schema .schemaOverride <;> rfl

theorem check_of_tracking {table : TrackingTable} (h : o.tracking = .ok table) :
    check o.tracking o = (overrideOf o).map (⟨o, table, ·⟩) := by
  rw [h]
  unfold check
  cases overrideOf o <;> rfl

theorem check_cases (o : Options) :
    (∃ d : Driver, d.Has o ∧ check o.tracking o = .ok d) ∨
      ∃ e, o.Rejected e ∧ check o.tracking o = .error e := by
  rcases QualifiedName.parse_cases .tracking o.trackingTable with ⟨table, htext, h⟩ | ⟨e, hr, h⟩
  · have htable : o.tracking = .ok table := h
    rw [check_of_tracking htable]
    cases hschema : o.schemaOverride with
    | none =>
      have hoverride : overrideOf o = .ok none := by
        unfold overrideOf
        rw [hschema]
      rw [hoverride]
      exact Or.inl ⟨⟨o, table, none⟩, ⟨rfl, htext, hschema.symm⟩, rfl⟩
    | some schema =>
      rw [overrideOf_of_some hschema]
      by_cases hsimple : IsSimple schema
      · obtain ⟨i, rfl⟩ := hsimple.exists_identifier
        rw [Identifier.parse_text]
        exact Or.inl ⟨⟨o, table, some i⟩, ⟨rfl, htext, hschema.symm⟩, rfl⟩
      · rw [Identifier.parse_of_not_isSimple hsimple]
        have hqualified : IsQualified o.trackingTable := htext ▸ table.text_isQualified
        exact Or.inr ⟨_, .override hqualified hschema hsimple, rfl⟩
  · have htable : o.tracking = .error e := h
    refine Or.inr ⟨e, .tracking hr, ?_⟩
    rw [htable]
    rfl

theorem Has.check (h : d.Has o) : Driver.check o.tracking o = .ok d := by
  obtain ⟨rfl, htext, hschema⟩ := h
  have htable : d.options.tracking = .ok d.tracking := QualifiedName.parse_eq_ok_iff.2 htext
  have hoverride : overrideOf d.options = .ok d.schemaOverride := by
    cases hd : d.schemaOverride with
    | none =>
      rw [hd] at hschema
      unfold overrideOf
      rw [← hschema]
      rfl
    | some i =>
      rw [hd] at hschema
      rw [overrideOf_of_some hschema.symm, Identifier.parse_text]
      rfl
  rw [check_of_tracking htable, hoverride]
  rfl

theorem check_eq_ok_iff : check o.tracking o = .ok d ↔ d.Has o := by
  refine ⟨fun h => ?_, Has.check⟩
  rcases check_cases o with ⟨d', hd, h'⟩ | ⟨e, -, h'⟩
  · cases h'.symm.trans h
    exact hd
  · cases h'.symm.trans h

theorem check_eq_error_iff : check o.tracking o = .error e ↔ o.Rejected e := by
  constructor
  · intro h
    rcases check_cases o with ⟨d, -, h'⟩ | ⟨e', he, h'⟩
    · cases h'.symm.trans h
    · cases h'.symm.trans h
      exact he
  · intro h
    cases h with
    | tracking h =>
      have htable : o.tracking = .error e := QualifiedName.parse_eq_error_iff.2 h
      rw [htable]
      rfl
    | override hqualified hschema h =>
      obtain ⟨table, htable⟩ := QualifiedName.exists_parse_iff.2 hqualified
      rw [check_of_tracking htable, overrideOf_of_some hschema, Identifier.parse_of_not_isSimple h]
      rfl

theorem create_advance (databaseType : String) (tracking : Except ConfigError TrackingTable)
    (o : Options) (db : Database) :
    let made := (create databaseType tracking o).advance db
    made.standing = .ended ((check tracking o).mapError .configuration) ∧ made.database = db ∧
      made.events = [] := by
  unfold create
  cases check tracking o with
  | error e => exact ⟨rfl, rfl, rfl⟩
  | ok d =>
    dsimp only
    split
    · exact ⟨rfl, rfl, rfl⟩
    · exact ⟨rfl, rfl, rfl⟩

end Driver

/-! ## The check of the options alone -/

namespace Options

variable {o : Options} {e : ConfigError}

theorem validate_eq_check (o : Options) :
    o.validate = (Driver.check o.tracking o).map fun _ => () := by
  unfold validate Driver.check Driver.overrideOf
  cases o.tracking with
  | error e => rfl
  | ok table => cases o.schemaOverride with
    | none => rfl
    | some schema =>
      dsimp only
      rw [Identifier.validate_eq]
      cases Identifier.parse schema .schemaOverride <;> rfl

theorem validate_eq_error_iff : o.validate = .error e ↔ Driver.check o.tracking o = .error e := by
  rw [validate_eq_check]
  cases Driver.check o.tracking o <;> simp [Except.map]

theorem validate_eq_ok_iff : o.validate = .ok () ↔ ∃ d, Driver.check o.tracking o = .ok d := by
  rw [validate_eq_check]
  cases Driver.check o.tracking o <;> simp [Except.map]

theorem ofYaml_eq {text : String} (h : Yaml.decode Yaml.Document.readOptions text = .ok o) :
    ofYaml text = o.validate.map fun _ => o := by
  unfold ofYaml
  rw [h]
  change (o.validate.bind fun _ => .ok o) = _
  cases o.validate <;> rfl

theorem validate_of_ofYaml {text : String} (h : ofYaml text = .ok o) : o.validate = .ok () := by
  cases hdecode : Yaml.decode Yaml.Document.readOptions text with
  | error e =>
    unfold ofYaml at h
    rw [hdecode] at h
    cases h
  | ok o' =>
    rw [ofYaml_eq hdecode] at h
    cases hvalid : o'.validate with
    | error c =>
      rw [hvalid] at h
      cases h
    | ok u =>
      rw [hvalid] at h
      cases h
      exact hvalid

/--
A driver is made from options exactly if they pass the check of the options alone, and has what they
say. Otherwise both find the same fault, the first in the order of the names. So options that were
read from a text make a driver, and those that would not are refused there for the same reason.
-/
theorem checks_agree (o : Options) (databaseType : String) (db : Database) :
    let made := (Driver.create databaseType o.tracking o).advance db
    (made.events = [] ∧ made.database = db) ∧
    (∀ e, made.standing = .ended (.error e) ↔ ∃ c, o.validate = .error c ∧ e = .configuration c) ∧
    ((∃ d, made.standing = .ended (.ok d)) ↔ o.validate = .ok ()) ∧
    (∀ d, made.standing = .ended (.ok d) ↔ d.Has o) ∧
    (∀ c, o.validate = .error c ↔ o.Rejected c) ∧
    ∀ text,
      (ofYaml text = .ok o → ∃ d, made.standing = .ended (.ok d)) ∧
      (Yaml.decode Yaml.Document.readOptions text = .ok o →
        ∀ c, o.validate = .error c → ofYaml text = .error c) := by
  intro made
  obtain ⟨hstanding, hdatabase, hevents⟩ := Driver.create_advance databaseType o.tracking o db
  have hok (d : Driver) :
      made.standing = .ended (.ok d) ↔ Driver.check o.tracking o = .ok d := by
    rw [hstanding]
    cases Driver.check o.tracking o <;> simp [Except.mapError]
  have herror (e : MigrateError) : made.standing = .ended (.error e) ↔
      ∃ c, Driver.check o.tracking o = .error c ∧ e = .configuration c := by
    rw [hstanding]
    cases Driver.check o.tracking o <;> simp [Except.mapError, eq_comm]
  refine ⟨⟨hevents, hdatabase⟩, fun e => ?_, ?_, fun d => ?_, fun c => ?_, fun text => ⟨?_, ?_⟩⟩
  · simp only [herror, validate_eq_error_iff]
  · simp only [hok, validate_eq_ok_iff]
  · rw [hok, Driver.check_eq_ok_iff]
  · rw [validate_eq_error_iff, Driver.check_eq_error_iff]
  · intro h
    simpa only [hok] using validate_eq_ok_iff.1 (validate_of_ofYaml h)
  · intro h c hc
    rw [ofYaml_eq h, hc]
    rfl

/-- Each of the three names is at fault. The schema of the tracking table is the first of them. -/
theorem checks_agree_three_faults :
    let text := "tracking_table: 1.2\nschema_override: 3"
    let o : Options := { trackingTable := "1.2", schemaOverride := some "3" }
    let fault : ConfigError := .invalidIdentifier .trackingSchema "1"
    Yaml.decode Yaml.Document.readOptions text = .ok o ∧ o.Rejected fault ∧
      o.validate = .error fault ∧ ofYaml text = .error fault ∧
      ((Driver.create "script" o.tracking o).advance {}).standing =
        .ended (.error (.configuration fault)) := by
  intro text o fault
  obtain ⟨-, herror, -, -, hrejected, hread⟩ := checks_agree o "script" {}
  have hdecode : Yaml.decode Yaml.Document.readOptions text = .ok o :=
    eq_ok_of_toOption (by decide +kernel)
  have hsimple : ¬ IsSimple "1" := mt (isSimpleName_iff "1").2 (by decide)
  have hname : NameUse.tracking.Rejects ("1" ++ "." ++ "2") fault :=
    .schema (by decide) (by decide) hsimple
  have hfault : o.validate = .error fault := (hrejected fault).2 (.tracking hname)
  exact ⟨hdecode, .tracking hname, hfault, (hread text).2 hdecode _ hfault,
    (herror _).2 ⟨fault, hfault, rfl⟩⟩

end Options

end SchemaMigration
