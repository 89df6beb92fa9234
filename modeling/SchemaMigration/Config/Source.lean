import SchemaMigration.Config.Options
import SchemaMigration.Name
import SchemaMigration.Yaml.Decode

/-!
# Options from a configuration text

The text is YAML, and it is read before what it says is checked. Options refuse what they do not
declare, at either level; names and statuses skip it.
-/

namespace SchemaMigration

namespace Yaml

open Document

namespace Document

variable (d : Document)

/-! ## Names and statuses -/

/-- A name of which not every part need have been read. -/
structure PartialName where
  library : Option String := none
  name : Option String := none

/-- The fields of a migration name. Both must be there in the end. -/
def nameShape : RecordShape PartialName where
  name := "MigrationName"
  unknown := .skipped
  fields :=
    [("library", fun st path events => do
        let (s, rest) ← d.readText path events
        return ({ st with library := some s }, rest)),
      ("name", fun st path events => do
        let (s, rest) ← d.readText path events
        return ({ st with name := some s }, rest))]

def readName : Reader MigrationName := fun path events => do
  let (st, rest) ← d.readRecord d.nameShape {} path events
  match st.library, st.name with
  | some library, some name => return (⟨library, name⟩, rest)
  | none, _ => .error ⟨path, .missingField "library"⟩
  | some _, none => .error ⟨path, .missingField "name"⟩

/-- A status of which not every part need have been read. -/
structure PartialStatus where
  done : Option Bool := none
  error : Option String := none

def statusShape : RecordShape PartialStatus where
  name := "MigrationStatus"
  unknown := .skipped
  fields :=
    [("done", fun st path events => do
        let (b, rest) ← d.readTruth path events
        return ({ st with done := some b }, rest)),
      ("error", fun st path events => do
        let (error, rest) ← d.readOptional d.readText path events
        return ({ st with error }, rest))]

def readStatus : Reader MigrationStatus := fun path events => do
  let (st, rest) ← d.readRecord d.statusShape {} path events
  match st.done with
  | some done => return (⟨done, st.error⟩, rest)
  | none => .error ⟨path, .missingField "done"⟩

/-! ## Options -/

/-- A level is one of its words, or a tag of such a name. -/
def readLevel : Reader IsolationLevel := fun path events => do
  let (text, rest) ← d.readVariant (IsolationLevel.all.map IsolationLevel.text) path events
  match IsolationLevel.ofText? text with
  | some level => return (level, rest)
  | none => .error ⟨path, .unreadable⟩

def txShape : RecordShape TxOptions where
  name := "TxOptions"
  unknown := .refused
  fields :=
    [("isolation_level", fun st path events => do
        let (level, rest) ← d.readOptional d.readLevel path events
        return ({ st with isolationLevel := level }, rest)),
      ("read_only", fun st path events => do
        let (b, rest) ← d.readTruth path events
        return ({ st with readOnly := b }, rest))]

def readTxOptions : Reader TxOptions := d.readRecord d.txShape {}

def optionsShape : RecordShape Options where
  name := "Options"
  unknown := .refused
  fields :=
    [("tracking_table", fun st path events => do
        let (s, rest) ← d.readText path events
        return ({ st with trackingTable := s }, rest)),
      ("schema_override", fun st path events => do
        let (schema, rest) ← d.readOptional d.readText path events
        return ({ st with schemaOverride := schema }, rest)),
      ("migration_tx", fun st path events => do
        let (tx, rest) ← d.readTxOptions path events
        return ({ st with migrationTx := tx }, rest))]

def readOptions : Reader Options := d.readRecord d.optionsShape {}

end Document

end Yaml

/-! ## Configuration files -/

/-- What is found at the path of a configuration file. -/
inductive ConfigFile where
  | missing
  /-- Something is there that has no text to read. -/
  | unreadable
  | bytes (content : ByteArray)

namespace Options

/-- The options that a text says, with every name in them checked. -/
def ofYaml (text : String) : Except ConfigError Options := do
  let options ← (Yaml.decode Yaml.Document.readOptions text).mapError (.malformed ·.message)
  options.validate
  return options

/-- The options in a file. A file that is not text is malformed, as a bad text is. -/
def load (path : String) : ConfigFile → Except ConfigError Options
  | .missing => .error (.notFound path)
  | .unreadable => .error (.malformed "the file cannot be read")
  | .bytes content =>
    match String.fromUTF8? content with
    | some text => ofYaml text
    | none => .error (.malformed "the file is not UTF-8 text")

end Options

end SchemaMigration
