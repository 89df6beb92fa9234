import SchemaMigration.Config.Options
import SchemaMigration.Json.Printer
import SchemaMigration.Name

/-!
# Records in JSON

Names, statuses and options. Options refuse what they do not declare, at either level; names and
statuses skip it. Nothing is validated here.
-/

namespace SchemaMigration

/-!
## Fields

A record is an object, with its fields in any order and each at most once, or an array of its fields
in their own order. A field that is missing is left to its default, if it has one.
-/

namespace Json

def valuesOf (key : String) (fields : List (JsonText × Json)) : List Json :=
  fields.filterMap fun (k, v) => if k = some key then some v else none

/-- The value of a field that is given at most once; nothing if it is given twice. -/
def single? : List Json → Option (Option Json)
  | [] => some none
  | [v] => some (some v)
  | _ => none

/-- A key that the record declares, or another text where those are skipped. -/
def allowedKey (unknown : UnknownFields) (names : List String) (key : JsonText) : Bool :=
  match key with
  | none => false
  | some k => k ∈ names || unknown = .skipped

/-- The values of the fields that are asked for, in that order. -/
def recordFields? (unknown : UnknownFields) (names : List String) :
    Json → Option (List (Option Json))
  | object fields =>
    if fields.all fun (key, _) => allowedKey unknown names key then
      names.mapM fun name => single? (valuesOf name fields)
    else none
  | array items =>
    if items.length ≤ names.length then
      some (items.map some ++ List.replicate (names.length - items.length) none)
    else none
  | _ => none

def asString? : Json → Option String
  | text (some s) => some s
  | _ => none

def asBool? : Json → Option Bool
  | bool b => some b
  | _ => none

/-- A null, or a value that can be read. -/
def nullable? {α : Type} (decode : Json → Option α) : Json → Option (Option α)
  | null => some none
  | v => (decode v).map some

def required? {α : Type} (decode : Json → Option α) (field : Option Json) : Option α :=
  field.bind decode

def orDefault? {α : Type} (decode : Json → Option α) (default : α) : Option Json → Option α
  | none => some default
  | some v => decode v

end Json

/-! ## Records -/

open Json

namespace MigrationName

def toJson (n : MigrationName) : Json :=
  record [("library", str n.library), ("name", str n.name)]

/-- Both fields are required. -/
def ofJson? (v : Json) : Option MigrationName := do
  match ← recordFields? .skipped ["library", "name"] v with
  | [library, name] => return ⟨← required? asString? library, ← required? asString? name⟩
  | _ => none

end MigrationName

namespace MigrationStatus

def toJson (s : MigrationStatus) : Json :=
  record [("done", .bool s.done), ("error", orNull str s.error)]

/-- The error may be missing, and then there was none. -/
def ofJson? (v : Json) : Option MigrationStatus := do
  match ← recordFields? .skipped ["done", "error"] v with
  | [done, error] =>
    return ⟨← required? asBool? done, ← orDefault? (nullable? asString?) none error⟩
  | _ => none

end MigrationStatus

namespace IsolationLevel

def toJson (l : IsolationLevel) : Json := str l.text

/-- A level is a text, or an object with the level as its only key and nothing under it. -/
def ofJson? : Json → Option IsolationLevel
  | .text (some s) => ofText? s
  | .object [(some key, .null)] => ofText? key
  | _ => none

end IsolationLevel

namespace TxOptions

def toJson (o : TxOptions) : Json :=
  record [("isolation_level", orNull IsolationLevel.toJson o.isolationLevel),
    ("read_only", .bool o.readOnly)]

def ofJson? (v : Json) : Option TxOptions := do
  match ← recordFields? .refused ["isolation_level", "read_only"] v with
  | [level, readOnly] =>
    return ⟨← orDefault? (nullable? IsolationLevel.ofJson?) none level,
      ← orDefault? asBool? false readOnly⟩
  | _ => none

end TxOptions

namespace Options

def toJson (o : Options) : Json :=
  record [("tracking_table", str o.trackingTable), ("schema_override", orNull str o.schemaOverride),
    ("migration_tx", o.migrationTx.toJson)]

def ofJson? (v : Json) : Option Options := do
  match ← recordFields? .refused ["tracking_table", "schema_override", "migration_tx"] v with
  | [table, schema, tx] =>
    let defaults : Options := {}
    return ⟨← orDefault? asString? defaults.trackingTable table,
      ← orDefault? (nullable? asString?) defaults.schemaOverride schema,
      ← orDefault? TxOptions.ofJson? defaults.migrationTx tx⟩
  | _ => none

end Options

end SchemaMigration
