import SchemaMigration.Text.Pieces

/-!
# Names

Placeholders stand for values only, so the names of schemas and tables are spliced into SQL text and
must be safe there. Migrations have names of another kind, which are only ever bound.
-/

namespace SchemaMigration

/-!
## Configuration errors

What can be wrong with a configured name or a configuration text, before any database is asked.
-/

/-- What an identifier is used for. Errors name it. -/
inductive Role where
  | trackingSchema
  | trackingTable
  | schemaOverride
  | schema
  | table
deriving DecidableEq

def Role.text : Role → String
  | .trackingSchema => "Tracking table schema name"
  | .trackingTable => "Tracking table table name"
  | .schemaOverride => "Options.schema_override"
  | .schema => "Schema name"
  | .table => "Table name"

inductive ConfigError where
  | invalidIdentifier (role : Role) (value : String)
  | invalidTrackingTable (name : String)
  | notFound (path : String)
  /-- The configuration cannot be read, or says something that options do not have. -/
  | malformed (reason : String)
  | invalidTableName (name : String)
deriving DecidableEq

def ConfigError.message : ConfigError → String
  | .invalidIdentifier role value =>
    "[C001] " ++ role.text ++ " must be a simple identifier, not '" ++ value ++ "'"
  | .invalidTrackingTable name =>
    "[C002] Tracking table '" ++ name ++ "' is not valid: expected 'table' or 'schema.table'"
  | .notFound path => "[C003] Config file not found: " ++ path
  | .malformed reason => "[C004] Failed to parse config: " ++ reason
  | .invalidTableName name =>
    "[C005] Table name '" ++ name ++ "' is not valid: expected 'table' or 'schema.table'"

/-!
## Identifiers

Only simple names are spliced: an ASCII letter, then ASCII letters, digits and underscores. They
need no quotes, and quotes could not be relied on.
-/

def isNameChar (c : Char) : Bool := c.isAlphanum || c = '_'

/-- A letter, then letters, digits and underscores. -/
def isSimpleName : List Char → Bool
  | [] => false
  | c :: rest => c.isAlpha && rest.all isNameChar

/-- A name that is safe to splice into SQL text. Having one is the proof that it was checked. -/
structure Identifier where
  text : String
  simple : isSimpleName text.toList = true
deriving DecidableEq

namespace Identifier

def parse (value : String) (role : Role) : Except ConfigError Identifier :=
  if h : isSimpleName value.toList = true then .ok ⟨value, h⟩
  else .error (.invalidIdentifier role value)

def validate (value : String) (role : Role) : Except ConfigError Unit :=
  if isSimpleName value.toList then .ok ()
  else .error (.invalidIdentifier role value)

@[ext]
theorem ext {a b : Identifier} (h : a.text = b.text) : a = b := by
  cases a; cases b; cases h; rfl

theorem parse_text (i : Identifier) (role : Role) : parse i.text role = .ok i := by
  simp [parse, i.simple]

theorem validate_eq (value : String) (role : Role) :
    validate value role = (parse value role).map (fun _ => ()) := by
  unfold validate parse
  split <;> simp_all [Except.map]

end Identifier

/-!
## Qualified names

A table is named alone, or with its schema and a dot in front. The tracking table and the table
arguments of schema questions share this form; they differ in the roles that errors name.
-/

/-- A table, and the schema that it is in if that is said. -/
structure QualifiedName where
  schema : Option Identifier
  table : Identifier
deriving DecidableEq

/-- What a qualified name is for: how errors name its parts, and a name with too many parts. -/
structure NameUse where
  schemaRole : Role
  tableRole : Role
  tooManyParts : String → ConfigError

namespace QualifiedName

/-- The name as SQL text refers to it. -/
def text (name : QualifiedName) : String :=
  match name.schema with
  | none => name.table.text
  | some schema => schema.text ++ "." ++ name.table.text

/-- The schema is checked before the table. -/
def parse (use : NameUse) (value : String) : Except ConfigError QualifiedName :=
  match pieces (· = '.') value.toList with
  | [table] => do
    let table ← Identifier.parse (String.ofList table) use.tableRole
    return ⟨none, table⟩
  | [schema, table] => do
    let schema ← Identifier.parse (String.ofList schema) use.schemaRole
    let table ← Identifier.parse (String.ofList table) use.tableRole
    return ⟨some schema, table⟩
  | _ => .error (use.tooManyParts value)

end QualifiedName

/-- The table with one row for each migration that was attempted. -/
abbrev TrackingTable := QualifiedName

def TrackingTable.parse (value : String) : Except ConfigError TrackingTable :=
  QualifiedName.parse ⟨.trackingSchema, .trackingTable, .invalidTrackingTable⟩ value

def parseTableArgument (value : String) : Except ConfigError QualifiedName :=
  QualifiedName.parse ⟨.schema, .table, .invalidTableName⟩ value

/-!
## Migration names and statuses

A migration is known by its library and its name within the library.
-/

/-- A library and a name within it. Neither needs to be an identifier. -/
structure MigrationName where
  library : String
  name : String
deriving DecidableEq

namespace MigrationName

def text (n : MigrationName) : String := n.library ++ ": " ++ n.name

/-- Libraries first, names within a library second; both by code point, which is also byte order. -/
def le (a b : MigrationName) : Bool :=
  if a.library = b.library then decide (a.name ≤ b.name) else decide (a.library ≤ b.library)

def sort (names : List MigrationName) : List MigrationName := names.mergeSort le

end MigrationName

/--
The outcome of the latest attempt. No attempt is ever "in progress": one that recorded nothing
leaves the outcome before it.
-/
structure MigrationStatus where
  done : Bool := false
  error : Option String := none
deriving DecidableEq

namespace MigrationStatus

def succeeded : MigrationStatus := ⟨true, none⟩

/-- A failed migration may be tried again. -/
def failed (error : String) : MigrationStatus := ⟨false, some error⟩

end MigrationStatus

end SchemaMigration
