import SchemaMigration.Name
import SchemaMigration.Sql.Value

/-!
# Commands

Every SQL text that goes to the database, by what it is for. The engine's own texts are fixed but
for identifiers; everything else that they need is bound. Scripts and the calls of callbacks are the
author's texts as they stand.
-/

namespace SchemaMigration

/-!
## Questions about a schema

What a condition for skipping a migration usually asks. Names are bound, never spliced: the SQL text
of a question depends on its kind alone.
-/

/-- A question by its kind, with the table and whatever else it is about. -/
inductive Question where
  | database
  | table (table : String)
  | primaryKey (table : String)
  | index (table index : String)
  | column (table column : String)
  /-- The default of a column; none for a missing column too. -/
  | columnDefault (table column : String)
  | constraint (table constraint : String)
  | primaryKeyColumn (table column : String)
deriving DecidableEq

/-- The answer to a question: yes or no, or a text that may be missing. -/
inductive Finding where
  | truth (b : Bool)
  | text (t : Option String)
deriving DecidableEq

namespace Question

/-- A question about a table in a schema: two placeholders, and those of the condition. -/
def select (what source condition : String) : String :=
  "SELECT " ++ what ++ " FROM information_schema." ++ source ++
    " WHERE table_schema = COALESCE(?, DATABASE()) AND table_name = ?" ++ condition

def sql : Question → String
  | database => "SELECT DATABASE()"
  | table _ => select "COUNT(*)" "tables" ""
  | primaryKey _ => select "COUNT(*)" "table_constraints" " AND constraint_type = 'PRIMARY KEY'"
  | index _ _ => select "COUNT(*)" "statistics" " AND index_name = ?"
  | column _ _ => select "COUNT(*)" "columns" " AND column_name = ?"
  | columnDefault _ _ => select "column_default" "columns" " AND column_name = ?"
  | constraint _ _ => select "constraint_type" "table_constraints" " AND constraint_name = ?"
  | primaryKeyColumn _ _ =>
    select "COUNT(*)" "key_column_usage" " AND constraint_name = 'PRIMARY' AND column_name = ?"

/-- The table that a question is about, as the caller wrote it. -/
def subject : Question → Option String
  | database => none
  | table t | primaryKey t | index t _ | column t _ | columnDefault t _ | constraint t _
  | primaryKeyColumn t _ => some t

/-- The index, column or constraint that a question is about, if it is about one. -/
def detail : Question → Option String
  | database | table _ | primaryKey _ => none
  | index _ d | column _ d | columnDefault _ d | constraint _ d | primaryKeyColumn _ d => some d

/-- What errors say the question was about. -/
def target (q : Question) : String := q.subject.getD "DATABASE()"

def schemaParam : Option Identifier → SqlValue
  | none => .null
  | some schema => .text schema.text

/-- A table without a schema is looked for in the default one; a null means the current one. -/
def params (q : Question) (default : Option Identifier) : Except ConfigError (List SqlValue) :=
  match q.subject with
  | none => .ok []
  | some argument => do
    let name ← parseTableArgument argument
    return schemaParam (name.schema <|> default) :: .text name.table.text ::
      q.detail.toList.map .text

/-- A count is true above zero, a text may be null; no row is a count of zero, or no text. -/
def answer (q : Question) (rows : List Row) : Except DbError Finding :=
  match q with
  | table _ | primaryKey _ | index _ _ | column _ _ | primaryKeyColumn _ _ =>
    match rows.head? with
    | none => .ok (.truth false)
    | some row => do return .truth (0 < (← row.getInt 0).toInt)
  | database | columnDefault _ _ | constraint _ _ =>
    match rows.head? with
    | none => .ok (.text none)
    | some row => do return .text (← row.getText? 0)

end Question

/-! ## Commands -/

/-- A statement by its purpose, with the names that are spliced into its text. -/
inductive Command where
  | useSchema (schema : Identifier)
  | createSchema (schema : Identifier)
  | createTracking (table : TrackingTable)
  | loadStatuses (table : TrackingTable)
  | saveStatus (table : TrackingTable)
  | takeLock
  | freeLock
  | ask (q : Question)
  | script (sql : String)
  | custom (sql : String)
deriving DecidableEq

/-- The statement that makes the tracking table, if there is none yet. -/
def createTrackingSql (table : TrackingTable) : String :=
  "CREATE TABLE IF NOT EXISTS " ++ table.text ++ " (\n" ++
    "    library     varchar(255) NOT NULL,\n" ++
    "    migration   varchar(255) NOT NULL,\n" ++
    "    done        boolean NOT NULL,\n" ++
    "    error       text NOT NULL,\n" ++
    "    updated_at  timestamp DEFAULT now(),\n" ++
    "    PRIMARY KEY (library, migration)\n" ++
    ") ENGINE = InnoDB"

namespace Command

def text : Command → String
  | useSchema schema => "USE " ++ schema.text
  | createSchema schema => "CREATE SCHEMA IF NOT EXISTS " ++ schema.text
  | createTracking table => createTrackingSql table
  | loadStatuses table => "SELECT library, migration, done FROM " ++ table.text
  | saveStatus table =>
    "REPLACE INTO " ++ table.text ++
      " (library, migration, done, error, updated_at) VALUES (?, ?, ?, ?, now())"
  | takeLock => "SELECT GET_LOCK(?, -1)"
  | freeLock => "SELECT RELEASE_LOCK(?)"
  | ask q => q.sql
  | script sql => sql
  | custom sql => sql

end Command

end SchemaMigration
