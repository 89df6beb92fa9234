import SchemaMigration.Script.Lexer
import SchemaMigration.Script.Token
import SchemaMigration.Text.Pieces

/-!
# How safe a script is

The server commits by itself at every schema change, so a script with one cannot be undone as a
whole. Three classes say whether it may be tried again. A script whose text cannot be read counts
as unsafe to repeat.
-/

namespace SchemaMigration

/-!
## Statements

A script is cut into statements at its semicolons; blanks fall away, and so do statements with
nothing in them. The first word of a statement says what kind it is. A statement that creates or
drops is guarded when it cannot fail for having been run before.
-/

/-- A token that means something, blanks and semicolons aside. -/
inductive Lexeme where
  | keyword (k : Keyword)
  | name
  | symbol
deriving DecidableEq

/-- What a token means in a statement, if it means anything there. -/
def Token.lexeme? : Token → Option Lexeme
  | .blank | .semicolon => none
  | .keyword k => some (.keyword k)
  | .name => some .name
  | .period | .symbol => some .symbol

/-- What is between two semicolons. -/
abbrev Statement := List Lexeme

/-- The statements of a script, in order. -/
def statements (tokens : List Token) : List Statement :=
  ((pieces (· = .semicolon) tokens).map (·.filterMap Token.lexeme?)).filter (· ≠ [])

/-! ## Verbs -/

def schemaVerbs : List String := ["CREATE", "ALTER", "DROP", "RENAME", "TRUNCATE"]

/--
These commit the transaction they run in, as a schema change does. Each comes with whether running
it twice does no harm: a right that is already gone cannot be revoked.
-/
def committingVerbs : List (String × Bool) :=
  [("GRANT", true), ("REVOKE", false), ("LOCK", true), ("UNLOCK", true)]

def dataVerbs : List String :=
  ["INSERT", "UPDATE", "DELETE", "REPLACE", "LOAD", "CALL", "MERGE"]

def Lexeme.word (text : String) : Lexeme := .keyword ⟨text⟩

/-! ## Guards -/

/-- A keyword that may stand between the verb and a guard: the type of an object, say. -/
def Lexeme.leadsToGuard : Lexeme → Bool
  | .keyword k => k.text ≠ "IF"
  | _ => false

/-- Whether `IF EXISTS` or `IF NOT EXISTS` comes first. -/
def startsWithGuard (rest : List Lexeme) : Bool :=
  [Lexeme.word "IF", .word "NOT", .word "EXISTS"].isPrefixOf rest ||
    [Lexeme.word "IF", .word "EXISTS"].isPrefixOf rest

/--
Whether a statement with this verb is guarded by what follows it. A guard comes after keywords
alone, and only creating and dropping has one; replacing counts as guarded.
-/
def hasGuard (verb : Keyword) (rest : List Lexeme) : Bool :=
  if verb.text = "CREATE" ∧ [Lexeme.word "OR", .word "REPLACE"].isPrefixOf rest then true
  else if verb.text = "CREATE" ∨ verb.text = "DROP" then
    startsWithGuard (rest.dropWhile Lexeme.leadsToGuard)
  else false

/-! ## Kinds -/

inductive StatementKind where
  /-- Changes the schema, or commits as if it did. -/
  | schema (guarded : Bool)
  | data
  | other
deriving DecidableEq

/-- A statement that starts by naming queries changes data when a word in it does. -/
def Lexeme.isDataVerb : Lexeme → Bool
  | .keyword k => k.text ∈ dataVerbs
  | _ => false

/-- The kind that the first word of a statement says. -/
def Statement.kind : Statement → StatementKind
  | .keyword verb :: rest =>
    if verb.text ∈ schemaVerbs then .schema (hasGuard verb rest)
    else match committingVerbs.lookup verb.text with
      | some repeatable => .schema repeatable
      | none =>
        if verb.text ∈ dataVerbs then .data
        else if verb.text = "WITH" ∧ rest.any Lexeme.isDataVerb then .data
        else .other
  | _ => .other

/-! ## Classes -/

/-- How safe it is to try a script again. -/
inductive ScriptClass where
  /-- No schema change, or guarded ones alone. -/
  | safe
  /-- Schema changes and data changes together: never safe. -/
  | mixed
  /-- A schema change without a guard: not safe to repeat blindly. -/
  | unguarded
deriving DecidableEq

namespace ScriptClass

def text : ScriptClass → String
  | safe => "safe"
  | mixed => "mixed data and DDL"
  | unguarded => "non-idempotent DDL"

def code : ScriptClass → String
  | safe => "safe"
  | mixed => "mixed_data_and_ddl"
  | unguarded => "non_idempotent_ddl"

/-- Why a script of a class is refused. -/
def reason : ScriptClass → String
  | safe => "script is safe"
  | mixed =>
    "Migration combines DDL (Data Definition Language [schema changes]) and data manipulation"
  | unguarded =>
    "Unconditional migration has non-idempotent DDL (Data Definition Language [schema changes])"

/-- An author who says when to skip a migration answers for its being repeated. -/
def permits (c : ScriptClass) (hasSkipIf : Bool) : Bool :=
  match c with
  | safe => true
  | mixed => false
  | unguarded => hasSkipIf

end ScriptClass

/-- How many statements of each kind a script has. -/
structure Analysis where
  schemaStatements : Nat := 0
  unguardedStatements : Nat := 0
  dataStatements : Nat := 0
  unreadable : Bool := false
deriving DecidableEq

namespace Analysis

def ofKinds (kinds : List StatementKind) : Analysis where
  schemaStatements := kinds.countP fun k => k = .schema true ∨ k = .schema false
  unguardedStatements := kinds.countP (· = .schema false)
  dataStatements := kinds.countP (· = .data)

def ofTokens (tokens : List Token) : Analysis := ofKinds ((statements tokens).map Statement.kind)

def scriptClass (a : Analysis) : ScriptClass :=
  if a.unreadable then .unguarded
  else if 0 < a.schemaStatements ∧ 0 < a.dataStatements then .mixed
  else if 0 < a.unguardedStatements then .unguarded
  else .safe

end Analysis

/-- Counts the statements of a script, if it can be read at all. -/
def analyze (sql : String) : Analysis :=
  match tokens sql with
  | .ok ts => .ofTokens ts
  | .error _ => { unreadable := true }

def classify (sql : String) : ScriptClass := (analyze sql).scriptClass

end SchemaMigration
