import SchemaMigration.Text.Numeral
import SchemaMigration.Sql.Value
import SchemaMigration.Url.Basic

/-!
# Where a database is

A connection is named by a URL. It is checked as a whole before anything is connected: that it is a
URL, that it has a host, its scheme, and its parameters in order.
-/

namespace SchemaMigration

/-- Why a URL names no database. -/
inductive ConnectionProblem where
  | url (p : UrlProblem)
  | incomplete
  | unsupportedScheme (scheme : String)
  | unknownParameter (name : String)
  | badParameter (name value : String)
  | badPool (least most : Nat)
deriving DecidableEq

namespace ConnectionProblem

def inQuotes (s : String) : String := "`" ++ s ++ "'"

def text : ConnectionProblem → String
  | url p => "URL parse error: " ++ p.text
  | incomplete => "Invalid or incomplete connection URL"
  | unsupportedScheme scheme => "Unsupported connection URL scheme " ++ inQuotes scheme
  | unknownParameter name => "Unknown connection URL parameter " ++ inQuotes name
  | badParameter name value =>
    "Invalid value " ++ inQuotes value ++ " for connection URL parameter " ++ inQuotes name
  | badPool least most =>
    "Invalid pool constraints: pool_min (" ++ decimalText least ++ ") > pool_max (" ++
      decimalText most ++ ")."

end ConnectionProblem

/-! ## Parameters -/

/-- What the value of a parameter may be. -/
inductive ParameterKind where
  | anything
  | truth
  | number (bits : Nat)
  /-- A word for how hard to try, or one digit. -/
  | compression
deriving DecidableEq

def connectionParameters : List (String × ParameterKind) :=
  [("pool_min", .number 64), ("pool_max", .number 64), ("inactive_connection_ttl", .number 64),
    ("ttl_check_interval", .number 64), ("conn_ttl", .number 64), ("abs_conn_ttl", .number 64),
    ("abs_conn_ttl_jitter", .number 64), ("tcp_keepalive", .number 32),
    ("max_allowed_packet", .number 64), ("wait_timeout", .number 64),
    ("enable_cleartext_plugin", .truth), ("reset_connection", .truth), ("tcp_nodelay", .truth),
    ("stmt_cache_size", .number 64), ("prefer_socket", .truth), ("secure_auth", .truth),
    ("client_found_rows", .truth), ("socket", .anything), ("compression", .compression),
    ("require_ssl", .truth), ("verify_ca", .truth), ("verify_identity", .truth)]

/-- Digits with at most one plus in front. -/
def readCount? (value : String) : Option Nat :=
  match value.toList with
  | '+' :: digits => readNat? digits
  | digits => readNat? digits

def ParameterKind.admits (kind : ParameterKind) (value : String) : Bool :=
  match kind with
  | anything => true
  | truth => value = "true" || value = "false"
  | number bits => (readCount? value).any (· < twoTo bits)
  | compression =>
    value ∈ ["fast", "on", "true", "best"] || (value.length = 1 && value.toList.all Char.isDigit)

/-- The name under which errors report a parameter. -/
def reportedName (name : String) : String :=
  if name = "tcp_keepalive" then "tcp_keepalive_ms" else name

/-- A parameter must be known, and its value one that it takes. -/
def checkParameter (name value : String) : Except ConnectionProblem Unit :=
  match connectionParameters.lookup name with
  | none => .error (.unknownParameter name)
  | some kind =>
    if kind.admits value then .ok () else .error (.badParameter (reportedName name) value)

/-- The number that the last parameter of a name gives, or the default. -/
def lastCount (pairs : List (String × String)) (name : String) (default : Nat) : Nat :=
  match pairs.reverse.lookup name with
  | none => default
  | some value => (readCount? value).getD default

/-- The least size of the pool may not be above the most. -/
def checkPool (pairs : List (String × String)) : Except ConnectionProblem Unit :=
  let least := lastCount pairs "pool_min" 10
  let most := lastCount pairs "pool_max" 100
  if least ≤ most then .ok () else .error (.badPool least most)

/-! ## Connections -/

/-- Checks a URL as a whole. Of several problems the first one found is told. -/
def checkConnection (url : String) : Except ConnectionProblem Unit := do
  let u ← (Url.parse url).mapError .url
  if u.host = none then .error .incomplete
  if u.scheme ≠ "mysql" then .error (.unsupportedScheme u.scheme)
  for (name, value) in u.pairs do checkParameter name value
  checkPool u.pairs

def connect (url : String) : Except DbError String :=
  match checkConnection url with
  | .ok _ => .ok "mysql"
  | .error p => .error (.connection p.text)

end SchemaMigration
