import SchemaMigration.Config.Options
import SchemaMigration.Engine.Command

/-!
# Programs

An operation of the engine is a tree: a log record, a session let go of, or a call to the database
and what follows each reply. The tree says nothing of how calls are answered, so an operation may
be held up at any of them. One that is owns the session of the call it is held up at and no other.
-/

namespace SchemaMigration

/-- A transaction and the connection it is pinned to. -/
abbrev SessionId := Nat

/-! ## Calls -/

/-- Without a session, a call goes to whatever connection the database picks. -/
inductive Call where
  | begin (options : TxOptions)
  | execute (session : Option SessionId) (command : Command)
  | executeWith (session : SessionId) (command : Command) (params : List SqlValue)
  | query (session : Option SessionId) (command : Command) (params : List SqlValue)
  | commit (session : SessionId)
  | rollback (session : SessionId)
deriving DecidableEq

namespace Call

/-- What a call gives when it succeeds. -/
abbrev Answer : Call → Type
  | begin _ => SessionId
  | execute _ _ | executeWith _ _ _ => ExecResult
  | query _ _ _ => List Row
  | commit _ | rollback _ => Unit

/-- The session that a call is made in, if it is made in one. -/
def session? : Call → Option SessionId
  | begin _ => none
  | execute s _ | query s _ _ => s
  | executeWith s _ _ | commit s | rollback s => some s

/-- The SQL text of a call. Beginning and ending a transaction have none. -/
def sql : Call → String
  | execute _ c | executeWith _ c _ | query _ c _ => c.text
  | begin _ | commit _ | rollback _ => ""

end Call

/-! ## Logs -/

inductive LogLevel where
  | debug
  | info
  | warn
deriving DecidableEq

def LogLevel.text : LogLevel → String
  | debug => "debug"
  | info => "info"
  | warn => "warn"

structure LogRecord where
  level : LogLevel
  text : String
deriving DecidableEq

/-! ## Programs -/

/-- An operation that gives an `α` when it ends. -/
inductive Program (α : Type) where
  | done (a : α)
  | log (record : LogRecord) (next : Program α)
  /-- Lets go of a session that was neither committed nor rolled back. -/
  | close (session : SessionId) (next : Program α)
  | call (c : Call) (next : Except DbError c.Answer → Program α)

namespace Program

variable {α β : Type}

/-- Goes on with the second program where the first one ends. -/
def bind : Program α → (α → Program β) → Program β
  | done a, f => f a
  | log r next, f => log r (next.bind f)
  | close s next, f => close s (next.bind f)
  | call c next, f => call c fun reply => (next reply).bind f

instance : Monad Program where
  pure := done
  bind := bind

theorem bind_assoc {γ : Type} (p : Program α) (f : α → Program β) (g : β → Program γ) :
    (p.bind f).bind g = p.bind fun a => (f a).bind g := by
  induction p with
  | done a => rfl
  | log r next ih => simp [bind, ih]
  | close s next ih => simp [bind, ih]
  | call c next ih => simp [bind, ih]

theorem bind_done (p : Program α) : p.bind done = p := by
  induction p with
  | done a => rfl
  | log r next ih => simp [bind, ih]
  | close s next ih => simp [bind, ih]
  | call c next ih => simp [bind, ih]

instance : LawfulMonad Program :=
  LawfulMonad.mk' Program bind_done (fun _ _ => rfl) bind_assoc

def debug (text : String) : Program Unit := log ⟨.debug, text⟩ (done ())

def info (text : String) : Program Unit := log ⟨.info, text⟩ (done ())

def warn (text : String) : Program Unit := log ⟨.warn, text⟩ (done ())

def letGo (s : SessionId) : Program Unit := close s (done ())

def perform (c : Call) : Program (Except DbError c.Answer) := call c done

end Program

end SchemaMigration
