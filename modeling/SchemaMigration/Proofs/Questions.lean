import SchemaMigration.Migration.Basic
import SchemaMigration.Proofs.Grammar
import SchemaMigration.Proofs.RowsRead

/-!
# Asking of a table

Each question of a table binds the same names in the same order, and is put to the database once. A
reply that is neither the answer nor the lack of one is told as the failure that it is, so that what
could not be found out is never taken for what is not there.
-/

namespace SchemaMigration

/-! ## A text that may be null -/

namespace Row

variable {row : Row} {i : Nat} {text : String} {e : DbError}

theorem getText?_of_null (h : row[i]? = some .null) : row.getText? i = .ok none := by
  simp only [getText?, column, h]
  rfl

theorem getText?_of_not_null (h : row[i]? ≠ some .null) :
    row.getText? i = (row.getText i).map some := by
  unfold getText? getText read column
  cases hi : row[i]? with
  | none => rfl
  | some v =>
    cases v with
    | null => exact absurd hi h
    | _ => rfl

end Row

/-! ## What is asked -/

/-- Where a table is looked for. A null stands for the current schema. -/
def QualifiedName.scope (name : QualifiedName) (default : Option Identifier) : SqlValue :=
  match name.schema, default with
  | some schema, _ => .text schema.text
  | none, some schema => .text schema.text
  | none, none => .null

/-! ## What is told -/

namespace Question

/-- What is asked is whether there is any of it, not a text. -/
def Counts : Question → Prop
  | table _ | primaryKey _ | index _ _ | column _ _ | primaryKeyColumn _ _ => True
  | database | columnDefault _ _ | constraint _ _ => False

/-- What a reply to a question of a table tells. Only its first row is looked at. -/
inductive Tells (q : Question) (argument : String) :
    Except DbError (List Row) → Except MigrateError Finding → Prop
  | failed (e : DbError) : Tells q argument (.error e) (.error (.introspection argument e))
  | yes {row : Row} {rest : List Row} {v : SqlValue} {n : Int64} (hq : q.Counts)
    (hv : row[0]? = some v) (hn : v.asInt = some n) (hpos : 0 < n.toInt) :
    Tells q argument (.ok (row :: rest)) (.ok (.truth true))
  | no {row : Row} {rest : List Row} {v : SqlValue} {n : Int64} (hq : q.Counts)
    (hv : row[0]? = some v) (hn : v.asInt = some n) (hle : n.toInt ≤ 0) :
    Tells q argument (.ok (row :: rest)) (.ok (.truth false))
  | noRowCount (hq : q.Counts) : Tells q argument (.ok []) (.ok (.truth false))
  | badCount {row : Row} {rest : List Row} {e : DbError} (hq : q.Counts)
    (he : row.Misses 0 "integer" SqlValue.asInt e) :
    Tells q argument (.ok (row :: rest)) (.error (.introspection argument e))
  | text {row : Row} {rest : List Row} {t : String} (hq : ¬q.Counts)
    (hv : row[0]? = some (.text t)) : Tells q argument (.ok (row :: rest)) (.ok (.text (some t)))
  | null {row : Row} {rest : List Row} (hq : ¬q.Counts) (hv : row[0]? = some .null) :
    Tells q argument (.ok (row :: rest)) (.ok (.text none))
  | noRowText (hq : ¬q.Counts) : Tells q argument (.ok []) (.ok (.text none))
  | badText {row : Row} {rest : List Row} {e : DbError} (hq : ¬q.Counts)
    (hnull : row[0]? ≠ some .null) (he : row.Misses 0 "text" SqlValue.asText e) :
    Tells q argument (.ok (row :: rest)) (.error (.introspection argument e))

variable {q : Question} {argument : String} {reply : Except DbError (List Row)}
  {result : Except MigrateError Finding}

/-- What is made of a reply. -/
def tell (q : Question) (argument : String) :
    Except DbError (List Row) → Except MigrateError Finding
  | .error e => .error (.introspection argument e)
  | .ok rows => (q.answer rows).mapError (.introspection argument)

theorem answer_nil_of_counts (hq : q.Counts) : q.answer [] = .ok (.truth false) := by
  cases q <;> first | rfl | exact hq.elim

theorem answer_nil_of_not_counts (hq : ¬q.Counts) : q.answer [] = .ok (.text none) := by
  cases q <;> first | rfl | exact absurd trivial hq

theorem answer_cons_of_counts (hq : q.Counts) (row : Row) (rest : List Row) :
    q.answer (row :: rest) = (row.getInt 0).map fun n => .truth (0 < n.toInt) := by
  cases q <;> first | rfl | exact hq.elim

theorem answer_cons_of_not_counts (hq : ¬q.Counts) (row : Row) (rest : List Row) :
    q.answer (row :: rest) = (row.getText? 0).map .text := by
  cases q <;> first | rfl | exact absurd trivial hq

theorem Tells.tell_eq (h : q.Tells argument reply result) : q.tell argument reply = result := by
  cases h with
  | failed e => rfl
  | yes hq hv hn hpos =>
    have hcount : Row.getInt _ 0 = .ok _ := Row.read_eq_ok_iff.2 ⟨_, hv, hn⟩
    rw [tell, answer_cons_of_counts hq, hcount]
    simp [Except.map, Except.mapError, hpos]
  | no hq hv hn hle =>
    have hcount : Row.getInt _ 0 = .ok _ := Row.read_eq_ok_iff.2 ⟨_, hv, hn⟩
    rw [tell, answer_cons_of_counts hq, hcount]
    simp [Except.map, Except.mapError, hle]
  | noRowCount hq =>
    rw [tell, answer_nil_of_counts hq]
    rfl
  | badCount hq he =>
    have hcount : Row.getInt _ 0 = .error _ := Row.read_eq_error_iff.2 he
    rw [tell, answer_cons_of_counts hq, hcount]
    rfl
  | @text row rest t hq hv =>
    have hnull : row[0]? ≠ some .null := by
      rw [hv]
      nofun
    rw [tell, answer_cons_of_not_counts hq, Row.getText?_of_not_null hnull,
      Row.getText_eq_ok_iff.2 hv]
    rfl
  | null hq hv =>
    rw [tell, answer_cons_of_not_counts hq, Row.getText?_of_null hv]
    rfl
  | noRowText hq =>
    rw [tell, answer_nil_of_not_counts hq]
    rfl
  | badText hq hnull he =>
    have htext : Row.getText _ 0 = .error _ := Row.read_eq_error_iff.2 he
    rw [tell, answer_cons_of_not_counts hq, Row.getText?_of_not_null hnull, htext]
    rfl

theorem exists_tells_cons (q : Question) (argument : String) (row : Row) (rest : List Row) :
    ∃ result, q.Tells argument (.ok (row :: rest)) result := by
  by_cases hq : q.Counts
  · cases hcount : row.getInt 0 with
    | error e => exact ⟨_, .badCount hq (Row.read_eq_error_iff.1 hcount)⟩
    | ok n =>
      obtain ⟨v, hv, hn⟩ := Row.read_eq_ok_iff.1 hcount
      by_cases hpos : 0 < n.toInt
      · exact ⟨_, .yes hq hv hn hpos⟩
      · exact ⟨_, .no hq hv hn (Int.not_lt.1 hpos)⟩
  · by_cases hnull : row[0]? = some .null
    · exact ⟨_, .null hq hnull⟩
    · cases htext : row.getText 0 with
      | error e => exact ⟨_, .badText hq hnull (Row.read_eq_error_iff.1 htext)⟩
      | ok t => exact ⟨_, .text hq (Row.getText_eq_ok_iff.1 htext)⟩

theorem exists_tells (q : Question) (argument : String) (reply : Except DbError (List Row)) :
    ∃ result, q.Tells argument reply result := by
  rcases reply with e | rows
  · exact ⟨_, .failed e⟩
  · cases rows with
    | nil =>
      by_cases hq : q.Counts
      · exact ⟨_, .noRowCount hq⟩
      · exact ⟨_, .noRowText hq⟩
    | cons row rest => exact q.exists_tells_cons argument row rest

theorem tell_eq_iff : q.tell argument reply = result ↔ q.Tells argument reply result := by
  refine ⟨?_, Tells.tell_eq⟩
  rintro rfl
  obtain ⟨result, h⟩ := q.exists_tells argument reply
  rwa [h.tell_eq]

/-! ## The whole question -/

theorem sql_binds (hq : q.subject = some argument) :
    ∃ before after, q.sql = before ++
        " WHERE table_schema = COALESCE(?, DATABASE()) AND table_name = ?" ++ after ∧
      '?' ∉ before.toList ∧ after.toList.count '?' = q.detail.toList.length := by
  cases q with
  | database => cases hq
  | table _ => exact ⟨_, _, rfl, by decide +kernel, rfl⟩
  | primaryKey _ => exact ⟨_, _, rfl, by decide +kernel, rfl⟩
  | index _ _ => exact ⟨_, _, rfl, by decide +kernel, rfl⟩
  | column _ _ => exact ⟨_, _, rfl, by decide +kernel, rfl⟩
  | columnDefault _ _ => exact ⟨_, _, rfl, by decide +kernel, rfl⟩
  | constraint _ _ => exact ⟨_, _, rfl, by decide +kernel, rfl⟩
  | primaryKeyColumn _ _ => exact ⟨_, _, rfl, by decide +kernel, rfl⟩

end Question

section

variable {q : Question} {argument : String} {default : Option Identifier}

theorem ask_of_rejects {e : ConfigError} (hq : q.subject = some argument)
    (h : NameUse.argument.Rejects argument e) :
    ask default q = .done (.error (.configuration e)) := by
  have hparams : q.params default = .error e := by
    have hparse : parseTableArgument argument = .error e := QualifiedName.parse_eq_error_iff.2 h
    rw [Question.params, hq]
    dsimp only
    rw [hparse]
    rfl
  rw [ask, hparams]
  rfl

theorem ask_of_name {name : QualifiedName} (hq : q.subject = some argument)
    (h : name.text = argument) :
    ask default q = .call
      (.query none (.ask q)
        (name.scope default :: .text name.table.text :: q.detail.toList.map .text))
      fun reply => .done (q.tell argument reply) := by
  have htarget : q.target = argument := by
    rw [Question.target, hq]
    rfl
  have hscope : Question.schemaParam (name.schema <|> default) = name.scope default := by
    unfold QualifiedName.scope
    cases name.schema <;> cases default <;> rfl
  have hparams : q.params default =
      .ok (name.scope default :: .text name.table.text :: q.detail.toList.map .text) := by
    have hparse : parseTableArgument argument = .ok name := QualifiedName.parse_eq_ok_iff.2 h
    rw [Question.params, hq, ← hscope]
    dsimp only
    rw [hparse]
    rfl
  rw [ask, hparams]
  refine congrArg (Program.call _) (funext fun reply => ?_)
  rcases reply with e | rows
  · rw [htarget]
    rfl
  · rw [htarget]
    rfl

end

/--
A question whose argument does not name a table is not put. Any other is put once: it looks for the
table in the schema that is named, else in the default one, else in the current one, and binds all
else as it was given. What it tells is what the reply tells, and that is a failure unless the reply
is an answer or has no rows.
-/
theorem ask_scopes_and_tells (default : Option Identifier) (q : Question) (argument : String)
    (hq : q.subject = some argument) :
    (¬IsQualified argument → ∃ e, NameUse.argument.Rejects argument e ∧
      ask default q = .done (.error (.configuration e))) ∧
    (IsQualified argument → ∃ name : QualifiedName, name.text = argument ∧
      ∃ tell : Except DbError (List Row) → Except MigrateError Finding,
        ask default q = .call
          (.query none (.ask q)
            (name.scope default :: .text name.table.text :: q.detail.toList.map .text))
          (fun reply => .done (tell reply)) ∧
        ∀ reply result, tell reply = result ↔ q.Tells argument reply result) ∧
    ∃ before after, (Command.ask q).text = before ++
        " WHERE table_schema = COALESCE(?, DATABASE()) AND table_name = ?" ++ after ∧
      '?' ∉ before.toList ∧ after.toList.count '?' = q.detail.toList.length := by
  refine ⟨fun h => ?_, fun h => ?_, Question.sql_binds hq⟩
  · rcases QualifiedName.parse_cases NameUse.argument argument with ⟨name, hname, -⟩ | ⟨e, he, -⟩
    · exact absurd (QualifiedName.exists_text_iff.1 ⟨name, hname⟩) h
    · exact ⟨e, he, ask_of_rejects hq he⟩
  · obtain ⟨name, hname⟩ := QualifiedName.exists_text_iff.2 h
    exact ⟨name, hname, q.tell argument, ask_of_name hq hname, fun _ _ => Question.tell_eq_iff⟩

/-- A default that is no text is a failure, and so is a table in a schema in a schema. -/
theorem ask_scopes_and_tells_default :
    let q : Question := .columnDefault "shop.orders" "total"
    (q.subject = some "shop.orders" ∧ IsQualified "shop.orders" ∧
      ∃ tell : Except DbError (List Row) → Except MigrateError Finding,
        ask none q = .call (.query none (.ask q) [.text "shop", .text "orders", .text "total"])
          (fun reply => .done (tell reply)) ∧
        tell (.ok [[.int 5]]) =
          .error (.introspection "shop.orders" (.typeMismatch 0 "text" "int 5"))) ∧
      ¬IsQualified "a.b.c" ∧
      ∃ e, ask none (.table "a.b.c") = .done (.error (.configuration e)) := by
  intro q
  let name : QualifiedName := ⟨some ⟨"shop", by decide⟩, ⟨"orders", by decide⟩⟩
  have hqualified : IsQualified "shop.orders" := QualifiedName.exists_text_iff.1 ⟨name, rfl⟩
  have hdots : NameUse.argument.Rejects "a.b.c" (.invalidTableName "a.b.c") := .parts "a" "b" "c"
  have hnot : ¬IsQualified "a.b.c" := by
    intro h
    obtain ⟨name, hname⟩ := QualifiedName.exists_parse_iff.2 h
    cases hname.symm.trans (QualifiedName.parse_eq_error_iff.2 hdots)
  refine ⟨⟨rfl, hqualified, ?_⟩, hnot, ?_⟩
  · obtain ⟨name', hname, tell, hask, htell⟩ :=
      (ask_scopes_and_tells none q "shop.orders" rfl).2.1 hqualified
    obtain rfl : name' = name := QualifiedName.text_injective hname
    have hfive : (SqlValue.int 5).describe = "int 5" := by decide +kernel
    have hmisses :
        Row.Misses [.int 5] 0 "text" SqlValue.asText (.typeMismatch 0 "text" "int 5") := by
      rw [← hfive]
      exact .other rfl rfl
    exact ⟨tell, hask, (htell _ _).2 (.badText id nofun hmisses)⟩
  · obtain ⟨e, -, hask⟩ := (ask_scopes_and_tells none (.table "a.b.c") "a.b.c" rfl).1 hnot
    exact ⟨e, hask⟩

end SchemaMigration
