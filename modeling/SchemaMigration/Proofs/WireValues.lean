import SchemaMigration.Proofs.Encoding
import SchemaMigration.Sql.Wire

/-!
# Values there and back

A value that is bound to a parameter goes over the wire and may come back in a column. The wire has
no truth values and no texts of its own, so that not every value comes back as it was sent; but what
it can stand for stays the same, and what has gone over the wire once changes no more.
-/

namespace SchemaMigration

/-- The values that a parameter can have, and that a column has unless it is a date or a time. -/
inductive WireValue.Plain : WireValue → Prop
  | null : Plain .null
  | bytes (b : ByteArray) : Plain (.bytes b)
  | int (i : Int64) : Plain (.int i)
  | uint (u : UInt64) : Plain (.uint u)
  | double (d : Binary64) : Plain (.double d)

namespace SqlValue

/-- What comes back of a value that was sent. -/
inductive ComesBack : SqlValue → SqlValue → Prop
  | null : ComesBack .null .null
  | bool (b : Bool) : ComesBack (.bool b) (.int (if b then 1 else 0))
  | int (i : Int64) : ComesBack (.int i) (.int i)
  | uint (u : UInt64) : ComesBack (.uint u) (.uint u)
  | double (d : Binary64) : ComesBack (.double d) (.double d)
  | text (s : String) : ComesBack (.text s) (.text s)
  | spelled {b : ByteArray} {s : String} (h : Utf8.Spells b.data.toList s.toList) :
    ComesBack (.bytes b) (.text s)
  | bytes {b : ByteArray} (h : ¬Utf8.IsText b.data.toList) : ComesBack (.bytes b) (.bytes b)

/-- The values can stand for the same. -/
structure Alike (v w : SqlValue) : Prop where
  asBool : v.asBool = w.asBool
  asText : v.asText = w.asText
  asInt : v.asInt = w.asInt
  isNull : v.isNull = w.isNull

theorem Alike.refl (v : SqlValue) : v.Alike v := ⟨rfl, rfl, rfl, rfl⟩

end SqlValue

/-! ## From the wire -/

namespace WireValue

variable {b : ByteArray} {s : String} {m : WireValue}

theorem toSql_bytes_eq_text_iff :
    (bytes b).toSql = .text s ↔ Utf8.Spells b.data.toList s.toList := by
  rw [← Utf8.fromUTF8?_eq_some_iff, toSql]
  cases String.fromUTF8? b <;> simp

theorem toSql_bytes_of_not_text (h : ¬Utf8.IsText b.data.toList) : (bytes b).toSql = .bytes b := by
  rw [toSql, Utf8.fromUTF8?_eq_none_iff.2 h]

theorem Plain.toWire_toSql (h : m.Plain) : m.toSql.toWire = m := by
  cases h with
  | bytes b =>
    rw [toSql]
    cases hs : String.fromUTF8? b with
    | none => rfl
    | some s =>
      have hb : s.toUTF8 = b := Utf8.spells_toList_iff.1 (Utf8.fromUTF8?_eq_some_iff.1 hs)
      exact congrArg WireValue.bytes hb
  | _ => rfl

end WireValue

/-! ## To the wire and back -/

namespace SqlValue

variable {v w : SqlValue}

theorem plain_toWire (v : SqlValue) : v.toWire.Plain := by
  cases v with
  | null => exact .null
  | bool b => exact .int _
  | int i => exact .int i
  | uint u => exact .uint u
  | double d => exact .double d
  | text s => exact .bytes _
  | bytes b => exact .bytes b

theorem exists_comesBack (v : SqlValue) : ∃ w, v.ComesBack w := by
  cases v with
  | null => exact ⟨_, .null⟩
  | bool b => exact ⟨_, .bool b⟩
  | int i => exact ⟨_, .int i⟩
  | uint u => exact ⟨_, .uint u⟩
  | double d => exact ⟨_, .double d⟩
  | text s => exact ⟨_, .text s⟩
  | bytes b =>
    by_cases h : Utf8.IsText b.data.toList
    · obtain ⟨cs, hcs⟩ := Utf8.exists_spells_iff.2 h
      rw [← String.toList_ofList (l := cs)] at hcs
      exact ⟨_, .spelled hcs⟩
    · exact ⟨_, .bytes h⟩

theorem ComesBack.toSql_toWire (h : v.ComesBack w) : v.toWire.toSql = w := by
  cases h with
  | text s => exact WireValue.toSql_bytes_eq_text_iff.2 (Utf8.spells_toList_iff.2 rfl)
  | spelled h => exact WireValue.toSql_bytes_eq_text_iff.2 h
  | bytes h => exact WireValue.toSql_bytes_of_not_text h
  | _ => rfl

theorem toSql_toWire_eq_iff : v.toWire.toSql = w ↔ v.ComesBack w := by
  refine ⟨?_, ComesBack.toSql_toWire⟩
  rintro rfl
  obtain ⟨w, h⟩ := exists_comesBack v
  rwa [h.toSql_toWire]

theorem ComesBack.alike (h : v.ComesBack w) (hbytes : ∀ b, v ≠ .bytes b) : v.Alike w := by
  cases h with
  | bool b => cases b <;> exact ⟨rfl, rfl, rfl, rfl⟩
  | spelled h => exact absurd rfl (hbytes _)
  | bytes h => exact absurd rfl (hbytes _)
  | _ => exact .refl _

/--
The wire loses nothing. What has come from it goes back as it was, bit by bit. Of what is sent,
truth values come back as integers and bytes that spell a text as that text; all else comes back as
it was, and going over the wire again makes no difference. Only bytes can come to stand for what
they did not stand for.
-/
theorem wire_loses_nothing :
    (∀ m : WireValue, m.Plain → m.toSql.toWire = m) ∧
      (∀ v w : SqlValue, v.toWire.toSql = w ↔ v.ComesBack w) ∧
      (∀ v : SqlValue, v.toWire.toSql.toWire.toSql = v.toWire.toSql) ∧
      ∀ v : SqlValue, (∀ b, v ≠ .bytes b) → v.Alike v.toWire.toSql := by
  refine ⟨fun _ h => h.toWire_toSql, fun _ _ => toSql_toWire_eq_iff, fun v => ?_,
    fun _ hbytes => (toSql_toWire_eq_iff.1 rfl).alike hbytes⟩
  rw [(plain_toWire v).toWire_toSql]

/-- A surrogate is no character, so its three bytes stay bytes. -/
theorem wire_loses_nothing_surrogate :
    let surrogate : WireValue := .bytes ⟨#[0xed, 0xa0, 0x80]⟩
    surrogate.Plain ∧ surrogate.toSql.toWire = surrogate ∧
      (∀ b, bool true ≠ .bytes b) ∧ (bool true).Alike (.int 1) := by
  intro surrogate
  have hplain : surrogate.Plain := .bytes _
  have hbool : ∀ b, bool true ≠ .bytes b := nofun
  exact ⟨hplain, wire_loses_nothing.1 _ hplain, hbool, wire_loses_nothing.2.2.2 _ hbool⟩

end SqlValue

end SchemaMigration
