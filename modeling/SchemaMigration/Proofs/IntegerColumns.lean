import SchemaMigration.Proofs.Numerals
import SchemaMigration.Proofs.RowsRead

/-!
# Integer columns

The server sends an integer as a number or as a text, as the protocol has it. A column of either
kind is read as the integer that it denotes, if that has a place among the signed integers of 64
bits, and is refused otherwise.
-/

namespace SchemaMigration

/-! ## The range -/

theorem fitsInt64_iff (z : Int) :
    fitsInt64 z = true ↔ -9223372036854775808 ≤ z ∧ z < 9223372036854775808 := by
  simp [fitsInt64]

theorem fitsInt64_toInt (n : Int64) : fitsInt64 n.toInt = true :=
  (fitsInt64_iff _).2 ⟨n.le_toInt, n.toInt_lt⟩

theorem int64Of?_eq_some_iff {z : Int} {n : Int64} : int64Of? z = some n ↔ n.toInt = z := by
  unfold int64Of?
  constructor
  · intro h
    split at h
    · rename_i hfits
      obtain ⟨hle, hlt⟩ := (fitsInt64_iff z).1 hfits
      rw [← Option.some.inj h]
      exact Int64.toInt_ofInt_of_le hle hlt
    · cases h
  · rintro rfl
    rw [if_pos (fitsInt64_toInt n), Int64.ofInt_toInt]

theorem int64Of?_eq_none_iff {z : Int} :
    int64Of? z = none ↔ z < -9223372036854775808 ∨ 9223372036854775808 ≤ z := by
  rw [int64Of?, ite_eq_right_iff, fitsInt64_iff]
  simp
  omega

/-! ## Values -/

namespace SqlValue

variable {s : String} {u : UInt64} {n : Int64} {z : Int}

theorem asInt_uint_eq_some_iff : (uint u).asInt = some n ↔ (u.toNat : Int) = n.toInt := by
  rw [asInt, int64Of?_eq_some_iff, eq_comm]

theorem asInt_uint_eq_none_iff : (uint u).asInt = none ↔ 9223372036854775808 ≤ u.toNat := by
  rw [asInt, int64Of?_eq_none_iff]
  omega

theorem asInt_text_of_denotes (h : DenotesInt s.toList z) : (text s).asInt = int64Of? z := by
  rw [asInt, readInt?_eq_some_iff.2 h]
  rfl

theorem asInt_text_eq_some_iff : (text s).asInt = some n ↔ DenotesInt s.toList n.toInt := by
  rw [asInt, Option.bind_eq_some_iff]
  constructor
  · rintro ⟨z, hz, hn⟩
    rw [int64Of?_eq_some_iff.1 hn]
    exact readInt?_eq_some_iff.1 hz
  · intro h
    exact ⟨_, readInt?_eq_some_iff.2 h, int64Of?_eq_some_iff.2 rfl⟩

theorem toNat_toUInt64 (h : 0 ≤ n.toInt) : (n.toUInt64.toNat : Int) = n.toInt := by
  have heq : n.toInt = n.toBitVec.toInt := rfl
  have hnat : n.toUInt64.toNat = n.toBitVec.toNat := rfl
  rw [heq, BitVec.toInt_eq_toNat_cond] at h ⊢
  rw [hnat]
  split at h <;> omega

/--
An integer is the same in every form that it may be sent in, and one beyond the signed integers is
none in any. A text is an integer exactly if it is a numeral, with at most one sign in front, for
one with a place among them. A column that holds a text is read as that integer, and any other text
is told as a value of the wrong kind in that column.
-/
theorem integers_read_alike :
    (∀ n : Int64,
      (int n).asInt = some n ∧ (text (signedText n.toInt)).asInt = some n ∧
        (0 ≤ n.toInt → (uint n.toUInt64).asInt = some n)) ∧
    (∀ u : UInt64, 9223372036854775807 < u.toNat →
      (uint u).asInt = none ∧ (text (decimalText u.toNat)).asInt = none) ∧
    (∀ (s : String) (z : Int),
      (∃ n : Int64, n.toInt = z ∧ (text s).asInt = some n) ↔
        DenotesInt s.toList z ∧ -9223372036854775808 ≤ z ∧ z ≤ 9223372036854775807) ∧
    ∀ (row : Row) (i : Nat) (s : String), row[i]? = some (text s) →
      (∀ n : Int64, row.getInt i = .ok n ↔ DenotesInt s.toList n.toInt) ∧
      ((∀ n : Int64, ¬ DenotesInt s.toList n.toInt) →
        row.getInt i = .error (.typeMismatch i "integer" (text s).describe)) := by
  refine ⟨fun n => ⟨rfl, ?_, fun h => ?_⟩, fun u hu => ⟨?_, ?_⟩, fun s z => ?_,
    fun row i s hrow => ⟨fun n => ?_, fun hnone => ?_⟩⟩
  · exact asInt_text_eq_some_iff.2 (denotesInt_signedText n.toInt)
  · exact asInt_uint_eq_some_iff.2 (toNat_toUInt64 h)
  · exact asInt_uint_eq_none_iff.2 hu
  · rw [asInt_text_of_denotes (denotesInt_decimalText u.toNat), int64Of?_eq_none_iff]
    omega
  · constructor
    · rintro ⟨n, rfl, hn⟩
      have hlt := n.toInt_lt
      exact ⟨asInt_text_eq_some_iff.1 hn, n.le_toInt, by omega⟩
    · rintro ⟨hz, hle, hlt⟩
      have hn : (Int64.ofInt z).toInt = z := Int64.toInt_ofInt_of_le hle (by omega)
      refine ⟨_, hn, asInt_text_eq_some_iff.2 ?_⟩
      rwa [hn]
  · rw [Row.getInt, Row.read_eq_ok_iff, hrow, ← asInt_text_eq_some_iff]
    simp
  · refine Row.read_eq_error_iff.2 (.other hrow ?_)
    rw [Option.eq_none_iff_forall_ne_some]
    exact fun n hn => hnone n (asInt_text_eq_some_iff.1 hn)

/-- The least integer is read, though it has no positive counterpart. That one is refused. -/
theorem integers_read_alike_limits :
    let row : Row := [.text "-09223372036854775808", .text "+9223372036854775808"]
    let u : UInt64 := 9223372036854775808
    0 ≤ (7 : Int64).toInt ∧ (uint (7 : Int64).toUInt64).asInt = some 7 ∧
      9223372036854775807 < u.toNat ∧ (uint u).asInt = none ∧
      row.getInt 0 = .ok (-9223372036854775808) ∧
      row.getInt 1 =
        .error (.typeMismatch 1 "integer" "text '+9223372036854775808'") := by
  intro row u
  have hseven : 0 ≤ (7 : Int64).toInt := by decide
  have hu : 9223372036854775807 < u.toNat := by decide
  have hleast : DenotesInt "-09223372036854775808".toList (-9223372036854775808 : Int64).toInt :=
    readInt?_eq_some_iff.1 (by decide +kernel)
  have hnone : ∀ n : Int64, ¬ DenotesInt "+9223372036854775808".toList n.toInt := by
    intro n hn
    have hrefused : (text "+9223372036854775808").asInt = none := by decide +kernel
    rw [asInt_text_eq_some_iff.2 hn] at hrefused
    cases hrefused
  exact ⟨hseven, (integers_read_alike.1 7).2.2 hseven, hu, (integers_read_alike.2.1 u hu).1,
    ((integers_read_alike.2.2.2 row 0 _ rfl).1 _).2 hleast,
    (integers_read_alike.2.2.2 row 1 _ rfl).2 hnone⟩

end SqlValue

end SchemaMigration
