import SchemaMigration.Lock.Name
import SchemaMigration.Proofs.Encoding
import SchemaMigration.Proofs.Grammar

/-!
# The lock of a table

A lock is named by its table or, where that takes too much room, by digits of a digest. Two tables
whose names leave enough room never share a lock. One that does not may share its lock with another,
since digits of a digest can be the name of a table themselves.
-/

namespace SchemaMigration

def IsHexDigit (c : Char) : Prop := IsDigit c ∨ 'a' ≤ c ∧ c ≤ 'f'

/-- All the room behind the start is taken by digits. -/
def IsDigestName (s : String) : Prop :=
  ∃ digits, s = "libschema_" ++ String.ofList digits ∧ digits.length = 54 ∧
    ∀ c ∈ digits, IsHexDigit c

/-! ## Digits -/

theorem isHexDigit_hexDigit (n : Nat) : IsHexDigit (hexDigit n) := by
  have h : ∀ r < 16, IsHexDigit (if r < 10 then Char.ofNat (48 + r) else Char.ofNat (87 + r)) := by
    unfold IsHexDigit IsDigit
    decide
  exact h _ (Nat.mod_lt n (by decide))

theorem isHexDigit_of_mem_hexDigits {width n : Nat} {c : Char} (h : c ∈ hexDigits width n) :
    IsHexDigit c := by
  induction width generalizing n with
  | zero => cases h
  | succ width ih =>
    rw [hexDigits, List.mem_append, List.mem_singleton] at h
    rcases h with h | rfl
    · exact ih h
    · exact isHexDigit_hexDigit n

theorem Sha256.isHexDigit_of_mem_hexDigest {message : List UInt8} {c : Char}
    (h : c ∈ hexDigest message) : IsHexDigit c := by
  obtain ⟨word, -, hc⟩ := List.mem_flatMap.1 h
  exact isHexDigit_of_mem_hexDigits hc

theorem IsHexDigit.utf8Size_eq {c : Char} (h : IsHexDigit c) : c.utf8Size = 1 := by
  rw [Char.utf8Size_eq_one_iff]
  rcases h with ⟨-, h⟩ | ⟨-, h⟩
  · exact UInt32.le_trans h (by decide)
  · exact UInt32.le_trans h (by decide)

theorem utf8ByteSize_ofList_digits {digits : List Char} (h : ∀ c ∈ digits, IsHexDigit c) :
    (String.ofList digits).utf8ByteSize = digits.length := by
  rw [Utf8.utf8ByteSize_eq_length, String.toList_ofList]
  induction digits with
  | nil => rfl
  | cons c digits ih =>
    rw [List.forall_mem_cons] at h
    rw [List.flatMap_cons, List.length_append, String.length_utf8EncodeChar, h.1.utf8Size_eq,
      ih h.2, List.length_cons, Nat.add_comm]

/-! ## Names -/

theorem IsDigestName.length_eq {s : String} (h : IsDigestName s) : s.length = 64 := by
  obtain ⟨digits, rfl, hlength, -⟩ := h
  rw [String.length_append, String.length_ofList (l := digits), hlength]
  rfl

namespace QualifiedName

variable {t u : TrackingTable}

/-- The digits that stand for a name that is too long. -/
def lockDigits (t : TrackingTable) : List Char :=
  (Sha256.hexDigest t.text.toUTF8.toList).take 54

theorem length_lockDigits (t : TrackingTable) : t.lockDigits.length = 54 := by
  rw [lockDigits, List.length_take, Sha256.length_hexDigest]
  rfl

theorem isHexDigit_of_mem_lockDigits {c : Char} (h : c ∈ t.lockDigits) : IsHexDigit c :=
  Sha256.isHexDigit_of_mem_hexDigest (List.mem_of_mem_take h)

theorem lockName_of_fits (h : t.text.utf8ByteSize ≤ 54) : t.lockName = "libschema_" ++ t.text :=
  if_pos h

theorem lockName_of_overflows (h : 54 < t.text.utf8ByteSize) :
    t.lockName = "libschema_" ++ String.ofList t.lockDigits :=
  if_neg (Nat.not_le.2 h)

theorem isDigestName_of_overflows (h : 54 < t.text.utf8ByteSize) : IsDigestName t.lockName :=
  ⟨_, lockName_of_overflows h, t.length_lockDigits, fun _ => isHexDigit_of_mem_lockDigits⟩

theorem length_lockName_le (t : TrackingTable) : t.lockName.length ≤ 64 := by
  by_cases h : t.text.utf8ByteSize ≤ 54
  · have hlength := Utf8.length_le_utf8ByteSize t.text
    have hstart : "libschema_".length = 10 := rfl
    rw [lockName_of_fits h, String.length_append]
    omega
  · exact Nat.le_of_eq (isDigestName_of_overflows (Nat.not_le.1 h)).length_eq

theorem lockName_eq_append_text_iff :
    t.lockName = "libschema_" ++ t.text ↔ t.text.utf8ByteSize ≤ 54 := by
  refine ⟨fun heq => ?_, lockName_of_fits⟩
  by_contra h
  -- The name would be its own digits, and those are 54 bytes.
  rw [lockName_of_overflows (Nat.not_le.1 h), String.append_right_inj] at heq
  rw [← heq, utf8ByteSize_ofList_digits fun _ => isHexDigit_of_mem_lockDigits,
    length_lockDigits] at h
  exact h (Nat.le_refl 54)

theorem eq_of_lockName_eq (ht : t.text.utf8ByteSize ≤ 54) (hu : u.text.utf8ByteSize ≤ 54)
    (h : t.lockName = u.lockName) : t = u := by
  rw [lockName_of_fits ht, lockName_of_fits hu, String.append_right_inj] at h
  exact text_injective h

/--
The name of a lock has room for 64 characters and tells of its table, if that takes at most 54
bytes, all there is to tell. Otherwise it is exactly as long, with digits of the table's digest
behind the start, of which there are enough. Only with such a table can another share its lock.
-/
theorem lockName_identifies :
    (∀ t : TrackingTable,
      (∃ rest, t.lockName = "libschema_" ++ rest) ∧
      t.lockName.length ≤ 64 ∧
      (t.lockName = "libschema_" ++ t.text ↔ t.text.utf8ByteSize ≤ 54) ∧
      (54 < t.text.utf8ByteSize →
        54 ≤ (Sha256.hexDigest t.text.toUTF8.toList).length ∧
        t.lockName = "libschema_" ++
          String.ofList ((Sha256.hexDigest t.text.toUTF8.toList).take 54) ∧
        t.lockName.length = 64 ∧ IsDigestName t.lockName)) ∧
    ∀ t u : TrackingTable, t.lockName = u.lockName →
      t = u ∨ (54 < t.text.utf8ByteSize ∨ 54 < u.text.utf8ByteSize) ∧ IsDigestName t.lockName := by
  constructor
  · intro t
    refine ⟨?_, t.length_lockName_le, lockName_eq_append_text_iff, fun h => ?_⟩
    · rcases Nat.lt_or_ge 54 t.text.utf8ByteSize with h | h
      · exact ⟨_, lockName_of_overflows h⟩
      · exact ⟨_, lockName_of_fits h⟩
    · have hdigest := isDigestName_of_overflows h
      refine ⟨?_, lockName_of_overflows h, hdigest.length_eq, hdigest⟩
      rw [Sha256.length_hexDigest]
      decide
  · intro t u heq
    by_cases ht : t.text.utf8ByteSize ≤ 54
    · by_cases hu : u.text.utf8ByteSize ≤ 54
      · exact Or.inl (eq_of_lockName_eq ht hu heq)
      · have hu := Nat.not_le.1 hu
        exact Or.inr ⟨Or.inr hu, heq ▸ isDigestName_of_overflows hu⟩
    · have ht := Nat.not_le.1 ht
      exact Or.inr ⟨Or.inl ht, isDigestName_of_overflows ht⟩

/-- A table can have the digits of another one as its name. They share their lock. -/
theorem lockName_identifies_shared :
    let long : TrackingTable :=
      ⟨some ⟨"billing", by decide⟩, ⟨"schema_migration_history_of_the_billing_service", by decide⟩⟩
    let short : TrackingTable :=
      ⟨none, ⟨"d663ef7be0b9b703809f9226fb17c0d49e894b612b2d61130650ce", by decide⟩⟩
    54 < long.text.utf8ByteSize ∧ long.lockName.length = 64 ∧
      long.lockName = short.lockName ∧ long ≠ short ∧ IsDigestName long.lockName := by
  intro long short
  have hlong : 54 < long.text.utf8ByteSize := by decide +kernel
  have heq : long.lockName = short.lockName := by decide +kernel
  have hne : long ≠ short := by decide
  have hdigest := ((lockName_identifies.2 long short heq).resolve_left hne).2
  exact ⟨hlong, ((lockName_identifies.1 long).2.2.2 hlong).2.2.1, heq, hne, hdigest⟩

end QualifiedName

end SchemaMigration
