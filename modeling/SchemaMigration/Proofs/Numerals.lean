import Mathlib.Data.List.Induction
import Mathlib.Data.Nat.Digits.Defs
import SchemaMigration.Text.Numeral

/-!
# Numerals

A numeral is a run of ASCII digits, and its number is what they add up to by their places, so that
zeros in front make no difference. Reading takes numerals and no other texts for whole numbers. A
number is written as one of its numerals, and so is read back whatever the width.
-/

namespace SchemaMigration

/-- The digits as they are written, the one with the highest place first. -/
def numeral (digits : List (Fin 10)) : List Char := digits.map fun d : Fin 10 => digitChar d

def numeralValue (digits : List (Fin 10)) : Nat := Nat.ofDigits 10 (digits.reverse.map Fin.val)

/-- A numeral for this number, with at most one sign in front. -/
inductive DenotesInt : List Char → Int → Prop
  | bare {digits : List (Fin 10)} (h : digits ≠ []) :
    DenotesInt (numeral digits) (numeralValue digits)
  | plus {digits : List (Fin 10)} (h : digits ≠ []) :
    DenotesInt ('+' :: numeral digits) (numeralValue digits)
  | minus {digits : List (Fin 10)} (h : digits ≠ []) :
    DenotesInt ('-' :: numeral digits) (-(numeralValue digits : Int))

/-! ## Digits -/

theorem digitChar_spec (d : Fin 10) :
    (digitChar d).isDigit = true ∧ digitValue (digitChar d) = d := by
  revert d
  decide

theorem digitChar_mod (n : Nat) : digitChar n = digitChar (Fin.ofNat 10 n) := by
  simp [digitChar]

theorem exists_digitChar {c : Char} (h : c.isDigit = true) : ∃ d : Fin 10, digitChar d = c := by
  have hrange : 48 ≤ c.toNat ∧ c.toNat ≤ 57 := by
    simpa [Char.isDigit, UInt32.le_iff_toNat_le] using h
  refine ⟨⟨c.toNat - 48, by omega⟩, ?_⟩
  have hn : 48 + (c.toNat - 48) % 10 = c.toNat := by omega
  rw [digitChar, hn, Char.ofNat_toNat]

theorem numeral_append (ds es : List (Fin 10)) : numeral (ds ++ es) = numeral ds ++ numeral es :=
  List.map_append

theorem numeralValue_concat (ds : List (Fin 10)) (d : Fin 10) :
    numeralValue (ds ++ [d]) = 10 * numeralValue ds + d := by
  simp [numeralValue, Nat.ofDigits_cons, Nat.add_comm]

theorem isDigit_of_mem_numeral {ds : List (Fin 10)} {c : Char} (h : c ∈ numeral ds) :
    c.isDigit = true := by
  obtain ⟨d, -, rfl⟩ := List.mem_map.1 h
  exact (digitChar_spec d).1

theorem exists_numeral {cs : List Char} (h : ∀ c ∈ cs, c.isDigit = true) :
    ∃ ds, numeral ds = cs := by
  induction cs with
  | nil => exact ⟨[], rfl⟩
  | cons c cs ih =>
    rw [List.forall_mem_cons] at h
    obtain ⟨d, rfl⟩ := exists_digitChar h.1
    obtain ⟨ds, rfl⟩ := ih h.2
    exact ⟨d :: ds, rfl⟩

theorem digitsValue_concat (cs : List Char) (c : Char) :
    digitsValue (cs ++ [c]) = 10 * digitsValue cs + digitValue c := by
  simp [digitsValue, List.foldl_append]

theorem digitsValue_numeral (ds : List (Fin 10)) : digitsValue (numeral ds) = numeralValue ds := by
  induction ds using List.reverseRecOn with
  | nil => rfl
  | append_singleton ds d ih =>
    have hlast : numeral [d] = [digitChar d] := rfl
    rw [numeral_append, hlast, digitsValue_concat, ih, (digitChar_spec d).2, numeralValue_concat]

/-! ## Reading -/

theorem readNat?_eq_some_iff {cs : List Char} {n : Nat} :
    readNat? cs = some n ↔ ∃ ds, ds ≠ [] ∧ cs = numeral ds ∧ n = numeralValue ds := by
  unfold readNat?
  constructor
  · intro h
    split at h
    · rename_i hcs
      obtain ⟨ds, rfl⟩ := exists_numeral (List.all_eq_true.1 hcs.2)
      refine ⟨ds, ?_, rfl, ?_⟩
      · rintro rfl
        exact hcs.1 rfl
      · rw [← digitsValue_numeral, Option.some.inj h]
    · cases h
  · rintro ⟨ds, hne, rfl, rfl⟩
    have hds : numeral ds ≠ [] := by simpa [numeral] using hne
    rw [if_pos ⟨hds, List.all_eq_true.2 fun _ => isDigit_of_mem_numeral⟩, digitsValue_numeral]

theorem map_readNat?_eq_some_iff {cs : List Char} {f : Nat → Int} {z : Int} :
    (readNat? cs).map f = some z ↔ ∃ ds, ds ≠ [] ∧ cs = numeral ds ∧ z = f (numeralValue ds) := by
  rw [Option.map_eq_some_iff]
  constructor
  · rintro ⟨n, hn, rfl⟩
    obtain ⟨ds, hne, rfl, rfl⟩ := readNat?_eq_some_iff.1 hn
    exact ⟨ds, hne, rfl, rfl⟩
  · rintro ⟨ds, hne, rfl, rfl⟩
    exact ⟨_, readNat?_eq_some_iff.2 ⟨ds, hne, rfl, rfl⟩, rfl⟩

theorem readInt?_plus (cs : List Char) : readInt? ('+' :: cs) = (readNat? cs).map Int.ofNat := rfl

theorem readInt?_minus (cs : List Char) :
    readInt? ('-' :: cs) = (readNat? cs).map fun n => -(Int.ofNat n) := by
  rw [readInt?]
  cases readNat? cs <;> rfl

theorem readInt?_of_no_sign {cs : List Char} (hplus : cs.head? ≠ some '+')
    (hminus : cs.head? ≠ some '-') : readInt? cs = (readNat? cs).map Int.ofNat := by
  unfold readInt?
  split
  · exact absurd rfl hplus
  · exact absurd rfl hminus
  · rfl

theorem sign_cases (cs : List Char) : (∃ ds, cs = '+' :: ds) ∨ (∃ ds, cs = '-' :: ds) ∨
    cs.head? ≠ some '+' ∧ cs.head? ≠ some '-' := by
  cases cs with
  | nil => simp
  | cons c cs =>
    simp only [List.cons.injEq, List.head?_cons, ne_eq, Option.some.injEq, exists_and_left,
      exists_eq', and_true]
    tauto

theorem head?_numeral_ne {ds : List (Fin 10)} {c : Char} (hc : c.isDigit = false) :
    (numeral ds).head? ≠ some c := by
  intro h
  have hdigit := isDigit_of_mem_numeral (List.mem_of_head? h)
  rw [hc] at hdigit
  cases hdigit

theorem readInt?_eq_some_iff {cs : List Char} {z : Int} :
    readInt? cs = some z ↔ DenotesInt cs z := by
  constructor
  · intro h
    rcases sign_cases cs with ⟨ds, rfl⟩ | ⟨ds, rfl⟩ | ⟨hplus, hminus⟩
    · rw [readInt?_plus, map_readNat?_eq_some_iff] at h
      obtain ⟨ds, hne, rfl, rfl⟩ := h
      exact .plus hne
    · rw [readInt?_minus, map_readNat?_eq_some_iff] at h
      obtain ⟨ds, hne, rfl, rfl⟩ := h
      exact .minus hne
    · rw [readInt?_of_no_sign hplus hminus, map_readNat?_eq_some_iff] at h
      obtain ⟨ds, hne, rfl, rfl⟩ := h
      exact .bare hne
  · intro h
    cases h with
    | bare hne =>
      rw [readInt?_of_no_sign (head?_numeral_ne rfl) (head?_numeral_ne rfl)]
      exact map_readNat?_eq_some_iff.2 ⟨_, hne, rfl, rfl⟩
    | plus hne => exact map_readNat?_eq_some_iff.2 ⟨_, hne, rfl, rfl⟩
    | minus hne =>
      rw [readInt?_minus]
      exact map_readNat?_eq_some_iff.2 ⟨_, hne, rfl, rfl⟩

/-! ## Writing -/

theorem exists_decimalDigits (n : Nat) :
    ∃ ds, ds ≠ [] ∧ decimalDigits n = numeral ds ∧ numeralValue ds = n := by
  induction n using decimalDigits.induct with
  | case1 n h =>
    refine ⟨[Fin.ofNat 10 n], nofun, ?_, ?_⟩
    · rw [decimalDigits, if_pos h, digitChar_mod]
      rfl
    · simp [numeralValue, Nat.mod_eq_of_lt h]
  | case2 n h ih =>
    obtain ⟨ds, -, hds, hvalue⟩ := ih
    refine ⟨ds ++ [Fin.ofNat 10 n], by simp, ?_, ?_⟩
    · rw [decimalDigits, if_neg h, hds, numeral_append, digitChar_mod]
      rfl
    · rw [numeralValue_concat, hvalue, Fin.val_ofNat]
      omega

theorem numeralValue_replicate_append (k : Nat) (ds : List (Fin 10)) :
    numeralValue (List.replicate k 0 ++ ds) = numeralValue ds := by
  induction ds using List.reverseRecOn with
  | nil => simp [numeralValue]
  | append_singleton ds d ih =>
    rw [← List.append_assoc, numeralValue_concat, ih, numeralValue_concat]

theorem exists_paddedDigits (width n : Nat) :
    ∃ ds, ds ≠ [] ∧ paddedDigits width n = numeral ds ∧ numeralValue ds = n := by
  obtain ⟨ds, hne, hds, hvalue⟩ := exists_decimalDigits n
  refine ⟨List.replicate (width - (numeral ds).length) 0 ++ ds, by simp [hne], ?_, ?_⟩
  · rw [numeral_append, paddedDigits, hds]
    simp [numeral, digitChar]
  · rw [numeralValue_replicate_append, hvalue]

theorem isDigit_of_mem_paddedDigits {width n : Nat} {c : Char} (h : c ∈ paddedDigits width n) :
    c.isDigit = true := by
  obtain ⟨ds, -, hds, -⟩ := exists_paddedDigits width n
  rw [hds] at h
  exact isDigit_of_mem_numeral h

theorem paddedDigits_injective (width : Nat) : Function.Injective (paddedDigits width) := by
  intro m n h
  obtain ⟨ds, -, hds, rfl⟩ := exists_paddedDigits width m
  obtain ⟨es, -, hes, rfl⟩ := exists_paddedDigits width n
  rw [← digitsValue_numeral, ← digitsValue_numeral, ← hds, ← hes, h]

theorem denotesInt_decimalText (n : Nat) : DenotesInt (decimalText n).toList n := by
  obtain ⟨ds, hne, hds, hvalue⟩ := exists_decimalDigits n
  rw [decimalText, String.toList_ofList, hds, ← hvalue]
  exact .bare hne

theorem denotesInt_signedText (z : Int) : DenotesInt (signedText z).toList z := by
  cases z with
  | ofNat n => exact denotesInt_decimalText n
  | negSucc n =>
    obtain ⟨ds, hne, hds, hvalue⟩ := exists_decimalDigits (n + 1)
    have htext : (signedText (.negSucc n)).toList = '-' :: numeral ds := by
      simp [signedText, decimalText, hds]
    rw [htext, Int.negSucc_eq, ← Int.natCast_add_one, ← hvalue]
    exact .minus hne

end SchemaMigration
