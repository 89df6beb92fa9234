import Mathlib.Data.List.Basic

/-!
# Text as bytes

A character is written as one to four bytes. The first says how many there are, and the others carry
on its number by six bits each. No number is written with more bytes than it takes, and none that is
no character's is written at all; the grammar below says so of the bytes alone. Bytes are the text
of a string exactly if the grammar derives them, and then of one string only.
-/

namespace SchemaMigration.Utf8

/-! ## The grammar -/

/-- A byte that carries on a character. -/
def IsTail (b : UInt8) : Prop := 0x80 ≤ b.toNat ∧ b.toNat ≤ 0xbf

/-- The bytes of one character, and its number. -/
inductive Writes : List UInt8 → Nat → Prop
  | one {a : UInt8} (ha : a.toNat ≤ 0x7f) : Writes [a] a.toNat
  | two {a b : UInt8} (ha : 0xc2 ≤ a.toNat ∧ a.toNat ≤ 0xdf) (hb : IsTail b) :
      Writes [a, b] (64 * (a.toNat - 0xc0) + (b.toNat - 0x80))
  /-- Neither a number that two bytes can write, nor a surrogate. -/
  | three {a b c : UInt8} (ha : 0xe0 ≤ a.toNat ∧ a.toNat ≤ 0xef) (hb : IsTail b) (hc : IsTail c)
      (hlong : a.toNat = 0xe0 → 0xa0 ≤ b.toNat) (hsurrogate : a.toNat = 0xed → b.toNat ≤ 0x9f) :
      Writes [a, b, c] (64 * (64 * (a.toNat - 0xe0) + (b.toNat - 0x80)) + (c.toNat - 0x80))
  /-- Neither a number that three bytes can write, nor one beyond the last character. -/
  | four {a b c d : UInt8} (ha : 0xf0 ≤ a.toNat ∧ a.toNat ≤ 0xf4) (hb : IsTail b) (hc : IsTail c)
      (hd : IsTail d) (hlong : a.toNat = 0xf0 → 0x90 ≤ b.toNat)
      (hlast : a.toNat = 0xf4 → b.toNat ≤ 0x8f) :
      Writes [a, b, c, d]
        (64 * (64 * (64 * (a.toNat - 0xf0) + (b.toNat - 0x80)) + (c.toNat - 0x80)) +
          (d.toNat - 0x80))

/-- The bytes are those of some characters, one after the other. -/
inductive IsText : List UInt8 → Prop
  | nil : IsText []
  | cons {char rest : List UInt8} {n : Nat} (hchar : Writes char n) (hrest : IsText rest) :
      IsText (char ++ rest)

/-- The bytes are those of these characters. -/
inductive Spells : List UInt8 → List Char → Prop
  | nil : Spells [] []
  | cons {char rest : List UInt8} {c : Char} {cs : List Char} (hchar : Writes char c.toNat)
      (hrest : Spells rest cs) : Spells (char ++ rest) (c :: cs)

/-! ## One character -/

theorem toNat_ofNat {n : Nat} (h : n < 256) : (UInt8.ofNat n).toNat = n := by
  rw [UInt8.toNat_ofNat']
  exact Nat.mod_eq_of_lt h

theorem ofNat_eq {n : Nat} {a : UInt8} (h : n = a.toNat) : UInt8.ofNat n = a := by
  rw [h]
  exact UInt8.ofNat_toNat

theorem char_valid (c : Char) : c.toNat < 0xd800 ∨ 0xdfff < c.toNat ∧ c.toNat < 0x110000 := c.valid

theorem Writes.of_eq {bs : List UInt8} {n n' : Nat} (h : Writes bs n) (hn : n = n') :
    Writes bs n' := hn ▸ h

theorem writes_encode (c : Char) : Writes (String.utf8EncodeChar c) c.toNat := by
  have hvalid := char_valid c
  unfold String.utf8EncodeChar
  dsimp only
  rw [Char.toNat_val]
  generalize c.toNat = n at hvalid ⊢
  by_cases h₁ : n ≤ 127
  · have ha := toNat_ofNat (n := n) (by omega)
    rw [if_pos h₁]
    exact .of_eq (.one (by omega)) ha
  rw [if_neg h₁]
  have hlast := toNat_ofNat (n := n % 64 + 128) (by omega)
  by_cases h₂ : n ≤ 2047
  · have ha := toNat_ofNat (n := n / 64 % 32 + 192) (by omega)
    rw [if_pos h₂]
    exact .of_eq (.two (by omega) ⟨by omega, by omega⟩) (by omega)
  rw [if_neg h₂]
  have hsecond := toNat_ofNat (n := n / 64 % 64 + 128) (by omega)
  by_cases h₃ : n ≤ 65535
  · have ha := toNat_ofNat (n := n / 4096 % 16 + 224) (by omega)
    rw [if_pos h₃]
    exact .of_eq (.three (by omega) ⟨by omega, by omega⟩ ⟨by omega, by omega⟩ (by omega) (by omega))
      (by omega)
  · have ha := toNat_ofNat (n := n / 262144 % 8 + 240) (by omega)
    have hthird := toNat_ofNat (n := n / 4096 % 64 + 128) (by omega)
    rw [if_neg h₃]
    exact .of_eq (.four (by omega) ⟨by omega, by omega⟩ ⟨by omega, by omega⟩ ⟨by omega, by omega⟩
      (by omega) (by omega)) (by omega)

theorem Writes.exists_char {bs : List UInt8} {n : Nat} (h : Writes bs n) :
    ∃ c : Char, c.toNat = n := by
  have hvalid : n.isValidChar := by
    unfold Nat.isValidChar
    cases h with
    | one ha => omega
    | two ha hb =>
      obtain ⟨hb, hb'⟩ := hb
      omega
    | three ha hb hc hlong hsurrogate =>
      obtain ⟨⟨hb, hb'⟩, hc, hc'⟩ := And.intro hb hc
      omega
    | four ha hb hc hd hlong hlast =>
      obtain ⟨⟨hb, hb'⟩, ⟨hc, hc'⟩, hd, hd'⟩ := And.intro hb (And.intro hc hd)
      omega
  exact ⟨Char.ofNatAux n hvalid, rfl⟩

theorem Writes.encode_eq {bs : List UInt8} {c : Char} (h : Writes bs c.toNat) :
    String.utf8EncodeChar c = bs := by
  unfold String.utf8EncodeChar
  dsimp only
  rw [Char.toNat_val]
  generalize c.toNat = n at h ⊢
  cases h with
  | one ha => rw [if_pos ha, UInt8.ofNat_toNat]
  | @two a b ha hb =>
    obtain ⟨hb, hb'⟩ := hb
    rw [if_neg (by omega), if_pos (by omega)]
    simp only [List.cons.injEq, and_true]
    exact ⟨ofNat_eq (by omega), ofNat_eq (by omega)⟩
  | @three a b c ha hb hc hlong hsurrogate =>
    obtain ⟨⟨hb, hb'⟩, hc, hc'⟩ := And.intro hb hc
    rw [if_neg (by omega), if_neg (by omega), if_pos (by omega)]
    simp only [List.cons.injEq, and_true]
    exact ⟨ofNat_eq (by omega), ofNat_eq (by omega), ofNat_eq (by omega)⟩
  | @four a b c d ha hb hc hd hlong hlast =>
    obtain ⟨⟨hb, hb'⟩, ⟨hc, hc'⟩, hd, hd'⟩ := And.intro hb (And.intro hc hd)
    rw [if_neg (by omega), if_neg (by omega), if_neg (by omega)]
    simp only [List.cons.injEq, and_true]
    exact ⟨ofNat_eq (by omega), ofNat_eq (by omega), ofNat_eq (by omega), ofNat_eq (by omega)⟩

/-! ## Whole texts -/

variable {bs : List UInt8} {cs : List Char}

theorem spells_iff : Spells bs cs ↔ bs = cs.flatMap String.utf8EncodeChar := by
  constructor
  · intro h
    induction h with
    | nil => rfl
    | cons hchar _ ih => rw [List.flatMap_cons, hchar.encode_eq, ih]
  · rintro rfl
    induction cs with
    | nil => exact .nil
    | cons c cs ih => exact .cons (writes_encode c) ih

theorem exists_spells_iff : (∃ cs, Spells bs cs) ↔ IsText bs := by
  constructor
  · rintro ⟨cs, h⟩
    induction h with
    | nil => exact .nil
    | cons hchar _ ih => exact .cons hchar ih
  · intro h
    induction h with
    | nil => exact ⟨[], .nil⟩
    | cons hchar _ ih =>
      obtain ⟨c, rfl⟩ := hchar.exists_char
      obtain ⟨cs, hcs⟩ := ih
      exact ⟨c :: cs, .cons hchar hcs⟩

/-! ## Strings -/

variable {b : ByteArray} {s : String}

theorem toList_toByteArray (s : String) :
    s.toByteArray.data.toList = s.toList.flatMap String.utf8EncodeChar := by
  conv_lhs => rw [← String.ofList_toList (s := s), String.toByteArray_ofList]
  exact List.toList_data_toByteArray

theorem spells_toList_iff : Spells b.data.toList s.toList ↔ s.toUTF8 = b := by
  rw [spells_iff, ← toList_toByteArray, String.toUTF8_eq_toByteArray, Array.toList_inj,
    ← ByteArray.ext_iff, eq_comm]

theorem fromUTF8?_eq_some_iff : String.fromUTF8? b = some s ↔ Spells b.data.toList s.toList := by
  rw [spells_toList_iff]
  unfold String.fromUTF8?
  constructor
  · intro h
    split at h
    · cases h
      rfl
    · cases h
  · rintro rfl
    rw [String.toUTF8_eq_toByteArray, dif_pos s.isValidUTF8]
    rfl

theorem fromUTF8?_eq_none_iff : String.fromUTF8? b = none ↔ ¬ IsText b.data.toList := by
  rw [← exists_spells_iff, Option.eq_none_iff_forall_ne_some]
  constructor
  · rintro h ⟨cs, hcs⟩
    rw [← String.toList_ofList (l := cs)] at hcs
    exact h _ (fromUTF8?_eq_some_iff.2 hcs)
  · intro h s hs
    exact h ⟨_, fromUTF8?_eq_some_iff.1 hs⟩

theorem utf8ByteSize_eq_length (s : String) :
    s.utf8ByteSize = (s.toList.flatMap String.utf8EncodeChar).length := by
  rw [← toList_toByteArray]
  rfl

theorem length_le_utf8ByteSize (s : String) : s.length ≤ s.utf8ByteSize := by
  rw [utf8ByteSize_eq_length, ← String.length_toList]
  induction s.toList with
  | nil => exact Nat.le_refl 0
  | cons c cs ih =>
    have hc := c.utf8Size_pos
    rw [List.flatMap_cons, List.length_append, List.length_cons, String.length_utf8EncodeChar]
    omega

end SchemaMigration.Utf8
