import SchemaMigration.Json.Printer
import SchemaMigration.Json.Reader
import SchemaMigration.Proofs.Numerals

/-!
# JSON that is written reads back

A value is read off the front of a text exactly as it was written, whatever its texts say, if what
follows cannot carry on a number.
-/

namespace SchemaMigration.Json

/-! ## Texts -/

theorem readHex?_hexDigits {n : Nat} (h : n < 32) : readHex? (hexDigits 4 n) = some n := by
  revert n
  decide

theorem readUnits_escape {e c : Char} (hu : e ≠ 'u') (he : shortEscape? e = some c)
    (rest : List Char) :
    readUnits ('\\' :: e :: rest) = (readUnits rest).map fun p => (.char c :: p.1, p.2) := by
  rw [readUnits, he]
  · cases readUnits rest <;> rfl
  · intros
    simp_all

theorem readUnits_code {n : Nat} (hn : n < 32) (rest : List Char) :
    readUnits ('\\' :: 'u' :: hexDigits 4 n ++ rest) =
      (readUnits rest).map fun p => (.char (Char.ofNat n) :: p.1, p.2) := by
  have hhex := readHex?_hexDigits hn
  have hcode : TextUnit.ofCode n = .char (Char.ofNat n) := by
    rw [TextUnit.ofCode, if_neg (by omega), if_neg (by omega)]
  simp only [hexDigits, List.nil_append, List.cons_append] at hhex ⊢
  rw [readUnits, hhex, ← hcode]
  cases readUnits rest <;> rfl

theorem readUnits_plain {c : Char} (hquote : c ≠ '"') (hslash : c ≠ '\\') (hcontrol : 32 ≤ c.toNat)
    (rest : List Char) :
    readUnits (c :: rest) = (readUnits rest).map fun p => (.char c :: p.1, p.2) := by
  have hplain : ¬(c.toNat < 32 ∨ c = '\\') := by
    simp [hslash, hcontrol]
  rw [readUnits, if_neg hplain]
  · cases readUnits rest <;> rfl
  all_goals
    intros
    simp_all

theorem readUnits_escapeChar (c : Char) (rest : List Char) :
    readUnits (escapeChar c ++ rest) = (readUnits rest).map fun p => (.char c :: p.1, p.2) := by
  unfold escapeChar
  split_ifs with hquote hslash hline hreturn htab hback hfeed hcontrol
  · subst hquote
    exact readUnits_escape (by decide) rfl rest
  · subst hslash
    exact readUnits_escape (by decide) rfl rest
  · subst hline
    exact readUnits_escape (by decide) rfl rest
  · subst hreturn
    exact readUnits_escape (by decide) rfl rest
  · subst htab
    exact readUnits_escape (by decide) rfl rest
  · subst hback
    exact readUnits_escape (by decide) rfl rest
  · subst hfeed
    exact readUnits_escape (by decide) rfl rest
  · rw [readUnits_code hcontrol, Char.ofNat_toNat]
  · exact readUnits_plain hquote hslash (Nat.not_lt.1 hcontrol) rest

theorem readUnits_written (cs rest : List Char) :
    readUnits (cs.flatMap escapeChar ++ '"' :: rest) = some (cs.map .char, rest) := by
  induction cs with
  | nil => rfl
  | cons c cs ih =>
    rw [List.flatMap_cons, List.append_assoc, readUnits_escapeChar, ih]
    rfl

theorem joinUnits_map_char (cs : List Char) : joinUnits (cs.map .char) = some cs := by
  induction cs with
  | nil => rfl
  | cons c cs ih =>
    rw [List.map_cons, joinUnits, ih]
    rfl

theorem textChars_append (s : String) (rest : List Char) :
    textChars (some s) ++ rest = '"' :: (s.toList.flatMap escapeChar ++ '"' :: rest) := by
  simp [textChars]

theorem readText_written (s : String) (rest : List Char) :
    readText (s.toList.flatMap escapeChar ++ '"' :: rest) = some (some s, rest) := by
  rw [readText, readUnits_written]
  change some ((joinUnits (s.toList.map .char)).map String.ofList, rest) = _
  rw [joinUnits_map_char, Option.map_some, String.ofList_toList]

/-! ## Numbers -/

/-- What follows a number, if it is not to become another one. -/
def EndsNumber (rest : List Char) : Prop :=
  ∀ c, rest.head? = some c → c.isDigit = false ∧ c ≠ '.' ∧ c ≠ 'e' ∧ c ≠ 'E'

/-- The reader takes the same off the front if a text that ends a number is put behind. -/
def Local (reader : List Char → Option (List Char × List Char)) : Prop :=
  ∀ {cs taken left rest : List Char}, EndsNumber rest → reader cs = some (taken, left) →
    reader (cs ++ rest) = some (taken, left ++ rest)

theorem Local.map {reader : List Char → Option (List Char × List Char)} (h : Local reader)
    (f : List Char → List Char) : Local fun cs => (reader cs).map fun p => (f p.1, p.2) := by
  intro cs taken left rest hrest hmap
  obtain ⟨⟨taken, left⟩, hread, heq⟩ := Option.map_eq_some_iff.1 hmap
  cases heq
  exact congrArg (Option.map _) (h hrest hread)

theorem local_readDigits : Local readDigits := by
  intro cs taken left rest hrest h
  obtain ⟨hne, rfl, rfl⟩ : cs.takeWhile Char.isDigit ≠ [] ∧ cs.takeWhile Char.isDigit = taken ∧
      cs.dropWhile Char.isDigit = left := by
    simpa [readDigits] using h
  have hsplit : (cs ++ rest).takeWhile Char.isDigit = cs.takeWhile Char.isDigit ∧
      (cs ++ rest).dropWhile Char.isDigit = cs.dropWhile Char.isDigit ++ rest := by
    clear h hne
    induction cs with
    | nil =>
      cases rest with
      | nil => exact ⟨rfl, rfl⟩
      | cons c rest => simp [(hrest c rfl).1]
    | cons c cs ih => cases hc : c.isDigit <;> simp [hc, ih]
  rw [readDigits, hsplit.1, hsplit.2, if_neg hne]

theorem readWhole_of_ne {c : Char} (hc : c ≠ '0') (cs : List Char) :
    readWhole (c :: cs) = readDigits (c :: cs) := by
  rw [readWhole]
  rintro _ ⟨⟩
  exact hc rfl

theorem local_readWhole : Local readWhole := by
  intro cs taken left rest hrest h
  match cs, h with
  | [], h => cases h
  | c :: cs, h =>
    by_cases hzero : c = '0'
    · subst hzero
      cases h
      rfl
    · rw [readWhole_of_ne hzero] at h
      rw [List.cons_append, readWhole_of_ne hzero]
      exact local_readDigits hrest h

theorem readFraction_point (cs : List Char) : readFraction ('.' :: cs) =
    (readDigits cs).map fun p => ('.' :: p.1, p.2) := by
  rw [readFraction]
  cases readDigits cs <;> rfl

theorem readFraction_of_other {cs : List Char} (h : cs.head? ≠ some '.') :
    readFraction cs = some ([], cs) := by
  rw [readFraction]
  rintro _ rfl
  exact h rfl

theorem local_readFraction : Local readFraction := by
  intro cs taken left rest hrest h
  match cs, h with
  | [], h =>
    cases h
    exact readFraction_of_other fun hdot => (hrest '.' hdot).2.1 rfl
  | c :: cs, h =>
    by_cases hdot : c = '.'
    · subst hdot
      rw [readFraction_point] at h
      rw [List.cons_append, readFraction_point]
      exact local_readDigits.map _ hrest h
    · have hne : ∀ cs, (c :: cs).head? ≠ some '.' := fun _ h => hdot (Option.some.inj h)
      rw [readFraction_of_other (hne cs)] at h
      cases h
      exact readFraction_of_other (hne (cs ++ rest))

theorem readExponent_of_other {c : Char} (hc : ¬(c = 'e' ∨ c = 'E')) (cs : List Char) :
    readExponent (c :: cs) = some ([], c :: cs) :=
  if_neg hc

theorem readExponent_of_sign {e sign : Char} (he : e = 'e' ∨ e = 'E')
    (hsign : sign = '+' ∨ sign = '-') (cs : List Char) : readExponent (e :: sign :: cs) =
      (readDigits cs).map fun p => (e :: sign :: p.1, p.2) := by
  rw [readExponent, if_pos he]
  dsimp only
  rw [if_pos hsign]
  cases readDigits cs <;> rfl

theorem readExponent_of_no_sign {e c : Char} (he : e = 'e' ∨ e = 'E')
    (hsign : ¬(c = '+' ∨ c = '-')) (cs : List Char) : readExponent (e :: c :: cs) =
      (readDigits (c :: cs)).map fun p => (e :: p.1, p.2) := by
  rw [readExponent, if_pos he]
  dsimp only
  rw [if_neg hsign]
  cases readDigits (c :: cs) <;> rfl

theorem local_readExponent : Local readExponent := by
  intro cs taken left rest hrest h
  match cs, h with
  | [], h =>
    cases h
    match rest, hrest with
    | [], _ => rfl
    | c :: rest, hrest =>
      obtain ⟨-, -, he, he'⟩ := hrest c rfl
      exact readExponent_of_other (not_or.2 ⟨he, he'⟩) rest
  | [e], h =>
    by_cases he : e = 'e' ∨ e = 'E'
    · exact absurd h (by simp [readExponent, he])
    · rw [readExponent_of_other he] at h
      cases h
      exact readExponent_of_other he rest
  | e :: c :: cs, h =>
    by_cases he : e = 'e' ∨ e = 'E'
    · by_cases hsign : c = '+' ∨ c = '-'
      · rw [readExponent_of_sign he hsign] at h
        rw [List.cons_append, List.cons_append, readExponent_of_sign he hsign]
        exact local_readDigits.map (fun digits => e :: c :: digits) hrest h
      · rw [readExponent_of_no_sign he hsign] at h
        rw [List.cons_append, List.cons_append, readExponent_of_no_sign he hsign]
        exact local_readDigits.map (fun digits => e :: digits) hrest h
    · rw [readExponent_of_other he] at h
      cases h
      exact readExponent_of_other he (c :: cs ++ rest)

/-- The reader of a number behind its sign. -/
def readUnsigned (cs : List Char) : Option (List Char × List Char) := do
  let (whole, cs) ← readWhole cs
  let (fraction, cs) ← readFraction cs
  let (exponent, cs) ← readExponent cs
  return (whole ++ fraction ++ exponent, cs)

theorem local_readUnsigned : Local readUnsigned := by
  intro cs taken left rest hrest h
  obtain ⟨⟨whole, cs₁⟩, hwhole, h⟩ := Option.bind_eq_some_iff.1 h
  obtain ⟨⟨fraction, cs₂⟩, hfraction, h⟩ := Option.bind_eq_some_iff.1 h
  obtain ⟨⟨exponent, cs₃⟩, hexponent, h⟩ := Option.bind_eq_some_iff.1 h
  cases h
  simp only [readUnsigned, local_readWhole hrest hwhole, local_readFraction hrest hfraction,
    local_readExponent hrest hexponent, Option.bind_some, bind, pure]

theorem readNumber_minus (cs : List Char) : readNumber ('-' :: cs) =
    (readUnsigned cs).map fun p => (String.ofList ('-' :: p.1), p.2) := by
  simp [readNumber, readUnsigned, Option.map_bind]

theorem readNumber_of_no_sign {cs : List Char} (h : cs.head? ≠ some '-') : readNumber cs =
    (readUnsigned cs).map fun p => (String.ofList p.1, p.2) := by
  unfold readNumber
  split
  rename_i sign cs' heq
  split at heq
  · exact absurd rfl h
  · cases heq
    simp [readUnsigned, Option.map_bind]

theorem readNumber_append {cs rest : List Char} {t : String} (hrest : EndsNumber rest)
    (h : readNumber cs = some (t, [])) : readNumber (cs ++ rest) = some (t, rest) := by
  match cs, h with
  | [], h => cases h
  | c :: cs, h =>
    by_cases hc : c = '-'
    · subst hc
      rw [readNumber_minus, Option.map_eq_some_iff] at h
      obtain ⟨⟨digits, left⟩, hread, heq⟩ := h
      cases heq
      rw [List.cons_append, readNumber_minus, local_readUnsigned hrest hread]
      rfl
    · have hne : ∀ cs, (c :: cs).head? ≠ some '-' := fun _ h => hc (Option.some.inj h)
      rw [readNumber_of_no_sign (hne cs), Option.map_eq_some_iff] at h
      obtain ⟨⟨digits, left⟩, hread, heq⟩ := h
      cases heq
      rw [List.cons_append, readNumber_of_no_sign (hne _), ← List.cons_append,
        local_readUnsigned hrest hread]
      rfl

/-! ## Values -/

/-- Its numbers are numbers, and its texts and keys have characters. -/
inductive Writable : Json → Prop
  | null : Writable .null
  | bool (b : Bool) : Writable (.bool b)
  | number {t : String} (h : readNumber t.toList = some (t, [])) : Writable (.number t)
  | text (s : String) : Writable (.text (some s))
  | array {items : List Json} (hitems : ∀ v ∈ items, Writable v) : Writable (.array items)
  | object {fields : List (JsonText × Json)} (hkeys : ∀ f ∈ fields, ∃ key, f.1 = some key)
    (hvalues : ∀ f ∈ fields, Writable f.2) : Writable (.object fields)

/-- It is read off the front of a text, if there are steps enough. -/
def ReadsBack (v : Json) : Prop :=
  ∀ ⦃steps : Nat⦄ ⦃rest : List Char⦄, v.chars.length < steps → EndsNumber rest →
    readValue steps (v.chars ++ rest) = some (v, rest)

theorem skipBlanks_cons {c : Char} {cs : List Char} (h : isBlank c = false) :
    skipBlanks (c :: cs) = c :: cs := by
  simp [skipBlanks, h]

theorem endsNumber_cons {c : Char} {cs : List Char} (hdigit : c.isDigit = false)
    (hc : c ∉ ['.', 'e', 'E']) : EndsNumber (c :: cs) := by
  rintro _ ⟨⟩
  simpa [hdigit] using hc

theorem isDigit_of_readWhole {c : Char} {cs : List Char} {p : List Char × List Char}
    (h : readWhole (c :: cs) = some p) : c.isDigit = true := by
  by_contra hc
  have hzero : c ≠ '0' := by
    rintro rfl
    exact hc rfl
  rw [readWhole_of_ne hzero] at h
  simp [readDigits, hc] at h

theorem readNumber_head {cs : List Char} {p : String × List Char} (h : readNumber cs = some p) :
    ∃ c rest, cs = c :: rest ∧ (c = '-' ∨ c.isDigit = true) := by
  match cs, h with
  | [], h => cases h
  | c :: cs, h =>
    refine ⟨c, cs, rfl, or_iff_not_imp_left.2 fun hc => ?_⟩
    have hhead : (c :: cs).head? ≠ some '-' := fun h => hc (Option.some.inj h)
    rw [readNumber_of_no_sign hhead, Option.map_eq_some_iff] at h
    obtain ⟨_, hread, -⟩ := h
    obtain ⟨_, hwhole, -⟩ := Option.bind_eq_some_iff.1 hread
    exact isDigit_of_readWhole hwhole

theorem number_char {c : Char} (hc : c = '-' ∨ c.isDigit = true) :
    isBlank c = false ∧ c ∉ ['"', '[', ']', '\x7b', 'n', 't', 'f'] := by
  rcases hc with rfl | hc
  · decide
  · obtain ⟨d, rfl⟩ := exists_digitChar hc
    revert d
    decide

theorem readsBack_number {t : String} (h : readNumber t.toList = some (t, [])) :
    ReadsBack (.number t) := by
  intro steps rest hsteps hrest
  have hread := readNumber_append hrest h
  obtain ⟨c, cs, hcs, hc⟩ := readNumber_head h
  obtain ⟨hblank, hother⟩ := number_char hc
  simp only [List.mem_cons, List.not_mem_nil, or_false, not_or] at hother
  obtain ⟨hquote, hopen, -, hbrace, hn, ht, hf⟩ := hother
  match steps, hsteps with
  | steps + 1, _ =>
    rw [chars, hcs, List.cons_append, readValue, skipBlanks_cons hblank]
    dsimp only
    rw [if_neg hquote, if_neg hopen, if_neg hbrace, if_neg hn, if_neg ht, if_neg hf,
      ← List.cons_append, ← hcs, hread]
    rfl

theorem readsBack_text (s : String) : ReadsBack (.text (some s)) := by
  intro steps rest hsteps hrest
  match steps, hsteps with
  | steps + 1, _ =>
    rw [chars, textChars_append, readValue, skipBlanks_cons rfl]
    dsimp only
    rw [if_pos rfl, readText_written]
    rfl

section

variable {v : Json} {steps : Nat} {rest : List Char}

theorem ReadsBack.readItems_last (h : ReadsBack v) (hsteps : v.chars.length < steps) :
    readItems (steps + 1) (v.chars ++ ']' :: rest) = some ([v], rest) := by
  rw [readItems, h hsteps (endsNumber_cons rfl (by decide))]
  rfl

theorem ReadsBack.readItems_comma (h : ReadsBack v) (hsteps : v.chars.length < steps) :
    readItems (steps + 1) (v.chars ++ ',' :: rest) =
      (readItems steps rest).map fun p => (v :: p.1, p.2) := by
  rw [readItems, h hsteps (endsNumber_cons rfl (by decide))]
  change (readItems steps rest).bind _ = _
  cases readItems steps rest <;> rfl

theorem ReadsBack.readFields_last (h : ReadsBack v) (hsteps : v.chars.length < steps)
    (key : String) :
    readFields (steps + 1) (textChars (some key) ++ ':' :: (v.chars ++ '\x7d' :: rest)) =
      some ([(some key, v)], rest) := by
  rw [readFields, textChars_append, skipBlanks_cons rfl]
  change (readText _).bind _ = _
  rw [readText_written]
  change (readValue steps (v.chars ++ _)).bind _ = _
  rw [h hsteps (endsNumber_cons rfl (by decide))]
  rfl

theorem ReadsBack.readFields_comma (h : ReadsBack v) (hsteps : v.chars.length < steps)
    (key : String) :
    readFields (steps + 1) (textChars (some key) ++ ':' :: (v.chars ++ ',' :: rest)) =
      (readFields steps rest).map fun p => ((some key, v) :: p.1, p.2) := by
  rw [readFields, textChars_append, skipBlanks_cons rfl]
  change (readText _).bind _ = _
  rw [readText_written]
  change (readValue steps (v.chars ++ _)).bind _ = _
  rw [h hsteps (endsNumber_cons rfl (by decide))]
  change (readFields steps rest).bind _ = _
  cases readFields steps rest <;> rfl

end

theorem itemChars_cons (v w : Json) (items : List Json) :
    itemChars (v :: w :: items) = v.chars ++ ',' :: itemChars (w :: items) := by
  rw [itemChars]
  nofun

theorem fieldChars_cons (key : JsonText) (v : Json) (f : JsonText × Json)
    (fields : List (JsonText × Json)) : fieldChars ((key, v) :: f :: fields) =
      textChars key ++ ':' :: (v.chars ++ ',' :: fieldChars (f :: fields)) := by
  rw [fieldChars]
  nofun

theorem readItems_written {v : Json} {items : List Json} (h : ∀ w ∈ v :: items, ReadsBack w)
    {steps : Nat} {rest : List Char} (hsteps : (itemChars (v :: items)).length + 1 < steps) :
    readItems steps (itemChars (v :: items) ++ ']' :: rest) = some (v :: items, rest) := by
  induction items generalizing v steps with
  | nil =>
    match steps, hsteps with
    | steps + 1, hsteps =>
      rw [itemChars] at hsteps ⊢
      exact (h v List.mem_cons_self).readItems_last (Nat.lt_of_succ_lt_succ hsteps)
  | cons w items ih =>
    match steps, hsteps with
    | steps + 1, hsteps =>
      obtain ⟨hv, hitems⟩ := List.forall_mem_cons.1 h
      rw [itemChars_cons, List.length_append, List.length_cons] at hsteps
      rw [itemChars_cons, List.append_assoc, List.cons_append, hv.readItems_comma (by omega),
        ih hitems (by omega)]
      rfl

theorem readFields_written {f : JsonText × Json} {fields : List (JsonText × Json)}
    (hkeys : ∀ g ∈ f :: fields, ∃ key, g.1 = some key) (h : ∀ g ∈ f :: fields, ReadsBack g.2)
    {steps : Nat} {rest : List Char} (hsteps : (fieldChars (f :: fields)).length + 1 < steps) :
    readFields steps (fieldChars (f :: fields) ++ '\x7d' :: rest) = some (f :: fields, rest) := by
  induction fields generalizing f steps with
  | nil =>
    obtain ⟨_, v⟩ := f
    obtain ⟨key, rfl⟩ := hkeys _ List.mem_cons_self
    match steps, hsteps with
    | steps + 1, hsteps =>
      rw [fieldChars, List.length_append, List.length_cons] at hsteps
      rw [fieldChars, List.append_assoc, List.cons_append]
      exact (h _ List.mem_cons_self).readFields_last (by dsimp only; omega) key
  | cons g fields ih =>
    obtain ⟨_, v⟩ := f
    obtain ⟨key, rfl⟩ := hkeys _ List.mem_cons_self
    match steps, hsteps with
    | steps + 1, hsteps =>
      obtain ⟨hv, hfields⟩ := List.forall_mem_cons.1 h
      rw [fieldChars_cons, List.length_append, List.length_cons, List.length_append,
        List.length_cons] at hsteps
      rw [fieldChars_cons, List.append_assoc, List.cons_append, List.append_assoc,
        List.cons_append, hv.readFields_comma (by dsimp only; omega),
        ih (List.forall_mem_cons.1 hkeys).2 hfields (by omega)]
      rfl

theorem Writable.exists_head {v : Json} (h : v.Writable) :
    ∃ c cs, v.chars = c :: cs ∧ isBlank c = false ∧ c ≠ ']' := by
  cases h with
  | null => exact ⟨'n', _, rfl, by decide, by decide⟩
  | bool b =>
    cases b
    · exact ⟨'f', _, rfl, by decide, by decide⟩
    · exact ⟨'t', _, rfl, by decide, by decide⟩
  | number h =>
    obtain ⟨c, cs, hcs, hc⟩ := readNumber_head h
    obtain ⟨hblank, hother⟩ := number_char hc
    exact ⟨c, cs, hcs, hblank, fun heq => hother (by simp [heq])⟩
  | text s => exact ⟨'"', _, rfl, by decide, by decide⟩
  | array => exact ⟨'[', _, rfl, by decide, by decide⟩
  | object => exact ⟨'\x7b', _, rfl, by decide, by decide⟩

theorem exists_itemChars_eq (v : Json) (items : List Json) :
    ∃ tail, itemChars (v :: items) = v.chars ++ tail := by
  cases items with
  | nil => exact ⟨[], by rw [itemChars, List.append_nil]⟩
  | cons w items => exact ⟨_, itemChars_cons v w items⟩

theorem exists_fieldChars_eq (f : JsonText × Json) (fields : List (JsonText × Json)) :
    ∃ tail, fieldChars (f :: fields) = '"' :: tail := by
  obtain ⟨key, v⟩ := f
  cases fields with
  | nil => exact ⟨_, by rw [fieldChars, textChars, List.cons_append]⟩
  | cons g fields => exact ⟨_, by rw [fieldChars_cons, textChars, List.cons_append]⟩

theorem readValue_array {steps : Nat} {cs cs' : List Char} {c : Char}
    (hskip : skipBlanks cs = c :: cs') (hc : c ≠ ']') :
    readValue (steps + 1) ('[' :: cs) =
      (readItems steps cs).map fun p => (.array p.1, p.2) := by
  rw [readValue, skipBlanks_cons rfl]
  dsimp only
  rw [if_neg (by decide), if_pos rfl, hskip]
  split
  · rename_i heq
    exact absurd (List.cons.inj heq).1 hc
  · rfl

theorem readValue_object {steps : Nat} {cs cs' : List Char} {c : Char}
    (hskip : skipBlanks cs = c :: cs') (hc : c ≠ '\x7d') :
    readValue (steps + 1) ('\x7b' :: cs) =
      (readFields steps cs).map fun p => (.object p.1, p.2) := by
  rw [readValue, skipBlanks_cons rfl]
  dsimp only
  rw [if_neg (by decide), if_neg (by decide), if_pos rfl, hskip]
  split
  · rename_i heq
    exact absurd (List.cons.inj heq).1 hc
  · rfl

theorem readsBack_array {items : List Json} (hitems : ∀ v ∈ items, v.Writable)
    (h : ∀ v ∈ items, ReadsBack v) : ReadsBack (.array items) := by
  intro steps rest hsteps _
  match steps, items, hsteps, hitems, h with
  | steps + 1, [], _, _, _ => rfl
  | steps + 1, v :: items, hsteps, hitems, h =>
    obtain ⟨tail, htail⟩ := exists_itemChars_eq v items
    obtain ⟨c, cs, hcs, hblank, hc⟩ := (hitems v List.mem_cons_self).exists_head
    have hskip : skipBlanks (itemChars (v :: items) ++ ']' :: rest) =
        c :: (cs ++ tail ++ ']' :: rest) := by
      rw [htail, hcs]
      exact skipBlanks_cons hblank
    rw [chars, List.length_cons, List.length_append, List.length_singleton] at hsteps
    rw [chars, List.cons_append, List.append_assoc, List.singleton_append,
      readValue_array hskip hc, readItems_written h (by omega)]
    rfl

theorem readsBack_object {fields : List (JsonText × Json)}
    (hkeys : ∀ f ∈ fields, ∃ key, f.1 = some key) (h : ∀ f ∈ fields, ReadsBack f.2) :
    ReadsBack (.object fields) := by
  intro steps rest hsteps _
  match steps, fields, hsteps, hkeys, h with
  | steps + 1, [], _, _, _ => rfl
  | steps + 1, f :: fields, hsteps, hkeys, h =>
    obtain ⟨tail, htail⟩ := exists_fieldChars_eq f fields
    have hskip : skipBlanks (fieldChars (f :: fields) ++ '\x7d' :: rest) =
        '"' :: (tail ++ '\x7d' :: rest) := by
      rw [htail]
      exact skipBlanks_cons rfl
    rw [chars, List.length_cons, List.length_append, List.length_singleton] at hsteps
    rw [chars, List.cons_append, List.append_assoc, List.singleton_append,
      readValue_object hskip (by decide), readFields_written hkeys h (by omega)]
    rfl

theorem Writable.readsBack {v : Json} (h : v.Writable) : v.ReadsBack := by
  induction h with
  | null =>
    intro steps rest hsteps _
    match steps, hsteps with
    | steps + 1, _ => rfl
  | bool b =>
    intro steps rest hsteps _
    match steps, hsteps with
    | steps + 1, _ => cases b <;> rfl
  | number h => exact readsBack_number h
  | text s => exact readsBack_text s
  | array hitems ih => exact readsBack_array hitems ih
  | object hkeys _ ih => exact readsBack_object hkeys ih

theorem Writable.parse?_render {v : Json} (h : v.Writable) : parse? v.render = some v := by
  have hend : EndsNumber [] := nofun
  have hread := h.readsBack (Nat.lt_succ_self v.chars.length) hend
  rw [List.append_nil] at hread
  rw [parse?, render, String.toList_ofList, hread]
  rfl

end SchemaMigration.Json
