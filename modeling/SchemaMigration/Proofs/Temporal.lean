import SchemaMigration.Proofs.Numerals
import SchemaMigration.Sql.Wire

/-!
# Dates and times as texts

Fields are filled up to a width but may take more room than that, so it is not their places that
tell them apart in a text but the characters between them, which are no digits. From its text a date
can be told field by field. A time can be told but for its days, which count as hours.
-/

namespace SchemaMigration

/-! ## Fields -/

theorem append_separator_inj {a b r r' : List Char} {s s' : Char} (ha : ∀ c ∈ a, c.isDigit = true)
    (hb : ∀ c ∈ b, c.isDigit = true) (hs : s.isDigit = false) (hs' : s'.isDigit = false) :
    a ++ s :: r = b ++ s' :: r' ↔ a = b ∧ s = s' ∧ r = r' := by
  refine ⟨fun h => ?_, fun ⟨ha, hs, hr⟩ => by rw [ha, hs, hr]⟩
  induction a generalizing b with
  | nil =>
    cases b with
    | nil => exact ⟨rfl, List.cons.inj h⟩
    | cons d b =>
      obtain ⟨rfl, -⟩ := List.cons.inj h
      rw [hb s List.mem_cons_self] at hs
      cases hs
  | cons c a ih =>
    rw [List.forall_mem_cons] at ha
    cases b with
    | nil =>
      obtain ⟨rfl, -⟩ := List.cons.inj h
      rw [ha.1] at hs'
      cases hs'
    | cons d b =>
      rw [List.forall_mem_cons] at hb
      obtain ⟨rfl, htail⟩ := List.cons.inj h
      obtain ⟨rfl, hrest⟩ := ih ha.2 hb.2 htail
      exact ⟨rfl, hrest⟩

theorem paddedDigits_append_inj {width m n : Nat} {s s' : Char} {r r' : List Char}
    (hs : s.isDigit = false) (hs' : s'.isDigit = false) :
    paddedDigits width m ++ s :: r = paddedDigits width n ++ s' :: r' ↔
      m = n ∧ s = s' ∧ r = r' := by
  rw [append_separator_inj (fun _ => isDigit_of_mem_paddedDigits)
    (fun _ => isDigit_of_mem_paddedDigits) hs hs', (paddedDigits_injective width).eq_iff]

theorem paddedDigits_append_ne_cons {width n : Nat} {c : Char} {r r' : List Char}
    (hc : c.isDigit = false) : paddedDigits width n ++ r ≠ c :: r' := by
  obtain ⟨ds, hne, hds, -⟩ := exists_paddedDigits width n
  obtain ⟨d, ds, rfl⟩ := List.exists_cons_of_ne_nil hne
  rw [hds]
  rintro h
  obtain ⟨rfl, -⟩ := List.cons.inj h
  rw [(digitChar_spec d).1] at hc
  cases hc

/-! ## Texts -/

section Texts

variable {year year' : UInt16} {negative negative' : Bool} {days days' : UInt32}
  {month month' day day' hour hour' minute minute' second second' : UInt8}
  {hours hours' minutes minutes' seconds seconds' : UInt8} {micros micros' : UInt32}

theorem toList_dateText : (dateText year month day hour minute second micros).toList =
    paddedDigits 4 year.toNat ++ '-' :: (paddedDigits 2 month.toNat ++ '-' ::
      (paddedDigits 2 day.toNat ++ ' ' :: (paddedDigits 2 hour.toNat ++ ':' ::
        (paddedDigits 2 minute.toNat ++ ':' :: (paddedDigits 2 second.toNat ++ '.' ::
          paddedDigits 6 micros.toNat))))) := by
  simp [dateText, paddedText]

/-- A time without its sign. -/
def clockDigits (hours : Nat) (minutes seconds : UInt8) (micros : UInt32) : List Char :=
  paddedDigits 2 hours ++ ':' :: (paddedDigits 2 minutes.toNat ++ ':' ::
    (paddedDigits 2 seconds.toNat ++ '.' :: paddedDigits 6 micros.toNat))

def totalHours (days : UInt32) (hours : UInt8) : Nat := days.toNat * 24 + hours.toNat

theorem toList_timeText : (timeText negative days hours minutes seconds micros).toList =
    (if negative then ['-'] else []) ++
      clockDigits (totalHours days hours) minutes seconds micros := by
  cases negative <;> simp [timeText, paddedText, clockDigits, totalHours]

theorem clockDigits_inj {h h' : Nat} :
    clockDigits h minutes seconds micros = clockDigits h' minutes' seconds' micros' ↔
      h = h' ∧ minutes = minutes' ∧ seconds = seconds' ∧ micros = micros' := by
  unfold clockDigits
  rw [paddedDigits_append_inj rfl rfl, paddedDigits_append_inj rfl rfl,
    paddedDigits_append_inj rfl rfl, (paddedDigits_injective 6).eq_iff]
  simp [UInt8.toNat_inj, UInt32.toNat_inj]

theorem clockDigits_ne_cons {h : Nat} {r : List Char} :
    clockDigits h minutes seconds micros ≠ '-' :: r :=
  paddedDigits_append_ne_cons rfl

theorem dateText_inj :
    dateText year month day hour minute second micros =
        dateText year' month' day' hour' minute' second' micros' ↔
      year = year' ∧ month = month' ∧ day = day' ∧ hour = hour' ∧ minute = minute' ∧
        second = second' ∧ micros = micros' := by
  rw [← String.toList_inj, toList_dateText, toList_dateText, paddedDigits_append_inj rfl rfl,
    paddedDigits_append_inj rfl rfl, paddedDigits_append_inj rfl rfl,
    paddedDigits_append_inj rfl rfl, paddedDigits_append_inj rfl rfl,
    paddedDigits_append_inj rfl rfl, (paddedDigits_injective 6).eq_iff]
  simp [UInt8.toNat_inj, UInt16.toNat_inj, UInt32.toNat_inj]

theorem timeText_inj :
    timeText negative days hours minutes seconds micros =
        timeText negative' days' hours' minutes' seconds' micros' ↔
      negative = negative' ∧ totalHours days hours = totalHours days' hours' ∧
        minutes = minutes' ∧ seconds = seconds' ∧ micros = micros' := by
  rw [← String.toList_inj, toList_timeText, toList_timeText]
  cases negative <;> cases negative'
  · simp [clockDigits_inj]
  · simp [clockDigits_ne_cons]
  · simp [clockDigits_ne_cons.symm]
  · simp [clockDigits_inj]

theorem dateText_ne_timeText : dateText year month day hour minute second micros ≠
    timeText negative days hours minutes' seconds micros' := by
  rw [ne_eq, ← String.toList_inj, toList_dateText, toList_timeText]
  cases negative with
  | false =>
    intro h
    have hsep : '-' = ':' := ((append_separator_inj (fun _ => isDigit_of_mem_paddedDigits)
      (fun _ => isDigit_of_mem_paddedDigits) rfl rfl).1 h).2.1
    exact absurd hsep (by decide)
  | true => exact paddedDigits_append_ne_cons rfl

end Texts

/-! ## Values -/

theorem toNat_totalHours (days : UInt32) (hours : UInt8) :
    (days.toUInt64 * 24 + hours.toUInt64).toNat = totalHours days hours := by
  have hdays := days.toNat_lt
  have hhours := hours.toNat_lt
  have hday : (24 : UInt64).toNat = 24 := rfl
  rw [UInt64.toNat_add, UInt64.toNat_mul, UInt32.toNat_toUInt64, UInt8.toNat_toUInt64, hday,
    totalHours]
  omega

namespace WireValue

/--
Two dates are read as one text only if they are the same. Two times are exactly if their signs, the
hours of their days and their own, and their other fields are the same. Those hours are the whole
sum, which is never too large for 64 bits. No date is read as the text of a time.
-/
theorem toSql_tells_dates_and_times :
    (∀ (year month day hour minute second micros)
        (year' month' day' hour' minute' second' micros'),
      (date year month day hour minute second micros).toSql =
          (date year' month' day' hour' minute' second' micros').toSql ↔
        year = year' ∧ month = month' ∧ day = day' ∧ hour = hour' ∧ minute = minute' ∧
          second = second' ∧ micros = micros') ∧
    (∀ (negative days hours minutes seconds micros)
        (negative' days' hours' minutes' seconds' micros'),
      (time negative days hours minutes seconds micros).toSql =
          (time negative' days' hours' minutes' seconds' micros').toSql ↔
        negative = negative' ∧ totalHours days hours = totalHours days' hours' ∧
          minutes = minutes' ∧ seconds = seconds' ∧ micros = micros') ∧
    (∀ (days : UInt32) (hours : UInt8),
      (days.toUInt64 * 24 + hours.toUInt64).toNat = totalHours days hours) ∧
    ∀ (year month day hour minute second micros) (negative days hours minutes' seconds micros'),
      (date year month day hour minute second micros).toSql ≠
        (time negative days hours minutes' seconds micros').toSql := by
  refine ⟨?_, ?_, toNat_totalHours, ?_⟩
  · intros
    rw [toSql, toSql, SqlValue.text.injEq, dateText_inj]
  · intros
    rw [toSql, toSql, SqlValue.text.injEq, timeText_inj]
  · intros
    rw [toSql, toSql, ne_eq, SqlValue.text.injEq]
    exact dateText_ne_timeText

/-- A day and an hour are twenty-five hours. -/
example : (time false 1 1 0 0 0).toSql = (time false 0 25 0 0 0).toSql := by decide +kernel

end WireValue

end SchemaMigration
