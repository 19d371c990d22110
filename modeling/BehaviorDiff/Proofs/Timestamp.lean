import Mathlib.Algebra.Group.Nat.Defs
import Mathlib.Data.List.Basic
import Mathlib.Data.List.TakeWhile
import BehaviorDiff.Timestamp

set_option autoImplicit false

/-!
Reading an instant back from its written form. The count of days is undone by counting the days of
the years, months and days before a date; the written fields have fixed widths but for the year and
the fraction, which end at the next mark.
-/

namespace BehaviorDiff

namespace CivilDate

/-- The days from the start of 1970 to a date. -/
def toDays (date : CivilDate) : Int :=
  let year := if date.month ≤ 2 then date.year - 1 else date.year
  let month := if date.month ≤ 2 then date.month + 9 else date.month - 3
  let yearOfPeriod := (year % 400).toNat
  let dayOfYear := (153 * month + 2) / 5 + (date.day - 1)
  let day := 365 * yearOfPeriod + yearOfPeriod / 4 - yearOfPeriod / 100 + dayOfYear
  year / 400 * 146097 + day - 719468

/-- The year of a day within a period of 400 years, and the first day of that year. -/
theorem year_of_day {day year : Nat} (inPeriod : day < 146097)
    (count : year = (day - day / 1460 + day / 36524 - day / 146096) / 365) :
    year < 400 ∧ 365 * year + year / 4 - year / 100 ≤ day ∧
      day ≤ 365 * year + year / 4 - year / 100 + 365 := by
  rcases Nat.lt_or_ge day 146096 with before | last
  · obtain ⟨century, hc⟩ : ∃ century, century = day / 36524 := ⟨_, rfl⟩
    obtain ⟨rest, hr⟩ : ∃ rest, rest = day - 36524 * century := ⟨_, rfl⟩
    -- The leap days before a day, counted as if every fourth year had one.
    obtain ⟨leaps, hl⟩ : ∃ leaps, leaps = (24 * century + rest) / 1460 := ⟨_, rfl⟩
    obtain ⟨yearOfCentury, hy⟩ : ∃ yearOfCentury, yearOfCentury = (rest - leaps) / 365 := ⟨_, rfl⟩
    have few : century ≤ 3 := by omega
    have counted : day / 1460 = 25 * century + leaps := by omega
    have fewer : leaps ≤ rest := by omega
    have short : yearOfCentury < 100 := by omega
    have sum : year = 100 * century + yearOfCentury := by omega
    have below : yearOfCentury / 4 ≤ leaps := by omega
    have above : leaps ≤ yearOfCentury / 4 + 1 := by omega
    have quarters : year / 4 = 25 * century + yearOfCentury / 4 := by omega
    have hundreds : year / 100 = century := by omega
    omega
  · obtain rfl : day = 146096 := by omega
    subst count
    decide

/-- A day is one of a year that starts in March, within a period of 400 years. -/
theorem exists_parts (days : Int) :
    ∃ (period : Int) (year month day : Nat), year < 400 ∧ month < 12 ∧ day ≤ 30 ∧
      days + 719468 = period * 146097 +
        (365 * year + year / 4 - year / 100 + ((153 * month + 2) / 5 + day) : Nat) ∧
      ofDays days = if month < 10 then ⟨period * 400 + year, month + 3, day + 1⟩
        else ⟨period * 400 + year + 1, month - 9, day + 1⟩ := by
  obtain ⟨period, hp⟩ : ∃ period, period = (days + 719468) / 146097 := ⟨_, rfl⟩
  obtain ⟨day, hd⟩ : ∃ day, day = ((days + 719468) % 146097).toNat := ⟨_, rfl⟩
  obtain ⟨year, hy⟩ : ∃ year, year = (day - day / 1460 + day / 36524 - day / 146096) / 365 :=
    ⟨_, rfl⟩
  obtain ⟨few, first, last⟩ := year_of_day (by omega) hy
  obtain ⟨dayOfYear, ho⟩ : ∃ dayOfYear, dayOfYear = day - (365 * year + year / 4 - year / 100) :=
    ⟨_, rfl⟩
  obtain ⟨month, hm⟩ : ∃ month, month = (5 * dayOfYear + 2) / 153 := ⟨_, rfl⟩
  have short : dayOfYear ≤ 365 := by omega
  have started : (153 * month + 2) / 5 ≤ dayOfYear := by omega
  refine ⟨period, year, month, dayOfYear - (153 * month + 2) / 5, few, by omega, by omega, ?_, ?_⟩
  · have sum : days + 719468 = period * 146097 + day := by omega
    rw [sum, Nat.add_sub_cancel' started, ho, Nat.add_sub_cancel' first]
  · subst hm ho hy hd hp
    rfl

/-- Counting the days up to the date of a day gives the day. -/
theorem toDays_ofDays (days : Int) : (ofDays days).toDays = days := by
  obtain ⟨period, year, month, day, few, short, -, sum, written⟩ := exists_parts days
  have counted : (period * 400 + year) / 400 = period ∧
      ((period * 400 + year) % 400).toNat = year := by omega
  rw [written]
  -- January and February belong to the year before.
  split
  · have later : ¬ month + 3 ≤ 2 := by omega
    simp only [toDays, later, if_false, counted.1, counted.2, Nat.add_sub_cancel]
    omega
  · have early : month - 9 ≤ 2 := by omega
    have behind : month - 9 + 9 = month := by omega
    simp only [toDays, early, if_true, Int.add_sub_cancel, Nat.add_sub_cancel, counted.1, counted.2,
      behind]
    omega

theorem ofDays_lt_hundred (days : Int) : (ofDays days).month < 100 ∧ (ofDays days).day < 100 := by
  obtain ⟨period, year, month, day, -, short, few, -, written⟩ := exists_parts days
  rw [written]
  split <;> constructor <;> simp only <;> omega

end CivilDate

namespace Timestamp

section Numbers

/-- The number that a row of digits stands for. -/
def valueOf (digits : List Char) : Nat := Nat.ofDigitChars 10 digits 0

theorem toList_padded (width n : Nat) :
    (padded width n).toList =
      List.replicate (width - (Nat.toDigits 10 n).length) '0' ++ Nat.toDigits 10 n := by
  simp [padded]

@[simp] theorem valueOf_padded (width n : Nat) : valueOf (padded width n).toList = n := by
  simp [valueOf, toList_padded, Nat.ofDigitChars_append]

theorem isDigit_of_mem_padded {width n : Nat} {c : Char} (hc : c ∈ (padded width n).toList) :
    c.isDigit = true := by
  rw [toList_padded, List.mem_append] at hc
  rcases hc with hc | hc
  · rw [List.eq_of_mem_replicate hc]
    rfl
  · exact Nat.isDigit_of_mem_toDigits (by decide) (by decide) hc

theorem length_padded {width n : Nat} (positive : 0 < width) (h : n < 10 ^ width) :
    (padded width n).toList.length = width := by
  have short := (Nat.length_toDigits_le_iff (by decide) positive).2 h
  simp only [toList_padded, List.length_append, List.length_replicate]
  omega

theorem exists_two_digits {n : Nat} (h : n < 100) :
    ∃ a b, (padded 2 n).toList = [a, b] ∧ valueOf [a, b] = n := by
  obtain ⟨a, b, same⟩ := List.length_eq_two.1 (length_padded (by decide) h)
  exact ⟨a, b, same, same ▸ valueOf_padded 2 n⟩

end Numbers

/-- The year that a text begins with, and the rest. -/
def yearOf : List Char → Int × List Char
  | '-' :: rest => (-(valueOf (rest.takeWhile Char.isDigit) : Int), rest.dropWhile Char.isDigit)
  | '+' :: rest => (valueOf (rest.takeWhile Char.isDigit), rest.dropWhile Char.isDigit)
  | text => (valueOf (text.takeWhile Char.isDigit), text.dropWhile Char.isDigit)

/-- The nanoseconds that the end of a text stands for. -/
def nanosOf? : List Char → Option Nat
  | ['Z'] => some 0
  | '.' :: rest =>
    let digits := rest.takeWhile Char.isDigit
    if digits.length ≤ 9 ∧ rest.dropWhile Char.isDigit = ['Z'] then
      some (valueOf digits * 10 ^ (9 - digits.length))
    else none
  | _ => none

/-- The instant that a text stands for. The second behind the 59th one of a minute is a leap second
and counts as the end of that one. -/
def ofText? (text : String) : Option Timestamp :=
  match yearOf text.toList with
  | (year, '-' :: m₁ :: m₂ :: '-' :: d₁ :: d₂ :: 'T' :: h₁ :: h₂ :: ':' :: n₁ :: n₂ :: ':' ::
      s₁ :: s₂ :: rest) =>
    let days := CivilDate.toDays ⟨year, valueOf [m₁, m₂], valueOf [d₁, d₂]⟩
    let second := valueOf [s₁, s₂]
    let leap := second / 60
    (nanosOf? rest).bind fun nanos =>
      of? (days * 86400 + (valueOf [h₁, h₂] * 3600 + valueOf [n₁, n₂] * 60 + (second - leap) : Nat))
        (nanos + leap * 1000000000)
  | _ => none

theorem span_padded (width n : Nat) {c : Char} (mark : c.isDigit = false) (rest : List Char) :
    ((padded width n).toList ++ c :: rest).takeWhile Char.isDigit = (padded width n).toList ∧
      ((padded width n).toList ++ c :: rest).dropWhile Char.isDigit = c :: rest := by
  have digits : ∀ d ∈ (padded width n).toList, d.isDigit = true := fun _ => isDigit_of_mem_padded
  rw [List.takeWhile_append_of_pos digits, List.dropWhile_append_of_pos digits]
  simp [mark]

theorem yearOf_yearText (year : Int) {c : Char} (mark : c.isDigit = false) (rest : List Char) :
    yearOf ((yearText year).toList ++ c :: rest) = (year, c :: rest) := by
  rw [yearText]
  split
  case isTrue plain =>
    have unsigned (sign : Char) (other : sign.isDigit = false) (text : List Char) :
        (padded 4 year.toNat).toList ++ c :: rest ≠ sign :: text := by
      intro same
      cases digits : (padded 4 year.toNat).toList with
      | nil => exact absurd (toList_padded 4 year.toNat ▸ digits) (by simp)
      | cons d ds =>
        rw [digits] at same
        have digit := isDigit_of_mem_padded (digits ▸ List.mem_cons_self)
        rw [(List.cons.inj same).1, other] at digit
        cases digit
    obtain ⟨taken, left⟩ := span_padded 4 year.toNat mark rest
    rw [yearOf, taken, left, valueOf_padded, Int.toNat_of_nonneg plain.1]
    · exact unsigned '-' rfl
    · exact unsigned '+' rfl
  case isFalse signed =>
    obtain ⟨taken, left⟩ := span_padded 4 year.natAbs mark rest
    by_cases negative : year < 0
    · rw [if_pos negative, String.toList_append]
      change yearOf ('-' :: ((padded 4 year.natAbs).toList ++ c :: rest)) = _
      rw [yearOf, taken, left, valueOf_padded, Int.ofNat_natAbs_of_nonpos (Int.le_of_lt negative),
        Int.neg_neg]
    · rw [if_neg negative, String.toList_append]
      change yearOf ('+' :: ((padded 4 year.natAbs).toList ++ c :: rest)) = _
      rw [yearOf, taken, left, valueOf_padded, Int.natAbs_of_nonneg (Int.not_lt.1 negative)]

theorem nanosOf?_padded {width n : Nat} (positive : 0 < width) (short : width ≤ 9)
    (h : n < 10 ^ width) :
    nanosOf? (("." ++ padded width n).toList ++ ['Z']) = some (n * 10 ^ (9 - width)) := by
  obtain ⟨taken, left⟩ := span_padded width n (c := 'Z') rfl []
  have length := length_padded positive h
  rw [String.toList_append]
  change nanosOf? ('.' :: ((padded width n).toList ++ ['Z'])) = _
  rw [nanosOf?, taken, left, length, valueOf_padded, if_pos ⟨short, rfl⟩]

theorem nanosOf?_fractionText {nanos : Nat} (h : nanos < 1000000000) :
    nanosOf? ((fractionText nanos).toList ++ ['Z']) = some nanos := by
  rw [fractionText]
  split
  · next zero => rw [zero]; rfl
  · split
    · next thousands => rw [nanosOf?_padded (by decide) (by decide) (by omega)]; congr 1; omega
    · split
      · next thousands => rw [nanosOf?_padded (by decide) (by decide) (by omega)]; congr 1; omega
      · rw [nanosOf?_padded (by decide) (by decide) (by omega)]; congr 1; omega

theorem of?_eq (instant : Timestamp) : of? instant.seconds instant.nanos = some instant :=
  dif_pos instant.valid

/-- The nanoseconds run over one second only in the last second of a minute. -/
theorem nanos_cases (instant : Timestamp) :
    instant.nanos / 1000000000 = 0 ∨
      instant.nanos / 1000000000 = 1 ∧ instant.seconds % 60 = 59 := by
  have valid := instant.valid
  simp only [isValid, Bool.and_eq_true, Bool.or_eq_true, decide_eq_true_eq] at valid
  have bounds : instant.nanos < 1000000000 ∨
      instant.nanos < 2000000000 ∧ instant.seconds % 60 = 59 := valid.2
  omega

/-- Reading gives back the instant that was written. -/
theorem ofText?_text (instant : Timestamp) : ofText? instant.text = some instant := by
  obtain ⟨time, ht⟩ : ∃ time, time = (instant.seconds % 86400).toNat := ⟨_, rfl⟩
  obtain ⟨date, hdate⟩ : ∃ date, date = CivilDate.ofDays (instant.seconds / 86400) := ⟨_, rfl⟩
  obtain ⟨leap, hleap⟩ : ∃ leap, leap = instant.nanos / 1000000000 := ⟨_, rfl⟩
  have spelled : instant.text =
      yearText date.year ++ "-" ++ padded 2 date.month ++ "-" ++ padded 2 date.day ++ "T" ++
        padded 2 (time / 3600) ++ ":" ++ padded 2 (time / 60 % 60) ++ ":" ++
        padded 2 (time % 60 + leap) ++ fractionText (instant.nanos % 1000000000) ++ "Z" := by
    subst ht hdate hleap
    rfl
  obtain ⟨monthSmall, daySmall⟩ := CivilDate.ofDays_lt_hundred (instant.seconds / 86400)
  rw [← hdate] at monthSmall daySmall
  have leapCases := nanos_cases instant
  obtain ⟨m₁, m₂, month, hm⟩ := exists_two_digits monthSmall
  obtain ⟨d₁, d₂, day, hd⟩ := exists_two_digits daySmall
  obtain ⟨h₁, h₂, hour, hh⟩ := exists_two_digits (n := time / 3600) (by omega)
  obtain ⟨n₁, n₂, minute, hn⟩ := exists_two_digits (n := time / 60 % 60) (by omega)
  obtain ⟨s₁, s₂, second, hs⟩ := exists_two_digits (n := time % 60 + leap) (by omega)
  have written : instant.text.toList = (yearText date.year).toList ++
      '-' :: m₁ :: m₂ :: '-' :: d₁ :: d₂ :: 'T' :: h₁ :: h₂ :: ':' :: n₁ :: n₂ :: ':' ::
        s₁ :: s₂ :: ((fractionText (instant.nanos % 1000000000)).toList ++ ['Z']) := by
    rw [spelled]
    simp [month, day, hour, minute, second]
  have days : CivilDate.toDays ⟨date.year, date.month, date.day⟩ = instant.seconds / 86400 := by
    rw [hdate]
    exact CivilDate.toDays_ofDays _
  have seconds : instant.seconds / 86400 * 86400 +
      (time / 3600 * 3600 + time / 60 % 60 * 60 +
        (time % 60 + leap - (time % 60 + leap) / 60) : Nat) = instant.seconds := by omega
  have nanos : instant.nanos % 1000000000 + (time % 60 + leap) / 60 * 1000000000 =
      instant.nanos := by omega
  rw [ofText?, written, yearOf_yearText _ rfl]
  simp only [nanosOf?_fractionText (Nat.mod_lt instant.nanos (by decide)), Option.bind_some, hm, hd,
    hh, hn, hs, days, seconds, nanos, of?_eq]

end Timestamp

end BehaviorDiff
