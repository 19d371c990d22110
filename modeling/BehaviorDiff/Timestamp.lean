set_option autoImplicit false

/-!
Instants of civil time in UTC, written in the extended calendar format. An instant is a number of
seconds since the start of 1970 with a fraction in nanoseconds; the fraction of the last second of a
minute may run over into a leap second.
-/

namespace BehaviorDiff

/-- Whether a pair of numbers names an instant. The years go from -262143 to 262142. -/
def Timestamp.isValid (seconds : Int) (nanos : Nat) : Bool :=
  -8334601228800 ≤ seconds && seconds ≤ 8210266876799 &&
    (nanos < 1000000000 || nanos < 2000000000 && seconds.emod 60 = 59)

/-- Seconds since the start of 1970 and nanoseconds on top of them. -/
structure Timestamp where
  seconds : Int
  nanos : Nat
  valid : Timestamp.isValid seconds nanos = true

/-- A day of the proleptic Gregorian calendar. -/
structure CivilDate where
  year : Int
  month : Nat
  day : Nat
  deriving DecidableEq, Repr

/-- The date of a day counted from the start of 1970. Years are taken to start in March, so that a
leap day is the last day of its year, and are counted within periods of 400 years. -/
def CivilDate.ofDays (days : Int) : CivilDate :=
  let shifted := days + 719468
  let period := shifted.ediv 146097
  let day := (shifted.emod 146097).toNat
  let year := (day - day / 1460 + day / 36524 - day / 146096) / 365
  let dayOfYear := day - (365 * year + year / 4 - year / 100)
  let month := (5 * dayOfYear + 2) / 153
  let dayOfMonth := dayOfYear - (153 * month + 2) / 5 + 1
  if month < 10 then ⟨period * 400 + year, month + 3, dayOfMonth⟩
  else ⟨period * 400 + year + 1, month - 9, dayOfMonth⟩

namespace Timestamp

/-- The start of 1970. -/
def epoch : Timestamp := ⟨0, 0, by decide⟩

instance : Inhabited Timestamp := ⟨epoch⟩

/-- The instant of a pair of numbers. -/
def of? (seconds : Int) (nanos : Nat) : Option Timestamp :=
  if h : isValid seconds nanos = true then some ⟨seconds, nanos, h⟩ else none

/-- A number with at least so many digits. -/
def padded (width n : Nat) : String :=
  let digits := Nat.toDigits 10 n
  String.ofList (List.replicate (width - digits.length) '0' ++ digits)

/-- A year: four digits, and a sign outside of 0 to 9999. -/
def yearText (year : Int) : String :=
  if 0 ≤ year ∧ year ≤ 9999 then padded 4 year.toNat
  else (if year < 0 then "-" else "+") ++ padded 4 year.natAbs

/-- A fraction of a second in the fewest of 0, 3, 6 or 9 digits that give it exactly. -/
def fractionText (nanos : Nat) : String :=
  if nanos = 0 then ""
  else if nanos % 1000000 = 0 then "." ++ padded 3 (nanos / 1000000)
  else if nanos % 1000 = 0 then "." ++ padded 6 (nanos / 1000)
  else "." ++ padded 9 nanos

/-- The written form of an instant. -/
def text (instant : Timestamp) : String :=
  let date := CivilDate.ofDays (instant.seconds.ediv 86400)
  let time := (instant.seconds.emod 86400).toNat
  let second := time % 60 + instant.nanos / 1000000000
  yearText date.year ++ "-" ++ padded 2 date.month ++ "-" ++ padded 2 date.day ++ "T" ++
    padded 2 (time / 3600) ++ ":" ++ padded 2 (time / 60 % 60) ++ ":" ++ padded 2 second ++
    fractionText (instant.nanos % 1000000000) ++ "Z"

end Timestamp

end BehaviorDiff
