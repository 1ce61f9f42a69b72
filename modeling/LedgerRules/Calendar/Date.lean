import LedgerRules.Number.Numeral

/-!
# Dates

Dates of the Gregorian calendar, extended to all years, with their numbering by
days since the first of January 1970.
-/

namespace LedgerRules

/-- A year, a month of it, and a day of that month. -/
structure Date where
  year : Nat
  month : Nat
  day : Nat
deriving DecidableEq, Repr, Inhabited

namespace Date

/-- Whether a year has a twenty-ninth of February. -/
def isLeap (year : Nat) : Bool :=
  year % 4 = 0 && (year % 100 ≠ 0 || year % 400 = 0)

def daysInMonth (year month : Nat) : Nat :=
  match month with
  | 2 => if isLeap year then 29 else 28
  | 4 | 6 | 9 | 11 => 30
  | _ => 31

/-- Whether year, month and day name a day of the calendar. -/
def isValid (date : Date) : Bool :=
  1 ≤ date.month && date.month ≤ 12 && 1 ≤ date.day &&
    date.day ≤ daysInMonth date.year date.month

/-- A number with zeros in front up to the given number of digits. -/
def padded (width number : Nat) : String :=
  let digits := toString number
  String.ofList (List.replicate (width - digits.length) '0') ++ digits

/-- Year, month and day with hyphens between them. -/
def text (date : Date) : String :=
  padded 4 date.year ++ "-" ++ padded 2 date.month ++ "-" ++ padded 2 date.day

/-- The number of days from the first of March of year zero to the first of
January 1970. -/
def epochDay : Int := 719468

/-- The number of days since the first of January 1970.  Years are counted from
March, so that a leap day is the last day of its year. -/
def dayNumber (date : Date) : Int :=
  let year : Int := if date.month ≤ 2 then (date.year : Int) - 1 else date.year
  let month := (date.month + 9) % 12
  let era := year.fdiv 400
  let yearOfEra := year - era * 400
  let dayOfYear : Int := (153 * month + 2) / 5 + date.day - 1
  era * 146097 + yearOfEra * 365 + yearOfEra.fdiv 4 - yearOfEra.fdiv 100 +
    dayOfYear - epochDay

/-- The date with the given number of days since the first of January 1970, for
days from the start of year zero on. -/
def ofDayNumber (number : Int) : Date :=
  let shifted := number + epochDay
  let era := shifted.fdiv 146097
  let dayOfEra := shifted - era * 146097
  let yearOfEra :=
    (dayOfEra - dayOfEra.fdiv 1460 + dayOfEra.fdiv 36524 - dayOfEra.fdiv
      146096).fdiv 365
  let dayOfYear :=
    dayOfEra - (365 * yearOfEra + yearOfEra.fdiv 4 - yearOfEra.fdiv 100)
  let month := ((5 * dayOfYear + 2).fdiv 153).toNat
  let day := dayOfYear.toNat - (153 * month + 2) / 5 + 1
  let year := yearOfEra + era * 400
  if month < 10 then ⟨year.toNat, month + 3, day⟩
    else ⟨(year + 1).toNat, month - 9, day⟩

/-- Reads year, month and day of exactly four, two and two digits. -/
def read? (text : String) : Option Date :=
  match text.toList with
  | [y1, y2, y3, y4, '-', m1, m2, '-', d1, d2] =>
      let digits := [y1, y2, y3, y4, m1, m2, d1, d2]
      if digits.all isAsciiDigit then
        let date : Date :=
          ⟨digitsValue [y1, y2, y3, y4], digitsValue [m1, m2],
            digitsValue [d1, d2]⟩
        if date.isValid && 1 ≤ date.year then some date else none
      else none
  | _ => none

end Date

end LedgerRules
