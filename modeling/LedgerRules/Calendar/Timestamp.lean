import LedgerRules.Calendar.Date

/-!
# Timestamps

A timestamp is a local time with an optional offset from universal time.  Times
without an offset count as universal times when two timestamps are compared.
-/

namespace LedgerRules

/-- A local time, and how far it is ahead of universal time. -/
structure Timestamp where
  /-- Microseconds of local time since the start of 1970. -/
  wallClock : Int
  /-- Microseconds by which local time is ahead of universal time. -/
  offset? : Option Int
deriving DecidableEq, Repr, Inhabited

namespace Timestamp

/-- The number of microseconds of a second. -/
def perSecond : Int := 1000000

def secondsPerDay : Int := 86400

/-- Microseconds of universal time since the start of 1970. -/
def instant (timestamp : Timestamp) : Int :=
  timestamp.wallClock - timestamp.offset?.getD 0

/-- Seconds since the start of 1970, as the nearest double. -/
def seconds (timestamp : Timestamp) : Double :=
  .ofQuotient (timestamp.instant < 0) timestamp.instant.natAbs perSecond.natAbs

/-- The timestamp of a date and the seconds since its midnight. -/
def ofDateAndSeconds (date : Date) (seconds : Int) : Timestamp :=
  ⟨(date.dayNumber * secondsPerDay + seconds) * perSecond, none⟩

/-- Hours and minutes of two digits each with a colon between them, as
minutes. -/
def readMinutes? : List Char → Option Nat
  | [h1, h2, ':', m1, m2] =>
      if [h1, h2, m1, m2].all isAsciiDigit then
        some (60 * digitsValue [h1, h2] + digitsValue [m1, m2])
      else none
  | _ => none

/-- The offset at the end of a timestamp, in microseconds. -/
def readOffset? : List Char → Option (Option Int)
  | [] => some none
  | ['Z'] => some (some 0)
  | sign :: rest => do
      let minutes ← readMinutes? rest
      let offset : Int := minutes * 60 * perSecond
      if sign = '+' then return some offset
      else if sign = '-' then return some (-offset)
      else none

/-- The fraction of a second at the head of a row, in whole microseconds, and
the rest of the row.  Digits beyond the microseconds are dropped. -/
def readFraction? : List Char → Option (Int × List Char)
  | '.' :: rest =>
      let digits := rest.takeWhile isAsciiDigit
      if digits.isEmpty then none
      else some (digitsValue
        (digits.take 6 ++ List.replicate (6 - digits.length) '0'),
        rest.drop digits.length)
  | rest => some (0, rest)

/-- Reads a date and a time with the letter `T` between them, an optional
fraction of a second and an optional offset. -/
def read? (text : String) : Option Timestamp := do
  let characters := text.toList
  let date ← Date.read? (String.ofList (characters.take 10))
  match characters.drop 10 with
  | 'T' :: rest =>
      let minutes ← readMinutes? (rest.take 5)
      match rest.drop 5 with
      | ':' :: s1 :: s2 :: rest =>
          if [s1, s2].all isAsciiDigit then
            let (fraction, rest) ← readFraction? rest
            let offset? ← readOffset? rest
            let seconds : Int := minutes * 60 + digitsValue [s1, s2]
            return ⟨(ofDateAndSeconds date seconds).wallClock + fraction,
              offset?⟩
          else none
      | _ => none
  | _ => none

end Timestamp

end LedgerRules
