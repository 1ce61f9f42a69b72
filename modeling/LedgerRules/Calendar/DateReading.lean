import LedgerRules.Calendar.Timestamp

/-!
# Lenient reading of dates

A date may be written as a date, as a date with a time, or as the number of
seconds or milliseconds since the start of 1970.  Whatever carries a time must
lie exactly on a midnight; an offset from universal time is checked and then
ignored.
-/

namespace LedgerRules

namespace Date

/-- What is wrong with the text or number of a date. -/
inductive Complaint where
  | tooShort
  | extraCharacters
  | yearCharacter
  | monthCharacter
  | dayCharacter
  | dateSeparator
  | monthRange
  | dayRange
  | timeStart
  | hourCharacter
  | minuteCharacter
  | secondCharacter
  | timeSeparator
  | hourRange
  | minuteRange
  | secondRange
  | emptyFraction
  | zoneSign
  | zoneHour
  | zoneMinute
  | zoneMinuteRange
  | zoneRange
  | tooEarly
  | tooLate
  | noNumber
deriving DecidableEq, Repr

/-- The wording of a complaint. -/
def Complaint.message : Complaint → String
  | .tooShort => "input is too short"
  | .extraCharacters => "unexpected extra characters at the end of the input"
  | .yearCharacter => "invalid character in year"
  | .monthCharacter => "invalid character in month"
  | .dayCharacter => "invalid character in day"
  | .dateSeparator => "invalid date separator, expected \x60-\x60"
  | .monthRange => "month value is outside expected range of 1-12"
  | .dayRange => "day value is outside expected range"
  | .timeStart =>
      "invalid datetime separator, expected \x60T\x60, \x60t\x60, \x60_\x60 or space"
  | .hourCharacter => "invalid character in hour"
  | .minuteCharacter => "invalid character in minute"
  | .secondCharacter => "invalid character in second"
  | .timeSeparator => "invalid time separator, expected \x60:\x60"
  | .hourRange => "hour value is outside expected range of 0-23"
  | .minuteRange => "minute value is outside expected range of 0-59"
  | .secondRange => "second value is outside expected range of 0-59"
  | .emptyFraction => "second fraction digits missing after \x60.\x60"
  | .zoneSign => "invalid timezone sign"
  | .zoneHour => "invalid timezone hour"
  | .zoneMinute => "invalid timezone minute"
  | .zoneMinuteRange =>
      "timezone minute value is outside expected range of 0-59"
  | .zoneRange => "timezone offset must be less than 24 hours"
  | .tooEarly => "dates before 0000 are not supported as unix timestamps"
  | .tooLate => "dates after 9999 are not supported as unix timestamps"
  | .noNumber => "NaN values not permitted"

/-- Why a value is no date: it cannot be read, it has a time, it lies in the
year zero, or it is of another kind altogether. -/
inductive ReadFault where
  | unreadable (complaint : Complaint)
  | inexact
  | yearZero
  | notADate
deriving DecidableEq, Repr

/-- Numbers up to this magnitude are seconds, and greater ones milliseconds. -/
def secondsLimit : Nat := 20000000000

/-- Seconds and microseconds that a number of seconds or milliseconds
denotes. -/
def ofEither (number : Int) : Int × Int :=
  if number.natAbs ≤ secondsLimit then (number, 0)
  else (number.fdiv 1000, number.fmod 1000 * 1000)

/-- The first and the last second of the years zero to 9999. -/
def secondRange : Int × Int := (-62167219200, 253402300799)

/-- The date that starts at a second of universal time, and the seconds of the
day before that second. -/
def ofSeconds (second : Int) : Except Complaint (Date × Int) :=
  if second < secondRange.1 then .error .tooEarly
  else if secondRange.2 < second then .error .tooLate
  else .ok (ofDayNumber (second.fdiv Timestamp.secondsPerDay),
    second.fmod Timestamp.secondsPerDay)

/-- The date at a midnight, which is not in the year zero. -/
def atMidnight (date : Date) (exact : Bool) : Except ReadFault Date :=
  if !exact then .error .inexact
  else if date.year = 0 then .error .yearZero
  else .ok date

/-- The date at whose midnight a number of seconds or milliseconds, with further
microseconds, has passed. -/
def ofMoment (number microseconds : Int) : Except ReadFault Date :=
  let (seconds, more) := ofEither number
  let total := microseconds + more
  match ofSeconds (seconds + total.fdiv Timestamp.perSecond) with
  | .error complaint => .error (.unreadable complaint)
  | .ok (date, time) =>
      atMidnight date (time = 0 && total.fmod Timestamp.perSecond = 0)

/-- A quotient rounded to the nearest whole number, halves away from zero. -/
def roundHalfUp (dividend divisor : Nat) : Nat :=
  (2 * dividend + divisor) / (2 * divisor)

/-- The microseconds of the fraction of a double, whose sign does not count. -/
def fractionMicroseconds (significand : Nat) (exponent : Int) : Nat :=
  if 0 ≤ exponent then 0
  else
    let unit := 1 <<< (-exponent).toNat
    match Double.ofQuotient false
      (significand % unit * Timestamp.perSecond.natAbs) unit with
    | .finite _ significand exponent =>
        if 0 ≤ exponent then significand <<< exponent.toNat
        else roundHalfUp significand (1 <<< (-exponent).toNat)
    | _ => 0

/-- The greatest whole number that is not above a double. -/
def floorDouble (negative : Bool) (significand : Nat) (exponent : Int) : Int :=
  let magnitude : Int :=
    if 0 ≤ exponent then significand <<< exponent.toNat
    else if negative then
      ((significand + (1 <<< (-exponent).toNat) - 1) >>> (-exponent).toNat :
        Nat)
    else (significand >>> (-exponent).toNat : Nat)
  if negative then -magnitude else magnitude

/-- The date at whose midnight a number of seconds or milliseconds has
passed. -/
def ofDouble : Double → Except ReadFault Date
  | .nan => .error (.unreadable .noNumber)
  | .infinite negative =>
      .error (.unreadable (if negative then .tooEarly else .tooLate))
  | .finite negative significand exponent =>
      ofMoment (floorDouble negative significand exponent)
        (fractionMicroseconds significand exponent)

/-- The whole numbers of 64 bits with a sign. -/
def fitsInteger (number : Int) : Bool :=
  -(Nat.pow 2 63 : Int) ≤ number && number < Nat.pow 2 63

/-- The date at whose midnight a whole number of seconds or milliseconds has
passed.  Numbers that not even a double can hold are no dates. -/
def ofWhole (number : Int) : Except ReadFault Date :=
  if fitsInteger number then ofMoment number 0
  else match Double.ofInt number with
    | .finite negative significand exponent =>
        ofDouble (.finite negative significand exponent)
    | _ => .error .notADate

/-- The text of a date as numbers of 8 bits. -/
abbrev Bytes := List Nat

def digitAt (bytes : Bytes) (place : Nat) (complaint : Complaint) :
    Except Complaint Nat :=
  match bytes[place]? with
  | some byte =>
      if 48 ≤ byte && byte ≤ 57 then .ok (byte - 48) else .error complaint
  | none => .error complaint

/-- The number of two digits at a place. -/
def pairAt (bytes : Bytes) (place : Nat) (complaint : Complaint) :
    Except Complaint Nat := do
  let tens ← digitAt bytes place complaint
  let ones ← digitAt bytes (place + 1) complaint
  return 10 * tens + ones

/-- Checks that a character stands at a place. -/
def expectAt (bytes : Bytes) (place : Nat) (character : Char)
    (complaint : Complaint) :
    Except Complaint Unit :=
  if bytes[place]? = some character.toNat then .ok () else .error complaint

/-- Reads the date at the start of a text. -/
def datePart (bytes : Bytes) : Except Complaint Date := do
  if bytes.length < 10 then throw .tooShort
  let century ← pairAt bytes 0 .yearCharacter
  let year ← pairAt bytes 2 .yearCharacter
  expectAt bytes 4 '-' .dateSeparator
  let month ← pairAt bytes 5 .monthCharacter
  expectAt bytes 7 '-' .dateSeparator
  let day ← pairAt bytes 8 .dayCharacter
  let date : Date := ⟨100 * century + year, month, day⟩
  if month < 1 || 12 < month then throw .monthRange
  if day < 1 || daysInMonth date.year month < day then throw .dayRange
  return date

/-- Reads the offset that ends a time at a place, and answers the place after
it. -/
def zonePart (bytes : Bytes) (place : Nat) : Except Complaint Nat := do
  match bytes[place]? with
  | none => return place
  | some sign =>
      if sign = 'Z'.toNat || sign = 'z'.toNat then return place + 1
      else
        let place ←
          if sign = '+'.toNat || sign = '-'.toNat then pure (place + 1)
          else if (bytes.drop place).take 3 = [226, 136, 146] then
            pure (place + 3)
          else throw .zoneSign
        let hours ← pairAt bytes place .zoneHour
        let place ←
          match bytes[place + 2]? with
          | some byte =>
              if byte = ':'.toNat then pure (place + 3)
              else if 48 ≤ byte && byte ≤ 57 then pure (place + 2)
              else throw .zoneMinute
          | none => throw .zoneMinute
        let minutes ← pairAt bytes place .zoneMinute
        if 60 ≤ minutes then throw .zoneMinuteRange
        if 24 * 60 ≤ 60 * hours + minutes then throw .zoneRange
        return place + 2

/-- Reads a time at a place.  The answer tells whether it is midnight. -/
def timePart (bytes : Bytes) (place : Nat) : Except Complaint Bool := do
  if bytes.length < place + 5 then throw .tooShort
  let hour ← pairAt bytes place .hourCharacter
  if 23 < hour then throw .hourRange
  expectAt bytes (place + 2) ':' .timeSeparator
  let minute ← pairAt bytes (place + 3) .minuteCharacter
  if 59 < minute then throw .minuteRange
  let place := place + 5
  let (second, fraction, place) ←
    if bytes[place]? = some ':'.toNat then do
      let second ← pairAt bytes (place + 1) .secondCharacter
      if 59 < second then throw .secondRange
      let place := place + 3
      let mark := bytes[place]?
      if mark = some '.'.toNat || mark = some ','.toNat then
        let digits := (bytes.drop (place + 1)).takeWhile fun byte => 48 ≤
          byte && byte ≤ 57
        if digits.isEmpty then throw .emptyFraction
        pure (second, (digits.take 6).any (· ≠ 48), place + 1 + digits.length)
      else pure (second, false, place)
    else pure (0, false, place)
  let place ← zonePart bytes place
  if place < bytes.length then throw .extraCharacters
  return hour = 0 && minute = 0 && second = 0 && !fraction

def dateAndTime (bytes : Bytes) : Except Complaint (Date × Bool) := do
  let date ← datePart bytes
  let mark := bytes[10]?
  if ['T', 't', ' ', '_'].any (fun letter => mark = some letter.toNat) then
    return (date, ← timePart bytes 11)
  else throw .timeStart

/-- A row of digits with an optional sign and an optional fraction, as sign,
whole part and, when there is a point, the digits after it. -/
def number? (text : String) : Option (Bool × Nat × Option (List Char)) :=
  let (negative, body) := splitSign text.toList
  let whole := body.takeWhile isAsciiDigit
  if whole.isEmpty || Nat.pow 2 63 ≤ digitsValue whole then none
  else match body.dropWhile isAsciiDigit with
    | [] => some (negative, digitsValue whole, none)
    | '.' :: digits =>
        if digits.all isAsciiDigit then
          some (negative, digitsValue whole, some digits) else none
    | _ => none

/-- The date that a row of digits denotes as a number of seconds or
milliseconds.  A number without a fraction needs no more than a whole second. -/
def ofNumber (negative : Bool) (whole : Nat) (fraction? : Option (List Char)) :
    Except ReadFault Date :=
  match fraction? with
  | none =>
      let number : Int := if negative then -(whole : Int) else whole
      match ofSeconds (ofEither number).1 with
      | .error complaint => .error (.unreadable complaint)
      | .ok (date, time) => atMidnight date (time = 0)
  | some digits =>
      ofDouble (.ofQuotient negative
        (whole * Nat.pow 10 digits.length + digitsValue digits)
        (Nat.pow 10 digits.length))

/-- Reads a date, a date with a time, or a number of seconds or milliseconds. -/
def readLeniently (text : String) : Except ReadFault Date :=
  let bytes := text.toUTF8.toList.map UInt8.toNat
  match datePart bytes with
  | .ok date =>
      if bytes.length = 10 then atMidnight date true
      else match dateAndTime bytes with
        | .ok (date, midnight) => atMidnight date midnight
        | .error complaint => .error (.unreadable complaint)
  | .error complaint =>
      match number? text with
      | some (negative, whole, fraction?) => ofNumber negative whole fraction?
      | none => .error (.unreadable complaint)

end Date

end LedgerRules
