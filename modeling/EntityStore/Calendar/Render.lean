import EntityStore.Calendar
import EntityStore.Calendar.Pattern

/-!
# Dates in text

An instant written by the items of a pattern. Every item but one can be written: an offset in any
notation is only good for reading.
-/

namespace EntityStore

namespace PatternItem

/-- A sign and digits filled up to a width: zeros go after the sign, blanks before it. -/
def paddedChars (p : Padding) (width : Nat) (sign digits : List Char) : List Char :=
  let missing := width - (sign.length + digits.length)
  match p with
  | .none => sign ++ digits
  | .zero => sign ++ List.replicate missing '0' ++ digits
  | .space => List.replicate missing ' ' ++ sign ++ digits

/-- A year. One that does not have four digits or fewer carries its sign. -/
def yearChars (p : Padding) (year : Int) : List Char :=
  let digits := Nat.toDigits 10 year.natAbs
  if 0 ≤ year ∧ year < 10000 then paddedChars p 4 [] digits
  else paddedChars p 5 [if year < 0 then '-' else '+'] digits

/-- Two digits. The number is taken as a byte, so that its tens may lie beyond the digit nine. -/
def pairChars (p : Padding) (n : Int) : List Char :=
  let byte := (n % 256).toNat
  let tens :=
    if byte / 10 = 0 then
      match p with
      | .none => []
      | .zero => ['0']
      | .space => [' ']
    else [Char.ofNat ('0'.toNat + byte / 10)]
  tens ++ [Char.ofNat ('0'.toNat + byte % 10)]

def zeroedChars (width n : Nat) : List Char := paddedChars .zero width [] (Nat.toDigits 10 n)

def numberChars (t : Instant) (p : Padding) : NumberField → List Char
  | .year => yearChars p t.date.year
  | .century => pairChars p (t.date.year / 100)
  | .yearOfCentury => pairChars p (t.date.year % 100)
  | .isoYear => yearChars p t.isoWeek.1
  | .isoYearOfCentury => pairChars p (t.isoWeek.1 % 100)
  | .quarter => Nat.toDigits 10 ((t.date.month - 1) / 3 + 1)
  | .month => pairChars p t.date.month
  | .day => pairChars p t.date.day
  | .weekFromSunday => pairChars p t.weekFromSunday
  | .weekFromMonday => pairChars p t.weekFromMonday
  | .isoWeek => pairChars p t.isoWeek.2
  | .daysFromSunday => Nat.toDigits 10 t.daysFromSunday
  | .dayOfWeek => Nat.toDigits 10 (t.daysFromMonday + 1)
  | .dayOfYear => paddedChars p 3 [] (Nat.toDigits 10 t.dayOfYear)
  | .hour => pairChars p t.hour
  | .hour12 => pairChars p t.hour12
  | .minute => pairChars p t.minute
  | .second => pairChars p t.second
  | .nanosecond => paddedChars p 9 [] (Nat.toDigits 10 t.nanosecond)
  | .timestamp =>
    paddedChars p 9 (if t.seconds < 0 then ['-'] else []) (Nat.toDigits 10 t.seconds.natAbs)

/-! ## Names -/

def longMonths : List String :=
  ["January", "February", "March", "April", "May", "June", "July", "August", "September",
    "October", "November", "December"]

def longWeekdays : List String :=
  ["Sunday", "Monday", "Tuesday", "Wednesday", "Thursday", "Friday", "Saturday"]

def nameChars (names : List String) (i : Nat) : List Char := (names[i]?.getD "").toList

/-- The point and three, six or nine digits of the fraction, none if the second is whole. -/
def fractionChars (t : Instant) : List Char :=
  let n := t.nanosecond
  if n = 0 then []
  else if n % 1000000 = 0 then '.' :: zeroedChars 3 (n / 1000000)
  else if n % 1000 = 0 then '.' :: zeroedChars 6 (n / 1000)
  else '.' :: zeroedChars 9 n

def standardChars (t : Instant) : List Char :=
  let pair (n : Nat) := pairChars .zero n
  yearChars .zero t.date.year ++ '-' :: pair t.date.month ++ '-' :: pair t.date.day ++
    'T' :: pair t.hour ++ ':' :: pair t.minute ++ ':' :: pair t.second ++
    fractionChars t ++ "+00:00".toList

def textChars? (t : Instant) : TextField → Option (List Char)
  | .shortMonth => some ((nameChars longMonths (t.date.month - 1)).take 3)
  | .longMonth => some (nameChars longMonths (t.date.month - 1))
  | .shortWeekday => some ((nameChars longWeekdays t.daysFromSunday).take 3)
  | .longWeekday => some (nameChars longWeekdays t.daysFromSunday)
  | .lowerHalf => some (if t.hour < 12 then "am".toList else "pm".toList)
  | .upperHalf => some (if t.hour < 12 then "AM".toList else "PM".toList)
  | .fraction => some (fractionChars t)
  | .digits n point =>
    some ((if point then ['.'] else []) ++ (zeroedChars 9 t.nanosecond).take n)
  | .zoneName => some "UTC".toList
  | .offset => some "+0000".toList
  | .offsetColon => some "+00:00".toList
  | .offsetSeconds => some "+00:00:00".toList
  | .offsetHours => some "+00".toList
  | .anyOffset => none
  | .standard => some (standardChars t)

def chars? (t : Instant) : PatternItem → Option (List Char)
  | .literal c => some [c]
  | .number f p => some (numberChars t p f)
  | .text f => textChars? t f

end PatternItem

def Instant.render? (t : Instant) (items : List PatternItem) : Option (List Char) :=
  (items.mapM (PatternItem.chars? t)).map List.flatten

end EntityStore
