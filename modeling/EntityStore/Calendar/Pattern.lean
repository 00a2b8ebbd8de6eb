/-!
# Date patterns

A pattern is text with specifiers that start with a percent sign. It is read one character at a time
by a machine that knows how much of a specifier it has seen; a pattern is valid if no character is
refused and it does not end inside a specifier.
-/

namespace EntityStore

inductive Padding where
  | none
  | zero
  | space
  deriving DecidableEq, Repr

inductive NumberField where
  | year
  | century
  | yearOfCentury
  | isoYear
  | isoYearOfCentury
  | quarter
  | month
  | day
  | weekFromSunday
  | weekFromMonday
  | isoWeek
  | daysFromSunday
  | dayOfWeek
  | dayOfYear
  | hour
  | hour12
  | minute
  | second
  | nanosecond
  | timestamp
  deriving DecidableEq, Repr

inductive TextField where
  | shortMonth
  | longMonth
  | shortWeekday
  | longWeekday
  | lowerHalf
  | upperHalf
  /-- As many digits after a point as the fraction of the second needs. -/
  | fraction
  | digits (count : Nat) (point : Bool)
  | zoneName
  | offset
  | offsetColon
  | offsetSeconds
  | offsetHours
  /-- An offset in any notation, which can be read and not written. -/
  | anyOffset
  | standard
  deriving DecidableEq, Repr

inductive PatternItem where
  | literal (c : Char)
  | number (field : NumberField) (padding : Padding)
  | text (field : TextField)
  deriving DecidableEq, Repr

namespace PatternItem

private def zeroed (f : NumberField) : PatternItem := number f .zero

private def hourMinuteSecond : List PatternItem :=
  [zeroed .hour, literal ':', zeroed .minute, literal ':', zeroed .second]

private def monthDayYear : List PatternItem :=
  [zeroed .month, literal '/', zeroed .day, literal '/', zeroed .yearOfCentury]

def ofLetter? : Char → Option (List PatternItem)
  | 'A' => some [text .longWeekday]
  | 'B' => some [text .longMonth]
  | 'C' => some [zeroed .century]
  | 'D' => some monthDayYear
  | 'F' => some [zeroed .year, literal '-', zeroed .month, literal '-', zeroed .day]
  | 'G' => some [zeroed .isoYear]
  | 'H' => some [zeroed .hour]
  | 'I' => some [zeroed .hour12]
  | 'M' => some [zeroed .minute]
  | 'P' => some [text .lowerHalf]
  | 'R' => some [zeroed .hour, literal ':', zeroed .minute]
  | 'S' => some [zeroed .second]
  | 'T' => some hourMinuteSecond
  | 'U' => some [zeroed .weekFromSunday]
  | 'V' => some [zeroed .isoWeek]
  | 'W' => some [zeroed .weekFromMonday]
  | 'X' => some hourMinuteSecond
  | 'Y' => some [zeroed .year]
  | 'Z' => some [text .zoneName]
  | 'a' => some [text .shortWeekday]
  | 'b' => some [text .shortMonth]
  | 'c' => some ([text .shortWeekday, literal ' ', text .shortMonth, literal ' ',
      number .day .space, literal ' '] ++ hourMinuteSecond ++ [literal ' ', zeroed .year])
  | 'd' => some [zeroed .day]
  | 'e' => some [number .day .space]
  | 'f' => some [zeroed .nanosecond]
  | 'g' => some [zeroed .isoYearOfCentury]
  | 'h' => some [text .shortMonth]
  | 'j' => some [zeroed .dayOfYear]
  | 'k' => some [number .hour .space]
  | 'l' => some [number .hour12 .space]
  | 'm' => some [zeroed .month]
  | 'n' => some [literal '\n']
  | 'p' => some [text .upperHalf]
  | 'q' => some [number .quarter .none]
  | 'r' => some ([zeroed .hour12, literal ':', zeroed .minute, literal ':', zeroed .second,
      literal ' ', text .upperHalf])
  | 's' => some [number .timestamp .none]
  | 't' => some [literal '\t']
  | 'u' => some [number .dayOfWeek .none]
  | 'v' => some [number .day .space, literal '-', text .shortMonth, literal '-', zeroed .year]
  | 'w' => some [number .daysFromSunday .none]
  | 'x' => some monthDayYear
  | 'y' => some [zeroed .yearOfCentury]
  | 'z' => some [text .offset]
  | '+' => some [text .standard]
  | '%' => some [literal '%']
  | _ => none

end PatternItem

inductive PatternState where
  | plain
  | percent
  | padded (padding : Padding)
  | alternate
  | point
  | digits (count : Nat) (point : Bool)
  | colons (count : Nat)
  deriving DecidableEq, Repr

namespace PatternState

def digitCount? : Char → Option Nat
  | '3' => some 3
  | '6' => some 6
  | '9' => some 9
  | _ => none

/-- The offset that is written with so many colons before its letter. -/
def offsetOf? : Nat → Option TextField
  | 1 => some .offsetColon
  | 2 => some .offsetSeconds
  | 3 => some .offsetHours
  | _ => none

/-- What a character completes and how the reading goes on, unless it is refused. A padding goes with
a single number and nothing else. -/
def step : PatternState → Char → Option (List PatternItem × PatternState)
  | plain, '%' => some ([], percent)
  | plain, c => some ([.literal c], plain)
  | percent, '-' => some ([], padded .none)
  | percent, '0' => some ([], padded .zero)
  | percent, '_' => some ([], padded .space)
  | percent, '#' => some ([], alternate)
  | percent, '.' => some ([], point)
  | percent, ':' => some ([], colons 1)
  | percent, c =>
    match digitCount? c with
    | some n => some ([], digits n false)
    | none => (PatternItem.ofLetter? c).map (·, plain)
  | padded p, c =>
    match PatternItem.ofLetter? c with
    | some [.number f _] => some ([.number f p], plain)
    | _ => none
  | alternate, 'z' => some ([.text .anyOffset], plain)
  | alternate, _ => none
  | point, 'f' => some ([.text .fraction], plain)
  | point, c => (digitCount? c).map fun n => ([], digits n true)
  | digits n p, 'f' => some ([.text (.digits n p)], plain)
  | digits _ _, _ => none
  | colons n, 'z' => (offsetOf? n).map fun f => ([.text f], plain)
  | colons n, ':' => if n < 3 then some ([], colons (n + 1)) else none
  | colons _, _ => none

def items? : PatternState → List Char → Option (List PatternItem)
  | s, [] => if s = plain then some [] else none
  | s, c :: rest => do
    let (found, s) ← s.step c
    let later ← items? s rest
    return found ++ later

end PatternState

def patternItems? (pattern : List Char) : Option (List PatternItem) :=
  PatternState.items? .plain pattern

end EntityStore
