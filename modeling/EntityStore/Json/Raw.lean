import EntityStore.Binary64

/-!
# JSON text as it is read

A text is read to a tree that keeps what only some readers mind: the order and the repetition of
keys, half of a surrogate pair in a string, and the digits of a number. The reader's fuel is the
length of the text, and every step uses up a character.
-/

namespace EntityStore

structure RawNumber where
  negative : Bool
  whole : List Char
  fraction : List Char
  exponent : Option Int
  deriving Repr, DecidableEq

/-- A JSON value as it is written. A string that holds half of a surrogate pair has no text. -/
inductive RawJson where
  | null
  | bool (b : Bool)
  | number (n : RawNumber)
  | text (s : Option String)
  | array (items : List RawJson)
  | object (fields : List (Option String × RawJson))
  deriving Inhabited

/-! ## Numbers -/

namespace RawNumber

/-- The whole number written without point and exponent, if it fits in 64 bits, signed or unsigned.
Minus zero is not a whole number. -/
def integer? (n : RawNumber) : Option Int :=
  if !n.fraction.isEmpty || n.exponent.isSome then none
  else
    let magnitude := Nat.ofDigitChars 10 n.whole 0
    if n.negative then
      if 0 < magnitude ∧ magnitude ≤ Nat.pow 2 63 then some (-(magnitude : Int)) else none
    else if magnitude < Nat.pow 2 64 then some magnitude else none

/-- Appends digits to a whole number for as long as it fits in 64 bits, and gives back the digits
that are left. -/
def fill (m : Nat) : List Char → Nat × List Char
  | [] => (m, [])
  | c :: rest =>
    let more := Nat.ofDigitChars 10 [c] m
    if more < Nat.pow 2 64 then fill more rest else (m, c :: rest)

/-- The number as `m · 10 ^ e` with an `m` of 64 bits. Digits of the whole part that do not fit only
add to the exponent; the fraction then goes on filling what room there still is, and the rest of it
is passed over. -/
def scaled (n : RawNumber) : Nat × Int :=
  let (whole, beyond) := fill 0 n.whole
  let (m, unread) := fill whole n.fraction
  (m, n.exponent.getD 0 + beyond.length - (n.fraction.length - unread.length : Nat))

/-- Whether the number is too great for a double when `m` and `10 ^ e` are each rounded to one and
then multiplied. A product half a step above the greatest double is too great already. -/
def overflows (n : RawNumber) : Bool :=
  let (m, e) := n.scaled
  let limit := Nat.pow 2 1024 - Nat.pow 2 970
  m != 0 && 0 ≤ e &&
    (308 < e || limit ≤ Binary64.nearestWhole m * Binary64.nearestWhole (Nat.pow 10 e.toNat))

def takeDigits (cs : List Char) : List Char × List Char := cs.span Char.isDigit

/-- The digits after the point, none if there is no point. -/
def readFraction? : List Char → Option (List Char × List Char)
  | '.' :: rest =>
    match takeDigits rest with
    | ([], _) => none
    | found => some found
  | cs => some ([], cs)

def readExponent? (cs : List Char) : Option (Option Int × List Char) :=
  match cs with
  | c :: rest =>
    if c = 'e' ∨ c = 'E' then
      let (negative, rest) := match rest with
        | '-' :: r => (true, r)
        | '+' :: r => (false, r)
        | r => (false, r)
      match takeDigits rest with
      | ([], _) => none
      | (digits, rest) =>
        let magnitude : Int := Nat.ofDigitChars 10 digits 0
        some (some (if negative then -magnitude else magnitude), rest)
    else some (none, cs)
  | [] => some (none, [])

/-- A number without superfluous leading zeros. -/
def read? (cs : List Char) : Option (RawNumber × List Char) := do
  let (negative, cs) := match cs with
    | '-' :: r => (true, r)
    | r => (false, r)
  let (whole, cs) := takeDigits cs
  if whole.isEmpty || (1 < whole.length && whole.head? == some '0') then none
  let (fraction, cs) ← readFraction? cs
  let (exponent, cs) ← readExponent? cs
  return (⟨negative, whole, fraction, exponent⟩, cs)

end RawNumber

/-! ## Strings -/

/-- A character of a string, or a code unit that was written in hexadecimal. -/
inductive RawUnit where
  | char (c : Char)
  | code (n : Nat)

namespace RawUnit

def isHigh (n : Nat) : Bool := 0xD800 ≤ n && n ≤ 0xDBFF

def isLow (n : Nat) : Bool := 0xDC00 ≤ n && n ≤ 0xDFFF

def hexDigit? (c : Char) : Option Nat :=
  if c.isDigit then some (c.toNat - '0'.toNat)
  else if 'a' ≤ c ∧ c ≤ 'f' then some (c.toNat - 'a'.toNat + 10)
  else if 'A' ≤ c ∧ c ≤ 'F' then some (c.toNat - 'A'.toNat + 10)
  else none

def escape? : Char → Option Char
  | '"' => some '"'
  | '\\' => some '\\'
  | '/' => some '/'
  | 'b' => some '\x08'
  | 'f' => some '\x0c'
  | 'n' => some '\n'
  | 'r' => some '\r'
  | 't' => some '\t'
  | _ => none

/-- The units of a string up to its closing quote, and what follows. -/
def read? : List Char → Option (List RawUnit × List Char)
  | [] => none
  | '"' :: rest => some ([], rest)
  | '\\' :: 'u' :: a :: b :: c :: d :: rest => do
    let n := (← hexDigit? a) * 4096 + (← hexDigit? b) * 256 + (← hexDigit? c) * 16 + (← hexDigit? d)
    let (units, rest) ← read? rest
    return (.code n :: units, rest)
  | '\\' :: e :: rest => do
    let c ← escape? e
    let (units, rest) ← read? rest
    return (.char c :: units, rest)
  | c :: rest => do
    if c.toNat < 0x20 || c = '\\' then none
    let (units, rest) ← read? rest
    return (.char c :: units, rest)

/-- The characters of the units, unless half of a surrogate pair stands alone. -/
def join? : List RawUnit → Option (List Char)
  | [] => some []
  | .char c :: rest => (join? rest).map (c :: ·)
  | .code high :: .code low :: rest =>
    if isHigh high && isLow low then
      (join? rest).map (Char.ofNat (0x10000 + (high - 0xD800) * 0x400 + (low - 0xDC00)) :: ·)
    else if isHigh high || isLow high then none
    else (join? (.code low :: rest)).map (Char.ofNat high :: ·)
  | .code n :: rest =>
    if isHigh n || isLow n then none else (join? rest).map (Char.ofNat n :: ·)

end RawUnit

/-! ## Values -/

namespace RawJson

def skipBlanks (cs : List Char) : List Char :=
  cs.dropWhile fun c => c = ' ' || c = '\n' || c = '\t' || c = '\r'

def readString? (cs : List Char) : Option (Option String × List Char) := do
  let (units, rest) ← RawUnit.read? cs
  return ((RawUnit.join? units).map String.ofList, rest)

mutual

def readValue? : Nat → List Char → Option (RawJson × List Char)
  | 0, _ => none
  | fuel + 1, cs =>
    match skipBlanks cs with
    | 'n' :: 'u' :: 'l' :: 'l' :: rest => some (.null, rest)
    | 't' :: 'r' :: 'u' :: 'e' :: rest => some (.bool true, rest)
    | 'f' :: 'a' :: 'l' :: 's' :: 'e' :: rest => some (.bool false, rest)
    | '"' :: rest => do
      let (s, rest) ← readString? rest
      return (.text s, rest)
    | '[' :: rest =>
      match skipBlanks rest with
      | ']' :: rest => some (.array [], rest)
      | rest => do
        let (items, rest) ← readItems? fuel rest
        return (.array items, rest)
    | '{' :: rest =>
      match skipBlanks rest with
      | '}' :: rest => some (.object [], rest)
      | rest => do
        let (fields, rest) ← readFields? fuel rest
        return (.object fields, rest)
    | rest => do
      let (n, rest) ← RawNumber.read? rest
      return (.number n, rest)

def readItems? : Nat → List Char → Option (List RawJson × List Char)
  | 0, _ => none
  | fuel + 1, cs => do
    let (item, rest) ← readValue? fuel cs
    match skipBlanks rest with
    | ',' :: rest =>
      let (items, rest) ← readItems? fuel rest
      return (item :: items, rest)
    | ']' :: rest => return ([item], rest)
    | _ => none

def readFields? : Nat → List Char → Option (List (Option String × RawJson) × List Char)
  | 0, _ => none
  | fuel + 1, cs =>
    match skipBlanks cs with
    | '"' :: rest => do
      let (key, rest) ← readString? rest
      match skipBlanks rest with
      | ':' :: rest =>
        let (value, rest) ← readValue? fuel rest
        match skipBlanks rest with
        | ',' :: rest =>
          let (fields, rest) ← readFields? fuel rest
          return ((key, value) :: fields, rest)
        | '}' :: rest => return ([(key, value)], rest)
        | _ => none
      | _ => none
    | _ => none

end

/-- The value that a text holds, with nothing but blanks around it. -/
def parse? (s : String) : Option RawJson := do
  let cs := s.toList
  let (value, rest) ← readValue? (2 * cs.length + 2) cs
  if (skipBlanks rest).isEmpty then some value else none

/-! ## What readers ask of a tree -/

mutual

/-- Whether every string has a text and no number is too great. -/
def isSound : RawJson → Bool
  | .null | .bool _ => true
  | .number n => !n.overflows
  | .text s => s.isSome
  | .array items => areSound items
  | .object fields => fieldsAreSound fields

def areSound : List RawJson → Bool
  | [] => true
  | item :: rest => isSound item && areSound rest

def fieldsAreSound : List (Option String × RawJson) → Bool
  | [] => true
  | (key, value) :: rest => key.isSome && isSound value && fieldsAreSound rest

end

mutual

/-- How deep arrays and objects are nested. -/
def depth : RawJson → Nat
  | .array items => itemsDepth items + 1
  | .object fields => fieldsDepth fields + 1
  | _ => 0

def itemsDepth : List RawJson → Nat
  | [] => 0
  | item :: rest => max (depth item) (itemsDepth rest)

def fieldsDepth : List (Option String × RawJson) → Nat
  | [] => 0
  | (_, value) :: rest => max (depth value) (fieldsDepth rest)

end

end RawJson

end EntityStore
