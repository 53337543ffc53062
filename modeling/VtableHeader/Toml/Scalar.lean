import VtableHeader.Numeral.Binary64
import VtableHeader.Numeral.Digits
import VtableHeader.Toml.Lexeme
import VtableHeader.Toml.Value

/-!
# Numbers, dates and truth values of TOML

Integers are decimal with an optional sign, or hexadecimal, octal or binary with
a prefix; single underscores may stand between digits.  Integers must fit in
sixty-four bits.  A float that rounds to positive infinity is refused.  Dates and
times are checked against the calendar.
-/

namespace VtableHeader.Toml

/-- Read on through digits of a base, each possibly after one underscore. -/
def readMoreDigits (base : Nat) : Reader (List Char)
  | [] => some ([], [])
  | '_' :: rest =>
      match rest with
      | [] => none
      | digit :: rest =>
          if Numeral.isDigitOf base digit then do
            let (digits, rest) ← readMoreDigits base rest
            some (digit :: digits, rest)
          else none
  | char :: rest =>
      if Numeral.isDigitOf base char then do
        let (digits, rest) ← readMoreDigits base rest
        some (char :: digits, rest)
      else some ([], char :: rest)

/-- Read one or more digits of a base, without their underscores. -/
def readDigits (base : Nat) : Reader (List Char)
  | [] => none
  | char :: rest =>
      if Numeral.isDigitOf base char then readMoreDigits base (char :: rest) else none

/-- Read a sign, if there is one; `true` is negative. -/
def readSign : List Char → Bool × List Char
  | '-' :: rest => (true, rest)
  | '+' :: rest => (false, rest)
  | text => (false, text)

/-- Read the digits of a decimal integer: a zero alone, or digits that start with
another one. -/
def readWhole : Reader (List Char)
  | '0' :: rest => some (['0'], rest)
  | text => readDigits 10 text

/-- An integer of sixty-four bits with its sign. -/
def int64? (value : Int) : Option Int :=
  if Int64.minValue.toInt ≤ value ∧ value ≤ Int64.maxValue.toInt then some value else none

/-- Read an integer. -/
def readInteger : Reader Toml
  | '0' :: 'x' :: rest => based 16 rest
  | '0' :: 'o' :: rest => based 8 rest
  | '0' :: 'b' :: rest => based 2 rest
  | text => do
      let (negative, rest) := readSign text
      let (digits, rest) ← readWhole rest
      let value : Int := Numeral.ofDigits 10 digits
      let value ← int64? (if negative then -value else value)
      some (.integer value, rest)
where
  /-- Read the digits of an integer in another base. -/
  based (base : Nat) (text : List Char) : Option (Toml × List Char) := do
    let (digits, rest) ← readDigits base text
    let value ← int64? (Numeral.ofDigits base digits)
    some (.integer value, rest)

/-- The part of a text before a rest of it. -/
def consumed (text rest : List Char) : String :=
  String.ofList (text.take (text.length - rest.length))

/-- Read the exponent of a float. -/
def readExponent : Reader Int
  | [] => none
  | mark :: rest =>
      if mark = 'e' ∨ mark = 'E' then do
        let (negative, rest) := readSign rest
        let (digits, rest) ← readDigits 10 rest
        let value : Int := Numeral.ofDigits 10 digits
        some (if negative then -value else value, rest)
      else none

/-- Read the point and the digits after it. -/
def readFraction : Reader (List Char)
  | '.' :: rest => readDigits 10 rest
  | _ => none

/-- Read a float with a fraction, an exponent or both. -/
def readDecimal (text : List Char) : Option (Toml × List Char) := do
  let (negative, rest) := readSign text
  let (whole, rest) ← readWhole rest
  let (fraction, exponent, rest) ←
    match readExponent rest with
    | some (exponent, rest) => some ([], exponent, rest)
    | none => do
        let (fraction, rest) ← readFraction rest
        match readExponent rest with
        | some (exponent, rest) => some (fraction, exponent, rest)
        | none => some (fraction, 0, rest)
  let digits := Numeral.ofDigits 10 (whole ++ fraction)
  if negative ∨ Numeral.Binary64.decimalIsFinite digits (exponent - fraction.length) then
    some (.float (consumed text rest), rest)
  else none

/-- Read infinity or not-a-number, with an optional sign. -/
def readSpecialFloat (text : List Char) : Option (Toml × List Char) :=
  match (readSign text).2 with
  | 'i' :: 'n' :: 'f' :: rest => some (.float (consumed text rest), rest)
  | 'n' :: 'a' :: 'n' :: rest => some (.float (consumed text rest), rest)
  | _ => none

/-! ## Dates and times -/

/-- Read exactly `count` decimal digits as a number from `least` to `most`. -/
def readField (count least most : Nat) : Reader Nat
  | text =>
      let digits := text.take count
      let value := Numeral.ofDigits 10 digits
      if digits.length = count ∧ digits.all Char.isDigit ∧ least ≤ value ∧ value ≤ most then
        some (value, text.drop count)
      else none

/-- Read one given character. -/
def readMark (mark : Char) : Reader Unit
  | [] => none
  | char :: rest => if char = mark then some ((), rest) else none

/-- The number of days of a month. -/
def daysInMonth (year month : Nat) : Nat :=
  if month = 2 then
    if year % 4 = 0 ∧ (year % 100 ≠ 0 ∨ year % 400 = 0) then 29 else 28
  else if month = 4 ∨ month = 6 ∨ month = 9 ∨ month = 11 then 30
  else 31

/-- Read over a date of the calendar. -/
def readDate (text : List Char) : Option (List Char) := do
  let (year, rest) ← readField 4 0 9999 text
  let (_, rest) ← readMark '-' rest
  let (month, rest) ← readField 2 1 12 rest
  let (_, rest) ← readMark '-' rest
  let (_, rest) ← readField 2 1 (daysInMonth year month) rest
  some rest

/-- Read over a time of day; the second may be a leap second, and may have a
fraction. -/
def readTime (text : List Char) : Option (List Char) := do
  let (_, rest) ← readField 2 0 23 text
  let (_, rest) ← readMark ':' rest
  let (_, rest) ← readField 2 0 59 rest
  let (_, rest) ← readMark ':' rest
  let (_, rest) ← readField 2 0 60 rest
  match rest with
  | '.' :: digits =>
      match digits.takeWhile Char.isDigit with
      | [] => none
      | _ => some (digits.dropWhile Char.isDigit)
  | rest => some rest

/-- Read over the offset of a time, if there is one. -/
def readOffset : List Char → Option (List Char)
  | [] => some []
  | char :: rest =>
      if char = 'Z' ∨ char = 'z' then some rest
      else if char = '+' ∨ char = '-' then do
        let (_, rest) ← readField 2 0 23 rest
        let (_, rest) ← readMark ':' rest
        let (_, rest) ← readField 2 0 59 rest
        some rest
      else some (char :: rest)

/-- Read over the time that follows a date, if there is one. -/
def readTimeOfDate : List Char → Option (List Char)
  | [] => some []
  | mark :: rest =>
      if mark = 'T' ∨ mark = 't' ∨ mark = ' ' then
        match readTime rest with
        | some rest => readOffset rest
        | none => some (mark :: rest)
      else some (mark :: rest)

/-- Read a date, a time, or both. -/
def readDateTime (text : List Char) : Option (Toml × List Char) := do
  let rest ←
    match readDate text with
    | some rest => readTimeOfDate rest
    | none => readTime text
  some (.dateTime (consumed text rest), rest)

/-- Read a truth value. -/
def readBoolean : Reader Toml
  | 't' :: 'r' :: 'u' :: 'e' :: rest => some (.boolean true, rest)
  | 'f' :: 'a' :: 'l' :: 's' :: 'e' :: rest => some (.boolean false, rest)
  | _ => none

/-- Read a value that is neither a string nor made of other values. -/
def readScalar (text : List Char) : Option (Toml × List Char) :=
  readDateTime text <|> readDecimal text <|> readSpecialFloat text <|> readInteger text <|>
    readBoolean text

end VtableHeader.Toml
