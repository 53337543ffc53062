import VtableHeader.Numeral.Binary64
import VtableHeader.Numeral.Digits

/-!
# JSON values

Objects keep their members in the order of the document, repeated keys included,
because a repeated key is an error only where it is known.  Numbers keep their
digits: no number is ever rounded, and only its range is checked.
-/

namespace VtableHeader

/-- A number as a document spells it: sign, digits before and after the point,
and the exponent if there is one. -/
structure Json.Number where
  negative : Bool := false
  whole : List Char
  fraction : List Char := []
  exponent : Option Int := none
  deriving DecidableEq, Repr

/-- A JSON value. -/
inductive Json where
  | null
  | bool (value : Bool)
  | number (value : Json.Number)
  | string (text : String)
  | array (items : List Json)
  | object (members : List (String × Json))
  deriving Repr

namespace Json

namespace Number

/-- A natural number as a JSON number. -/
def ofNat (value : Nat) : Number :=
  { whole := Nat.toDigits 10 value }

/-- The natural number that is spelled without sign, point and exponent. -/
def toNat? (number : Number) : Option Nat :=
  if number.negative || !number.fraction.isEmpty || number.exponent.isSome then none
  else some (Numeral.ofDigits 10 number.whole)

/-- Read on through `digits` as long as the significand fits in sixty-four bits;
what does not fit is left over. -/
def takeDigits (significand : Nat) : List Char → Nat × List Char
  | [] => (significand, [])
  | digit :: rest =>
      let next := Numeral.ofDigitsFrom 10 significand [digit]
      if next < UInt64.size then takeDigits next rest else (significand, digit :: rest)

/-- Whether the number has a finite double-precision value.  Digits of the whole
part beyond the significand only scale it, and further digits of the fraction
are dropped. -/
def isFinite (number : Number) : Bool :=
  let whole := takeDigits 0 number.whole
  let all := takeDigits whole.1 number.fraction
  let scale : Int := whole.2.length - (number.fraction.length - all.2.length)
  Numeral.Binary64.productIsFinite all.1 (scale + number.exponent.getD 0)

end Number

/-- The text of a string. -/
def string? : Json → Option String
  | .string text => some text
  | _ => none

/-- The truth value of a boolean. -/
def bool? : Json → Option Bool
  | .bool value => some value
  | _ => none

/-- The items of an array, each of them decoded. -/
def arrayOf? {α : Type} (decode : Json → Option α) : Json → Option (List α)
  | .array items => items.mapM decode
  | _ => none

/-- A value that is either `null` or decoded. -/
def nullable? {α : Type} (decode : Json → Option α) : Json → Option (Option α)
  | .null => some none
  | json => (decode json).map some

/-- The only value of a member; `none` if the key is repeated. -/
def uniqueMember? (members : List (String × Json)) (key : String) : Option (Option Json) :=
  match members.filter (·.1 == key) with
  | [] => some none
  | [member] => some (some member.2)
  | _ => none

/-- The values of a record with the given keys, one for each key.  A record is
written as an object, which may have further members but must not repeat a key
of the record, or as an array of the leading values in the order of the keys. -/
def record? (keys : List String) : Json → Option (List (Option Json))
  | .object members => keys.mapM (uniqueMember? members)
  | .array items =>
      if items.length ≤ keys.length then
        some (items.map some ++ List.replicate (keys.length - items.length) none)
      else none
  | _ => none

/-- Decode a value of a record that must be there. -/
def required {α : Type} (decode : Json → Option α) : Option Json → Option α
  | some json => decode json
  | none => none

/-- Decode a value of a record that stands for `default` when it is missing. -/
def defaulting {α : Type} (default : α) (decode : Json → Option α) : Option Json → Option α
  | some json => decode json
  | none => some default

end Json

end VtableHeader
