/-!
# Digits

Numbers in documents are runs of digits in base two, eight, ten or sixteen.
This module gives the value of a digit and of a run of digits; it is shared by
all readers of numbers.
-/

namespace VtableHeader.Numeral

/-- The value of a digit, with letters of either case for ten to fifteen. -/
def digitValue? (char : Char) : Option Nat :=
  if '0' ≤ char ∧ char ≤ '9' then some (char.toNat - '0'.toNat)
  else if 'a' ≤ char ∧ char ≤ 'f' then some (char.toNat - 'a'.toNat + 10)
  else if 'A' ≤ char ∧ char ≤ 'F' then some (char.toNat - 'A'.toNat + 10)
  else none

/-- Whether `char` is a digit of base `base`. -/
def isDigitOf (base : Nat) (char : Char) : Bool :=
  match digitValue? char with
  | some value => value < base
  | none => false

/-- The number that `digits` spells in base `base`, continuing from `start`. -/
def ofDigitsFrom (base start : Nat) (digits : List Char) : Nat :=
  digits.foldl (fun total digit => total * base + (digitValue? digit).getD 0) start

/-- The number that `digits` spells in base `base`. -/
def ofDigits (base : Nat) (digits : List Char) : Nat :=
  ofDigitsFrom base 0 digits

end VtableHeader.Numeral
