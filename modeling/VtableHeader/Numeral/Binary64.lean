/-!
# The range of double-precision numbers

A document may spell numbers that no double-precision number can hold.  The
readers refuse those, so this module decides, in exact arithmetic, which
products and which decimals round to infinity.
-/

namespace VtableHeader.Numeral.Binary64

/-- The least real number that rounds to infinity: half a unit above the largest
finite double-precision number. -/
def overflowBound : Nat := Nat.pow 2 1024 - Nat.pow 2 970

/-- `value` rounded to fifty-three significant bits, ties to even. -/
def nearest (value : Nat) : Nat :=
  let unit := Nat.pow 2 (value.log2 + 1 - 53)
  let quotient := value / unit
  let remainder := value % unit
  let roundUp := unit < 2 * remainder || (2 * remainder == unit && quotient % 2 == 1)
  (if roundUp then quotient + 1 else quotient) * unit

/-- Whether the product of `significand` and the power of ten `exponent`, both
rounded first, stays finite.  No power of ten above the 308th is representable. -/
def productIsFinite (significand : Nat) (exponent : Int) : Bool :=
  significand == 0 || exponent < 0 ||
    (exponent ≤ 308 &&
      nearest significand * nearest (Nat.pow 10 exponent.toNat) < overflowBound)

/-- Whether the decimal `digits · 10 ^ exponent` rounds to a finite number.  Sizes
far from the bound are decided without computing the power. -/
def decimalIsFinite (digits : Nat) (exponent : Int) : Bool :=
  let size := (Nat.toDigits 10 digits).length + exponent
  digits == 0 || size ≤ 308 ||
    (size ≤ 310 &&
      digits * Nat.pow 10 exponent.toNat < overflowBound * Nat.pow 10 (-exponent).toNat)

end VtableHeader.Numeral.Binary64
