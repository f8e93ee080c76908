/-!
# Floating-point numbers of 64 bits

A number is kept as what it is worth: a sign, a whole mantissa and a power of two. Reading a
decimal numeral is one exact rounding (`ofRatio`): the quotient is brought to a mantissa of 53 bits,
or to the smallest exponent there is, and rounded to the nearest, a half to the even neighbour.

* `Binary64`: the numbers, the two infinities and the absent value;
* `Numeral`: a decimal numeral as read, digits and power of ten;
* `Binary64.ofNumeral`: the number nearest to a numeral.
-/

namespace PluginDiscovery

/-- A floating-point number. `finite neg m e` is worth `± m · 2^e`. -/
inductive Binary64 where
  | nan
  | infinite (negative : Bool)
  | finite (negative : Bool) (mantissa : Nat) (exponent : Int)
  deriving DecidableEq, Repr

/-- A decimal numeral: `± digits · 10^exponent`. -/
structure Numeral where
  negative : Bool
  digits : Nat
  exponent : Int
  deriving DecidableEq, Repr

namespace Binary64

/-- The least exponent of a finite number. -/
def minExponent : Int := -1074

/-- The greatest exponent of a finite number. -/
def maxExponent : Int := 971

/-- A quotient rounded to the nearest whole number, a half to the even neighbour. -/
def roundDiv (num den : Nat) : Nat :=
  let q := num / den
  let r := num % den
  if 2 * r < den then q
  else if den < 2 * r then q + 1
  else if q % 2 = 0 then q else q + 1

/-- The quotient `num / den` divided by `2^e`, again as a quotient. -/
def scaled (num den : Nat) (e : Int) : Nat × Nat :=
  if e < 0 then (num * Nat.pow 2 (-e).toNat, den) else (num, den * Nat.pow 2 e.toNat)

/-- The exponent at which a positive quotient has a mantissa of 53 bits, or the least one. -/
def exponentOf (num den : Nat) : Int :=
  let guess : Int := (num.log2 : Int) - (den.log2 : Int) - 52
  let s := scaled num den guess
  max minExponent (if s.1 < Nat.pow 2 52 * s.2 then guess - 1 else guess)

/-- The number nearest to `± num / den`, for a positive `den`. -/
def ofRatio (negative : Bool) (num den : Nat) : Binary64 :=
  if num = 0 then .finite negative 0 minExponent
  else
    let e := exponentOf num den
    let m := roundDiv (scaled num den e).1 (scaled num den e).2
    let (m, e) := if m = Nat.pow 2 53 then (Nat.pow 2 52, e + 1) else (m, e)
    if maxExponent < e then .infinite negative else .finite negative m e

/-- How many decimal digits a number is written with. -/
def digitCount (n : Nat) : Nat :=
  (Nat.toDigits 10 n).length

/-- The number nearest to a numeral. A numeral far beyond the range is decided by its magnitude
    alone, so that no power of its exponent is computed. -/
def ofNumeral (n : Numeral) : Binary64 :=
  if n.digits = 0 then .finite n.negative 0 minExponent
  else
    let magnitude := (digitCount n.digits : Int) + n.exponent
    if 310 < magnitude then .infinite n.negative
    else if magnitude < -330 then .finite n.negative 0 minExponent
    else if n.exponent < 0 then ofRatio n.negative n.digits (Nat.pow 10 (-n.exponent).toNat)
    else ofRatio n.negative (n.digits * Nat.pow 10 n.exponent.toNat) 1

/-- Whether the number differs from zero; the absent value does. -/
def isNonzero : Binary64 → Bool
  | .finite _ m _ => m != 0
  | _ => true

/-- Whether the number is one of the infinities. -/
def isInfinite : Binary64 → Bool
  | .infinite _ => true
  | _ => false

end Binary64

end PluginDiscovery
