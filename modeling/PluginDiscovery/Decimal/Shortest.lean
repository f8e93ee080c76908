import PluginDiscovery.Decimal.Binary64

/-!
# The shortest decimal numeral of a floating-point number

A number is written with the fewest digits that read back as that number, and of the numerals with
so many digits with the nearest one. For 1, 2, … 17 digits the two neighbours of the value on the
decimal grid with so many digits are tested in exact arithmetic; the first grid with a neighbour
inside the interval of the reals that round to the number wins.

* `Span`: the interval of a finite number, its ends and the value over one denominator;
* `shortest`: the digits and the power of ten;
* `FloatText`: the choices a written form makes, and `FloatText.write` which follows them.
-/

namespace PluginDiscovery

/-- The reals that round to a number: `low / den` to `high / den` around `value / den`; the ends
    belong to it when `closed` is set. -/
structure Span where
  low : Nat
  value : Nat
  high : Nat
  den : Nat
  closed : Bool

namespace Span

/-- The interval of `m · 2^e`, for a positive mantissa. The neighbour below a power of two is
    only half as far away as the one above. -/
def ofFinite (m : Nat) (e : Int) : Span :=
  let below := if m = Nat.pow 2 52 ∧ Binary64.minExponent < e then 4 * m - 1 else 4 * m - 2
  let up := if 2 ≤ e then Nat.pow 2 (e - 2).toNat else 1
  let den := if 2 ≤ e then 1 else Nat.pow 2 (2 - e).toNat
  ⟨below * up, 4 * m * up, (4 * m + 2) * up, den, m % 2 == 0⟩

/-- The interval divided by `10^k`. -/
def shift (s : Span) (k : Int) : Span :=
  if k < 0 then
    let p := Nat.pow 10 (-k).toNat
    { s with low := s.low * p, value := s.value * p, high := s.high * p }
  else { s with den := s.den * Nat.pow 10 k.toNat }

/-- Whether the whole number `c` lies in the interval. -/
def holds (s : Span) (c : Nat) : Bool :=
  if s.closed then decide (s.low ≤ c * s.den) && decide (c * s.den ≤ s.high)
  else decide (s.low < c * s.den) && decide (c * s.den < s.high)

/-- The whole number next to the value that lies in the interval, the nearer one if both do. An
    exact tie goes up when `tieUp` is set and to the even one otherwise. -/
def neighbour? (s : Span) (tieUp : Bool) : Option Nat :=
  let c := s.value / s.den
  let r := s.value % s.den
  match s.holds c, s.holds (c + 1) with
  | false, false => none
  | true, false => some c
  | false, true => some (c + 1)
  | true, true =>
    if 2 * r < s.den then some c
    else if s.den < 2 * r then some (c + 1)
    else if tieUp || c % 2 == 1 then some (c + 1) else some c

/-- The power of ten of the leading digit of the value. -/
def magnitude (s : Span) : Int :=
  if s.den ≤ s.value then (Binary64.digitCount (s.value / s.den) : Int) - 1
  else
    let c := (s.den + s.value - 1) / s.value
    if c ≤ 1 then 0 else -(Binary64.digitCount (c - 1) : Int)

end Span

/-- Digits and power of ten, the digits without zeros at their end; at most `fuel` are dropped. -/
def dropZeros : Nat → Nat → Int → Nat × Int
  | 0, d, k => (d, k)
  | fuel + 1, d, k => if d % 10 = 0 ∧ d ≠ 0 then dropZeros fuel (d / 10) (k + 1) else (d, k)

/-- The shortest numeral of a finite nonzero number, as digits and power of ten. -/
def shortest (tieUp : Bool) (m : Nat) (e : Int) : Nat × Int :=
  let s := Span.ofFinite m e
  let top := s.magnitude
  let found := (List.range 17).findSome? fun (n : Nat) =>
    let k := top - (n : Int)
    ((s.shift k).neighbour? tieUp).map fun c => (c, k)
  match found with
  | some (c, k) => dropZeros 20 c k
  | none => (0, 0)

/-- The choices of a written form: where an exact tie goes, whether a whole number still gets a
    point and a zero, and at which powers of ten of the leading digit there is no exponent. -/
structure FloatText where
  tieUp : Bool
  pointed : Bool
  positional : Int → Bool

namespace FloatText

/-- Digits with the decimal point where the power of ten puts it. -/
def place (digits : List Char) (k : Int) : List Char :=
  if 0 ≤ k then digits ++ List.replicate k.toNat '0'
  else
    let n := (-k).toNat
    if n < digits.length then
      digits.take (digits.length - n) ++ ['.'] ++ digits.drop (digits.length - n)
    else ['0', '.'] ++ List.replicate (n - digits.length) '0' ++ digits

/-- Digits in scientific notation: one digit before the point, and an exponent with its sign. -/
def exponential (digits : List Char) (top : Int) : List Char :=
  let point := if digits.length ≤ 1 then digits else digits.take 1 ++ ['.'] ++ digits.drop 1
  point ++ ['e', if top < 0 then '-' else '+'] ++ Nat.toDigits 10 top.natAbs

/-- The digits of a finite number, without its sign. -/
def magnitude (style : FloatText) (m : Nat) (e : Int) : List Char :=
  if m = 0 then ['0']
  else
    let (d, k) := shortest style.tieUp m e
    let digits := Nat.toDigits 10 d
    let top := (digits.length : Int) - 1 + k
    if style.positional top then place digits k else exponential digits top

/-- A number in the form that the choices describe. -/
def write (style : FloatText) (x : Binary64) : String :=
  match x with
  | .nan => "NaN"
  | .infinite false => "inf"
  | .infinite true => "-inf"
  | .finite negative m e =>
    let body := (if negative then ['-'] else []) ++ magnitude style m e
    let whole := style.pointed && !(body.contains '.') && !(body.contains 'e')
    String.ofList (if whole then body ++ ['.', '0'] else body)

/-- A setting read from a number: never an exponent, no point in a whole number. -/
def setting : FloatText := ⟨true, false, fun _ => true⟩

/-- A number named in an error message: never an exponent, always a point. -/
def described : FloatText := ⟨true, true, fun _ => true⟩

/-- A number of a data document named in an error message: an exponent below `10^-5` and from
    `10^16` on, always a point without one. -/
def document : FloatText := ⟨false, true, fun top => decide (-5 ≤ top) && decide (top ≤ 15)⟩

end FloatText

end PluginDiscovery
