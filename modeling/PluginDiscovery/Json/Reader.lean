import PluginDiscovery.Json.Basic

/-!
# Reading JSON

The reader takes a whole document and gives its value, or nothing when the text is no JSON. Values
may be nested 127 deep; of two equal keys of an object the later one counts.

A number with a fraction or an exponent, and a whole number too large for 64 bits, is read in two
roundings: its leading digits as one whole number of 64 bits, then that number multiplied or divided
by a power of ten. A number beyond the range makes the document unreadable.
-/

namespace PluginDiscovery.Json

/-! ## 1. Characters -/

/-- Whether a character may stand between tokens. -/
def isSpace (c : Char) : Bool :=
  c = ' ' || c = '\t' || c = '\n' || c = '\r'

/-- The text after the blanks at its beginning. -/
def skip (cs : List Char) : List Char :=
  cs.dropWhile isSpace

/-- The value of a hexadecimal digit. -/
def hexDigit? (c : Char) : Option Nat :=
  if '0' ≤ c ∧ c ≤ '9' then some (c.toNat - 48)
  else if 'a' ≤ c ∧ c ≤ 'f' then some (c.toNat - 87)
  else if 'A' ≤ c ∧ c ≤ 'F' then some (c.toNat - 55)
  else none

/-- A number of four hexadecimal digits at the beginning of a text, and the text after it. -/
def hexFour? : List Char → Option (Nat × List Char)
  | a :: b :: c :: d :: rest => do
    let n := (← hexDigit? a) * 4096 + (← hexDigit? b) * 256 + (← hexDigit? c) * 16 + (← hexDigit? d)
    some (n, rest)
  | _ => none

/-- The character of a `\u` escape, whose digits begin the text, and the text after it. A high
    surrogate needs a second escape with a low one. -/
def unicodeEscape? (cs : List Char) : Option (Char × List Char) := do
  let (n, rest) ← hexFour? cs
  if 0xD800 ≤ n ∧ n ≤ 0xDBFF then
    match rest with
    | '\\' :: 'u' :: more =>
      let (m, rest) ← hexFour? more
      if 0xDC00 ≤ m ∧ m ≤ 0xDFFF then
        some (Char.ofNat (0x10000 + (n - 0xD800) * 0x400 + (m - 0xDC00)), rest)
      else none
    | _ => none
  else if 0xDC00 ≤ n ∧ n ≤ 0xDFFF then none
  else some (Char.ofNat n, rest)

/-- The character of an escape of one letter. -/
def simpleEscape? (c : Char) : Option Char :=
  if c = '"' ∨ c = '\\' ∨ c = '/' then some c
  else if c = 'b' then some '\x08'
  else if c = 'f' then some '\x0c'
  else if c = 'n' then some '\n'
  else if c = 'r' then some '\r'
  else if c = 't' then some '\t'
  else none

/-- The characters of a string whose opening quote is read, given the ones so far in reverse, and
    the text after the closing quote. -/
def characters : Nat → List Char → List Char → Option (List Char × List Char)
  | 0, _, _ => none
  | _, _, [] => none
  | fuel + 1, done, c :: cs =>
    if c = '"' then some (done.reverse, cs)
    else if c = '\\' then
      match cs with
      | 'u' :: rest =>
        match unicodeEscape? rest with
        | some (u, rest) => characters fuel (u :: done) rest
        | none => none
      | e :: rest =>
        match simpleEscape? e with
        | some u => characters fuel (u :: done) rest
        | none => none
      | [] => none
    else if c.toNat < 0x20 then none
    else characters fuel (c :: done) cs

/-! ## 2. Numbers -/

/-- The digits at the beginning of a text, as their values, and the text after them. -/
def digits : List Char → List Nat × List Char
  | [] => ([], [])
  | c :: cs =>
    if '0' ≤ c ∧ c ≤ '9' then ((c.toNat - 48) :: (digits cs).1, (digits cs).2) else ([], c :: cs)

/-- The greatest whole number of 64 bits. -/
def maxWord : Nat := Nat.pow 2 64 - 1

/-- Digits put behind a number as long as it stays within 64 bits, and the digits left over. -/
def gather : Nat → List Nat → Nat × List Nat
  | n, [] => (n, [])
  | n, d :: ds => if n * 10 + d ≤ maxWord then gather (n * 10 + d) ds else (n, d :: ds)

/-- A number multiplied by a power of ten that is itself rounded, and rounded again. A product
    beyond the range is none. -/
def timesPower (x : Binary64) (k : Nat) : Option Binary64 :=
  match x, Binary64.ofNumeral ⟨false, 1, k⟩ with
  | .finite _ m e, .finite _ p q =>
    let exponent := e + q
    let product :=
      if exponent < 0 then Binary64.ofRatio false (m * p) (Nat.pow 2 (-exponent).toNat)
      else Binary64.ofRatio false (m * p * Nat.pow 2 exponent.toNat) 1
    if product.isInfinite then none else some product
  | _, _ => none

/-- A number divided by a power of ten that is itself rounded, and rounded again. -/
def overPower (x : Binary64) (k : Nat) : Binary64 :=
  match x, Binary64.ofNumeral ⟨false, 1, k⟩ with
  | .finite s m e, .finite _ p q =>
    let exponent := e - q
    if p = 0 then .finite s 0 Binary64.minExponent
    else if exponent < 0 then Binary64.ofRatio false m (p * Nat.pow 2 (-exponent).toNat)
    else Binary64.ofRatio false (m * Nat.pow 2 exponent.toNat) p
  | _, _ => x

/-- The greatest power of ten a number is multiplied or divided by in one step. -/
def maxPower : Nat := 308

/-- The number `significand · 10^exponent`, in steps of at most `maxPower` powers. -/
def scale : Nat → Binary64 → (exponent : Int) → Option Binary64
  | 0, x, _ => some x
  | fuel + 1, x, exponent =>
    if exponent.natAbs ≤ maxPower then
      if 0 ≤ exponent then timesPower x exponent.toNat else some (overPower x exponent.natAbs)
    else if !x.isNonzero then some x
    else if 0 ≤ exponent then none
    else scale fuel (overPower x maxPower) (exponent + (maxPower : Int))

/-- A number with its sign. -/
def signed (negative : Bool) : Binary64 → Binary64
  | .finite _ m e => .finite negative m e
  | x => x

/-- The value of a numeral with a fraction, an exponent or too many digits. -/
def floatOf (negative : Bool) (significand : Nat) (exponent : Int) : Option Json :=
  (scale 8 (Binary64.ofRatio false significand 1) exponent).map fun x => .float (signed negative x)

/-- The exponent part of a numeral whose value is `significand · 10^exponent` without it. -/
def exponentPart (negative : Bool) (significand : Nat) (exponent : Int) (cs : List Char) :
    Option (Json × List Char) := do
  let (minus, cs) :=
    match cs with
    | '+' :: rest => (false, rest)
    | '-' :: rest => (true, rest)
    | _ => (false, cs)
  let (ds, rest) := digits cs
  if ds.isEmpty then none
  else
    let given : Nat := ds.foldl (fun n d => n * 10 + d) 0
    if Nat.pow 2 31 ≤ given then
      if significand ≠ 0 ∧ !minus then none
      else some (.float (.finite negative 0 Binary64.minExponent), rest)
    else
      let j ← floatOf negative significand (if minus then exponent - (given : Int) else exponent + (given : Int))
      some (j, rest)

/-- What may follow the digits of a numeral: an exponent, or nothing. -/
def afterDigits (negative : Bool) (significand : Nat) (exponent : Int) (cs : List Char) :
    Option (Json × List Char) :=
  match cs with
  | 'e' :: rest => exponentPart negative significand exponent rest
  | 'E' :: rest => exponentPart negative significand exponent rest
  | _ => (floatOf negative significand exponent).map fun j => (j, cs)

/-- The numeral at the beginning of a text, its sign already read. -/
def numeral (negative : Bool) (cs : List Char) : Option (Json × List Char) :=
  let (whole, rest) := digits cs
  match whole with
  | [] => none
  | 0 :: _ :: _ => none
  | _ =>
    let (significand, dropped) := gather 0 whole
    match rest with
    | '.' :: more =>
      let (fraction, rest) := digits more
      if fraction.isEmpty then none
      else
        let (significand, left) := gather significand fraction
        let exponent : Int := (dropped.length : Int) - ((fraction.length - left.length : Nat) : Int)
        afterDigits negative significand exponent rest
    | c :: _ =>
      if c = 'e' ∨ c = 'E' ∨ !dropped.isEmpty then
        afterDigits negative significand dropped.length rest
      else some (wholeOf negative significand, rest)
    | [] =>
      if !dropped.isEmpty then afterDigits negative significand dropped.length rest
      else some (wholeOf negative significand, rest)
where
  /-- A whole number within 64 bits. A negative one below the signed range, and the negative zero,
      are no whole numbers. -/
  wholeOf (negative : Bool) (n : Nat) : Json :=
    if !negative then .integer n
    else if n = 0 ∨ Nat.pow 2 63 < n then .float (signed true (Binary64.ofRatio false n 1))
    else .integer (-(n : Int))

/-! ## 3. Values -/

/-- Fields with one more; an older one of the same key is replaced in its place. -/
def setField (key : String) (value : Json) : List (String × Json) → List (String × Json)
  | [] => [(key, value)]
  | (k, old) :: rest =>
    if k = key then (key, value) :: rest else (k, old) :: setField key value rest

/-- How deep values may be nested. -/
def maxDepth : Nat := 127

/-- The texts of the words. -/
def words : List (List Char × Json) :=
  [("null".toList, .null), ("true".toList, .boolean true), ("false".toList, .boolean false)]

/-- The word at the beginning of a text. -/
def word? (cs : List Char) : Option (Json × List Char) :=
  words.findSome? fun (w, j) => if w.isPrefixOf cs then some (j, cs.drop w.length) else none

mutual

/-- The value at the beginning of a text, and the text after it; `depth` is how deep values may
    still be nested. -/
def value (fuel depth : Nat) (cs : List Char) : Option (Json × List Char) :=
  match fuel with
  | 0 => none
  | fuel + 1 =>
    match skip cs with
    | [] => none
    | '"' :: rest =>
      (characters (rest.length + 1) [] rest).map fun (s, rest) => (.text (String.ofList s), rest)
    | '[' :: rest =>
      match depth with
      | 0 => none
      | depth + 1 =>
        match skip rest with
        | ']' :: rest => some (.array [], rest)
        | _ => items fuel depth [] rest
    | '\x7b' :: rest =>
      match depth with
      | 0 => none
      | depth + 1 =>
        match skip rest with
        | '\x7d' :: rest => some (.object [], rest)
        | _ => members fuel depth [] rest
    | '-' :: rest => numeral true rest
    | c :: rest => if '0' ≤ c ∧ c ≤ '9' then numeral false (c :: rest) else word? (c :: rest)

/-- The items of an array from the next one on, given the ones so far in reverse. -/
def items (fuel depth : Nat) (done : List Json) (cs : List Char) : Option (Json × List Char) :=
  match fuel with
  | 0 => none
  | fuel + 1 =>
    match value fuel depth cs with
    | none => none
    | some (j, rest) =>
      match skip rest with
      | ',' :: rest => items fuel depth (j :: done) rest
      | ']' :: rest => some (.array (j :: done).reverse, rest)
      | _ => none

/-- The members of an object from the next one on, given the ones so far. -/
def members (fuel depth : Nat) (done : List (String × Json)) (cs : List Char) :
    Option (Json × List Char) :=
  match fuel with
  | 0 => none
  | fuel + 1 =>
    match skip cs with
    | '"' :: rest =>
      match characters (rest.length + 1) [] rest with
      | none => none
      | some (key, rest) =>
        match skip rest with
        | ':' :: rest =>
          match value fuel depth rest with
          | none => none
          | some (j, rest) =>
            let done := setField (String.ofList key) j done
            match skip rest with
            | ',' :: rest => members fuel depth done rest
            | '\x7d' :: rest => some (.object done, rest)
            | _ => none
        | _ => none
    | _ => none

end

/-- The value of a document. -/
def parse? (s : String) : Option Json :=
  let cs := s.toList
  match value (2 * cs.length + 2) maxDepth cs with
  | some (j, rest) => if (skip rest).isEmpty then some j else none
  | none => none

end PluginDiscovery.Json
