import PluginDiscovery.Json.Reader

/-!
# Scalars of TOML documents

What a TOML document writes without quotes: truth values, whole numbers, numbers with a point or an
exponent, dates and times; and the strings it writes with them. A value is kept as the JSON value of
the same worth, a date or a time as its text in normal form.
-/

namespace PluginDiscovery.Toml

/-! ## 1. Digits -/

/-- Whether a character is a decimal digit. -/
def isDigit (c : Char) : Bool :=
  decide ('0' ≤ c) && decide (c ≤ '9')

/-- The value of a digit in a base up to sixteen. -/
def digitIn? (base : Nat) (c : Char) : Option Nat :=
  (Json.hexDigit? c).filter fun d => decide (d < base)

/-- A run of digits in a base, where an underscore may stand between two of them, as a number. -/
def digitRun? (base : Nat) (cs : List Char) : Option Nat :=
  go 0 false cs
where
  /-- The digits from here on, `n` being the number so far; `after` tells whether a digit stands
      just before, which an underscore and the end ask for. -/
  go (n : Nat) (after : Bool) : List Char → Option Nat
    | [] => if after then some n else none
    | c :: cs =>
      if c = '_' then (if after then go n false cs else none)
      else
        match digitIn? base c with
        | some d => go (n * base + d) true cs
        | none => none

/-- How many digits a run has. -/
def digitsIn (cs : List Char) : Nat :=
  (cs.filter (· ≠ '_')).length

/-! ## 2. Numbers -/

/-- A sign at the beginning of a text, and the text after it. -/
def sign (cs : List Char) : Bool × List Char :=
  match cs with
  | '+' :: rest => (false, rest)
  | '-' :: rest => (true, rest)
  | _ => (false, cs)

/-- A whole number within the signed range of 64 bits. -/
def within64 (i : Int) : Option Json :=
  if -(Int.pow 2 63) ≤ i ∧ i < Int.pow 2 63 then some (.integer i) else none

/-- A decimal run that begins with no superfluous zero. -/
def decimal? (cs : List Char) : Option Nat :=
  match cs with
  | '0' :: _ :: _ => none
  | _ => digitRun? 10 cs

/-- A whole number, in base ten with an optional sign, or in base sixteen, eight or two after the
    mark of that base. -/
def integer? (cs : List Char) : Option Json :=
  match cs with
  | '0' :: 'x' :: rest => (digitRun? 16 rest).bind fun n => within64 n
  | '0' :: 'o' :: rest => (digitRun? 8 rest).bind fun n => within64 n
  | '0' :: 'b' :: rest => (digitRun? 2 rest).bind fun n => within64 n
  | _ =>
    let (negative, rest) := sign cs
    (decimal? rest).bind fun n => within64 (if negative then -(n : Int) else n)

/-- The value of the exponent part of a number; no exponent is worth zero. -/
def exponent? (cs : List Char) : Option Int :=
  match cs with
  | [] => some 0
  | _ :: rest =>
    let (negative, rest) := sign rest
    (digitRun? 10 rest).map fun n => if negative then -(n : Int) else n

/-- A number with a point or an exponent, or one of the words for no number and for infinity. A
    number beyond the range is none. -/
def float? (cs : List Char) : Option Json :=
  let (negative, rest) := sign cs
  if rest = "inf".toList then some (.float (.infinite negative))
  else if rest = "nan".toList then some (.float .nan)
  else
    let isMark (c : Char) : Bool := c = 'e' || c = 'E'
    let body := rest.takeWhile fun c => !isMark c
    let tail := rest.dropWhile fun c => !isMark c
    let whole := body.takeWhile (· ≠ '.')
    let fraction := body.dropWhile (· ≠ '.')
    if tail.isEmpty && fraction.isEmpty then none
    else do
      let w ← decimal? whole
      let (f, places) ←
        match fraction with
        | [] => some (0, 0)
        | _ :: ds => (digitRun? 10 ds).map fun f => (f, digitsIn ds)
      let e ← exponent? tail
      let x := Binary64.ofNumeral ⟨negative, w * Nat.pow 10 places + f, e - (places : Int)⟩
      if x.isInfinite then none else some (.float x)

/-! ## 3. Dates and times -/

/-- A number of exactly so many digits at the beginning of a text, and the text after it. -/
def fixed? : Nat → List Char → Option (Nat × List Char)
  | n, cs =>
    let ds := cs.take n
    if ds.length = n ∧ ds.all isDigit then
      some (ds.foldl (fun v c => v * 10 + (c.toNat - 48)) 0, cs.drop n)
    else none

/-- A number written with at least so many digits. -/
def padded (width n : Nat) : List Char :=
  let ds := Nat.toDigits 10 n
  List.replicate (width - ds.length) '0' ++ ds

/-- How many days a month has. -/
def daysIn (year month : Nat) : Nat :=
  if month = 2 then
    (if year % 4 = 0 ∧ (year % 100 ≠ 0 ∨ year % 400 = 0) then 29 else 28)
  else if month = 4 ∨ month = 6 ∨ month = 9 ∨ month = 11 then 30
  else 31

/-- A date at the beginning of a text, in normal form, and the text after it. -/
def date? (cs : List Char) : Option (List Char × List Char) := do
  let (year, rest) ← fixed? 4 cs
  match rest with
  | '-' :: rest =>
    let (month, rest) ← fixed? 2 rest
    match rest with
    | '-' :: rest =>
      let (day, rest) ← fixed? 2 rest
      if 1 ≤ month ∧ month ≤ 12 ∧ 1 ≤ day ∧ day ≤ daysIn year month then
        some (padded 4 year ++ ['-'] ++ padded 2 month ++ ['-'] ++ padded 2 day, rest)
      else none
    | _ => none
  | _ => none

/-- The fraction of a second at the beginning of a text, in normal form, and the text after it; it
    may be missing. Nine digits are kept, and of the zeros at the end only one that stands alone. -/
def fraction? (cs : List Char) : Option (List Char × List Char) :=
  match cs with
  | '.' :: rest =>
    let ds := rest.takeWhile isDigit
    let kept := ((ds.take 9).reverse.dropWhile (· = '0')).reverse
    if ds.isEmpty then none
    else some ('.' :: (if kept.isEmpty then ['0'] else kept), rest.dropWhile isDigit)
  | _ => some ([], cs)

/-- A time of day at the beginning of a text, in normal form, and the text after it. The seconds may
    be missing, and then they are missing in the normal form too. -/
def time? (cs : List Char) : Option (List Char × List Char) := do
  let (hour, rest) ← fixed? 2 cs
  match rest with
  | ':' :: rest =>
    let (minute, rest) ← fixed? 2 rest
    if 23 < hour ∨ 59 < minute then none
    else
      let front := padded 2 hour ++ [':'] ++ padded 2 minute
      match rest with
      | ':' :: rest =>
        let (second, rest) ← fixed? 2 rest
        let (fraction, rest) ← fraction? rest
        if 60 < second then none
        else some (front ++ [':'] ++ padded 2 second ++ fraction, rest)
      | _ => some (front, rest)
  | _ => none

/-- The offset from universal time that a text is, in normal form; it may be missing. -/
def offset? (cs : List Char) : Option (List Char) :=
  match cs with
  | [] => some []
  | ['Z'] => some ['Z']
  | ['z'] => some ['Z']
  | c :: rest =>
    if c = '+' ∨ c = '-' then do
      let (hour, rest) ← fixed? 2 rest
      match rest with
      | ':' :: rest =>
        let (minute, rest) ← fixed? 2 rest
        if rest ≠ [] ∨ 23 < hour ∨ 59 < minute then none
        else
          let mark := if hour = 0 ∧ minute = 0 then '+' else c
          some (mark :: padded 2 hour ++ [':'] ++ padded 2 minute)
      | _ => none
    else none

/-- A date, a time of day, or both with an optional offset. -/
def datetime? (cs : List Char) : Option Json :=
  let text (cs : List Char) : Json := .text (String.ofList cs)
  match date? cs with
  | some (d, []) => some (text d)
  | some (d, c :: rest) =>
    if c = 'T' ∨ c = 't' ∨ c = ' ' then do
      let (t, rest) ← time? rest
      let o ← offset? rest
      some (text (d ++ ['T'] ++ t ++ o))
    else none
  | none =>
    match time? cs with
    | some (t, []) => some (text t)
    | _ => none

/-! ## 4. Unquoted values -/

/-- Whether a character may be part of an unquoted value. -/
def isUnquoted (c : Char) : Bool :=
  isDigit c || (decide ('a' ≤ c) && decide (c ≤ 'z')) || (decide ('A' ≤ c) && decide (c ≤ 'Z'))
    || c = '+' || c = '-' || c = '_' || c = '.' || c = ':'

/-- The unquoted value at the beginning of a text, and the text after it. A blank between a date and
    a time belongs to the value. -/
def unquotedRun (cs : List Char) : List Char × List Char :=
  let run := cs.takeWhile isUnquoted
  let rest := cs.dropWhile isUnquoted
  match rest with
  | ' ' :: d :: more =>
    if run.length = 10 ∧ (date? run).isSome ∧ isDigit d then
      (run ++ ' ' :: (d :: more).takeWhile isUnquoted, (d :: more).dropWhile isUnquoted)
    else (run, rest)
  | _ => (run, rest)

/-- What an unquoted text stands for. -/
def unquoted? (cs : List Char) : Option Json :=
  if cs = "true".toList then some (.boolean true)
  else if cs = "false".toList then some (.boolean false)
  else (integer? cs).or ((float? cs).or (datetime? cs))

/-! ## 5. Strings -/

/-- Whether a character may stand in a string or a comment as it is. -/
def isAllowed (c : Char) : Bool :=
  c = '\t' || (decide (0x20 ≤ c.toNat) && c.toNat != 0x7F)

/-- The character of an escape of one letter. -/
def simpleEscape? (c : Char) : Option Char :=
  if c = '"' ∨ c = '\\' then some c
  else if c = 'b' then some '\x08'
  else if c = 't' then some '\t'
  else if c = 'n' then some '\n'
  else if c = 'f' then some '\x0c'
  else if c = 'r' then some '\r'
  else if c = 'e' then some '\x1b'
  else none

/-- The character with the code that exactly so many hexadecimal digits give, and the text after
    them. -/
def coded? (width : Nat) (cs : List Char) : Option (Char × List Char) := do
  let ds ← (cs.take width).mapM Json.hexDigit?
  let n : Nat := ds.foldl (fun v d => v * 16 + d) 0
  if ds.length = width ∧ (n < 0xD800 ∨ (0xDFFF < n ∧ n < 0x110000)) then
    some (Char.ofNat n, cs.drop width)
  else none

/-- The character of the escape after a backslash, and the text after it. -/
def escape? (cs : List Char) : Option (Char × List Char) :=
  match cs with
  | 'x' :: rest => coded? 2 rest
  | 'u' :: rest => coded? 4 rest
  | 'U' :: rest => coded? 8 rest
  | c :: rest => (simpleEscape? c).map fun e => (e, rest)
  | [] => none

/-- A basic string whose opening quote is read, given its characters so far in reverse, and the text
    after it. -/
def basic : Nat → List Char → List Char → Option (List Char × List Char)
  | 0, _, _ => none
  | _, _, [] => none
  | fuel + 1, done, c :: cs =>
    if c = '"' then some (done.reverse, cs)
    else if c = '\\' then
      match escape? cs with
      | some (e, rest) => basic fuel (e :: done) rest
      | none => none
    else if isAllowed c then basic fuel (c :: done) cs
    else none

/-- A literal string whose opening quote is read, and the text after it. -/
def literal (cs : List Char) : Option (List Char × List Char) :=
  let body := cs.takeWhile (· ≠ '\'')
  match cs.dropWhile (· ≠ '\'') with
  | _ :: rest => if body.all isAllowed then some (body, rest) else none
  | [] => none

/-- A text without the line break at its beginning. -/
def dropBreak (cs : List Char) : List Char :=
  match cs with
  | '\n' :: rest => rest
  | '\r' :: '\n' :: rest => rest
  | _ => cs

/-- The text after blanks and line breaks. A carriage return is part of a line break only before a
    line feed. -/
def dropFolded : List Char → List Char
  | ' ' :: cs => dropFolded cs
  | '\t' :: cs => dropFolded cs
  | '\n' :: cs => dropFolded cs
  | '\r' :: '\n' :: cs => dropFolded cs
  | cs => cs

/-- The text after blanks and line breaks, if a line break is the first thing after blanks. -/
def foldedLine? (cs : List Char) : Option (List Char) :=
  let rest := cs.dropWhile fun c => c = ' ' || c = '\t'
  match rest with
  | '\n' :: _ => some (dropFolded rest)
  | '\r' :: '\n' :: _ => some (dropFolded rest)
  | _ => none

/-- A string over several lines whose opening quotes are read, given its characters so far in
    reverse, and the text after it. Escapes count where `escapes` is set. Up to two quotes may stand
    directly before the closing ones. -/
def multiline (quote : Char) (escapes : Bool) : Nat → List Char → List Char →
    Option (List Char × List Char)
  | 0, _, _ => none
  | _, _, [] => none
  | fuel + 1, done, c :: cs =>
    if c = quote then
      let run := (c :: cs).takeWhile (· = quote)
      let rest := (c :: cs).dropWhile (· = quote)
      if run.length < 3 then multiline quote escapes fuel (run ++ done) rest
      else if 5 < run.length then none
      else some ((run.drop 3 ++ done).reverse, rest)
    else if escapes && c = '\\' then
      match foldedLine? cs with
      | some rest => multiline quote escapes fuel done rest
      | none =>
        match escape? cs with
        | some (e, rest) => multiline quote escapes fuel (e :: done) rest
        | none => none
    else if c = '\n' then multiline quote escapes fuel (c :: done) cs
    else if c = '\r' then
      match cs with
      | '\n' :: rest => multiline quote escapes fuel ('\n' :: c :: done) rest
      | _ => none
    else if isAllowed c then multiline quote escapes fuel (c :: done) cs
    else none

/-- The quoted string at the beginning of a text, on one line, and the text after it. -/
def quotedLine? (cs : List Char) : Option (String × List Char) :=
  match cs with
  | '"' :: rest => (basic (rest.length + 1) [] rest).map fun (s, r) => (String.ofList s, r)
  | '\'' :: rest => (literal rest).map fun (s, r) => (String.ofList s, r)
  | _ => none

/-- The quoted string at the beginning of a text, and the text after it. -/
def quoted? (cs : List Char) : Option (String × List Char) :=
  match cs with
  | '"' :: '"' :: '"' :: rest =>
    (multiline '"' true (rest.length + 1) [] (dropBreak rest)).map fun (s, r) =>
      (String.ofList s, r)
  | '\'' :: '\'' :: '\'' :: rest =>
    (multiline '\'' false (rest.length + 1) [] (dropBreak rest)).map fun (s, r) =>
      (String.ofList s, r)
  | _ => quotedLine? cs

end PluginDiscovery.Toml
