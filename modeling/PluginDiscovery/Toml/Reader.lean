import PluginDiscovery.Toml.Scalar
import PluginDiscovery.Toml.Table

/-!
# Reading TOML

The reader takes a whole document and gives its table as a JSON object, or nothing when the text is
no document. Inline tables may go over several lines and end in a comma, as arrays may. Arrays and
inline tables may be nested 80 deep, and a dotted key may have 80 parts.
-/

namespace PluginDiscovery.Toml

/-! ## 1. Between tokens -/

/-- The text after blanks on the same line. -/
def skipBlanks (cs : List Char) : List Char :=
  cs.dropWhile fun c => c = ' ' || c = '\t'

/-- The text after a comment, which begins at the text if there is one. -/
def skipComment? (cs : List Char) : Option (List Char) :=
  match cs with
  | '#' :: rest =>
    let after := rest.dropWhile isAllowed
    match after with
    | [] => some []
    | '\n' :: _ => some after
    | '\r' :: '\n' :: _ => some after
    | _ => none
  | _ => some cs

/-- The text after blanks, line breaks and comments. Each step goes past one of them. -/
def skipLines : Nat → List Char → Option (List Char)
  | 0, _ => none
  | fuel + 1, cs =>
    match skipComment? (skipBlanks cs) with
    | none => none
    | some ('\n' :: rest) => skipLines fuel rest
    | some ('\r' :: '\n' :: rest) => skipLines fuel rest
    | some rest => some rest

/-- The text after blanks, line breaks and comments. -/
def skipAll (cs : List Char) : Option (List Char) :=
  skipLines (cs.length + 1) cs

/-- The text after the end of a line: blanks, a comment, and a line break or the end. -/
def endLine? (cs : List Char) : Option (List Char) :=
  match skipComment? (skipBlanks cs) with
  | some [] => some []
  | some ('\n' :: rest) => some rest
  | some ('\r' :: '\n' :: rest) => some rest
  | _ => none

/-! ## 2. Keys -/

/-- Whether a character may be part of a key without quotes. -/
def isBare (c : Char) : Bool :=
  isDigit c || (decide ('a' ≤ c) && decide (c ≤ 'z')) || (decide ('A' ≤ c) && decide (c ≤ 'Z'))
    || c = '_' || c = '-'

/-- One key, and the text after it. -/
def simpleKey? (cs : List Char) : Option (String × List Char) :=
  let bare := cs.takeWhile isBare
  if bare.isEmpty then quotedLine? cs else some (String.ofList bare, cs.dropWhile isBare)

/-- Keys with dots between them, given the ones so far in reverse, and the text after them. -/
def keysFrom : Nat → List String → List Char → Option (List String × List Char)
  | 0, _, _ => none
  | fuel + 1, done, cs =>
    match simpleKey? (skipBlanks cs) with
    | none => none
    | some (key, rest) =>
      match skipBlanks rest with
      | '.' :: rest => keysFrom fuel (key :: done) rest
      | rest => some ((key :: done).reverse, rest)

/-- How many parts a dotted key may have, and how deep arrays and inline tables may be nested. -/
def maxDepth : Nat := 80

/-- Keys with dots between them, and the text after them and the blanks that follow. -/
def keys? (cs : List Char) : Option (List String × List Char) :=
  (keysFrom (cs.length + 1) [] cs).filter fun (keys, _) => decide (keys.length ≤ maxDepth)

/-! ## 3. Values -/

mutual

/-- The value at the beginning of a text, and the text after it; `depth` is how deep arrays and
    inline tables may still be nested. -/
def value (fuel depth : Nat) (cs : List Char) : Option (Json × List Char) :=
  match fuel with
  | 0 => none
  | fuel + 1 =>
    match cs with
    | [] => none
    | '[' :: rest =>
      match depth with
      | 0 => none
      | depth + 1 => items fuel depth [] rest
    | '\x7b' :: rest =>
      match depth with
      | 0 => none
      | depth + 1 => members fuel depth [] rest
    | c :: rest =>
      if c = '"' ∨ c = '\'' then (quoted? (c :: rest)).map fun (s, r) => (.text s, r)
      else
        let (run, after) := unquotedRun (c :: rest)
        (unquoted? run).map fun j => (j, after)

/-- The items of an array from here on, given the ones so far in reverse. -/
def items (fuel depth : Nat) (done : List Json) (cs : List Char) : Option (Json × List Char) :=
  match fuel with
  | 0 => none
  | fuel + 1 =>
    match skipAll cs with
    | none => none
    | some (']' :: rest) => some (.array done.reverse, rest)
    | some rest =>
      match value fuel depth rest with
      | none => none
      | some (j, rest) =>
        match skipAll rest with
        | some (',' :: rest) => items fuel depth (j :: done) rest
        | some (']' :: rest) => some (.array (j :: done).reverse, rest)
        | _ => none

/-- The members of an inline table from here on, given the ones so far. -/
def members (fuel depth : Nat) (done : Entries) (cs : List Char) : Option (Json × List Char) :=
  match fuel with
  | 0 => none
  | fuel + 1 =>
    match skipAll cs with
    | none => none
    | some ('\x7d' :: rest) => some (.object (fieldsOf done), rest)
    | some rest =>
      match keys? rest with
      | some (key, '=' :: rest) =>
        match value fuel depth (skipBlanks rest) with
        | none => none
        | some (j, rest) =>
          match addKey j done key, skipAll rest with
          | some done, some (',' :: rest) => members fuel depth done rest
          | some done, some ('\x7d' :: rest) => some (.object (fieldsOf done), rest)
          | _, _ => none
      | _ => none

end

/-! ## 4. Documents -/

/-- The document from a line on, given the tables so far and the path of the open one. Each step
    reads one line. -/
def document : Nat → Entries → List String → List Char → Option Entries
  | 0, _, _, _ => none
  | fuel + 1, tables, here, cs =>
    match skipAll cs with
    | none => none
    | some [] => some tables
    | some ('[' :: '[' :: rest) =>
      match keys? rest with
      | some (path, ']' :: ']' :: rest) =>
        match openElement tables path, endLine? rest with
        | some tables, some rest => document fuel tables path rest
        | _, _ => none
      | _ => none
    | some ('[' :: rest) =>
      match keys? rest with
      | some (path, ']' :: rest) =>
        match openTable tables path, endLine? rest with
        | some tables, some rest => document fuel tables path rest
        | _, _ => none
      | _ => none
    | some rest =>
      match keys? rest with
      | some (key, '=' :: rest) =>
        match value (2 * rest.length + 2) maxDepth (skipBlanks rest) with
        | some (j, rest) =>
          match addBelow key j tables here, endLine? rest with
          | some tables, some rest => document fuel tables here rest
          | _, _ => none
        | none => none
      | _ => none

/-- The table of a document; a byte order mark at its beginning is passed over. -/
def parse? (s : String) : Option (List (String × Json)) :=
  let cs := match s.toList with
    | '\uFEFF' :: rest => rest
    | cs => cs
  (document (cs.length + 1) [] [] cs).map fieldsOf

end PluginDiscovery.Toml
