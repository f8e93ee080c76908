import PluginDiscovery.Engine.Event
import PluginDiscovery.Text.Alphanumeric
import PluginDiscovery.Text.Blank

/-!
# Filters for the log

A filter decides which events are written. It is spelled as directives between commas:

    warn                          events of every part, up to warnings
    plugscan::report=info         events of one part, up to informations
    plugscan_plugin               events of one part, all of them
    [{plugin}]=debug              events that have a field, up to details
    plugscan_plugin[{dir}]=off    events of one part that have a field, none of them

A level is given by its name in any case or by a number from 0, nothing, to 5, everything. The part
is named by the beginning of its target; of several directives that are about an event the most
particular one decides, and of equal ones the last.

* `Spelling.read?`: the parts of a directive as a text spells them;
* `Directive.parse`: the directive that a text spells;
* `LogFilter.strict?`, `LogFilter.lenient`: the filter of a text, refused as a whole or without the
  directives that cannot be read;
* `LogFilter.shows`: whether an event is written.
-/

namespace PluginDiscovery

/-! ## 1. Levels -/

namespace Level

/-- The names of the levels of a filter, and how much each shows. -/
def filterNames : List (String × Nat) :=
  [("off", 0), ("error", 1), ("warn", 2), ("info", 3), ("debug", 4), ("trace", 5)]

/-- The number that a text of digits spells, after an optional plus sign. -/
def number? (cs : List Char) : Option Nat :=
  let digits := match cs with
    | '+' :: rest => rest
    | _ => cs
  if digits.isEmpty || !digits.all Char.isDigit then none
  else some (digits.foldl (fun n c => n * 10 + (c.toNat - 48)) 0)

/-- How much the level that a text spells shows. -/
def filter? (s : String) : Option Nat :=
  match number? s.toList with
  | some n => if n ≤ 5 then some n else none
  | none => filterNames.lookup (String.ofList (s.toList.map Char.toLower))

/-- How much a directive without a level shows. -/
def everything : Nat := 5

end Level

/-! ## 2. The spelling of a directive -/

/-- What a directive says in brackets: that events have a field, or anything about spans and the
    values of fields. -/
inductive Brackets where
  | field (name : String)
  | spans
  deriving DecidableEq, Repr

/-- The parts of a directive: the word before the brackets and the equals sign, the brackets, and
    the level after the equals sign. -/
structure Spelling where
  word : Option (List Char)
  brackets : Option Brackets
  level : Option (List Char)
  deriving DecidableEq, Repr

namespace Spelling

/-- Whether a word may begin with a character: a letter, a number or one of three signs. -/
def begins (c : Char) : Bool :=
  Alphanumeric.has c || c = '-' || c = ':' || c = '_'

/-- Reads what follows the brackets: a level after an equals sign, or nothing. -/
def afterBrackets (word : Option (List Char)) (brackets : Brackets) : List Char → Option Spelling
  | [] => some ⟨word, some brackets, none⟩
  | '=' :: level => some ⟨word, some brackets, some level⟩
  | _ => none

/-- Reads what follows an opening bracket: the name of a span, and in braces a field, which may
    have a value after an equals sign. -/
def inBrackets (word : Option (List Char)) (cs : List Char) : Option Spelling :=
  let mark (c : Char) : Bool := c = ']' || c = '\x7b'
  let name := cs.takeWhile fun c => !mark c
  match cs.dropWhile fun c => !mark c with
  | ']' :: rest => afterBrackets word .spans rest
  | _ :: inner =>
    let field := inner.takeWhile (· ≠ '\x7d')
    match inner.dropWhile (· ≠ '\x7d') with
    | _ :: ']' :: rest =>
      if field.isEmpty then none
      else
        let plain := name.isEmpty && !field.contains '='
        afterBrackets word (if plain then .field (String.ofList field) else .spans) rest
    | _ => none
  | [] => none

/-- The parts of a directive without blanks at its ends. -/
def read? : List Char → Option Spelling
  | [] => none
  | '[' :: cs => inBrackets none cs
  | c :: cs =>
    let mark (c : Char) : Bool := c = '=' || c = '['
    if !begins c then none
    else
      let word := (c :: cs).takeWhile fun c => !mark c
      match (c :: cs).dropWhile fun c => !mark c with
      | [] => some ⟨some word, none, none⟩
      | '=' :: level => some ⟨some word, none, some level⟩
      | _ :: inner => inBrackets (some word) inner

end Spelling

/-! ## 3. Directives -/

/-- A part of a filter: how much it shows of the events whose target begins with a text and that
    have a field, or of all where one of these is not asked for. A directive about spans shows no
    event, as the program opens none. -/
inductive Directive where
  | events (target field : Option String) (most : Nat)
  | spans
  deriving DecidableEq, Repr

/-- Why a text is no directive. -/
inductive DirectiveFault where
  | malformed
  | unknownLevel
  deriving DecidableEq, Repr

/-- The text of a fault. -/
def DirectiveFault.message : DirectiveFault → String
  | .malformed => "invalid filter directive"
  | .unknownLevel =>
    "error parsing level filter: expected one of \"off\", \"error\", \"warn\", \"info\", \"debug\", "
      ++ "\"trace\", or a number 0-5"

namespace Directive

/-- The level after an equals sign; without one everything is shown. -/
def levelOf (cs : List Char) : Except DirectiveFault Nat :=
  if cs.isEmpty then .ok Level.everything
  else match Level.filter? (String.ofList cs) with
    | some most => .ok most
    | none => .error .unknownLevel

/-- A directive with a word, with what it says in brackets, and with a level. -/
def ofParts (word : Option (List Char)) (brackets : Option Brackets) (most : Nat) : Directive :=
  match brackets with
  | none => .events (word.map String.ofList) none most
  | some (.field name) => .events (word.map String.ofList) (some name) most
  | some .spans => .spans

/-- A directive of one word: a level, or a target of which everything is shown. -/
def ofWord (word : String) : Directive :=
  match Level.filter? word with
  | some most => .events none none most
  | none => .events (some word) none Level.everything

/-- The directive of a spelling with blanks after it. They belong to the level, or to the word where
    it stands alone. -/
def ofSpelling (blanks : List Char) (s : Spelling) : Except DirectiveFault Directive :=
  match s.level, s.brackets, s.word with
  | some level, brackets, word => (levelOf (level ++ blanks)).map (ofParts word brackets)
  | none, none, some word => .ok (ofWord (String.ofList (word ++ blanks)))
  | none, brackets, word => .ok (ofParts word brackets Level.everything)

/-- The directive of a spelling with blanks before it, which is about no event and has no level. -/
def ofShifted (s : Spelling) : Except DirectiveFault Directive :=
  if s.level.isSome then .error .unknownLevel else .ok .spans

/-- The directive that a text spells. -/
def parse (s : String) : Except DirectiveFault Directive :=
  let body := Blank.trimLeft s.toList
  let inner := Blank.trimChars s.toList
  match Spelling.read? inner with
  | none => .error .malformed
  | some spelling =>
    if body.length < s.length then ofShifted spelling
    else ofSpelling (body.drop inner.length) spelling

end Directive

/-! ## 4. Filters -/

/-- The directives of a filter, in the order in which they are given. -/
abbrev LogFilter := List Directive

namespace LogFilter

/-- The texts between commas that are not empty. -/
def parts (s : String) : List String :=
  (s.splitOn ",").filter fun part => !part.isEmpty

/-- The filter of a text, if each of its directives can be read. -/
def strict? (s : String) : Option LogFilter :=
  match (parts s).mapM Directive.parse with
  | .ok directives => some directives
  | .error _ => none

/-- What is said about a directive that cannot be read, or nothing. -/
def complaint? (part : String) : Option String :=
  match Directive.parse part with
  | .ok _ => none
  | .error fault => some ("ignoring \x60" ++ part ++ "\x60: " ++ fault.message)

/-- The filter of some directives; without one it shows errors. -/
def orErrors (directives : List Directive) : LogFilter :=
  if directives.isEmpty then [.events none none 1] else directives

/-- The filter of the directives of a text that can be read, or of errors if there is none, and what
    is said about the others. -/
def lenient (s : String) : LogFilter × List String :=
  (orErrors ((parts s).filterMap fun part => (Directive.parse part).toOption),
    (parts s).filterMap complaint?)

/-- Whether an event has a field; each has a message. -/
def hasField (e : Event) (name : String) : Bool :=
  name = "message" || e.fields.any fun field => field.1 = name

/-- How particular a directive is: by the length of its target, and then by its field. -/
structure Rank where
  target : Nat
  field : String
  deriving DecidableEq, Repr

/-- Whether a directive is no more particular than another. Of two fields the one that is later in
    the order of texts is the more particular one. -/
def Rank.le (r s : Rank) : Bool :=
  decide (r.target < s.target) || (r.target == s.target && !decide (s.field < r.field))

/-- How particular a directive is for an event, and how much it shows of it; nothing if it is not
    about it. -/
def relevance? (e : Event) : Directive → Option (Rank × Nat)
  | .events target field most =>
    if target.all (fun start => start.toList.isPrefixOf e.target.toList) && field.all (hasField e)
    then some (⟨target.elim 0 (·.length + 1), field.getD ""⟩, most)
    else none
  | .spans => none

/-- How much is shown of events such as one. -/
def most (filter : LogFilter) (e : Event) : Nat :=
  ((filter.filterMap (relevance? e)).foldl
    (fun best next => if best.1.le next.1 then next else best) (⟨0, ""⟩, 0)).2

/-- Whether an event is written. -/
def shows (filter : LogFilter) (e : Event) : Bool :=
  decide (e.level.verbosity ≤ filter.most e)

end LogFilter

end PluginDiscovery
