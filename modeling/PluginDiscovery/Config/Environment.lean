import PluginDiscovery.Config.Merge
import PluginDiscovery.FileTree.Path
import PluginDiscovery.Text.LowerCase

/-!
# The environment as a source

Variables whose names begin with the program's mark set values of the configuration. The rest of the
name, in lower case and with its double underscores read as dots, is the path of the value; the text
of a variable is read as a truth value, a whole number or a number where it spells one.

* `Environment.source`: the settings that the environment gives;
* `Variable.read`: how the text of a variable is read;
* `Environment.dataDirectory?`: where the data of the user lies.
-/

namespace PluginDiscovery

/-- The variables of a process, with their values. -/
abbrev Environment := List (String × String)

namespace Variable

/-- The mark that the names of variables for the configuration begin with, in lower case. -/
def mark : String := "plugscan__"

/-- A text with every double underscore, from the left, replaced by a dot. -/
def dotted : List Char → List Char
  | '_' :: '_' :: rest => '.' :: dotted rest
  | c :: rest => c :: dotted rest
  | [] => []

/-- The key that a variable name stands for, if it begins with the mark. -/
def key? (name : String) : Option String :=
  let lowered := (LowerCase.lower name).toList
  if mark.toList.isPrefixOf lowered then
    some (String.ofList (dotted (lowered.drop mark.length)))
  else none

/-- The digits of a text that is nothing but digits. -/
def digits? (cs : List Char) : Option Nat :=
  if cs.isEmpty || !cs.all KeyPath.isDigit then none
  else some (cs.foldl (fun v c => v * 10 + (c.toNat - 48)) 0)

/-- A sign at the beginning of a text, and the text after it. -/
def sign (cs : List Char) : Bool × List Char :=
  match cs with
  | '+' :: rest => (false, rest)
  | '-' :: rest => (true, rest)
  | _ => (false, cs)

/-- The whole number of 64 bits that a text spells: digits after an optional sign. -/
def integer? (s : String) : Option Int := do
  let (negative, rest) := sign s.toList
  let n ← digits? rest
  let i : Int := if negative then -(n : Int) else n
  if -(Int.pow 2 63) ≤ i ∧ i < Int.pow 2 63 then some i else none

/-- The number that a text spells: a word for infinity or for no number, or digits with an optional
    point among or around them and an optional exponent, after an optional sign. -/
def float? (s : String) : Option Binary64 := do
  let (negative, rest) := sign s.toList
  let word := (rest.map Char.toLower)
  if word = "inf".toList ∨ word = "infinity".toList then some (.infinite negative)
  else if word = "nan".toList then some .nan
  else
    let isMark (c : Char) : Bool := c = 'e' || c = 'E'
    let body := rest.takeWhile fun c => !isMark c
    let tail := rest.dropWhile fun c => !isMark c
    let whole := body.takeWhile (· ≠ '.')
    let fraction := (body.dropWhile (· ≠ '.')).drop 1
    let n ← digits? (whole ++ fraction)
    let e : Int ←
      match tail with
      | [] => some 0
      | _ :: more => do
        let (minus, ds) := sign more
        let k ← digits? ds
        some (if minus then -(k : Int) else k)
    some (.ofNumeral ⟨negative, n, e - (fraction.length : Int)⟩)

/-- How the text of a variable is read. -/
def read (s : String) : Scalar :=
  let lowered := LowerCase.lower s
  if lowered = "true" then .boolean true
  else if lowered = "false" then .boolean false
  else
    match integer? s with
    | some i => .integer i
    | none =>
      match float? s with
      | some x => .float x
      | none => .text s

end Variable

namespace Environment

/-- The name errors give to the environment as an origin. -/
def originName : String := "the environment"

/-- The settings that the variables give. -/
def source (env : Environment) : Source :=
  env.filterMap fun (name, value) =>
    (Variable.key? name).map fun key => (key, .scalar (some originName) (Variable.read value))

/-- The home directory. -/
def home? (env : Environment) : Option Path :=
  (env.lookup "HOME").bind fun h => if h.isEmpty then none else some (Path.ofString h)

/-- The directory of the user's data: the one the environment names, if it is absolute, or else the
    usual one in the home directory. -/
def dataDirectory? (env : Environment) : Option Path :=
  match (env.lookup "XDG_DATA_HOME").map Path.ofString with
  | some p =>
    if p.isAbsolute then some p else env.home?.map fun h => h.join (Path.ofString ".local/share")
  | none => env.home?.map fun h => h.join (Path.ofString ".local/share")

end Environment

end PluginDiscovery
