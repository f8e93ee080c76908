import PluginDiscovery.Config.Decode

/-!
# Kinds of errors as data

In data a kind of error stands as its name. A reader also takes an object whose single key is the
name, as long as nothing is stored under it.
-/

namespace PluginDiscovery

/-- Why a value is no kind of error. -/
inductive KindFault where
  | unknown (name : String)
  | notEmpty (found : Found)
  | notSingle
  | wrongType (found : Found)
  deriving DecidableEq, Repr

namespace KindFault

/-- What was found, in the words of plain data. -/
def describe (found : Found) : String :=
  found.shown "null" .document

/-- The names that are asked for, each quoted. -/
def expectedNames : String :=
  ", ".intercalate (ErrorKind.all.map fun k => "\x60" ++ k.name ++ "\x60")

/-- The text of a fault. -/
def message : KindFault → String
  | .unknown name => "unknown variant \x60" ++ name ++ "\x60, expected one of " ++ expectedNames
  | .notEmpty found => "invalid type: " ++ describe found ++ ", expected unit"
  | .notSingle => "invalid value: map, expected map with a single key"
  | .wrongType found => "invalid type: " ++ describe found ++ ", expected string or map"

end KindFault

namespace ErrorKind

/-- The kind of a name. -/
def named (name : String) : Except KindFault ErrorKind :=
  match ofName? name with
  | some k => .ok k
  | none => .error (.unknown name)

/-- The kind that a value stands for. -/
def ofJson (j : Json) : Except KindFault ErrorKind :=
  match j with
  | .text name => named name
  | .object [(name, content)] => do
    let k ← named name
    match content with
    | .null => .ok k
    | j => .error (.notEmpty (Setting.ofJson none j).found)
  | .object _ => .error .notSingle
  | j => .error (.wrongType (Setting.ofJson none j).found)

/-- A kind as data. -/
def toJson (k : ErrorKind) : Json :=
  .text k.name

end ErrorKind

end PluginDiscovery
