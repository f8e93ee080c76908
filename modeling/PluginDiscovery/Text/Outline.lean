import PluginDiscovery.Text.Quoted

/-!
# Values as outlines

An outline shows a value with all its parts, every part on a line of its own and indented by four
blanks for each level. After each part stands a comma.
-/

namespace PluginDiscovery

/-- A value as an outline shows it: a word, a record with named fields, a named value with parts
    in order, or a list. -/
inductive Outline where
  | word (s : String)
  | record (name : String) (fields : List (String × Outline))
  | tuple (name : String) (parts : List Outline)
  | list (items : List Outline)
  deriving Repr

namespace Outline

/-- A text, quoted. -/
def text (s : String) : Outline :=
  .word (Quoted.text s)

/-- A truth value. -/
def truth (b : Bool) : Outline :=
  .word (toString b)

/-- A value that may be absent. -/
def optional (o : Option Outline) : Outline :=
  match o with
  | none => .word "None"
  | some o => .tuple "Some" [o]

/-- The beginning of a line at a level. -/
def indent (level : Nat) : String :=
  String.ofList (List.replicate (4 * level) ' ')

mutual

/-- An outline at a level; its first line is not indented. -/
def writeAt (level : Nat) : Outline → String
  | .word s => s
  | .record name fields =>
    name ++ " \x7b\n" ++ writeFields (level + 1) fields ++ indent level ++ "\x7d"
  | .tuple name parts => name ++ "(\n" ++ writeItems (level + 1) parts ++ indent level ++ ")"
  | .list [] => "[]"
  | .list items => "[\n" ++ writeItems (level + 1) items ++ indent level ++ "]"

/-- The lines of named parts. -/
def writeFields (level : Nat) : List (String × Outline) → String
  | [] => ""
  | (name, o) :: rest =>
    indent level ++ name ++ ": " ++ writeAt level o ++ ",\n" ++ writeFields level rest

/-- The lines of parts in order. -/
def writeItems (level : Nat) : List Outline → String
  | [] => ""
  | o :: rest => indent level ++ writeAt level o ++ ",\n" ++ writeItems level rest

end

/-- The text of an outline. -/
def write (o : Outline) : String :=
  writeAt 0 o

end Outline

end PluginDiscovery
