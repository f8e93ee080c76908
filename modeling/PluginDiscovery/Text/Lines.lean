/-!
# Lines

A text cut at its line feeds. The pieces joined by line feeds are the text again, so a text without
a line feed is one line and there is always one.
-/

namespace PluginDiscovery.Lines

/-- The pieces of a text between line feeds. -/
def split : List Char → List (List Char)
  | [] => [[]]
  | c :: cs =>
    if c = '\n' then [] :: split cs
    else
      match split cs with
      | [] => [[c]]
      | line :: lines => (c :: line) :: lines

/-- The pieces of a string between line feeds. -/
def ofString (s : String) : List String :=
  (split s.toList).map String.ofList

end PluginDiscovery.Lines
