/-!
# Keys and values

A line of a manifest, a word of a command line and a variable of the environment may join a key and
a value by an equals sign. The first one counts, so that a value may hold more of them.
-/

namespace PluginDiscovery.KeyValue

/-- The text before the first equals sign and the text after it, if there is one. -/
def split? : List Char → Option (List Char × List Char)
  | [] => none
  | c :: cs =>
    if c = '=' then some ([], cs)
    else (split? cs).map fun (key, value) => (c :: key, value)

end PluginDiscovery.KeyValue
