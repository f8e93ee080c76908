import PluginDiscovery.Decimal.Binary64

/-!
# JSON values

A value of a JSON document. Whole numbers and numbers with a fraction or an exponent are told apart,
as a reader of settings shows them differently; an object keeps its keys in order.
-/

namespace PluginDiscovery

/-- A JSON value. -/
inductive Json where
  | null
  | boolean (b : Bool)
  | integer (i : Int)
  | float (x : Binary64)
  | text (s : String)
  | array (items : List Json)
  | object (fields : List (String × Json))
  deriving Repr

namespace Json

/-- The value of a key of an object. -/
def field? (j : Json) (key : String) : Option Json :=
  match j with
  | .object fields => fields.lookup key
  | _ => none

/-- The texts of a list of texts. -/
def ofTexts (texts : List String) : Json :=
  .array (texts.map .text)

/-- A text, or nothing. -/
def ofText? : Option String → Json
  | some s => .text s
  | none => .null

end Json

end PluginDiscovery
