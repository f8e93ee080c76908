import PluginDiscovery.Text.CodePoints

/-!
# White space

Texts are trimmed of the characters with the Unicode property White_Space, on both sides. The
property is wider than the control characters a terminal treats as blank: the next-line control,
the no-break space and the ideographic space have it, the zero-width space has it not.
-/

namespace PluginDiscovery.Blank

/-- The characters with the property White_Space. -/
def table : CodePoints :=
  [(0x09, 0x0D), (0x20, 0x20), (0x85, 0x85), (0xA0, 0xA0), (0x1680, 0x1680), (0x2000, 0x200A),
   (0x2028, 0x2029), (0x202F, 0x202F), (0x205F, 0x205F), (0x3000, 0x3000)]

/-- Whether a character is white space. -/
def isBlank (c : Char) : Bool :=
  table.has c

/-- A text without the white space at its beginning. -/
def trimLeft (cs : List Char) : List Char :=
  cs.dropWhile isBlank

/-- A text without the white space at its two ends. -/
def trimChars (cs : List Char) : List Char :=
  (trimLeft (trimLeft cs).reverse).reverse

/-- Whether a text has nothing but white space, or nothing at all. -/
def isEmptyText (s : String) : Bool :=
  (trimChars s.toList).isEmpty

end PluginDiscovery.Blank
