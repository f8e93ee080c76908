import PluginDiscovery.Text.CharWidth
import PluginDiscovery.Text.Emoji

/-!
# The width of a text in terminal columns

A text is as wide as its characters are together, except where several characters make one sign:
pictographs with selectors, skin tones and joiners, flags, a carriage return before a line feed, and
the ligatures of some scripts. Only a character and what stands after it decide that, so a text is
read from its end to its beginning.

* `Sign`, `Ahead`: what a character finds after it;
* `meet?`: the signs that a character makes with what stands after it;
* `step`: the columns a character adds, and what the character before it finds;
* `width`: the columns of a text.
-/

namespace PluginDiscovery.Columns

/-! ## 1. What stands after a character -/

/-- The beginning of a sign that a character before it may be part of. -/
inductive Sign where
  /-- No such beginning. -/
  | plain
  /-- A line feed. -/
  | lineFeed
  /-- A pictograph. -/
  | picture
  /-- A skin tone. -/
  | tone
  /-- A letter of a flag. -/
  | flagLetter
  /-- Two or more letters of flags. -/
  | flagLetters
  /-- The joiner before a pictograph. -/
  | joint
  /-- A key cap and the joiner after it. -/
  | keyCapJoint
  /-- A letter of a flag and the joiner after it. -/
  | flagJoint
  /-- An even number of letters of flags and the joiner after them. -/
  | evenFlagJoint
  /-- An odd number of letters of flags, three or more, and the joiner after them. -/
  | oddFlagJoint
  /-- The end of a row of tags and the joiner after it. -/
  | tagEnd
  /-- So many tag letters at the end of a row of tags. -/
  | tagLetters (n : Nat)
  /-- So many tag digits before such letters. -/
  | tagDigits (n : Nat)
  /-- An Arabic alef. -/
  | alef
  /-- A Hebrew lamed. -/
  | lamed
  /-- A Buginese ya. -/
  | ya
  /-- A Buginese ya with the vowel sign before it. -/
  | signedYa
  /-- A Tifinagh consonant. -/
  | consonant
  /-- A Tifinagh consonant with the joiner of that script before it. -/
  | joinedConsonant
  /-- A Lisu tone letter that ends a pair. -/
  | toneLetter
  /-- An Old Turkic letter i. -/
  | orkhonI
  /-- A Khmer letter that has a form below another letter. -/
  | lowLetter
  /-- A Kirat Rai vowel sign e. -/
  | vowelE
  /-- A Kirat Rai vowel sign ai. -/
  | vowelAi
  deriving DecidableEq, Repr

namespace Sign

/-- Whether a sign is the end of a ligature of letters. -/
def isLetter : Sign → Bool
  | .alef | .lamed | .ya | .signedYa | .consonant | .joinedConsonant | .toneLetter | .orkhonI
  | .lowLetter => true
  | _ => false

/-- Whether a joiner and marks that nobody sees leave the ligature open. -/
def staysOpen (s : Sign) : Bool :=
  s.isLetter && s != .alef

/-- Whether a sign is joined to the pictograph before it. -/
def isJoint : Sign → Bool
  | .joint | .keyCapJoint => true
  | _ => false

end Sign

/-- What a character finds after it: a sign, whether a joiner stands before the letter of it, and
    which selectors stand before that. -/
structure Ahead where
  sign : Sign
  joined : Bool
  asPicture : Bool
  asText : Bool
  deriving DecidableEq, Repr

namespace Ahead

/-- A sign with neither joiner nor selector before it. -/
def of (sign : Sign) : Ahead := ⟨sign, false, false, false⟩

/-- The end of a text. -/
def nothing : Ahead := of .plain

/-- The selector of pictures before something; only letters and joints are still seen through it. -/
def selectPicture (a : Ahead) : Ahead :=
  { (if a.sign.isLetter || a.sign.isJoint then a else nothing) with asPicture := true }

/-- The selector of plain text before something; only letters are still seen through it. -/
def selectText (a : Ahead) : Ahead :=
  { (if a.sign.isLetter then a else nothing) with asText := true }

/-- What is left when the selector of pictures selects nothing. -/
def unselected (a : Ahead) : Ahead :=
  if a.asPicture then (if a.sign.isLetter then { a with asPicture := false } else nothing) else a

end Ahead

/-! ## 2. The characters of signs -/

/-- The selector of plain text. -/
def textSelector : Char := '\uFE0E'

/-- The selector of pictures. -/
def pictureSelector : Char := '\uFE0F'

/-- The joiner of pictographs and letters. -/
def joiner : Char := '\u200D'

/-- The Arabic letters of the group of alef. -/
def alefs : CodePoints :=
  [(0x622, 0x623), (0x625, 0x625), (0x627, 0x627), (0x671, 0x673), (0x675, 0x675), (0x773, 0x774),
   (0x870, 0x882)]

/-- The Arabic letters of the group of lam. -/
def lams : CodePoints :=
  [(0x644, 0x644), (0x6B5, 0x6B8), (0x76A, 0x76A), (0x8A6, 0x8A6), (0x8C7, 0x8C7)]

/-- The Khmer letters that have a form below another letter. -/
def lowLetters : CodePoints :=
  [(0x1780, 0x1782), (0x1784, 0x1787), (0x1789, 0x178C), (0x178E, 0x1793), (0x1795, 0x1798),
   (0x179B, 0x179D), (0x17A0, 0x17A0), (0x17A2, 0x17A2), (0x17A7, 0x17A7), (0x17AB, 0x17AC),
   (0x17AF, 0x17AF)]

/-- The Tifinagh consonants. -/
def consonants : CodePoints :=
  [(0x2D31, 0x2D65), (0x2D6F, 0x2D6F)]

/-- The Lisu tone letters that begin a pair. -/
def firstTones : CodePoints :=
  [(0xA4F8, 0xA4FB)]

/-- The Lisu tone letters that end a pair. -/
def lastTones : CodePoints :=
  [(0xA4FC, 0xA4FD)]

/-- The tag letters. -/
def tagLetters : CodePoints :=
  [(0xE0061, 0xE007A)]

/-- The tag digits. -/
def tagDigits : CodePoints :=
  [(0xE0030, 0xE0039)]

/-- The marks that nobody sees, which do not part the letters of a ligature. -/
def invisibleMarks : CodePoints :=
  [(0x34F, 0x34F), (0x17B4, 0x17B5), (0x180B, 0x180D), (0x180F, 0x180F), (0xFE00, 0xFE0F),
   (0xE0100, 0xE01EF)]

/-- The sign that a character ends or is by itself. -/
def signOf (c : Char) : Sign :=
  if c = '\n' then .lineFeed
  else if alefs.has c then .alef
  else if c = '\u05DC' then .lamed
  else if c = '\u1A10' then .ya
  else if lowLetters.has c then .lowLetter
  else if consonants.has c then .consonant
  else if lastTones.has c then .toneLetter
  else if c.toNat = 0x10C03 then .orkhonI
  else if c.toNat = 0x16D67 then .vowelE
  else if c.toNat = 0x16D68 then .vowelAi
  else if Emoji.isFlagLetter c then .flagLetter
  else if Emoji.isTone c then .tone
  else if Emoji.pictures.has c then .picture
  else .plain

/-- A character that makes no sign with what stands after it: its columns, and what the character
    before it finds. -/
def alone (c : Char) : Int × Ahead :=
  if c = pictureSelector then (0, Ahead.nothing.selectPicture)
  else if c = textSelector then (0, Ahead.nothing.selectText)
  else (CharWidth.ofChar c, .of (signOf c))

/-! ## 3. Signs of several characters -/

/-- The columns that a character adds to the sign after it, and the sign they make, if they make
    one; `joined` tells whether a joiner stands between them. -/
def meet? (sign : Sign) (joined : Bool) (c : Char) : Option (Int × Sign) :=
  match sign with
  | .plain => none
  | .lineFeed => if c = '\r' then some (0, .plain) else none
  | .alef =>
    if lams.has c then some (0, .plain)
    else if CharWidth.joinsThrough c then some (0, .alef) else none
  | .lamed => if joined && c = '\u05D0' then some (0, .plain) else none
  | .ya => if joined && c = '\u1A17' then some (0, .signedYa) else none
  | .signedYa => if c = '\u1A15' then some (0, .plain) else none
  | .lowLetter => if c = '\u17D2' then some (-1, .plain) else none
  | .consonant =>
    if c = '\u2D7F' then some (1, .joinedConsonant)
    else if joined && consonants.has c then some (0, .plain) else none
  | .joinedConsonant => if consonants.has c then some (-1, .plain) else none
  | .toneLetter => if firstTones.has c then some (0, .plain) else none
  | .orkhonI => if joined && c.toNat = 0x10C32 then some (0, .plain) else none
  | .vowelE =>
    if c.toNat = 0x16D63 || c.toNat = 0x16D69 then some (0, .plain)
    else if c.toNat = 0x16D67 then some (0, .vowelAi)
    else if c.toNat = 0x16D68 then some (1, .vowelE) else none
  | .vowelAi => if c.toNat = 0x16D63 then some (0, .plain) else none
  | .picture => if c = joiner then some (0, .joint) else none
  | .tone =>
    if Emoji.toned.has c then some (0, .picture)
    else if c = joiner then some (0, .joint) else none
  | .flagLetter => if Emoji.isFlagLetter c then some (1, .flagLetters) else none
  | .flagLetters =>
    if Emoji.isFlagLetter c then some (1, .flagLetters)
    else if c = joiner then some (0, .joint) else none
  | .joint =>
    if c = '\u20E3' then some (0, .keyCapJoint)
    else if Emoji.isFlagLetter c then some (1, .flagJoint)
    else if Emoji.isTone c then some (0, .tone)
    else if c.toNat = 0xE007F then some (0, .tagEnd)
    else if Emoji.pictures.has c then some (0, .picture) else none
  | .keyCapJoint => none
  | .flagJoint => if Emoji.isFlagLetter c then some (-1, .evenFlagJoint) else none
  | .evenFlagJoint =>
    if Emoji.isFlagLetter c then some (3, .oddFlagJoint)
    else if c = joiner then some (0, .joint) else none
  | .oddFlagJoint =>
    if Emoji.isFlagLetter c then some (-1, .evenFlagJoint)
    else if c = joiner then some (0, .joint) else none
  | .tagEnd =>
    if tagLetters.has c then some (0, .tagLetters 1)
    else if tagDigits.has c then some (0, .tagDigits 1) else none
  | .tagLetters n =>
    if tagLetters.has c && n < 6 then some (0, .tagLetters (n + 1))
    else if tagDigits.has c && n ≤ 4 then some (0, .tagDigits 1)
    else if c.toNat = 0x1F3F4 && 3 ≤ n then some (0, .picture) else none
  | .tagDigits n =>
    if tagDigits.has c && n < 3 then some (0, .tagDigits (n + 1))
    else if c.toNat = 0x1F3F4 && n = 3 then some (0, .picture) else none

/-- A character before something that no selector of pictures precedes: its columns, and what the
    character before it finds. -/
def join (c : Char) (a : Ahead) : Int × Ahead :=
  if a = .nothing then alone c
  else if c = pictureSelector then (0, a.selectPicture)
  else if c = textSelector then (0, a.selectText)
  else if a.asText && Emoji.narrows c then (1, .nothing)
  else
    let a := { a with asText := false }
    if a.sign.staysOpen && c = joiner then (0, { a with joined := true })
    else if a.sign.staysOpen && invisibleMarks.has c then (0, a)
    else
      match meet? a.sign a.joined c with
      | some (columns, sign) => (columns, .of sign)
      | none => alone c

/-- The columns that a character adds to what stands after it, and what the character before it
    finds. -/
def step (c : Char) (a : Ahead) : Int × Ahead :=
  if a.asPicture && Emoji.selectable.has c then (if a.sign.isJoint then 0 else 2, .of .picture)
  else join c a.unselected

/-- The columns of a text. -/
def width (s : String) : Nat :=
  let read (c : Char) (after : Int × Ahead) : Int × Ahead :=
    let (columns, here) := step c after.2
    (after.1 + columns, here)
  (s.toList.foldr read (0, .nothing)).1.toNat

end PluginDiscovery.Columns
