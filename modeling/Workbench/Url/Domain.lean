import Workbench.Text.Composition
import Workbench.Text.Direction
import Workbench.Text.Joining
import Workbench.Text.Utf8
import Workbench.Url.Domain.Mapping
import Workbench.Url.Punycode

namespace Workbench
namespace Url
namespace Domain

/-!
# Domain names

A domain name is read character by character, composed, and cut into labels at the full stops.  It
is written in ASCII: a label with other characters is written in Punycode after the mark `xn--`,
and a label that already bears the mark has to stand for such a label.  Characters that a URL needs
for itself are not allowed.

What a label shows has to be well formed: it begins with no mark, its joiners have something to
join, and if any label of the name is written from right to left, no label mixes the directions.
-/

/-- Whether an ASCII character cannot occur in a domain name. -/
def isForbidden (c : Char) : Bool :=
  c.toNat ≤ 0x20 || c.toNat == 0x7F ||
    ['#', '%', '/', ':', '<', '>', '?', '@', '[', '\\', ']', '^', '|'].contains c

/-- Whether a character is in ASCII. -/
def isAscii (c : Char) : Bool :=
  c.toNat < 128

def composed (label : List Char) : List Char :=
  (Text.composed (label.map Char.toNat)).map Char.ofNat

/-- Whether every joiner has something to join: the one that joins follows a sign that takes the
vowel from a consonant, the one that keeps apart follows such a sign or stands between two letters
that would join without it. -/
def joinersFit (before : List Nat) : List Nat → Bool
  | [] => true
  | n :: rest =>
    let afterVirama := before.head?.any (Text.combiningClass · == Text.viramaClass)
    let fits :=
      if n = 0x200D then afterVirama
      else if n = 0x200C then afterVirama || Text.joinable before rest
      else true
    fits && joinersFit (n :: before) rest

/-- Whether a label outside ASCII is well formed on its own. -/
def isWellFormed (label : List Char) : Bool :=
  let codes := label.map Char.toNat
  !codes.head?.any Text.isMark && joinersFit [] codes

structure Label where
  shown : List Char
  written : List Char
  deriving DecidableEq, Repr

namespace Label

/-- The mark of a label in Punycode. -/
def mark : List Char := ['x', 'n', '-', '-']

/-- The greatest length of a label in Punycode that is read, the mark apart. -/
def readLimit : Nat := 2000

/-- The greatest length of a label that is written in Punycode. -/
def writeLimit : Nat := 1000

/-- The label that a text in Punycode stands for, if it is one that would be written so. -/
def read? (text : List Char) : Option Label := do
  if text.getLast? = some '-' || readLimit < text.length then none
  else
    let shown ← Punycode.decode? text
    let isKept (c : Char) : Bool := mapping? c == some [c]
    if !shown.all isAscii && shown.all isKept && composed shown == shown && isWellFormed shown then
      some ⟨shown, mark ++ text⟩
    else none

/-- The label that a text stands for. -/
def ofText? (text : List Char) : Option Label :=
  if mark.isPrefixOf text then read? (text.drop mark.length)
  else if text.all isAscii then some ⟨text, text⟩
  else if isWellFormed text && text.length ≤ writeLimit then
    some ⟨text, mark ++ Punycode.encode text⟩
  else none

/-- How the characters that a label shows behave in a text of two directions. -/
def directions (label : Label) : List Text.Direction :=
  label.shown.map fun c => Text.Direction.ofCodePoint c.toNat

end Label

/-- Whether the labels of a name can stand beside each other. -/
def agree (labels : List Label) : Bool :=
  let directions := labels.map Label.directions
  !(directions.any fun label => label.any Text.Direction.isLeftward) ||
    directions.all Text.Direction.agree

/-- The characters that a domain name is read as. -/
def normal? (text : List Char) : Option (List Char) := do
  if text.all isAscii then pure (text.map Char.toLower)
  else pure (composed (← text.mapM mapping?).flatten)

/-- A domain name as it is written in ASCII, from its octets. -/
def ofOctets? (bytes : List UInt8) : Option (List Char) := do
  let text ← Text.Utf8.decode? bytes
  let normal ← normal? text.toList
  if normal.any isForbidden then none
  else
    let labels ← (normal.splitOn '.').mapM Label.ofText?
    if agree labels then pure (['.'].intercalate (labels.map Label.written)) else none

end Domain
end Url
end Workbench
