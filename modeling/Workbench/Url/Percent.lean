import Workbench.Text.Hex
import Workbench.Text.Utf8

namespace Workbench
namespace Url
namespace Percent

/-!
# Percent-encoding

An octet is written as a percent sign and two upper-case digits where the place it stands in asks
for that.  Control characters and everything outside ASCII are always written so.  In decoding, a
percent sign without two digits after it stands for itself.
-/

/-- The octets that one place of a URL asks to be encoded, besides those that every place does. -/
abbrev Reserved := UInt8 → Bool

/-- The octets of some ASCII characters. -/
def reserve (chars : List Char) : Reserved :=
  fun b => chars.any fun c => c.toNat == b.toNat

/-- Nothing more than control characters and what is outside ASCII. -/
def controls : Reserved := reserve []

def fragment : Reserved := reserve [' ', '"', '<', '>', '`']

def path : Reserved := reserve [' ', '"', '<', '>', '`', '#', '?', '\x7b', '\x7d']

/-- What one segment of a path asks for, where the backslash separates segments too. -/
def segment : Reserved :=
  reserve [' ', '"', '<', '>', '`', '#', '?', '\x7b', '\x7d', '/', '%', '\\']

/-- What a user name or password asks for. -/
def userInfo : Reserved :=
  reserve [' ', '"', '<', '>', '`', '#', '?', '\x7b', '\x7d', '/', ':', ';', '=', '@', '[', '\\',
    ']', '^', '|']

def query : Reserved := reserve [' ', '"', '#', '<', '>']

/-- What a query asks for in the web's own schemes. -/
def specialQuery : Reserved := reserve [' ', '"', '#', '<', '>', '\'']

/-- Whether an octet is written with a percent sign. -/
def encodes (reserved : Reserved) (b : UInt8) : Bool :=
  b < 0x20 || 0x7F ≤ b || reserved b

def octet (reserved : Reserved) (b : UInt8) : List Char :=
  if encodes reserved b then
    ['%', Text.Hex.upperDigit (b.toNat / 16), Text.Hex.upperDigit (b.toNat % 16)]
  else [Char.ofNat b.toNat]

/-- An octet sequence as it stands in a URL. -/
def encode (reserved : Reserved) (bytes : List UInt8) : List Char :=
  bytes.flatMap (octet reserved)

def encodeText (reserved : Reserved) (text : List Char) : List Char :=
  encode reserved (Text.Utf8.encode text)

/-- The octet that two digits stand for. -/
def octet? (high low : UInt8) : Option UInt8 := do
  let high ← Text.Hex.value? (Char.ofNat high.toNat)
  let low ← Text.Hex.value? (Char.ofNat low.toNat)
  pure (UInt8.ofNat (high * 16 + low))

/-- The octet sequence that an encoded one stands for. -/
def decode : List UInt8 → List UInt8
  | [] => []
  | [a] => [a]
  | [a, b] => [a, b]
  | a :: b :: c :: rest =>
    if a = 0x25 then
      match octet? b c with
      | some decoded => decoded :: decode rest
      | none => a :: decode (b :: c :: rest)
    else a :: decode (b :: c :: rest)

end Percent
end Url
end Workbench
