import Workbench.Decode.Mismatch
import Workbench.Text.Hex
import Workbench.Yaml.Event

namespace Workbench
namespace Yaml

/-!
# The core schema

What a scalar stands for: nothing, a truth value, a number or a text.  Only a plain scalar can stand
for something else than its text, unless a tag says what it is.
-/

open Decode (Found Mismatch)

/-- Whether a plain scalar stands for no value. -/
def isNull (text : List Char) : Bool :=
  ["null", "Null", "NULL", "~"].contains (String.ofList text)

/-- The truth value that a plain scalar stands for. -/
def truth? (text : List Char) : Option Bool :=
  if ["true", "True", "TRUE"].contains (String.ofList text) then some true
  else if ["false", "False", "FALSE"].contains (String.ofList text) then some false
  else none

/-! ## Whole numbers -/

/-- The text after a sign, if it begins with that one. -/
def afterSign (sign : Char) : List Char → List Char
  | c :: rest => if c = sign then rest else c :: rest
  | [] => []

/-- The number that digits of a base stand for, if there are any. -/
def digits? (base : Nat) (text : List Char) : Option Nat :=
  if text.isEmpty then none else Text.Hex.numeral? base text

/-- Whether a text is a number in decimal digits, but for zeros in front that make it a text. -/
def isPadded (text : List Char) : Bool :=
  let body :=
    match text with
    | '-' :: rest | '+' :: rest => rest
    | _ => text
  match body with
  | '0' :: rest => !rest.isEmpty && rest.all Char.isDigit
  | _ => false

/-- A magnitude in decimal digits, or in those of another base after its mark. -/
def magnitude? : List Char → Option Nat
  | '0' :: 'x' :: rest => digits? 16 rest
  | '0' :: 'o' :: rest => digits? 8 rest
  | '0' :: 'b' :: rest => digits? 2 rest
  | text => if isPadded text then none else digits? 10 text

/-- The natural number that a plain scalar stands for. -/
def natural? (text : List Char) : Option Nat :=
  magnitude? (afterSign '+' text)

/-- The whole number that a plain scalar stands for, as it is found.  What does not fit 64 bits is
read in 128, and beyond those it is no whole number. -/
def integer? (text : List Char) : Option Found :=
  match text with
  | '-' :: rest => do
    let n ← magnitude? rest
    if n ≤ twoTo 63 then some (.integer (-n))
    else if n ≤ twoTo 127 then some (.wideInteger (-n) "i128")
    else none
  | _ => do
    let n ← natural? text
    if n < UInt64.size then some (.integer n)
    else if n < twoTo 128 then some (.wideInteger n "u128")
    else none

/-! ## Floating-point numbers -/

/-- The exponent that a text announces and states. -/
def exponent? : List Char → Option Int
  | [] => some 0
  | c :: rest =>
    if c = 'e' ∨ c = 'E' then
      match rest with
      | '-' :: rest => (digits? 10 rest).map fun n => -(n : Int)
      | _ => (digits? 10 (afterSign '+' rest)).map Int.ofNat
    else none

/-- The value nearest to `digits * 10 ^ power`.  A first digit at a place far beyond those of all
values makes it infinite or zero at once. -/
def scaled (negative : Bool) (digits : Nat) (power : Int) : Binary64 :=
  let place := power + Binary64.decimalLength digits
  if digits = 0 then .zero negative
  else if 400 < place then .infinite negative
  else if place < -400 then .zero negative
  else .ofDecimal negative digits power

/-- A decimal number with digits before or after its point, or both. -/
def decimal? (text : List Char) : Option Binary64 := do
  let (negative, text) :=
    match text with
    | '-' :: rest => (true, rest)
    | _ => (false, afterSign '+' text)
  let (whole, rest) := text.span Char.isDigit
  let (fraction, rest) :=
    match rest with
    | '.' :: rest => rest.span Char.isDigit
    | _ => ([], rest)
  let power ← exponent? rest
  let digits ← digits? 10 (whole ++ fraction)
  pure (scaled negative digits (power - fraction.length))

/-- The floating-point number that a plain scalar stands for.  A decimal number beyond all finite
values is a text. -/
def real? (text : List Char) : Option Binary64 :=
  let word := String.ofList text
  if [".inf", ".Inf", ".INF", "+.inf", "+.Inf", "+.INF"].contains word then some (.infinite false)
  else if ["-.inf", "-.Inf", "-.INF"].contains word then some (.infinite true)
  else if [".nan", ".NaN", ".NAN"].contains word then some .notANumber
  else
    match decimal? text with
    | some value => if value.isFinite then some value else none
    | none => none

/-! ## Scalars -/

namespace Scalar

/-- The tags that say what a scalar is. -/
def boolTag : List UInt8 := coreTag "bool"

@[inherit_doc boolTag]
def intTag : List UInt8 := coreTag "int"

@[inherit_doc boolTag]
def floatTag : List UInt8 := coreTag "float"

@[inherit_doc boolTag]
def nullTag : List UInt8 := coreTag "null"

def asText (s : Scalar) : Found :=
  .text (String.ofList s.text)

/-- What the text of a plain scalar without a tag stands for. -/
def resolved (s : Scalar) : Found :=
  if s.text.isEmpty || isNull s.text then .nothing
  else
    match truth? s.text with
    | some b => .bool b
    | none =>
      match integer? s.text with
      | some found => found
      | none =>
        if isPadded s.text then s.asText
        else
          match real? s.text with
          | some x => .real x
          | none => s.asText

/-- What was asked for by a tag, or the mismatch if the text is nothing of the kind. -/
def tagged (s : Scalar) (found : Option Found) (expected : String) : Except Mismatch Found :=
  match found with
  | some found => .ok found
  | none => .error (.invalidValue s.asText expected)

def found (s : Scalar) : Except Mismatch Found :=
  let untagged := if s.style = .plain then s.resolved else s.asText
  match s.tag with
  | none => .ok untagged
  | some tag =>
    if tag = boolTag then s.tagged ((truth? s.text).map .bool) "a boolean"
    else if tag = intTag then s.tagged (integer? s.text) "an integer"
    else if tag = floatTag then s.tagged ((real? s.text).map .real) "a float"
    else if tag = nullTag then s.tagged (if isNull s.text then some .nothing else none) "null"
    else if tag.head? = some tagMark then .ok untagged
    else .ok s.asText

/-- The mismatch of a scalar with what is expected. -/
def mismatch (s : Scalar) (expected : String) : Mismatch :=
  match s.found with
  | .ok found => .invalidType found expected
  | .error mismatch => mismatch

/-- Whether a scalar may stand for a value of the kind that a tag names: a plain one always, a
literal one with that tag. -/
def mayBe (s : Scalar) (tag : List UInt8) : Bool :=
  s.style = .plain || (s.style = .literal && s.tag = some tag)

end Scalar
end Yaml
end Workbench
