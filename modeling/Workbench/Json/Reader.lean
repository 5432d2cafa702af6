import Workbench.Json.Value
import Workbench.Text.Hex

namespace Workbench
namespace Json

/-!
# Reading JSON

A reader is a function from the text that is left to a value and the text after it.  Nesting and
repetition are bounded by the length of the text: every step reads at least one character, so that
bound is never reached.

A number without fraction and exponent is whole while it fits 64 bits, of either sign; negative
zero and everything else is a floating-point number.  That is found as the product or quotient of
rounded values, the digits and powers of ten, and only as many digits count as fit 64 bits.
-/

namespace Reader

def skip : List Char → List Char :=
  List.dropWhile fun c => c == ' ' || c == '\n' || c == '\r' || c == '\t'

def digit? (c : Char) : Option Nat :=
  if '0' ≤ c ∧ c ≤ '9' then some (c.toNat - '0'.toNat) else none

def greatest : Nat := UInt64.size - 1

def hexUnit : List Char → Option (Nat × List Char)
  | a :: b :: c :: d :: rest => do
    let a ← Text.Hex.value? a
    let b ← Text.Hex.value? b
    let c ← Text.Hex.value? c
    let d ← Text.Hex.value? d
    pure (((a * 16 + b) * 16 + c) * 16 + d, rest)
  | _ => none

/-- The character written by an escape that begins with `u`, from the digits on.  A character
outside the first plane takes two such escapes. -/
def unicodeEscape (text : List Char) : Option (Char × List Char) := do
  let (high, rest) ← hexUnit text
  if 0xD800 ≤ high ∧ high ≤ 0xDBFF then
    match rest with
    | '\\' :: 'u' :: rest =>
      let (low, rest) ← hexUnit rest
      if 0xDC00 ≤ low ∧ low ≤ 0xDFFF then
        pure (Char.ofNat (0x10000 + (high - 0xD800) * 0x400 + (low - 0xDC00)), rest)
      else none
    | _ => none
  else if 0xDC00 ≤ high ∧ high ≤ 0xDFFF then none
  else pure (Char.ofNat high, rest)

/-- The rest of a string after its opening quote. -/
def stringBody : Nat → List Char → List Char → Option (String × List Char)
  | 0, _, _ => none
  | _ + 1, _, [] => none
  | fuel + 1, read, c :: rest =>
    if c = '"' then some (String.ofList read.reverse, rest)
    else if c.toNat < 0x20 then none
    else if c = '\\' then
      match rest with
      | [] => none
      | e :: rest =>
        let plain (c : Char) := stringBody fuel (c :: read) rest
        match e with
        | '"' => plain '"'
        | '\\' => plain '\\'
        | '/' => plain '/'
        | 'b' => plain '\x08'
        | 'f' => plain '\x0c'
        | 'n' => plain '\n'
        | 'r' => plain '\r'
        | 't' => plain '\t'
        | 'u' => do
          let (c, rest) ← unicodeEscape rest
          stringBody fuel (c :: read) rest
        | _ => none
    else stringBody fuel (c :: read) rest

def digits (text : List Char) : List Nat × List Char :=
  let shown := text.takeWhile fun c => (digit? c).isSome
  (shown.filterMap digit?, text.drop shown.length)

/-- As many leading digits as keep the number within 64 bits, appended to a number, and how many
digits there were and how many of them were left out. -/
def appendDigits : Nat → List Nat → Nat × Nat
  | n, [] => (n, 0)
  | n, d :: rest =>
    if n * 10 + d ≤ greatest then appendDigits (n * 10 + d) rest else (n, rest.length + 1)

/-- The greatest power of ten that is a finite value. -/
def greatestPower : Nat := 308

/-- A value divided by a power of ten that need not be finite: by the greatest one as long as the
power exceeds it, but not when zero is reached, and then by the rest. -/
def lessened (negative : Bool) (power : Nat) (value : Binary64) : Binary64 :=
  let scaledBy (power : Nat) := value.dividedBy negative (Binary64.ofQuotient false (tenTo power) 1)
  if power ≤ greatestPower || value.isZero then scaledBy (min power greatestPower)
  else lessened negative (power - greatestPower) (scaledBy greatestPower)
  termination_by power
  decreasing_by
    simp only [Bool.or_eq_true, decide_eq_true_eq] at *
    unfold greatestPower at *
    omega

/-- A floating-point number from its digits and a power of ten. -/
def real (negative : Bool) (digits : Nat) (power : Int) : Binary64 :=
  let value := Binary64.ofQuotient negative digits 1
  if 0 ≤ power then value.times negative (Binary64.ofQuotient false (tenTo power.toNat) 1)
  else lessened negative power.natAbs value

/-- An exponent after the letter that announces it. -/
def exponent (text : List Char) : Option (Int × List Char) :=
  let (negative, text) :=
    match text with
    | '-' :: rest => (true, rest)
    | '+' :: rest => (false, rest)
    | _ => (false, text)
  match digits text with
  | ([], _) => none
  | (ds, rest) =>
    let n : Nat := min (ds.foldl (fun n d => n * 10 + d) 0) 100000
    some (if negative then -n else n, rest)

def unsigned (negative : Bool) (text : List Char) : Option (Json × List Char) := do
  let (whole, rest) := digits text
  if whole.isEmpty || (whole.length > 1 && whole.head? == some 0) then none
  else
    let (n, dropped) := appendDigits 0 whole
    let (fraction, rest, hasFraction) :=
      match rest with
      | '.' :: after =>
        let (ds, rest) := digits after
        (ds, rest, true)
      | _ => ([], rest, false)
    if hasFraction && fraction.isEmpty then none
    else
      let (n, left) := appendDigits n fraction
      let power : Int := dropped + left - fraction.length
      match rest with
      | c :: after =>
        if c = 'e' ∨ c = 'E' then do
          let (e, rest) ← exponent after
          pure (.real (real negative n (power + e)), rest)
        else pure (finish hasFraction n power dropped, rest)
      | [] => pure (finish hasFraction n power dropped, rest)
where
  /-- A number without exponent. -/
  finish (hasFraction : Bool) (n : Nat) (power : Int) (dropped : Nat) : Json :=
    if hasFraction || dropped > 0 then .real (real negative n power)
    else if !negative then .integer n
    else if n = 0 || twoTo 63 < n then .real (real negative n 0)
    else .integer (-(n : Int))

def number (text : List Char) : Option (Json × List Char) :=
  match text with
  | '-' :: rest => unsigned true rest
  | _ => unsigned false text

def word (w : String) (text : List Char) : Option (List Char) :=
  if w.toList.isPrefixOf text then some (text.drop w.length) else none

mutual

def value : Nat → List Char → Option (Json × List Char)
  | 0, _ => none
  | fuel + 1, text =>
    match skip text with
    | [] => none
    | '"' :: rest => (stringBody (fuel + 1) [] rest).map fun (s, rest) => (.string s, rest)
    | '[' :: rest =>
      match skip rest with
      | ']' :: rest => some (.array [], rest)
      | rest => items fuel rest []
    | '\x7b' :: rest =>
      match skip rest with
      | '\x7d' :: rest => some (.object [], rest)
      | rest => fields fuel rest []
    | 't' :: rest => (word "rue" rest).map fun rest => (.bool true, rest)
    | 'f' :: rest => (word "alse" rest).map fun rest => (.bool false, rest)
    | 'n' :: rest => (word "ull" rest).map fun rest => (.null, rest)
    | rest => number rest

/-- The items of an array up to its end, after those already read. -/
def items : Nat → List Char → List Json → Option (Json × List Char)
  | 0, _, _ => none
  | fuel + 1, text, before => do
    let (item, rest) ← value fuel text
    match skip rest with
    | ',' :: rest => items fuel rest (item :: before)
    | ']' :: rest => pure (.array (item :: before).reverse, rest)
    | _ => none

/-- The fields of an object up to its end, after those already read. -/
def fields : Nat → List Char → List (String × Json) → Option (Json × List Char)
  | 0, _, _ => none
  | fuel + 1, text, before => do
    match skip text with
    | '"' :: rest =>
      let (name, rest) ← stringBody (fuel + 1) [] rest
      match skip rest with
      | ':' :: rest =>
        let (item, rest) ← value fuel rest
        let after := setField name item before
        match skip rest with
        | ',' :: rest => fields fuel rest after
        | '\x7d' :: rest => pure (.object after, rest)
        | _ => none
      | _ => none
    | _ => none

end

end Reader

/-- The value that a whole text stands for. -/
def read? (text : String) : Option Json :=
  match Reader.value (2 * text.length + 2) text.toList with
  | some (value, rest) => if (Reader.skip rest).isEmpty then some value else none
  | none => none

end Json
end Workbench
