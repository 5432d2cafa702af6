namespace Workbench
namespace Text

/-!
# Letter case

Two ways of ignoring case.  The narrow one touches the letters `A` to `Z` only; the wide one is
simple case folding as far as its result is an ASCII letter, which adds exactly two code points
(the long s and the kelvin sign).  The wide one is all that a comparison with an ASCII name can
see, since any other folded code point stays outside ASCII.
-/

def lowered (s : String) : String :=
  String.ofList (s.toList.map Char.toLower)

/-- Whether two texts agree up to the case of `A` to `Z`. -/
def sameAscii (a b : String) : Bool :=
  a.toList.map Char.toLower == b.toList.map Char.toLower

/-- Simple case folding onto the ASCII letters: the capital letters, the long s (U+017F) and the
kelvin sign (U+212A). -/
def foldCase (c : Char) : Char :=
  if c = '\u017f' then 's' else if c = '\u212a' then 'k' else c.toLower

theorem lowered_eq_iff {a b : String} : lowered a = lowered b ↔ sameAscii a b = true := by
  simp [lowered, sameAscii, String.ofList_inj]

end Text
end Workbench
