namespace Workbench
namespace Text

/-!
# White space

The code points with the Unicode property `White_Space`, and trimming by it.  A zero-width space
or a byte order mark is not white space, so text made of those is not blank.  The main fact is
that the text of which trimming leaves nothing is the blank text (`trim_eq_nil_iff`).
-/

/-- Whether a character has the Unicode property `White_Space`. -/
def isBlank (c : Char) : Bool :=
  let n := c.toNat
  (9 ≤ n && n ≤ 13) || n == 0x20 || n == 0x85 || n == 0xA0 || n == 0x1680 ||
    (0x2000 ≤ n && n ≤ 0x200A) || n == 0x2028 || n == 0x2029 || n == 0x202F ||
    n == 0x205F || n == 0x3000

/-- The text without its leading white space. -/
def trimStart (cs : List Char) : List Char :=
  cs.dropWhile isBlank

/-- The text without its trailing white space.  A blank character is kept exactly when something
that is not blank follows it. -/
def trimEnd : List Char → List Char
  | [] => []
  | c :: rest =>
    match trimEnd rest with
    | [] => if isBlank c then [] else [c]
    | kept => c :: kept

/-- The text without the white space at either end. -/
def trim (cs : List Char) : List Char :=
  trimEnd (trimStart cs)

def trimmed (s : String) : String :=
  String.ofList (trim s.toList)

/-- Whether there is nothing but white space. -/
def allBlank (s : String) : Bool :=
  s.toList.all isBlank

@[simp]
theorem trimEnd_nil : trimEnd [] = [] := rfl

theorem trimEnd_eq_nil_iff {cs : List Char} : trimEnd cs = [] ↔ ∀ c ∈ cs, isBlank c = true := by
  induction cs with
  | nil => simp
  | cons c rest ih =>
    cases h : trimEnd rest with
    | nil =>
      have blank := ih.1 h
      by_cases hc : isBlank c = true
      · simp [trimEnd, h, hc]
        exact blank
      · simp [trimEnd, h, hc]
    | cons d kept =>
      have filled : ¬ ∀ c ∈ rest, isBlank c = true := by
        intro every
        rw [ih.2 every] at h
        cases h
      simp only [trimEnd, h, List.mem_cons, forall_eq_or_imp]
      constructor
      · intro impossible
        cases impossible
      · intro every
        exact absurd every.2 filled

theorem trim_eq_nil_iff {cs : List Char} : trim cs = [] ↔ ∀ c ∈ cs, isBlank c = true := by
  unfold trim trimStart
  rw [trimEnd_eq_nil_iff]
  constructor
  · intro rest c member
    induction cs with
    | nil => cases member
    | cons d tail ih =>
      by_cases hd : isBlank d = true
      · rw [List.dropWhile_cons_of_pos hd] at rest
        rcases List.mem_cons.1 member with rfl | later
        · exact hd
        · exact ih rest later
      · rw [List.dropWhile_cons_of_neg hd] at rest
        exact rest c member
  · intro every c member
    exact every c ((List.dropWhile_sublist _).subset member)

end Text
end Workbench
