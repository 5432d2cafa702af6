import Workbench.Text.Blank
import Workbench.Text.Letters

namespace Workbench
namespace Text

/-!
# Ends of texts

What trimming leaves is the text without the white space around it (`trim_bare`).  A word that
does not hold a certain character ends a text exactly if it ends what follows that character, so a
separator keeps whatever is in front of it out of sight (`exists_trim_append_cons`).
-/

theorem trimmed_eq_empty_iff {s : String} : trimmed s = "" ↔ allBlank s = true := by
  rw [trimmed, String.ofList_eq_empty_iff, trim_eq_nil_iff, allBlank, List.all_eq_true]

/-- What is left of a text without the white space around it. -/
structure Bare (text bare : List Char) : Prop where
  around : ∃ before after, text = before ++ bare ++ after ∧ ∀ c ∈ before ++ after, isBlank c = true
  head : ∀ c ∈ bare.head?, isBlank c = false
  last : ∀ c ∈ bare.getLast?, isBlank c = false

theorem trimEnd_cons_of_not_blank {c : Char} (filled : isBlank c = false) (rest : List Char) :
    trimEnd (c :: rest) = c :: trimEnd rest := by
  rw [trimEnd]
  cases trimEnd rest with
  | nil => simp [filled]
  | cons d others => rfl

theorem trimEnd_append_cons {c : Char} (filled : isBlank c = false) (before rest : List Char) :
    trimEnd (before ++ c :: rest) = before ++ c :: trimEnd rest := by
  induction before with
  | nil => exact trimEnd_cons_of_not_blank filled rest
  | cons d others inductionHypothesis =>
      rw [List.cons_append, trimEnd, inductionHypothesis]
      cases others <;> rfl

theorem exists_eq_trimEnd_append (text : List Char) :
    ∃ after, text = trimEnd text ++ after ∧ ∀ c ∈ after, isBlank c = true := by
  induction text with
  | nil => exact ⟨[], rfl, by simp⟩
  | cons c rest inductionHypothesis =>
      rcases inductionHypothesis with ⟨after, same, blank⟩
      cases filled : isBlank c with
      | false =>
          refine ⟨after, ?_, blank⟩
          rw [trimEnd_cons_of_not_blank filled, List.cons_append, ← same]
      | true =>
          cases kept : trimEnd rest with
          | nil =>
              refine ⟨c :: rest, ?_, ?_⟩
              · simp [trimEnd, kept, filled]
              · rw [kept, List.nil_append] at same
                rw [same]
                simpa [filled] using blank
          | cons d others =>
              refine ⟨after, ?_, blank⟩
              rw [kept] at same
              simpa [trimEnd, kept] using same

theorem not_blank_getLast?_trimEnd (text : List Char) :
    ∀ c ∈ (trimEnd text).getLast?, isBlank c = false := by
  induction text with
  | nil => simp
  | cons c rest inductionHypothesis =>
      cases kept : trimEnd rest with
      | nil => cases filled : isBlank c <;> simp [trimEnd, kept, filled]
      | cons d others =>
          rw [kept] at inductionHypothesis
          simpa [trimEnd, kept] using inductionHypothesis

/-- What is left at the front starts with something, or nothing is left. -/
theorem trimStart_cases (text : List Char) :
    trimStart text = [] ∨ ∃ c rest, trimStart text = c :: rest ∧ isBlank c = false := by
  cases kept : trimStart text with
  | nil => exact Or.inl rfl
  | cons c rest =>
      refine Or.inr ⟨c, rest, rfl, ?_⟩
      have first := List.head?_dropWhile_not isBlank text
      rw [← trimStart, kept] at first
      simpa using first

theorem exists_eq_append_trimStart (text : List Char) :
    ∃ before, text = before ++ trimStart text ∧ ∀ c ∈ before, isBlank c = true :=
  ⟨text.takeWhile isBlank, List.takeWhile_append_dropWhile.symm,
    List.all_eq_true.mp List.all_takeWhile⟩

theorem trim_bare (text : List Char) : Bare text (trim text) where
  around := by
    rcases exists_eq_append_trimStart text with ⟨before, front, blank⟩
    rcases exists_eq_trimEnd_append (trimStart text) with ⟨after, back, blank'⟩
    refine ⟨before, after, ?_, fun c member => ?_⟩
    · rw [trim, List.append_assoc, ← back]
      exact front
    · exact (List.mem_append.mp member).elim (blank c) (blank' c)
  head := by
    rcases trimStart_cases text with nothing | ⟨c, rest, front, filled⟩
    · simp [trim, nothing]
    · simp [trim, front, trimEnd_cons_of_not_blank filled, filled]
  last := not_blank_getLast?_trimEnd _

/-- What is left of a text that is not blank is not blank either. -/
theorem allBlank_trimmed {s : String} (filled : trimmed s ≠ "") : allBlank (trimmed s) = false := by
  cases bare : trim s.toList with
  | nil => exact absurd (by rw [trimmed, bare, String.ofList_nil]) filled
  | cons c rest =>
      have first := (trim_bare s.toList).head c (by rw [bare]; rfl)
      rw [trimmed, bare, allBlank, String.toList_ofList, List.all_cons, first, Bool.false_and]

/-- Trimming at the end alone leaves some white space in front of what trimming leaves. -/
theorem exists_trimEnd_eq (text : List Char) :
    ∃ before, trimEnd text = before ++ trim text ∧ ∀ c ∈ before, isBlank c = true := by
  rcases exists_eq_append_trimStart text with ⟨before, front, blank⟩
  rcases trimStart_cases text with nothing | ⟨c, rest, start, filled⟩
  · refine ⟨[], ?_, by simp⟩
    rw [nothing, List.append_nil] at front
    rw [trim, nothing, trimEnd_nil, List.append_nil, trimEnd_eq_nil_iff, front]
    exact blank
  · refine ⟨before, ?_, blank⟩
    rw [start] at front
    rw [trim, start, trimEnd_cons_of_not_blank filled, ← trimEnd_append_cons filled, ← front]

/-- What is in front of a separator does not matter to what trimming leaves behind it: there is the
separator before it, or white space. -/
theorem exists_trim_append_cons {separator : Char} (filled : isBlank separator = false)
    (before text : List Char) :
    ∃ front c, trim (before ++ separator :: text) = front ++ c :: trim text ∧
      (c = separator ∨ isBlank c = true) := by
  have start : ∃ kept, trimStart (before ++ separator :: text) = kept ++ separator :: text := by
    unfold trimStart
    rw [List.dropWhile_append]
    split
    · exact ⟨[], List.dropWhile_cons_of_neg (by simp [filled])⟩
    · exact ⟨_, rfl⟩
  rcases start with ⟨kept, start⟩
  rcases exists_trimEnd_eq text with ⟨blanks, back, blank⟩
  have trimmed : trim (before ++ separator :: text) = kept ++ separator :: (blanks ++ trim text) := by
    rw [trim, start, trimEnd_append_cons filled, back]
  rcases List.eq_nil_or_concat blanks with rfl | ⟨others, last, rfl⟩
  · exact ⟨kept, separator, trimmed, Or.inl rfl⟩
  · refine ⟨kept ++ separator :: others, last, ?_, Or.inr ?_⟩
    · rw [trimmed]
      simp
    · exact blank last (by simp)

/-- A word ends a text if it ends what follows a character that the word does not hold. -/
theorem suffix_append_cons_iff {word before text : List Char} {c : Char} (foreign : c ∉ word) :
    word <:+ before ++ c :: text ↔ word <:+ text := by
  refine ⟨fun ends => ?_, fun ends => ?_⟩
  · induction before with
    | nil =>
        rcases List.suffix_cons_iff.mp ends with whole | later
        · exact absurd (by simp [whole]) foreign
        · exact later
    | cons d others inductionHypothesis =>
        rcases List.suffix_cons_iff.mp ends with whole | later
        · exact absurd (by simp [whole]) foreign
        · exact inductionHypothesis later
  · exact (ends.trans (List.suffix_cons c text)).trans (List.suffix_append before _)

/-! ## Letter case -/

/-- White space has no case. -/
theorem foldCase_of_blank {c : Char} (blank : isBlank c = true) : foldCase c = c := by
  have notLong : c ≠ '\u017f' := by
    rintro rfl
    exact absurd blank (by decide)
  have notKelvin : c ≠ '\u212a' := by
    rintro rfl
    exact absurd blank (by decide)
  have notCapital : ¬ ('A' ≤ c ∧ c ≤ 'Z') := by
    rintro ⟨low, high⟩
    have low' : 65 ≤ c.toNat := low
    have high' : c.toNat ≤ 90 := high
    unfold isBlank at blank
    simp only [Bool.or_eq_true, Bool.and_eq_true, beq_iff_eq, decide_eq_true_eq] at blank
    omega
  rw [foldCase, if_neg notLong, if_neg notKelvin]
  exact dif_neg notCapital

/-- Folding that agrees with `foldCase` on what becomes an ASCII character. -/
def FoldsOntoAscii (fold : Char → Char) : Prop :=
  ∀ c, (fold c).toNat < 128 ∨ (foldCase c).toNat < 128 → fold c = foldCase c

/-- Whether a text ends in an ASCII word does not depend on how the rest of Unicode is folded. -/
theorem FoldsOntoAscii.suffix_map_iff {fold : Char → Char} (folds : FoldsOntoAscii fold)
    {word : List Char} (ascii : ∀ c ∈ word, c.toNat < 128) (text : List Char) :
    word <:+ text.map fold ↔ word <:+ text.map foldCase := by
  have same (part : List Char) : word = part.map fold ↔ word = part.map foldCase := by
    refine ⟨fun eq => ?_, fun eq => ?_⟩
    · rw [eq]
      refine List.map_congr_left fun c member => folds c (Or.inl (ascii _ ?_))
      rw [eq]
      exact List.mem_map_of_mem member
    · rw [eq]
      refine List.map_congr_left fun c member => (folds c (Or.inr (ascii _ ?_))).symm
      rw [eq]
      exact List.mem_map_of_mem member
  simp only [List.suffix_map_iff, same]

end Text
end Workbench
