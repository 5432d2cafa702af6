namespace Workbench
namespace Text

/-!
# Splitting at a separator

A list that is cut at every occurrence of a separator has one piece more than there are separators,
and the pieces put together again with the separator between them give the list back.  No piece has
a separator in it (`not_mem_of_mem_splitOn`), and a list that is turned around is cut into its
pieces turned around (`splitOn_reverse`).  The pieces of one list begin those of another if the
lists are the same, or if the other one goes on after a separator (`splitOn_prefix_iff`).
-/

variable {α : Type}

/-! ## Pieces with a separator between them -/

theorem intercalate_cons (separator : α) (piece : List α) {pieces : List (List α)}
    (h : pieces ≠ []) :
    [separator].intercalate (piece :: pieces) =
      piece ++ separator :: [separator].intercalate pieces := by
  rw [List.intercalate_cons_of_ne_nil h, ← List.append_cons]

theorem intercalate_append (separator : α) {first second : List (List α)} (h : first ≠ [])
    (h' : second ≠ []) :
    [separator].intercalate (first ++ second) =
      [separator].intercalate first ++ separator :: [separator].intercalate second := by
  induction first with
  | nil => exact absurd rfl h
  | cons piece pieces ih =>
    cases pieces with
    | nil =>
      rw [List.singleton_append, intercalate_cons separator piece h', List.intercalate_singleton]
    | cons next others =>
      rw [List.cons_append, intercalate_cons separator piece (by simp), ih (by simp),
        intercalate_cons separator piece (by simp), List.append_assoc, List.cons_append]

theorem mem_intercalate {separator a : α} {pieces : List (List α)}
    (member : a ∈ [separator].intercalate pieces) :
    a = separator ∨ ∃ piece ∈ pieces, a ∈ piece := by
  induction pieces with
  | nil => cases member
  | cons piece others ih =>
    by_cases last : others = []
    · rw [last, List.intercalate_singleton] at member
      exact Or.inr ⟨piece, List.mem_cons_self, member⟩
    · rw [intercalate_cons separator piece last, List.mem_append, List.mem_cons] at member
      rcases member with inside | same | later
      · exact Or.inr ⟨piece, List.mem_cons_self, inside⟩
      · exact Or.inl same
      · exact (ih later).imp_right fun ⟨found, listed, inside⟩ =>
          ⟨found, List.mem_cons_of_mem _ listed, inside⟩

theorem reverse_intercalate (separator : α) (pieces : List (List α)) :
    ([separator].intercalate pieces).reverse =
      [separator].intercalate (pieces.map List.reverse).reverse := by
  induction pieces with
  | nil => rfl
  | cons piece others ih =>
    by_cases last : others = []
    · rw [last]
      simp
    · have reversed : (others.map List.reverse).reverse ≠ [] := by simpa using last
      rw [intercalate_cons separator piece last, List.reverse_append, List.reverse_cons, ih,
        List.append_assoc, List.singleton_append, List.map_cons, List.reverse_cons,
        intercalate_append separator reversed (by simp), List.intercalate_singleton]

/-! ## Pieces of a list -/

variable [BEq α] [LawfulBEq α] {separator : α}

theorem splitOn_prefix_iff {first second : List α} :
    first.splitOn separator <+: second.splitOn separator ↔
      first = second ∨ first ++ [separator] <+: second := by
  constructor
  · rintro ⟨others, pieces⟩
    have whole : [separator].intercalate (first.splitOn separator ++ others) = second := by
      rw [pieces, List.intercalate_splitOn]
    cases others with
    | nil =>
      rw [List.append_nil, List.intercalate_splitOn] at whole
      exact Or.inl whole
    | cons next rest =>
      rw [intercalate_append separator (List.splitOn_ne_nil separator first) (by simp),
        List.intercalate_splitOn] at whole
      exact Or.inr ⟨[separator].intercalate (next :: rest), by simp [← whole]⟩
  · rintro (rfl | ⟨rest, rfl⟩)
    · exact List.prefix_refl _
    · rw [List.append_assoc, List.singleton_append, List.splitOn_append_cons_self]
      exact List.prefix_append _ _

theorem not_mem_of_mem_splitOn {list piece : List α} (member : piece ∈ list.splitOn separator) :
    separator ∉ piece := by
  induction list generalizing piece with
  | nil =>
    rw [List.splitOn_nil, List.mem_singleton] at member
    simp [member]
  | cons a rest ih =>
    rw [List.splitOn_cons_eq_if_modifyHead] at member
    by_cases h : a = separator
    · rw [if_pos (beq_iff_eq.2 h)] at member
      rcases List.mem_cons.1 member with rfl | later
      · simp
      · exact ih later
    · rcases List.exists_cons_of_ne_nil (List.splitOn_ne_nil separator rest) with
        ⟨first, pieces, eq⟩
      rw [if_neg (mt beq_iff_eq.1 h), eq, List.modifyHead_cons] at member
      rw [eq] at ih
      rcases List.mem_cons.1 member with rfl | later
      · rw [List.mem_cons, not_or]
        exact ⟨Ne.symm h, ih List.mem_cons_self⟩
      · exact ih (List.mem_cons_of_mem _ later)

theorem splitOn_reverse (separator : α) (list : List α) :
    list.reverse.splitOn separator = ((list.splitOn separator).map List.reverse).reverse := by
  have absent : ∀ piece ∈ ((list.splitOn separator).map List.reverse).reverse,
      separator ∉ piece := by
    intro piece member
    rcases List.mem_map.1 (List.mem_reverse.1 member) with ⟨whole, inside, rfl⟩
    rw [List.mem_reverse]
    exact not_mem_of_mem_splitOn inside
  have some : ((list.splitOn separator).map List.reverse).reverse ≠ [] := by
    simp
  rw [← List.splitOn_intercalate separator absent some, ← reverse_intercalate,
    List.intercalate_splitOn]

end Text
end Workbench
