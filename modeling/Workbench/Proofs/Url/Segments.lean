import Workbench.Proofs.Url.Files

namespace Workbench
namespace Url
namespace Path

/-!
# Segments one after another

What becomes of a path while its segments are added.  Segments without a meaning of their own are
added as they are (`pushAll_of_stays`).  A segment that leads to the parent takes others away and is
never added, so no path that is built up in this way holds one (`clean_pushAll`).

As everywhere while a path is read, its last character comes first.
-/

/-- A path to which some segments are added, all but the last one with a slash behind them. -/
def pushAll : List Char → List (List Char) → List Char
  | path, [] => push true path [] false
  | path, [segment] => push true path segment false
  | path, segment :: rest => pushAll (push true path segment true) rest

theorem pushAll_cons_of_ne_nil (path segment : List Char) {rest : List (List Char)}
    (more : rest ≠ []) :
    pushAll path (segment :: rest) = pushAll (push true path segment true) rest := by
  cases rest with
  | nil => exact absurd rfl more
  | cons next others => rfl

/-! ## Segments that stay -/

/-- A segment that is neither one dot nor two. -/
structure Stays (segment : List Char) : Prop where
  notSingle : isSingleDot segment = false
  notDouble : isDoubleDot segment = false

variable {path segment : List Char}

/-- Away from the root a segment that stays is added as it is. -/
theorem push_of_stays (stays : Stays segment) (deep : 2 ≤ path.length) (slash : Bool) :
    push true path segment slash =
      if slash then '/' :: (segment.reverse ++ path) else segment.reverse ++ path := by
  have away : path ≠ ['/'] := by
    rintro rfl
    exact absurd deep (by decide)
  have same : kept true path segment = segment := by
    simp [kept, isRootDrive, away]
  simp only [push, stays.notSingle, stays.notDouble, same, Bool.false_eq_true, if_false]

theorem pushAll_of_stays {segments : List (List Char)} (stay : ∀ s ∈ segments, Stays s)
    (deep : 2 ≤ path.length) :
    pushAll path segments = (['/'].intercalate segments).reverse ++ path := by
  induction segments generalizing path with
  | nil => exact push_of_stays ⟨by decide, by decide⟩ deep false
  | cons segment rest inductionHypothesis =>
      have first := stay segment List.mem_cons_self
      cases rest with
      | nil =>
          rw [List.intercalate_singleton]
          exact push_of_stays first deep false
      | cons next others =>
          have longer : 2 ≤ ('/' :: (segment.reverse ++ path)).length := by
            simp only [List.length_cons, List.length_append]
            omega
          rw [pushAll_cons_of_ne_nil path segment (by simp), push_of_stays first deep, if_pos rfl,
            inductionHypothesis (fun s member => stay s (List.mem_cons_of_mem _ member)) longer,
            Text.intercalate_cons '/' segment (by simp)]
          simp

/-- A component that is written in one of several forms is what all of them decode to. -/
theorem eq_of_written_as {component meaning : List UInt8} {forms : List String}
    (decoded : ∀ form ∈ forms, Percent.decode (Text.Utf8.encode form.toList) = meaning)
    (written : forms.any (·.toList == Percent.encode Percent.segment component) = true) :
    component = meaning := by
  rcases List.any_eq_true.mp written with ⟨form, member, same⟩
  rw [← Percent.decode_encode_segment component, ← eq_of_beq same, decoded form member]

theorem eq_dot_of_isSingleDot {component : List UInt8}
    (dots : isSingleDot (Percent.encode Percent.segment component) = true) :
    component = [FilePath.dot] :=
  eq_of_written_as (by decide +kernel) dots

theorem eq_parent_of_isDoubleDot {component : List UInt8}
    (dots : isDoubleDot (Percent.encode Percent.segment component) = true) :
    component = FilePath.parent :=
  eq_of_written_as (by decide +kernel) dots

/-- A component of a path stays unless it leads to the parent. -/
theorem stays_encode {component : List UInt8} (counts : FilePath.isComponent component = true)
    (down : component ≠ FilePath.parent) : Stays (Percent.encode Percent.segment component) where
  notSingle := by
    cases dots : isSingleDot (Percent.encode Percent.segment component) with
    | false => rfl
    | true =>
        rw [eq_dot_of_isSingleDot dots] at counts
        exact absurd counts (by decide)
  notDouble := by
    cases dots : isDoubleDot (Percent.encode Percent.segment component) with
    | false => rfl
    | true => exact absurd (eq_parent_of_isDoubleDot dots) down

/-! ## Segments that lead to the parent -/

/-- No segment of a path is two dots, which read the same from both ends. -/
def Clean (path : List Char) : Prop :=
  ['.', '.'] ∉ path.splitOn '/'

theorem clean_slash_cons_iff : Clean ('/' :: path) ↔ Clean path := by
  simp [Clean, List.splitOn_cons_eq_if_modifyHead]

theorem Clean.reverse (clean : Clean path) : Clean path.reverse := by
  intro member
  rw [Text.splitOn_reverse, List.mem_reverse] at member
  rcases List.mem_map.mp member with ⟨piece, inside, same⟩
  have dots : piece = ['.', '.'] := by
    rw [← List.reverse_reverse piece, same]
    rfl
  exact clean (dots ▸ inside)

/-- What is left in front of a slash is as clean as the whole. -/
theorem Clean.of_append {front : List Char} (clean : Clean (front ++ '/' :: path)) :
    Clean path := by
  rw [Clean, List.splitOn_append_cons_self] at clean
  exact fun member => clean (List.mem_append_right _ member)

theorem Clean.upToSlash (clean : Clean path) : Clean (upToSlash path) := by
  have parts : path.takeWhile (· != '/') ++ Path.upToSlash path = path :=
    List.takeWhile_append_dropWhile
  cases found : Path.upToSlash path with
  | nil => exact (by decide : ['.', '.'] ∉ [].splitOn '/')
  | cons c rest =>
      have slash : c = '/' := by
        have first := List.head?_dropWhile_not (· != '/') path
        rw [← Path.upToSlash, found] at first
        simpa using first
      rw [found, slash] at parts
      rw [slash, clean_slash_cons_iff]
      exact Clean.of_append (parts ▸ clean)

theorem Clean.dropSlash (clean : Clean path) : Clean (dropSlash path) := by
  unfold Path.dropSlash
  split
  · split
    · exact clean_slash_cons_iff.mp clean
    · exact clean
  · exact clean

theorem Clean.closed (clean : Clean path) : Clean (closed path) := by
  unfold Path.closed
  split
  · exact clean
  · exact clean_slash_cons_iff.mpr clean

theorem Clean.pop (clean : Clean path) : Clean (pop true path) := by
  unfold Path.pop
  split
  · exact clean
  · exact clean.upToSlash

/-- A segment that is kept is not two dots, and it holds no slash. -/
theorem kept_of_not_double (path : List Char) (down : isDoubleDot segment = false)
    (whole : '/' ∉ segment) :
    (kept true path segment).reverse ≠ ['.', '.'] ∧ '/' ∉ (kept true path segment).reverse := by
  rw [List.mem_reverse]
  unfold kept
  split
  · refine ⟨by simp, fun member => ?_⟩
    rcases List.mem_append.mp member with inside | colon
    · exact whole (List.mem_of_mem_take inside)
    · exact absurd colon (by decide)
  · refine ⟨fun same => ?_, whole⟩
    have dots : segment = ['.', '.'] := by
      rw [← List.reverse_reverse segment, same]
      rfl
    rw [dots] at down
    exact absurd down (by decide)

theorem clean_push (clean : Clean ('/' :: path)) (whole : '/' ∉ segment) (slash : Bool) :
    Clean (push true ('/' :: path) segment slash) := by
  unfold push
  split
  · cases slash with
    | true => exact clean.dropSlash.pop.closed
    | false => exact clean.dropSlash.pop
  · rename_i down
    split
    · exact clean.closed
    · rcases kept_of_not_double ('/' :: path) (Bool.not_eq_true _ ▸ down) whole with ⟨other, whole'⟩
      have longer : Clean ((kept true ('/' :: path) segment).reverse ++ '/' :: path) := by
        rw [Clean, List.splitOn_append_cons_self, List.splitOn_eq_singleton whole', List.mem_append,
          List.mem_singleton, not_or]
        exact ⟨Ne.symm other, clean_slash_cons_iff.mp clean⟩
      cases slash with
      | true => exact clean_slash_cons_iff.mpr longer
      | false => exact longer

theorem exists_closed_eq (path : List Char) : ∃ before, closed path = '/' :: before := by
  unfold closed
  split <;> exact ⟨_, rfl⟩

/-- A segment with a slash behind it leaves a path that ends in a slash. -/
theorem exists_push_eq (path segment : List Char) :
    ∃ before, push true path segment true = '/' :: before := by
  unfold push
  split
  · exact exists_closed_eq _
  · split
    · exact exists_closed_eq _
    · exact ⟨_, rfl⟩

theorem clean_pushAll {segments : List (List Char)} (whole : ∀ s ∈ segments, '/' ∉ s)
    (clean : Clean ('/' :: path)) : Clean (pushAll ('/' :: path) segments) := by
  induction segments generalizing path with
  | nil => exact clean_push clean (by simp) false
  | cons segment rest inductionHypothesis =>
      have first := clean_push clean (whole segment List.mem_cons_self)
      cases rest with
      | nil => exact first false
      | cons next others =>
          rcases exists_push_eq ('/' :: path) segment with ⟨before, ended⟩
          have started := first true
          rw [ended] at started
          rw [pushAll_cons_of_ne_nil _ segment (by simp), ended]
          exact inductionHypothesis (fun s member => whole s (List.mem_cons_of_mem _ member))
            started

/-- The one slash with which a file's path begins changes nothing. -/
theorem Clean.rooted (clean : Clean path) : Clean (rooted path) := by
  rw [Path.rooted, clean_slash_cons_iff]
  induction path with
  | nil => exact clean
  | cons c rest inductionHypothesis =>
      by_cases slash : c = '/'
      · rw [List.dropWhile_cons_of_pos (by simp [slash])]
        exact inductionHypothesis (clean_slash_cons_iff.mp (slash ▸ clean))
      · rw [List.dropWhile_cons_of_neg (by simp [slash])]
        exact clean

end Path
end Url
end Workbench
