import Workbench.Proofs.Url.Segments

namespace Workbench
namespace Url

/-!
# Reading the URL of a file

The text of a file's URL is always read as the URL of some file on this machine.  Nothing in it is
cut off, passed over or encoded again; only its segments are taken one after another
(`parse_text_ofComponents`).  So it is read as itself exactly if none of them leads to the parent
(`normalised_eq_iff`).
-/

open FilePath (AreComponents)
open Percent (Safe)

namespace Reader

variable {segment : List Char}

theorem not_isPassed {c : Char} (printable : 0x20 < c.toNat) : isPassed c = false := by
  have other : c ≠ '\t' ∧ c ≠ '\n' ∧ c ≠ '\r' := by
    refine ⟨?_, ?_, ?_⟩ <;> rintro rfl <;> exact absurd printable (by decide)
  simp [isPassed, other]

/-- Safe characters are read into the segment as they are. -/
theorem readPath_append (safe : ∀ c ∈ segment, Safe c) (rest : List Char) (reading : PathReading) :
    readPath .file (segment ++ rest) reading =
      readPath .file rest { reading with segment := segment.reverse ++ reading.segment } := by
  induction segment generalizing reading with
  | nil => rfl
  | cons c others inductionHypothesis =>
      have first := safe c List.mem_cons_self
      have inside := first.inside
      simp only [List.mem_cons, List.not_mem_nil, or_false, not_or] at inside
      have unpassed := not_isPassed first.printable.1
      have added : reading.add c = { reading with segment := c :: reading.segment } := by
        simp [PathReading.add, first.encodeText]
      rw [List.cons_append, readPath]
      simp only [unpassed, isSlash, endsPath, inside, added, Bool.false_eq_true, if_false,
        beq_iff_eq, Bool.or_eq_true, Bool.and_eq_true, and_false, or_self]
      rw [inductionHypothesis fun d member => safe d (List.mem_cons_of_mem c member)]
      simp

theorem readPath_slash (rest : List Char) (reading : PathReading) :
    readPath .file ('/' :: rest) reading = readPath .file rest (reading.close .file true) := rfl

theorem path_close (reading : PathReading) (slash : Bool) :
    (reading.close .file slash).path = Path.push true reading.path reading.segment.reverse slash :=
  rfl

/-- Segments of safe characters are added one after another, up to the end of the text. -/
theorem readPath_intercalate {segments : List (List Char)} (safe : ∀ s ∈ segments, ∀ c ∈ s, Safe c)
    (reading : PathReading) (fresh : reading.segment = []) :
    (readPath .file (['/'].intercalate segments) reading).1.path =
        Path.pushAll reading.path segments ∧
      (readPath .file (['/'].intercalate segments) reading).2 = [] := by
  induction segments generalizing reading with
  | nil => exact ⟨by simp [readPath, path_close, fresh, Path.pushAll], rfl⟩
  | cons segment rest inductionHypothesis =>
      have first := safe segment List.mem_cons_self
      cases rest with
      | nil =>
          have whole := readPath_append first [] reading
          rw [List.append_nil] at whole
          rw [List.intercalate_singleton, whole]
          exact ⟨by simp [readPath, path_close, fresh, Path.pushAll], rfl⟩
      | cons next others =>
          rw [Text.intercalate_cons '/' segment (by simp), readPath_append first, readPath_slash]
          have later := inductionHypothesis
            (fun s member => safe s (List.mem_cons_of_mem _ member))
            (PathReading.close .file
              { reading with segment := segment.reverse ++ reading.segment } true) rfl
          rw [path_close] at later
          simpa [fresh, Path.pushAll] using later

end Reader

/-- The URL as which the URL of a file with the given components is read. -/
def normalised (components : List (List UInt8)) : Url :=
  let segments := components.map (Percent.encode Percent.segment)
  { scheme := "file", hasAuthority := true
    path := String.ofList (Path.rooted (Path.pushAll ['/', '/'] segments).reverse) }

theorem safe_of_mem_segments (components : List (List UInt8)) :
    ∀ s ∈ components.map (Percent.encode Percent.segment), ∀ c ∈ s, Safe c := by
  intro s member c inside
  rcases List.mem_map.mp member with ⟨component, _, rfl⟩
  exact Percent.safe_of_mem_encode inside

theorem slash_not_mem_segments (components : List (List UInt8)) :
    ∀ s ∈ components.map (Percent.encode Percent.segment), '/' ∉ s := by
  intro s member
  rcases List.mem_map.mp member with ⟨component, _, rfl⟩
  exact Percent.slash_not_mem_encode component

theorem file_pathOfComponents (components : List (List UInt8)) :
    Reader.file ('/' :: '/' :: pathOfComponents components) = .ok (normalised components) := by
  -- The host is empty, and the first slash of the path makes an empty segment of its own.
  have noHost : Reader.file ('/' :: '/' :: pathOfComponents components) =
      .ok (Reader.file.finish none ['/'] (pathOfComponents components)) := rfl
  have start : Reader.readPath .file (pathOfComponents components) { path := ['/'] } =
      Reader.readPath .file (['/'].intercalate (components.map (Percent.encode Percent.segment)))
        { path := ['/', '/'] } := rfl
  have read := Reader.readPath_intercalate (safe_of_mem_segments components)
    { path := ['/', '/'] } rfl
  rw [noHost, Reader.file.finish, start]
  cases found : Reader.readPath .file
      (['/'].intercalate (components.map (Percent.encode Percent.segment)))
      { path := ['/', '/'] } with
  | mk reading tail =>
      rw [found] at read
      rcases read with ⟨path, rest⟩
      simp only at path rest
      simp only [path, rest, ite_self]
      rfl

/-! ## The whole text -/

theorem toList_text_ofComponents (components : List (List UInt8)) :
    (ofComponents components).text.toList = "file://".toList ++ pathOfComponents components := by
  have text : (ofComponents components).text =
      "file" ++ ":" ++ ("//" ++ "" ++ "" ++ "") ++ (ofComponents components).path ++ "" ++ "" := rfl
  rw [text, ofComponents]
  simp

/-- The text of a file's URL holds no white space and no control characters. -/
theorem printable_of_mem_text {components : List (List UInt8)} {c : Char}
    (member : c ∈ "file://".toList ++ pathOfComponents components) : 0x20 < c.toNat := by
  have front : "file://".toList.all (fun c => decide (0x20 < c.toNat)) = true := by
    decide +kernel
  rcases List.mem_append.mp member with scheme | path
  · exact of_decide_eq_true (List.all_eq_true.mp front c scheme)
  · rcases List.mem_cons.mp path with rfl | later
    · decide
    · rcases Text.mem_intercalate later with rfl | ⟨segment, listed, inside⟩
      · decide
      · exact (safe_of_mem_segments components segment listed c inside).printable.1

theorem dropWhile_of_forall_not {p : Char → Bool} {text : List Char}
    (none : ∀ c ∈ text, p c = false) : text.dropWhile p = text := by
  cases text with
  | nil => rfl
  | cons c rest => exact List.dropWhile_cons_of_neg (by simp [none c List.mem_cons_self])

theorem Reader.trimmed_of_printable {text : List Char} (printable : ∀ c ∈ text, 0x20 < c.toNat) :
    Reader.trimmed text = text := by
  have inner : ∀ c ∈ text, decide (c.toNat ≤ 0x20) = false := by
    intro c member
    simpa using printable c member
  have inner' : ∀ c ∈ text.reverse, decide (c.toNat ≤ 0x20) = false :=
    fun c member => inner c (List.mem_reverse.mp member)
  rw [Reader.trimmed, dropWhile_of_forall_not inner, dropWhile_of_forall_not inner',
    List.reverse_reverse]

theorem Reader.relevant_of_printable {text : List Char} (printable : ∀ c ∈ text, 0x20 < c.toNat) :
    Reader.relevant text = text :=
  List.filter_eq_self.mpr fun c member => by simp [Reader.not_isPassed (printable c member)]

theorem parse_text_ofComponents (components : List (List UInt8)) :
    parse (ofComponents components).text = .ok (normalised components) := by
  have printable : ∀ c ∈ "file://".toList ++ pathOfComponents components, 0x20 < c.toNat :=
    fun c => printable_of_mem_text
  have scheme : Reader.scheme? ("file://".toList ++ pathOfComponents components) =
      some ("file", '/' :: '/' :: pathOfComponents components) := rfl
  rw [parse, toList_text_ofComponents, Reader.trimmed_of_printable printable,
    Reader.relevant_of_printable printable, scheme]
  exact file_pathOfComponents components

/-! ## What is normalised -/

variable {components : List (List UInt8)}

/-- The path of the URL that is read has no segment that leads to the parent. -/
theorem clean_path_normalised (components : List (List UInt8)) :
    Path.Clean (normalised components).path.toList := by
  have start : Path.Clean ['/', '/'] :=
    (by decide : ['.', '.'] ∉ ['/', '/'].splitOn '/')
  rw [normalised, String.toList_ofList]
  exact (Path.clean_pushAll (slash_not_mem_segments components) start).reverse.rooted

/-- The path of a file's URL has but one slash in front. -/
theorem dropWhile_intercalate (parts : AreComponents components) :
    (['/'].intercalate (components.map (Percent.encode Percent.segment))).dropWhile (· == '/') =
      ['/'].intercalate (components.map (Percent.encode Percent.segment)) := by
  cases components with
  | nil => rfl
  | cons component rest =>
      have filled : Percent.encode Percent.segment component ≠ [] := by
        intro none
        have same := Percent.decode_encode_segment component
        rw [none] at same
        rw [← same] at parts
        exact absurd (parts [] List.mem_cons_self).1 (by decide)
      rcases List.exists_cons_of_ne_nil filled with ⟨c, others, split⟩
      have other : ¬ (c == '/') = true := by
        have safe := safe_of_mem_segments (component :: rest) _ List.mem_cons_self c
          (split ▸ List.mem_cons_self)
        simpa using safe.ne_slash
      rw [List.map_cons, split, List.intercalate_cons_cons_left]
      exact List.dropWhile_cons_of_neg other

/-- Where no component leads to the parent, the URL is read as it was made. -/
theorem normalised_eq (parts : AreComponents components) (down : FilePath.parent ∉ components) :
    normalised components = ofComponents components := by
  have stay : ∀ s ∈ components.map (Percent.encode Percent.segment), Path.Stays s := by
    intro s member
    rcases List.mem_map.mp member with ⟨component, listed, rfl⟩
    exact Path.stays_encode (parts component listed).1 fun same => down (same ▸ listed)
  rw [normalised, Path.pushAll_of_stays stay (by decide), ofComponents, pathOfComponents]
  simp [Path.rooted, dropWhile_intercalate parts]

/-- A component that leads to the parent is a segment of the URL that was made. -/
theorem not_clean_path_ofComponents (up : FilePath.parent ∈ components) :
    ¬ Path.Clean (ofComponents components).path.toList := by
  have dots : Percent.encode Percent.segment FilePath.parent = ['.', '.'] := by decide +kernel
  have filled : components.map (Percent.encode Percent.segment) ≠ [] := by
    intro none
    rw [List.map_eq_nil_iff.mp none] at up
    cases up
  intro clean
  rw [ofComponents, String.toList_ofList, pathOfComponents, Path.clean_slash_cons_iff, Path.Clean,
    List.splitOn_intercalate '/' (slash_not_mem_segments components) filled] at clean
  exact clean (dots ▸ List.mem_map_of_mem up)

theorem normalised_eq_iff (parts : AreComponents components) :
    normalised components = ofComponents components ↔ FilePath.parent ∉ components := by
  refine ⟨fun same up => ?_, normalised_eq parts⟩
  exact not_clean_path_ofComponents up (same ▸ clean_path_normalised components)

end Url
end Workbench
