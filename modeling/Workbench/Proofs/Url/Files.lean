import Workbench.Document
import Workbench.Proofs.Url.Percent
import Workbench.Text.Split

namespace Workbench

/-!
# File paths there and back

The URL of a file names the components of its path, each of them encoded so that it is one segment,
and the way back decodes segment by segment (`joinSegments_pathOfComponents`).  So the path that
comes back has the same components, whatever octets they are made of.  Its octets may differ: what
does not count between components is left out, and a slash may be added where the path ends like a
drive letter.
-/

namespace FilePath

/-- Pieces that are components and hold no separator. -/
def AreComponents (components : List (List UInt8)) : Prop :=
  ∀ component ∈ components, isComponent component = true ∧ slash ∉ component

theorem areComponents (path : FilePath) : AreComponents path.components := by
  intro component member
  rcases List.mem_filter.mp member with ⟨piece, counts⟩
  exact ⟨counts, Text.not_mem_of_mem_splitOn piece⟩

/-- The octets of a path from the root through some components. -/
def rooted (components : List (List UInt8)) : List UInt8 :=
  slash :: [slash].intercalate components

theorem split_rooted {components : List (List UInt8)} (parts : AreComponents components) :
    split (rooted components) = [] :: (if components = [] then [[]] else components) := by
  have cut : split (rooted components) = [] :: split ([slash].intercalate components) := by
    simp [split, rooted, List.splitOn_cons_eq_if_modifyHead]
  rw [cut]
  split
  · rename_i none
    rw [none]
    rfl
  · rename_i filled
    have whole : ∀ component ∈ components, slash ∉ component :=
      fun component member => (parts component member).2
    rw [split, List.splitOn_intercalate slash whole filled]

theorem components_rooted {components : List (List UInt8)} (parts : AreComponents components) :
    FilePath.components ⟨rooted components⟩ = components := by
  have all : components.filter isComponent = components :=
    List.filter_eq_self.mpr fun component member => (parts component member).1
  rw [FilePath.components, split_rooted parts]
  split
  · rename_i none
    rw [none]
    rfl
  · exact all

/-- A slash at the end of a path is not a component. -/
theorem components_append_slash (octets : List UInt8) :
    FilePath.components ⟨octets ++ [slash]⟩ = FilePath.components ⟨octets⟩ := by
  rw [FilePath.components, split, List.splitOn_append_cons_self, List.filter_append]
  simp [FilePath.components, split, isComponent]

theorem fileName?_congr {path other : FilePath} (same : path.components = other.components) :
    path.fileName? = other.fileName? := by
  rw [fileName?, fileName?, same]

theorem fileName?_eq (path : FilePath) :
    path.fileName? = path.components.getLast?.filter (· != parent) := by
  unfold fileName?
  cases path.components.getLast? with
  | none => rfl
  | some name => by_cases up : name = parent <;> simp [Option.filter, up]

end FilePath

namespace Url

open FilePath (slash rooted AreComponents)
open Text (Utf8.encode)

/-- The path of a URL whose segments are components of a file path. -/
def pathOfComponents (components : List (List UInt8)) : List Char :=
  '/' :: ['/'].intercalate (components.map (Percent.encode Percent.segment))

/-- The URL of a file with the given components. -/
def ofComponents (components : List (List UInt8)) : Url :=
  { scheme := "file", hasAuthority := true, path := String.ofList (pathOfComponents components) }

theorem flatMap_cons_eq {α β : Type} (separator : β) (f : α → List β) {items : List α}
    (filled : items ≠ []) :
    (items.flatMap fun item => separator :: f item) =
      separator :: [separator].intercalate (items.map f) := by
  induction items with
  | nil => exact absurd rfl filled
  | cons item rest inductionHypothesis =>
      by_cases last : rest = []
      · simp [last]
      · have more : rest.map f ≠ [] := by simpa using last
        rw [List.flatMap_cons, inductionHypothesis last, List.map_cons,
          Text.intercalate_cons separator (f item) more]
        rfl

/-- The path that is written for components starts with a slash, also where there are none. -/
theorem written_eq (components : List (List UInt8)) :
    let segments := components.map fun component => '/' :: Percent.encode Percent.segment component
    (if segments.isEmpty then ['/'] else segments.flatten) = pathOfComponents components := by
  intro segments
  cases components with
  | nil => rfl
  | cons component rest =>
      have filled : component :: rest ≠ [] := by simp
      exact flatMap_cons_eq '/' (Percent.encode Percent.segment) filled

theorem ofFilePath?_eq (file : FilePath) :
    ofFilePath? file = if file.isAbsolute then some (ofComponents file.components) else none := by
  rw [ofFilePath?, ofComponents, ← written_eq]

/-! ## The way back -/

theorem encode_intercalate (pieces : List (List Char)) :
    Utf8.encode (['/'].intercalate pieces) = [slash].intercalate (pieces.map Utf8.encode) := by
  induction pieces with
  | nil => rfl
  | cons piece rest inductionHypothesis =>
      by_cases last : rest = []
      · rw [last, List.map_singleton, List.intercalate_singleton, List.intercalate_singleton]
      · have more : rest.map Utf8.encode ≠ [] := by simpa using last
        have parts (later : List Char) : Utf8.encode (piece ++ '/' :: later) =
            Utf8.encode piece ++ slash :: Utf8.encode later := by
          simp [Utf8.encode, slash, String.utf8EncodeChar]
        rw [Text.intercalate_cons '/' piece last, parts, inductionHypothesis, List.map_cons,
          Text.intercalate_cons slash _ more]

/-- An encoded component holds no separator. -/
theorem slash_not_mem_octets (component : List UInt8) :
    slash ∉ Utf8.encode (Percent.encode Percent.segment component) := by
  have safe {c : Char} (member : c ∈ Percent.encode Percent.segment component) : Percent.Safe c :=
    Percent.safe_of_mem_encode member
  rw [Percent.encode_of_ascii fun c member => (safe member).ascii]
  intro member
  rcases List.mem_map.mp member with ⟨c, inside, same⟩
  have back := Percent.ofNat_asciiOctet (safe inside).ascii
  rw [same] at back
  exact (safe inside).ne_slash back.symm

/-- The segments of a file's URL are decoded as the components that it was made of. -/
theorem joinSegments_pathOfComponents (components : List (List UInt8)) :
    joinSegments (FilePath.split (Utf8.encode (pathOfComponents components))).tail =
      rooted components := by
  have octets : Utf8.encode (pathOfComponents components) =
      slash :: [slash].intercalate (components.map fun component =>
        Utf8.encode (Percent.encode Percent.segment component)) := by
    have first : Utf8.encode (pathOfComponents components) =
        slash :: Utf8.encode
          (['/'].intercalate (components.map (Percent.encode Percent.segment))) := by
      simp [pathOfComponents, Utf8.encode, slash, String.utf8EncodeChar]
    rw [first, encode_intercalate, List.map_map]
    rfl
  rw [octets]
  cases components with
  | nil => rfl
  | cons component rest =>
      have cut : ([slash].intercalate ((component :: rest).map fun component =>
          Utf8.encode (Percent.encode Percent.segment component))).splitOn slash =
          (component :: rest).map fun component =>
            Utf8.encode (Percent.encode Percent.segment component) := by
        refine List.splitOn_intercalate slash (fun piece member => ?_) (by simp)
        rcases List.mem_map.mp member with ⟨part, _, rfl⟩
        exact slash_not_mem_octets part
      have tail (octets : List UInt8) :
          (FilePath.split (slash :: octets)).tail = octets.splitOn slash := by
        simp [FilePath.split, List.splitOn_cons_eq_if_modifyHead]
      rw [tail, cut, joinSegments, List.flatMap_map]
      simp only [Percent.decode_encode_segment]
      rw [flatMap_cons_eq slash (fun part => part) (by simp), List.map_id']
      rfl

theorem closeDrive_eq (octets : List UInt8) :
    closeDrive octets = octets ∨ closeDrive octets = octets ++ [slash] := by
  unfold closeDrive
  split
  · split
    · exact Or.inr rfl
    · exact Or.inl rfl
  · exact Or.inl rfl

theorem filePath?_ofComponents (components : List (List UInt8)) :
    (ofComponents components).filePath? = some ⟨closeDrive (rooted components)⟩ := by
  have octets : Text.Utf8.ofString (ofComponents components).path =
      Utf8.encode (pathOfComponents components) := by
    simp [ofComponents, Text.Utf8.ofString]
  rw [← joinSegments_pathOfComponents, ← octets]
  rfl

end Url

namespace Document

open FilePath (slash rooted)

/-- The document of a path as it is made from the path's components. -/
theorem ofFilePath_eq (path : FilePath) (languageId : String) :
    ofFilePath path languageId =
      if path.isAbsolute then .ok { uri := Url.ofComponents path.components, languageId }
      else .error (.invalidInput ("not an absolute path: " ++ path.lenient)) := by
  rw [ofFilePath, Url.ofFilePath?_eq]
  cases path.isAbsolute <;> rfl

/-- The path of a document that was made from components has these components. -/
theorem exists_filePath?_eq {components : List (List UInt8)}
    (parts : FilePath.AreComponents components) {document : Document}
    (made : document.uri = Url.ofComponents components) :
    ∃ back, document.filePath? = some back ∧ back.isAbsolute = true ∧
      back.components = components := by
  have file : document.filePath? = some ⟨Url.closeDrive (rooted components)⟩ := by
    rw [filePath?, made, Url.filePath?_ofComponents]
    rfl
  refine ⟨_, file, ?_⟩
  rcases Url.closeDrive_eq (rooted components) with same | closed
  · rw [same]
    exact ⟨rfl, FilePath.components_rooted parts⟩
  · rw [closed]
    refine ⟨rfl, ?_⟩
    rw [FilePath.components_append_slash, FilePath.components_rooted parts]

/-- A document is made from every absolute path and from no other.  Its path is absolute and has the
components of the path that it was made from, and its base name is the last of them as text, unless
that leads to the parent or there is none. -/
theorem file_paths_come_back (path : FilePath) (languageId : String) :
    match ofFilePath path languageId with
    | .ok document =>
      path.isAbsolute = true ∧
      (∃ back, document.filePath? = some back ∧ back.isAbsolute = true ∧
        back.components = path.components) ∧
      document.baseName? =
        (path.components.getLast?.filter (· != FilePath.parent)).map Text.Utf8.lenient
    | .error fault =>
      path.isAbsolute = false ∧
      fault = .invalidInput ("not an absolute path: " ++ path.lenient) := by
  rw [ofFilePath_eq]
  cases absolute : path.isAbsolute with
  | false => exact ⟨rfl, rfl⟩
  | true =>
      rw [if_pos rfl]
      let document : Document := { uri := Url.ofComponents path.components, languageId }
      have made : document.uri = Url.ofComponents path.components := rfl
      rcases exists_filePath?_eq path.areComponents made with ⟨back, file, absolute', same⟩
      refine ⟨rfl, ⟨back, file, absolute', same⟩, ?_⟩
      change document.baseName? = _
      rw [baseName?, file, Option.bind_some, FilePath.fileName?_congr same, FilePath.fileName?_eq]

end Document
end Workbench
