import Workbench.Lint.Editor
import Workbench.Proofs.Json.RoundTrip
import Workbench.Proofs.Url.Reading

namespace Workbench
namespace Document

/-!
# Documents as data

A document that was made from a path is written as JSON and read again.  Its URL goes through its
own text, and everything about it comes back but components that lead to the parent, which the
reader of URLs resolves and the maker of URLs does not.  So the document is the same again, and goes
by the same address, exactly if its path has no such component.
-/

/-! ## The text -/

theorem legible_toJson (document : Document) : Json.Legible document.toJson := by
  have version : Json.Reader.Fits document.version.toInt := by
    have low := Int32.le_toInt document.version
    have high := Int32.toInt_lt document.version
    have scale : twoTo 63 = 2 ^ 63 ∧ twoTo 64 = 2 ^ 64 := ⟨rfl, rfl⟩
    constructor <;> omega
  refine .object ?_ (by decide : ["uri", "languageId", "version"].Nodup)
  intro field member
  simp only [List.mem_cons, List.not_mem_nil, or_false] at member
  rcases member with rfl | rfl | rfl
  · exact .string _
  · exact .string _
  · exact .integer version

/-- A document is read from its data with the URL that its URL's text stands for. -/
theorem ofJson_toJson {document : Document} {url : Url}
    (read : Url.parse document.uri.text = .ok url) :
    ofJson document.toJson = .ok { document with uri := url } := by
  have version : Json.toInt32 (.integer document.version.toInt) = .ok document.version := by
    have bounds := And.intro (Int32.minValue_le_toInt document.version)
      (Int32.toInt_le document.version)
    rw [Json.toInt32, if_pos bounds, Int32.ofInt_toInt]
  have uri : urlOfJson (.string document.uri.text) = .ok url := by
    rw [urlOfJson, read]
  simp only [ofJson, toJson, Json.toRecord, Json.assignAll, List.foldlM, Draft.assign, uri, version]
  rfl

/-! ## The same document again -/

open Lint (Editors SwitchTable Switches)

theorem lookup_filter_of_ne {entries : List (Url × Switches)} {uri other : Url} (ne : other ≠ uri) :
    (entries.filter fun entry => entry.1 != uri).lookup other = entries.lookup other := by
  induction entries with
  | nil => rfl
  | cons entry rest inductionHypothesis =>
      rcases entry with ⟨known, switches⟩
      by_cases same : known = uri
      · have distinct : (other == known) = false := by simpa [same] using ne
        rw [List.filter_cons_of_neg (by simp [same]), List.lookup_cons, distinct]
        exact inductionHypothesis
      · simp [same, List.lookup_cons, inductionHypothesis]

/-- What is set for one document is in effect for the documents of its URL and for no others. -/
theorem switches_override (table : SwitchTable) (uri other : Url) (switches : Switches) :
    (table.override uri switches).switches other =
      if other = uri then switches else table.switches other := by
  rw [SwitchTable.switches, SwitchTable.override]
  by_cases same : other = uri
  · simp [same]
  · have distinct : (other == uri) = false := by simpa using same
    rw [if_neg same, List.lookup_cons, distinct]
    simp only
    rw [lookup_filter_of_ne same, SwitchTable.switches]

/-- Two open documents are listed once if they have one URL, and else both. -/
theorem length_documents_pair (document other : Document) :
    (Editors.documents { shown := [document, other] }).length =
      if other.uri = document.uri then 1 else 2 := by
  by_cases same : other.uri = document.uri
  · simp [Editors.documents, Editors.insertNew, same]
  · have distinct : (document.uri == other.uri) = false := by simpa using Ne.symm same
    simp [Editors.documents, Editors.insertNew, same, distinct]

/-- A document that was made from a path and written as JSON is read again without fault, and its
language and version come back.  Its URL comes back exactly if no component of the path leads to the
parent, and no segment of the URL that comes back does; so the document counts as the same one, in
the editors, in their list and for its switches, exactly then. -/
theorem documents_are_exchanged (path : FilePath) (languageId : String) (version : Int32) :
    match ofFilePath path languageId with
    | .ok made =>
      let document : Document := { made with version }
      ∃ back : Document,
        Json.read? document.toJson.write = some document.toJson ∧
        ofJson document.toJson = .ok back ∧
        back.languageId = languageId ∧ back.version = version ∧
        (back = document ↔ FilePath.parent ∉ path.components) ∧
        ['.', '.'] ∉ back.uri.path.toList.splitOn '/' ∧
        -- Whether the document is open, as which document it is listed, which switches it has.
        (∀ editors : Editors, (editors.add document).count back.uri =
          editors.count back.uri + if FilePath.parent ∈ path.components then 0 else 1) ∧
        (Editors.documents { shown := [document, back] }).length =
          (if FilePath.parent ∈ path.components then 2 else 1) ∧
        ∀ (table : SwitchTable) (switches : Switches),
          (table.override document.uri switches).switches back.uri =
            if FilePath.parent ∈ path.components then table.switches back.uri else switches
    | .error _ => path.isAbsolute = false := by
  rw [ofFilePath_eq]
  cases absolute : path.isAbsolute with
  | false => rfl
  | true =>
      rw [if_pos rfl]
      let document : Document := ⟨Url.ofComponents path.components, languageId, version⟩
      let back : Document := { document with uri := Url.normalised path.components }
      have read : ofJson document.toJson = .ok back :=
        ofJson_toJson (Url.parse_text_ofComponents path.components)
      have uri : back.uri = document.uri ↔ FilePath.parent ∉ path.components :=
        Url.normalised_eq_iff path.areComponents
      have same : back = document ↔ FilePath.parent ∉ path.components := by
        rw [← uri]
        refine ⟨congrArg Document.uri, fun equal => ?_⟩
        change { document with uri := back.uri } = document
        rw [equal]
      have clean := Url.clean_path_normalised path.components
      refine ⟨back, Json.read?_write document.legible_toJson, read, rfl, rfl, same, clean,
        fun editors => ?_, ?_, fun table switches => ?_⟩
      · change (editors.add document).count back.uri = _
        simp only [Editors.count_add, eq_comm.trans uri, ite_not]
      · change (Editors.documents { shown := [document, back] }).length = _
        simp only [length_documents_pair, uri, ite_not]
      · change (table.override document.uri switches).switches back.uri = _
        simp only [switches_override, uri, ite_not]

/-- The document of a path that leads up and down again comes back under another URL. -/
theorem upward_documents_change_their_url :
    let uri (path : String) : Url := { scheme := "file", hasAuthority := true, path }
    let document : Document := { uri := uri "/a/../b", languageId := "python" }
    let back : Document := { uri := uri "/b", languageId := "python" }
    ofFilePath (.ofString "/a/../b") "python" = .ok document ∧
      document.uri.text = "file:///a/../b" ∧ ofJson document.toJson = .ok back ∧
      back.uri.text = "file:///b" ∧ back ≠ document ∧
      (Editors.add {} document).isOpen back.uri = false :=
  ⟨rfl, rfl, rfl, rfl, by decide, rfl⟩

end Document
end Workbench
