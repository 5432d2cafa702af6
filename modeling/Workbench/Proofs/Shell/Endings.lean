import Mathlib.Data.List.Nodup
import Mathlib.Data.List.Rotate
import Workbench.Proofs.Text.Ends
import Workbench.Shell.Identify

namespace Workbench
namespace Shell

/-!
# Shells by their endings

Which shell a path names is a matter of how it ends, and of nothing else.  The names of two shells
end in one another only for `bash` and `csh`, so only these two are asked for the absence of a
longer name, and only their places in the table matter (`lookup_eq_iff`).  No name holds white space
or a separator of directories, so the directory of a path does not matter either.
-/

namespace Kind

/-- The names that a kind of shell has. -/
def endings : Kind → List String
  | gitBash => ["gitbash", "gitbash.exe"]
  | bash => ["bash", "bash.exe"]
  | wsl => ["wsl.exe"]
  | zsh => ["zsh"]
  | ksh => ["ksh"]
  | commandPrompt => ["cmd", "cmd.exe"]
  | powerShell => ["powershell", "powershell.exe"]
  | powerShellCore => ["pwsh", "pwsh.exe"]
  | fish => ["fish"]
  | tcShell => ["tcsh"]
  | cShell => ["csh"]
  | xonsh => ["xonsh"]
  | other => []

/-- The kind whose longer names end in those of this kind. -/
def longer? : Kind → Option Kind
  | bash => some gitBash
  | cShell => some tcShell
  | _ => none

/-- Whether a text ends in a name of a kind of shell. -/
def Ends (kind : Kind) (text : List Char) : Prop :=
  ∃ ending ∈ kind.endings, ending.toList <:+ text

/-- Whether a text ends in a name of a kind of shell that is not part of a longer one. -/
def Named (kind : Kind) (text : List Char) : Prop :=
  kind.Ends text ∧ ∀ longer ∈ kind.longer?, ¬ longer.Ends text

theorem not_ends_other (text : List Char) : ¬ other.Ends text := by
  rintro ⟨ending, member, _⟩
  cases member

/-- A name that ends in another one is of the same kind, or of the one with the longer names. -/
theorem eq_or_longer_of_suffix :
    ∀ first second : Kind, ∀ one ∈ first.endings, ∀ two ∈ second.endings,
      one.toList.isSuffixOf two.toList = true → first = second ∨ first.longer? = some second := by
  have listed : ∀ first ∈ all, ∀ second ∈ all, ∀ one ∈ first.endings, ∀ two ∈ second.endings,
      one.toList.isSuffixOf two.toList = true → first = second ∨ first.longer? = some second := by
    decide +kernel
  exact fun first second => listed first (mem_all first) second (mem_all second)

/-- Names hold neither white space nor separators, and only ASCII characters. -/
theorem plain_of_mem_endings :
    ∀ kind : Kind, ∀ ending ∈ kind.endings, ∀ c ∈ ending.toList,
      Text.isBlank c = false ∧ c ≠ '/' ∧ c ≠ '\\' ∧ c.toNat < 128 := by
  -- The characters of each name are gone through, and not all characters that there are.
  have listed : ∀ kind ∈ all, ∀ ending ∈ kind.endings, ending.toList.all
      (fun c => !Text.isBlank c && c != '/' && c != '\\' && decide (c.toNat < 128)) = true := by
    decide +kernel
  intro kind ending member c inside
  have plain := List.all_eq_true.mp (listed kind (mem_all kind) ending member) c inside
  simpa [and_assoc] using plain

/-- A text ends in the names of two kinds only if one of them has the longer names. -/
theorem Ends.eq_or_longer {first second : Kind} {text : List Char} (one : first.Ends text)
    (two : second.Ends text) :
    first = second ∨ first.longer? = some second ∨ second.longer? = some first := by
  rcases one with ⟨ending, member, ends⟩
  rcases two with ⟨ending', member', ends'⟩
  rcases List.suffix_or_suffix_of_suffix ends ends' with inner | inner
  · exact (eq_or_longer_of_suffix first second ending member ending' member'
      (List.isSuffixOf_iff_suffix.mpr inner)).imp_right Or.inl
  · rcases eq_or_longer_of_suffix second first ending' member' ending member
      (List.isSuffixOf_iff_suffix.mpr inner) with same | longer
    · exact Or.inl same.symm
    · exact Or.inr (Or.inr longer)

/-- No text names two kinds of shell. -/
theorem Named.eq {first second : Kind} {text : List Char} (one : first.Named text)
    (two : second.Named text) : first = second := by
  rcases one.1.eq_or_longer two.1 with same | longer | longer
  · exact same
  · exact absurd two.1 (one.2 second longer)
  · exact absurd one.1 (two.2 first longer)

theorem Ends.congr {text text' : List Char}
    (same : ∀ kind : Kind, ∀ ending ∈ kind.endings,
      ending.toList <:+ text ↔ ending.toList <:+ text') (kind : Kind) :
    kind.Ends text ↔ kind.Ends text' :=
  exists_congr fun ending => and_congr_right fun member => same kind ending member

theorem Named.congr {text text' : List Char} (same : ∀ kind : Kind, kind.Ends text ↔ kind.Ends text')
    (kind : Kind) : kind.Named text ↔ kind.Named text' := by
  simp only [Named, same]

end Kind

namespace Pattern

/-- The rows of the table in an order in which longer names stand before the shorter ones. -/
structure Arranged (rows : List Pattern) : Prop where
  perm : rows.Perm table
  gitBash_bash : [Kind.gitBash, Kind.bash].Sublist (rows.map kind)
  tcShell_cShell : [Kind.tcShell, Kind.cShell].Sublist (rows.map kind)

theorem table_arranged : Arranged table where
  perm := .refl _
  gitBash_bash := by decide
  tcShell_cShell := by decide

theorem endings_of_mem_table : ∀ pattern ∈ table, pattern.endings = pattern.kind.endings := by
  decide +kernel

theorem exists_mem_table : ∀ kind : Kind, kind ≠ .other → ∃ pattern ∈ table, pattern.kind = kind := by
  intro kind
  cases kind <;> decide +kernel

theorem nodup_kinds : (table.map kind).Nodup := by
  decide

theorem fits_iff {pattern : Pattern} (member : pattern ∈ table) (text : List Char) :
    pattern.fits text = true ↔ pattern.kind.Ends text := by
  simp [fits, Kind.Ends, endings_of_mem_table pattern member]

variable {rows : List Pattern} {text : List Char}

/-- Whatever has to come before something that occurs once comes before its only occurrence. -/
theorem mem_of_sublist {first second : Kind} {before after : List Kind}
    (order : [first, second].Sublist (before ++ second :: after))
    (once : (before ++ second :: after).Nodup) : first ∈ before := by
  rcases List.sublist_append_iff.mp order with ⟨front, back, parts, inFront, behind⟩
  cases front with
  | nil =>
      rw [List.nil_append] at parts
      rw [← parts] at behind
      have twice : second ∈ after := List.singleton_sublist.mp behind.tail
      exact absurd twice (List.nodup_cons.mp (List.nodup_append.mp once).2.1).1
  | cons head others =>
      rw [List.cons_append, List.cons.injEq] at parts
      rw [parts.1]
      exact inFront.subset List.mem_cons_self

namespace Arranged

theorem mem_iff (arranged : Arranged rows) {pattern : Pattern} :
    pattern ∈ rows ↔ pattern ∈ table :=
  arranged.perm.mem_iff

theorem nodup (arranged : Arranged rows) : (rows.map kind).Nodup :=
  (arranged.perm.map kind).nodup_iff.mpr nodup_kinds

/-- The kind with the longer names stands before the other one. -/
theorem sublist (arranged : Arranged rows) {shorter longer : Kind}
    (hides : shorter.longer? = some longer) : [longer, shorter].Sublist (rows.map kind) := by
  cases shorter with
  | bash =>
      cases hides
      exact arranged.gitBash_bash
  | cShell =>
      cases hides
      exact arranged.tcShell_cShell
  | _ => cases hides

/-- Whoever is found first is not overlooked for a longer name. -/
theorem named_of_find? (arranged : Arranged rows) {pattern : Pattern}
    (found : rows.find? (·.fits text) = some pattern) : pattern.kind.Named text := by
  rcases List.find?_eq_some_iff_append.mp found with ⟨fits, before, after, split, unfit⟩
  have member : pattern ∈ rows := List.mem_of_find?_eq_some found
  refine ⟨(fits_iff (arranged.mem_iff.mp member) text).mp fits, fun longer hides ends => ?_⟩
  have order := arranged.sublist hides
  have once := arranged.nodup
  rw [split, List.map_append, List.map_cons] at order once
  have earlier : longer ∈ before.map kind := mem_of_sublist order once
  rcases List.mem_map.mp earlier with ⟨other, tried, rfl⟩
  have inside : other ∈ rows := by
    rw [split]
    exact List.mem_append_left _ tried
  have fits' := (fits_iff (arranged.mem_iff.mp inside) text).mpr ends
  have unfit' := unfit other tried
  rw [fits'] at unfit'
  cases unfit'

/-- What is looked up is the kind that is named, in every table that is arranged. -/
theorem lookup_eq_iff (arranged : Arranged rows) {kind : Kind} (known : kind ≠ .other) :
    lookup rows text = kind ↔ kind.Named text := by
  unfold lookup
  cases found : rows.find? (·.fits text) with
  | none =>
      refine ⟨fun same => absurd same.symm known, fun named => ?_⟩
      rcases exists_mem_table kind known with ⟨pattern, member, rfl⟩
      have unfit := List.find?_eq_none.mp found pattern (arranged.mem_iff.mpr member)
      exact absurd ((fits_iff member text).mpr named.1) unfit
  | some pattern =>
      have named := arranged.named_of_find? found
      refine ⟨?_, named.eq⟩
      rintro rfl
      exact named

theorem lookup_eq_other_iff (arranged : Arranged rows) :
    lookup rows text = .other ↔ ∀ kind : Kind, ¬ kind.Named text := by
  refine ⟨fun nothing kind named => ?_, fun unnamed => ?_⟩
  · have known : kind ≠ .other := by
      rintro rfl
      exact Kind.not_ends_other text named.1
    rw [(arranged.lookup_eq_iff known).mpr named] at nothing
    exact known nothing
  · by_contra known
    exact unnamed _ ((arranged.lookup_eq_iff known).mp rfl)

/-- What is looked up depends on nothing but the names in which a text ends. -/
theorem lookup_congr {rows' : List Pattern} (arranged : Arranged rows) (arranged' : Arranged rows')
    {text' : List Char} (same : ∀ kind : Kind, kind.Named text ↔ kind.Named text') :
    lookup rows text = lookup rows' text' := by
  by_cases known : lookup rows text = .other
  · rw [known, eq_comm, arranged'.lookup_eq_other_iff]
    intro kind named
    exact arranged.lookup_eq_other_iff.mp known kind ((same kind).mpr named)
  · rw [eq_comm, arranged'.lookup_eq_iff known, ← same]
    exact (arranged.lookup_eq_iff known).mp rfl

end Arranged
end Pattern

/-- A directory in front of a path is out of sight. -/
theorem identify_directory {separator : Char} (separates : separator = '/' ∨ separator = '\\')
    (directory path : String) :
    identify (directory ++ String.singleton separator ++ path) = identify path := by
  have filled : Text.isBlank separator = false := by
    rcases separates with rfl | rfl <;> decide
  have unfolded : Text.foldCase separator = separator := by
    rcases separates with rfl | rfl <;> decide
  have text : (directory ++ String.singleton separator ++ path).toList =
      directory.toList ++ separator :: path.toList := by
    simp
  rcases Text.exists_trim_append_cons filled directory.toList path.toList with
    ⟨front, c, trimmed, foreign⟩
  have fixed : Text.foldCase c = c := by
    rcases foreign with rfl | blank
    · exact unfolded
    · exact Text.foldCase_of_blank blank
  have behind : folded (directory ++ String.singleton separator ++ path) =
      front.map Text.foldCase ++ c :: folded path := by
    rw [folded, text, trimmed, List.map_append, List.map_cons, fixed, folded]
  refine Pattern.table_arranged.lookup_congr Pattern.table_arranged
    (Kind.Named.congr (Kind.Ends.congr fun kind ending member => ?_))
  rw [behind]
  apply Text.suffix_append_cons_iff
  intro inside
  rcases Kind.plain_of_mem_endings kind ending member c inside with ⟨unblank, slash, backslash, _⟩
  rcases foreign with rfl | blank
  · exact separates.elim slash backslash
  · rw [blank] at unblank
    cases unblank

/-- A path, without the white space around it and in folded case, names a kind of shell by its end:
it is of the one kind that it names, and of no particular kind if it names none.  It does not matter
how characters are folded that are not ASCII then, in which order the table lists its rows as long
as the longer names come first, and in which directory the shell is. -/
theorem shells_are_told_by_their_endings (path : String) :
    -- What is compared is the path without the white space around it, in folded case.
    Text.Bare path.toList (Text.trim path.toList) ∧
    folded path = (Text.trim path.toList).map Text.foldCase ∧
    (∀ fold, Text.FoldsOntoAscii fold → ∀ kind : Kind,
      kind.Named ((Text.trim path.toList).map fold) ↔ kind.Named (folded path)) ∧
    -- It is of the kind that it names.
    (∀ kind, kind ≠ .other → (identify path = kind ↔ kind.Named (folded path))) ∧
    (identify path = .other ↔ ∀ kind : Kind, ¬ kind.Named (folded path)) ∧
    -- No text names two kinds, so the table may be arranged in other ways.
    (∀ text, ∀ first second : Kind, first.Named text → second.Named text → first = second) ∧
    (∀ rows : List Pattern, rows.Perm Pattern.table →
      [Kind.gitBash, Kind.bash].Sublist (rows.map Pattern.kind) →
      [Kind.tcShell, Kind.cShell].Sublist (rows.map Pattern.kind) →
        Pattern.lookup rows (folded path) = identify path) ∧
    -- The directory does not matter.
    ∀ directory : String, identify (directory ++ "/" ++ path) = identify path ∧
      identify (directory ++ "\\" ++ path) = identify path := by
  refine ⟨Text.trim_bare _, rfl, fun fold folds => ?_,
    fun kind => Pattern.table_arranged.lookup_eq_iff, Pattern.table_arranged.lookup_eq_other_iff,
    fun text first second => Kind.Named.eq, fun rows perm bash csh => ?_, fun directory => ?_⟩
  · refine Kind.Named.congr (Kind.Ends.congr fun kind ending member => ?_)
    refine folds.suffix_map_iff (fun c inside => ?_) _
    exact (Kind.plain_of_mem_endings kind ending member c inside).2.2.2
  · exact Pattern.Arranged.lookup_congr ⟨perm, bash, csh⟩ Pattern.table_arranged fun kind => Iff.rfl
  · exact ⟨identify_directory (Or.inl rfl) directory path,
      identify_directory (Or.inr rfl) directory path⟩

/-- The kelvin sign counts as a letter of the Korn shell, white space around the path does not count,
and the table may as well start with its last row. -/
theorem kelvinShell_told :
    let path := " C:\\bin\\\u212aSH\u00a0"
    let fold (c : Char) : Char := if c = 'É' then 'é' else Text.foldCase c
    let rows := Pattern.table.rotate 11
    Text.FoldsOntoAscii fold ∧ Kind.ksh.Named ((Text.trim path.toList).map fold) ∧
      rows.Perm Pattern.table ∧ Pattern.lookup rows (folded path) = .ksh ∧ identify path = .ksh := by
  intro path fold rows
  have folds : Text.FoldsOntoAscii fold := by
    intro c ascii
    by_cases accented : c = 'É'
    · subst accented
      exact absurd ascii (by decide)
    · exact if_neg accented
  have perm : rows.Perm Pattern.table := List.rotate_perm _ _
  have named : Kind.ksh.Named (folded path) :=
    ⟨⟨"ksh", by decide, List.isSuffixOf_iff_suffix.mp (by decide +kernel)⟩, by rintro _ ⟨⟩⟩
  rcases shells_are_told_by_their_endings path with ⟨_, _, others, known, _, _, order, _⟩
  have identified := (known .ksh (by decide)).mpr named
  refine ⟨folds, (others fold folds .ksh).mpr named, perm, ?_, identified⟩
  rw [order rows perm (by decide) (by decide)]
  exact identified

end Shell
end Workbench
