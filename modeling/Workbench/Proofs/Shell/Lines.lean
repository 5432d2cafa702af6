import Workbench.Proofs.Shell.Quoting
import Workbench.Proofs.Text.Ends

namespace Workbench
namespace Shell

/-!
# Reading command lines back

A command line is taken apart again by cutting it at the first space outside double quotes: in front
of it stands the command, behind it what the arguments amount to (`words_commandLine`).  That works
for every command without double quotes in which spaces are the only white space, wherever they
stand, because the quotes keep them away from the ends of the line and from the cut.  White space
can get lost at the end of the arguments only.
-/

/-- A command as it can be told from its arguments again. -/
structure Plain (command : List Char) : Prop where
  filled : command ≠ []
  unquoted : '"' ∉ command
  spaces : ∀ c ∈ command, Text.isBlank c = true → c = ' '

theorem plain_iff {command : List Char} :
    Plain command ↔
      command ≠ [] ∧ '"' ∉ command ∧
        command.all (fun c => decide (Text.isBlank c = true → c = ' ')) = true := by
  rw [List.all_eq_true]
  simp only [decide_eq_true_eq]
  exact ⟨fun plain => ⟨plain.filled, plain.unquoted, plain.spaces⟩,
    fun ⟨filled, unquoted, spaces⟩ => ⟨filled, unquoted, spaces⟩⟩

instance (command : List Char) : Decidable (Plain command) :=
  decidable_of_iff _ plain_iff.symm

/-- The first word of a line, up to a space outside double quotes, and the text after that space.
Whether the line starts between double quotes is given. -/
def cutWord : Bool → List Char → List Char × List Char
  | _, [] => ([], [])
  | quoted, c :: rest =>
    if c = ' ' ∧ quoted = false then ([], rest)
    else
      let (word, after) := cutWord (if c = '"' then !quoted else quoted) rest
      (c :: word, after)

/-- The first word of a command line and the text after it, behind the call operator. -/
def words (shell : Kind) (line : String) : List Char × List Char :=
  cutWord false (line.toList.drop (callOperator shell).length)

/-- A word without the double quotes around it. -/
def bare : List Char → List Char
  | '"' :: rest => rest.dropLast
  | word => word

/-- The command as it stands on a command line. -/
def commandWord (command : List Char) : List Char :=
  slashes (quote command)

/-- What stands behind the command on a command line. -/
def tail (arguments : List Char) : List Char :=
  if arguments.all Text.isBlank then [] else ' ' :: Text.trimEnd arguments

theorem trimEnd_space_cons (arguments : List Char) :
    Text.trimEnd (' ' :: arguments) = tail arguments := by
  rw [Text.trimEnd, tail]
  cases kept : Text.trimEnd arguments with
  | nil =>
      have blank : arguments.all Text.isBlank = true :=
        List.all_eq_true.mpr (Text.trimEnd_eq_nil_iff.mp kept)
      rw [if_pos blank]
      rfl
  | cons c rest =>
      have filled : ¬ arguments.all Text.isBlank = true := by
        intro blank
        rw [Text.trimEnd_eq_nil_iff.mpr (List.all_eq_true.mp blank)] at kept
        cases kept
      rw [if_neg filled]

/-! ## The command on the line -/

namespace Plain

variable {command : List Char}

/-- A command is quoted exactly if it holds a space. -/
theorem commandWord_eq (plain : Plain command) :
    commandWord command =
      if ' ' ∈ command then enclosed (slashes command) else slashes command := by
  have noQuote : ∀ c, command.head? = some c ∨ command.getLast? = some c → c ≠ '"' := by
    rintro c found rfl
    exact plain.unquoted (found.elim List.mem_of_mem_head? List.mem_of_getLast?)
  split
  · rename_i spaced
    have front : ¬ Opened command := fun opened => noQuote _ (Or.inl opened) rfl
    have back : ¬ Closed command := fun closed => noQuote _ (Or.inr closed) rfl
    rw [commandWord, quote_of_space spaced front back]
    simp [enclosed, slashes]
  · rename_i spaceless
    rw [commandWord, quote_of_no_space spaceless]

/-- A turned character of a command without spaces is not white space. -/
theorem filled_of_mem_slashes (plain : Plain command) (spaceless : ' ' ∉ command) {c : Char}
    (member : c ∈ slashes command) : Text.isBlank c = false := by
  rcases List.mem_map.mp member with ⟨d, inside, rfl⟩
  by_cases backslash : d = '\\'
  · rw [if_pos backslash]
    rfl
  · rw [if_neg backslash]
    cases blank : Text.isBlank d with
    | false => rfl
    | true => exact absurd (plain.spaces d inside blank ▸ inside) spaceless

/-- No white space starts the command's word. -/
theorem exists_commandWord_eq_cons (plain : Plain command) :
    ∃ c rest, commandWord command = c :: rest ∧ Text.isBlank c = false := by
  rw [plain.commandWord_eq]
  split
  · exact ⟨'"', _, rfl, by decide⟩
  · rename_i spaceless
    have some : slashes command ≠ [] := by simpa [slashes] using plain.filled
    rcases List.exists_cons_of_ne_nil some with ⟨c, rest, split⟩
    exact ⟨c, rest, split, plain.filled_of_mem_slashes spaceless (split ▸ List.mem_cons_self)⟩

/-- No white space ends the command's word. -/
theorem exists_commandWord_eq_concat (plain : Plain command) :
    ∃ front c, commandWord command = front ++ [c] ∧ Text.isBlank c = false := by
  rw [plain.commandWord_eq]
  split
  · exact ⟨'"' :: slashes command, '"', rfl, by decide⟩
  · rename_i spaceless
    rcases List.eq_nil_or_concat (slashes command) with none | ⟨front, c, split⟩
    · exact absurd (List.map_eq_nil_iff.mp none) plain.filled
    · rw [List.concat_eq_append] at split
      exact ⟨front, c, split, plain.filled_of_mem_slashes spaceless (by simp [split])⟩

/-- Trimming a line takes nothing away but white space at the end of the arguments. -/
theorem trim_line (plain : Plain command) (shell : Kind) (arguments : List Char) :
    Text.trim (callOperator shell ++ commandWord command ++ ' ' :: arguments) =
      callOperator shell ++ commandWord command ++ tail arguments := by
  have start : ∃ c rest, callOperator shell ++ commandWord command = c :: rest ∧
      Text.isBlank c = false := by
    rcases plain.exists_commandWord_eq_cons with ⟨c, rest, split, filled⟩
    unfold callOperator
    split
    · exact ⟨'&', _, rfl, by decide⟩
    · exact ⟨c, rest, split, filled⟩
  rcases start with ⟨first, rest, front, filled⟩
  rcases plain.exists_commandWord_eq_concat with ⟨init, last, back, filled'⟩
  have kept : Text.trimStart (callOperator shell ++ commandWord command ++ ' ' :: arguments) =
      callOperator shell ++ commandWord command ++ ' ' :: arguments := by
    rw [front, List.cons_append, Text.trimStart,
      List.dropWhile_cons_of_neg (by simp [filled])]
  rw [Text.trim, kept, back]
  simp only [List.append_assoc, List.singleton_append]
  rw [← List.append_assoc, Text.trimEnd_append_cons filled', trimEnd_space_cons]
  simp

theorem toList_commandLine {command : String} (plain : Plain command.toList) (shell : Kind)
    (arguments : List String) :
    (commandLine shell command arguments).toList =
      callOperator shell ++ commandWord command.toList ++
        tail (" ".intercalate arguments).toList := by
  rw [commandLine, String.toList_ofList]
  exact plain.trim_line shell _

end Plain

/-! ## The cut -/

theorem cutWord_append_of_closed {word : List Char} (unquoted : '"' ∉ word) (spaceless : ' ' ∉ word)
    (rest : List Char) :
    cutWord false (word ++ rest) = (word ++ (cutWord false rest).1, (cutWord false rest).2) := by
  induction word with
  | nil => rfl
  | cons c word inductionHypothesis =>
      rw [List.mem_cons, not_or] at unquoted spaceless
      simp [cutWord, Ne.symm unquoted.1, Ne.symm spaceless.1,
        inductionHypothesis unquoted.2 spaceless.2]

theorem cutWord_append_of_open {word : List Char} (unquoted : '"' ∉ word) (rest : List Char) :
    cutWord true (word ++ '"' :: rest) =
      (word ++ '"' :: (cutWord false rest).1, (cutWord false rest).2) := by
  induction word with
  | nil => simp [cutWord]
  | cons c word inductionHypothesis =>
      rw [List.mem_cons, not_or] at unquoted
      simp [cutWord, Ne.symm unquoted.1, inductionHypothesis unquoted.2]

theorem cutWord_tail (arguments : List Char) :
    cutWord false (tail arguments) = ([], Text.trimEnd arguments) := by
  unfold tail
  split
  · rename_i blank
    rw [Text.trimEnd_eq_nil_iff.mpr (List.all_eq_true.mp blank)]
    rfl
  · simp [cutWord]

theorem mem_slashes_of_ne {c : Char} (other : c ≠ '/') {path : List Char}
    (member : c ∈ slashes path) : c ∈ path := by
  rcases List.mem_map.mp member with ⟨d, inside, turned⟩
  by_cases backslash : d = '\\'
  · rw [if_pos backslash] at turned
    exact absurd turned.symm other
  · rw [if_neg backslash] at turned
    exact turned ▸ inside

namespace Plain

variable {command : List Char}

/-- The cut goes right behind the command's word. -/
theorem cutWord_commandWord (plain : Plain command) (arguments : List Char) :
    cutWord false (commandWord command ++ tail arguments) =
      (commandWord command, Text.trimEnd arguments) := by
  have unquoted : '"' ∉ slashes command :=
    fun inside => plain.unquoted (mem_slashes_of_ne (by decide) inside)
  rw [plain.commandWord_eq]
  split
  · have opened : cutWord false (enclosed (slashes command) ++ tail arguments) =
        ('"' :: (cutWord true (slashes command ++ '"' :: tail arguments)).1,
          (cutWord true (slashes command ++ '"' :: tail arguments)).2) := by
      simp [enclosed, cutWord]
    rw [opened, cutWord_append_of_open unquoted, cutWord_tail]
    rfl
  · rename_i spaceless
    have spaceless' : ' ' ∉ slashes command :=
      fun inside => spaceless (mem_slashes_of_ne (by decide) inside)
    rw [cutWord_append_of_closed unquoted spaceless', cutWord_tail, List.append_nil]

theorem bare_commandWord (plain : Plain command) :
    bare (commandWord command) = slashes command := by
  rw [plain.commandWord_eq]
  split
  · exact List.dropLast_concat
  · unfold bare
    split
    · rename_i quoted
      exact absurd (mem_slashes_of_ne (by decide) (quoted ▸ List.mem_cons_self)) plain.unquoted
    · rfl

theorem words_commandLine {command : String} (plain : Plain command.toList) (shell : Kind)
    (arguments : List String) :
    words shell (commandLine shell command arguments) =
      (commandWord command.toList, Text.trimEnd (" ".intercalate arguments).toList) := by
  rw [words, plain.toList_commandLine, List.append_assoc, List.drop_left]
  exact plain.cutWord_commandWord _

end Plain

/-- A command line is the call operator, for the two shells that want it, then the command with its
separators turned, between double quotes exactly if it holds a space, and then the arguments, unless
they are blank, behind one space and without the white space at their end.  Cut at the first space
outside double quotes it gives back the command and the arguments, so lines with the same first word
run the same command. -/
theorem command_lines_are_read_back (shell : Kind) (command : String) (arguments : List String)
    (plain : Plain command.toList) :
    let line := commandLine shell command arguments
    let path := slashes command.toList
    let joined := (" ".intercalate arguments).toList
    -- What the line is made of.
    line.toList =
      (if shell = .powerShell ∨ shell = .powerShellCore then ['&', ' '] else []) ++
        (if ' ' ∈ command.toList then '"' :: (path ++ ['"']) else path) ++
          (if joined.all Text.isBlank then [] else ' ' :: Text.trimEnd joined) ∧
    -- How it is taken apart.
    bare (words shell line).1 = path ∧ (words shell line).2 = Text.trimEnd joined ∧
    (∃ after, joined = Text.trimEnd joined ++ after ∧ ∀ c ∈ after, Text.isBlank c = true) ∧
    -- Another command has another first word, whatever the shell and the arguments.
    ∀ (shell' : Kind) (command' : String) (arguments' : List String), Plain command'.toList →
      slashes command'.toList ≠ path →
        (words shell' (commandLine shell' command' arguments')).1 ≠ (words shell line).1 := by
  intro line path joined
  have operator : callOperator shell =
      if shell = .powerShell ∨ shell = .powerShellCore then ['&', ' '] else [] := by
    cases shell <;> rfl
  have cut : words shell line = (commandWord command.toList, Text.trimEnd joined) :=
    plain.words_commandLine shell arguments
  refine ⟨?_, ?_, ?_, Text.exists_eq_trimEnd_append joined, ?_⟩
  · rw [plain.toList_commandLine, operator, plain.commandWord_eq]
    rfl
  · rw [cut, plain.bare_commandWord]
  · rw [cut]
  · intro shell' command' arguments' plain' different same
    rw [cut, plain'.words_commandLine] at same
    have equal : commandWord command'.toList = commandWord command.toList := same
    exact different (by rw [← plain'.bare_commandWord, equal, plain.bare_commandWord])

/-- The arguments lose the white space at their end, the command keeps its spaces, and the same
program without its directory has another first word, in another shell too. -/
theorem programFiles_read_back :
    let line := commandLine .powerShell " C:\\Program Files\\py.exe " ["-m", " pip\t", ""]
    line = "& \" C:/Program Files/py.exe \" -m  pip" ∧
      bare (words .powerShell line).1 = " C:/Program Files/py.exe ".toList ∧
      (words .powerShell line).2 = "-m  pip".toList ∧
      (words .bash (commandLine .bash "py.exe" [])).1 ≠ (words .powerShell line).1 := by
  have plain : Plain " C:\\Program Files\\py.exe ".toList := by decide +kernel
  have plain' : Plain "py.exe".toList := by decide +kernel
  rcases command_lines_are_read_back .powerShell _ ["-m", " pip\t", ""] plain with
    ⟨line, command, rest, _, others⟩
  refine ⟨?_, command, rest.trans (by decide +kernel),
    others .bash "py.exe" [] plain' (by decide +kernel)⟩
  rw [← String.toList_inj, line]
  decide +kernel

end Shell
end Workbench
