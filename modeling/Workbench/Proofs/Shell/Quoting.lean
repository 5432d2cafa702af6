import Workbench.Shell.CommandLine

namespace Workbench
namespace Shell

/-!
# Quoted values

A value that holds a space gets double quotes around it only if it has none at either end.  One
quote, at whichever end, keeps the other one away: such a value stays quoted by half
(`opened_quote_iff`, `closed_quote_iff`), and no value with a space is written without any quote.
A value that was written stays as it is when it is written again (`quote_quote`).  Turning
separators moves no quote, so it may be done first or last (`quote_slashes`).
-/

/-- Whether a text starts with a double quote. -/
def Opened (text : List Char) : Prop :=
  text.head? = some '"'

/-- Whether a text ends with a double quote. -/
def Closed (text : List Char) : Prop :=
  text.getLast? = some '"'

instance (text : List Char) : Decidable (Opened text) :=
  inferInstanceAs (Decidable (text.head? = some '"'))

instance (text : List Char) : Decidable (Closed text) :=
  inferInstanceAs (Decidable (text.getLast? = some '"'))

/-- The text between double quotes. -/
def enclosed (text : List Char) : List Char :=
  '"' :: (text ++ ['"'])

variable {value : List Char}

theorem opened_enclosed (text : List Char) : Opened (enclosed text) := rfl

theorem closed_enclosed (text : List Char) : Closed (enclosed text) := by
  rw [Closed, enclosed, ← List.cons_append, List.getLast?_concat]

theorem quote_of_space (spaced : ' ' ∈ value) (unopened : ¬ Opened value)
    (unclosed : ¬ Closed value) : quote value = enclosed value := by
  simp_all [quote, enclosed, Opened, Closed]

theorem quote_of_opened (opened : Opened value) : quote value = value := by
  simp_all [quote, Opened]

theorem quote_of_closed (closed : Closed value) : quote value = value := by
  simp_all [quote, Closed]

theorem opened_quote_iff (spaced : ' ' ∈ value) :
    Opened (quote value) ↔ Opened value ∨ ¬ Closed value := by
  by_cases opened : Opened value
  · simp [quote_of_opened opened, opened]
  · by_cases closed : Closed value
    · simp [quote_of_closed closed, opened, closed]
    · simp [quote_of_space spaced opened closed, opened_enclosed, closed]

theorem closed_quote_iff (spaced : ' ' ∈ value) :
    Closed (quote value) ↔ Closed value ∨ ¬ Opened value := by
  by_cases closed : Closed value
  · simp [quote_of_closed closed, closed]
  · by_cases opened : Opened value
    · simp [quote_of_opened opened, opened, closed]
    · simp [quote_of_space spaced opened closed, closed_enclosed, opened]

/-! ## Separators -/

/-- Turning a backslash neither makes any other character than a slash nor takes one away. -/
theorem turned_eq_iff {d : Char} (slash : d ≠ '/') (backslash : d ≠ '\\') (c : Char) :
    (if c = '\\' then '/' else c) = d ↔ c = d := by
  by_cases turned : c = '\\'
  · simp [turned, Ne.symm slash, Ne.symm backslash]
  · rw [if_neg turned]

theorem opened_slashes_iff (text : List Char) : Opened (slashes text) ↔ Opened text := by
  cases text with
  | nil => rfl
  | cons c rest => simp [Opened, slashes, turned_eq_iff]

theorem closed_slashes_iff (text : List Char) : Closed (slashes text) ↔ Closed text := by
  rcases List.eq_nil_or_concat text with rfl | ⟨rest, c, rfl⟩
  · rfl
  · simp [Closed, slashes, turned_eq_iff]

theorem space_mem_slashes_iff (text : List Char) : ' ' ∈ slashes text ↔ ' ' ∈ text := by
  simp [slashes, turned_eq_iff]

theorem slashes_of_no_backslash {text : List Char} (turned : '\\' ∉ text) :
    slashes text = text := by
  refine (List.map_congr_left fun c member => ?_).trans (List.map_id text)
  rw [if_neg (ne_of_mem_of_not_mem member turned), id]

theorem slashes_enclosed (text : List Char) :
    slashes (enclosed text) = enclosed (slashes text) := by
  simp [slashes, enclosed]

/-- It does not matter whether separators are turned before a value is quoted or after it. -/
theorem quote_slashes (value : List Char) : quote (slashes value) = slashes (quote value) := by
  by_cases spaced : ' ' ∈ value
  · by_cases opened : Opened value
    · rw [quote_of_opened opened, quote_of_opened ((opened_slashes_iff value).mpr opened)]
    · by_cases closed : Closed value
      · rw [quote_of_closed closed, quote_of_closed ((closed_slashes_iff value).mpr closed)]
      · rw [quote_of_space spaced opened closed, slashes_enclosed, quote_of_space]
        · exact (space_mem_slashes_iff value).mpr spaced
        · rwa [opened_slashes_iff]
        · rwa [closed_slashes_iff]
  · rw [quote_of_no_space spaced, quote_of_no_space (mt (space_mem_slashes_iff value).mp spaced)]

/-- A value that is quoted has a quote at one end at least, or no space. -/
theorem quote_quote (value : List Char) : quote (quote value) = quote value := by
  by_cases spaced : ' ' ∈ value
  · by_cases closed : Closed value
    · rw [quote_of_closed closed, quote_of_closed closed]
    · exact quote_of_opened ((opened_quote_iff spaced).mpr (Or.inr closed))
  · rw [quote_of_no_space spaced, quote_of_no_space spaced]

theorem slashes_quote_eq_iff (spaced : ' ' ∈ value) :
    slashes (quote value) = slashes value ↔ Opened value ∨ Closed value := by
  constructor
  · intro same
    -- Were there no quote at either end, there would be one at the front now.
    have front : Opened value ∨ ¬ Closed value ↔ Opened value := by
      rw [← opened_quote_iff spaced, ← opened_slashes_iff, same, opened_slashes_iff]
    by_cases closed : Closed value
    · exact Or.inr closed
    · exact Or.inl (front.mp (Or.inr closed))
  · rintro (opened | closed)
    · rw [quote_of_opened opened]
    · rw [quote_of_closed closed]

theorem quote_eq_self_iff (spaced : ' ' ∈ value) :
    quote value = value ↔ Opened value ∨ Closed value :=
  ⟨fun same => (slashes_quote_eq_iff spaced).mp (congrArg slashes same),
    fun marked => marked.elim quote_of_opened quote_of_closed⟩

/-- A value with a space has double quotes at both ends, once it is written, exactly if it came with
both of them or with neither.  It has at least one of them in any case, and it is written as it came
exactly if it came with one.  The same is true of a path, whose separators are turned. -/
theorem values_with_one_quote_keep_it_alone (value : String) (spaced : ' ' ∈ value.toList) :
    -- Both quotes are there unless there was one at one end only.
    (Opened (argument value).toList ∧ Closed (argument value).toList ↔
      (Opened value.toList ↔ Closed value.toList)) ∧
    (Opened (argument value).toList ∨ Closed (argument value).toList) ∧
    (argument value = value ↔ Opened value.toList ∨ Closed value.toList) ∧
    -- The separators of a path make no difference.
    (Opened (pathArgument value).toList ↔ Opened (argument value).toList) ∧
    (Closed (pathArgument value).toList ↔ Closed (argument value).toList) ∧
    (pathArgument value = String.ofList (slashes value.toList) ↔
      Opened value.toList ∨ Closed value.toList) := by
  have front := opened_quote_iff spaced
  have back := closed_quote_iff spaced
  have whole : argument value = value ↔ quote value.toList = value.toList := by
    rw [argument, ← String.toList_inj, String.toList_ofList]
  have turned : pathArgument value = String.ofList (slashes value.toList) ↔
      slashes (quote value.toList) = slashes value.toList := by
    rw [pathArgument, String.ofList_inj]
  rw [whole, turned, quote_eq_self_iff spaced, slashes_quote_eq_iff spaced]
  simp only [argument, pathArgument, String.toList_ofList, opened_slashes_iff, closed_slashes_iff,
    front, back]
  by_cases opened : Opened value.toList <;> by_cases closed : Closed value.toList <;>
    simp [opened, closed]

/-- A path that comes with both quotes keeps them and gets no others. -/
theorem programFiles_keeps_its_quotes :
    let value := "\"C:\\Program Files\\py.exe\""
    ' ' ∈ value.toList ∧ argument value = value ∧
      pathArgument value = "\"C:/Program Files/py.exe\"" ∧
      Opened (argument value).toList ∧ Closed (argument value).toList := by
  intro value
  have spaced : ' ' ∈ value.toList := by decide +kernel
  rcases values_with_one_quote_keep_it_alone value spaced with ⟨both, _, same, _, _, turned⟩
  have marked : Opened value.toList ∨ Closed value.toList := by decide +kernel
  exact ⟨spaced, same.mpr marked, (turned.mpr marked).trans (by decide +kernel),
    both.mpr (by decide +kernel)⟩

/-- A value that comes with a quote at one end gets no other one. -/
theorem halfQuoted_values_stay_so :
    let value := "\"a b"
    ' ' ∈ value.toList ∧ ¬ (Opened value.toList ∧ Closed value.toList) ∧
      argument value = value ∧ pathArgument value = value ∧
      ¬ Closed (argument value).toList ∧ ¬ Closed (pathArgument value).toList := by
  decide +kernel

/-- The path with every backslash turned into a slash. -/
def turned (path : String) : String :=
  String.ofList (slashes path.toList)

/-- What is written on a command line already is written as it is, be it an argument or a path.  A
path is written like an argument whose separators are turned, be it before or afterwards, and has no
backslash left. -/
theorem written_values_stay_as_they_are (value : String) :
    argument (argument value) = argument value ∧
    pathArgument (pathArgument value) = pathArgument value ∧
    pathArgument value = argument (turned value) ∧
    pathArgument value = turned (argument value) ∧
    '\\' ∉ (pathArgument value).toList := by
  have unslashed := slashes_no_backslash (quote value.toList)
  have before : pathArgument value = argument (turned value) := by
    rw [argument, turned, String.toList_ofList, quote_slashes, pathArgument]
  have after : pathArgument value = turned (argument value) := by
    rw [turned, argument, String.toList_ofList, pathArgument]
  refine ⟨?_, ?_, before, after, ?_⟩
  · simp only [argument, String.toList_ofList, quote_quote]
  · -- No separator is left to turn, and turning them has not made the value one to be quoted.
    have once : quote (slashes (quote value.toList)) = slashes (quote value.toList) := by
      rw [quote_slashes, quote_quote]
    simp only [pathArgument, String.toList_ofList, once, slashes_of_no_backslash unslashed]
  · rw [pathArgument, String.toList_ofList]
    exact unslashed

end Shell
end Workbench
