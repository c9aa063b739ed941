import LevelGraph.Logging

/-!
# What a crash says fits on a line

A crash may say anything, a whole document among it, and what it says becomes part of a line in the log.
So each end of a line in it is made a space, and what goes beyond a limit is cut off with three dots for
it. Characters are counted, not bytes. As a space takes the place of one character, the length of what
was said decides whether it is cut.

A text that was cut is longer than the limit by its three dots, so it is cut again when it is treated
again. What is cut off then is just the dots, and they are put back.
-/

namespace LevelGraph

variable {text : String} {limit : Nat}

/-- A text has neither a line feed nor a carriage return in it. -/
def OnOneLine (text : String) : Prop := ∀ char ∈ text.toList, char ≠ '\n' ∧ char ≠ '\r'

instance (text : String) : Decidable (OnOneLine text) :=
  List.decidableBAll (fun char => char ≠ '\n' ∧ char ≠ '\r') text.toList

/-- Two texts on one line are on one line when they are joined. -/
theorem OnOneLine.append {first second : String} (front : OnOneLine first) (back : OnOneLine second) :
    OnOneLine (first ++ second) := by
  intro char listed
  rw [String.toList_append, List.mem_append] at listed
  rcases listed with inFirst | inSecond
  · exact front char inFirst
  · exact back char inSecond

/-- The text with one space for each line feed and one for each carriage return. -/
def withSpaces (text : String) : String :=
  text.map fun char => if char = '\n' ∨ char = '\r' then ' ' else char

/-- A space for each end of a line keeps the number of characters. -/
theorem length_withSpaces (text : String) : (withSpaces text).length = text.length :=
  String.length_map

/-- With spaces for its line ends any text is on one line. -/
theorem onOneLine_withSpaces (text : String) : OnOneLine (withSpaces text) := by
  intro char listed
  rw [withSpaces, String.toList_map] at listed
  obtain ⟨written, -, rfl⟩ := List.mem_map.mp listed
  by_cases ends : written = '\n' ∨ written = '\r'
  · rw [if_pos ends]
    decide
  · rw [if_neg ends]
    exact not_or.mp ends

/-- On one line there is nothing to replace. -/
theorem withSpaces_eq_self (whole : OnOneLine text) : withSpaces text = text := by
  apply String.toList_inj.mp
  rw [withSpaces, String.toList_map]
  calc text.toList.map (fun char => if char = '\n' ∨ char = '\r' then ' ' else char)
      = text.toList.map id := List.map_congr_left fun char listed => if_neg (not_or.mpr (whole char listed))
    _ = text.toList := List.map_id _

/-- The first characters of a text, its line ends replaced, and three dots. -/
def cutShort (text : String) (limit : Nat) : String :=
  String.ofList ((withSpaces text).toList.take limit) ++ "..."

/-- A text that is longer than the limit is cut short, and no other is. -/
theorem oneLine_eq (text : String) (limit : Nat) :
    oneLine text limit = if text.length ≤ limit then withSpaces text else cutShort text limit := by
  have flat : text.toList.map (fun char => if char = '\n' ∨ char = '\r' then ' ' else char) =
      (withSpaces text).toList := String.toList_map.symm
  have counted : (withSpaces text).toList.length = text.length := by
    rw [String.length_toList, length_withSpaces]
  rw [oneLine, flat, counted]
  by_cases short : text.length ≤ limit
  · rw [if_pos short, if_neg (Nat.not_lt.mpr short), List.append_nil,
      List.take_of_length_le (counted ▸ short), String.ofList_toList]
  · rw [if_neg short, if_pos (Nat.not_le.mp short), String.ofList_append]
    rfl

section CutShort

/-- A text that is longer than the limit has as many characters to keep. -/
theorem length_take_withSpaces (long : limit < text.length) :
    ((withSpaces text).toList.take limit).length = limit := by
  apply List.length_take_of_le
  rw [String.length_toList, length_withSpaces]
  exact Nat.le_of_lt long

/-- A text that was cut short is longer than the limit by its dots. -/
theorem length_cutShort (long : limit < text.length) : (cutShort text limit).length = limit + 3 := by
  rw [cutShort, String.length_append, String.length_ofList, length_take_withSpaces long]
  rfl

/-- It is on one line, dots included. -/
theorem onOneLine_cutShort (text : String) (limit : Nat) : OnOneLine (cutShort text limit) := by
  apply OnOneLine.append
  · intro char listed
    rw [String.toList_ofList] at listed
    exact onOneLine_withSpaces text char (List.mem_of_mem_take listed)
  · decide

/-- Of a text that was cut short the dots are cut off again, and put back. -/
theorem cutShort_cutShort (long : limit < text.length) :
    cutShort (cutShort text limit) limit = cutShort text limit := by
  have kept := length_take_withSpaces long
  rw [cutShort, withSpaces_eq_self (onOneLine_cutShort text limit), cutShort, String.toList_append,
    String.toList_ofList, List.take_left' kept]

end CutShort

/-- Whether a text is cut or not, what comes of it is on one line. -/
theorem onOneLine_oneLine (text : String) (limit : Nat) : OnOneLine (oneLine text limit) := by
  rw [oneLine_eq]
  split
  · exact onOneLine_withSpaces text
  · exact onOneLine_cutShort text limit

/-- No text comes to be longer than the limit and its dots. -/
theorem length_oneLine_le (text : String) (limit : Nat) : (oneLine text limit).length ≤ limit + 3 := by
  rw [oneLine_eq]
  split
  · next short =>
    rw [length_withSpaces]
    omega
  · next long => exact Nat.le_of_eq (length_cutShort (Nat.not_le.mp long))

/-- Treating a text twice is treating it once: what was not cut is on one line and within the limit, and
what was cut is cut at the same place again. -/
theorem oneLine_oneLine (text : String) (limit : Nat) :
    oneLine (oneLine text limit) limit = oneLine text limit := by
  rw [oneLine_eq text]
  by_cases short : text.length ≤ limit
  · have within : (withSpaces text).length ≤ limit := by
      rw [length_withSpaces]
      exact short
    rw [if_pos short, oneLine_eq, if_pos within, withSpaces_eq_self (onOneLine_withSpaces text)]
  · have long := Nat.not_le.mp short
    have beyond : ¬ (cutShort text limit).length ≤ limit := by
      rw [length_cutShort long]
      omega
    rw [if_neg short, oneLine_eq, if_neg beyond, cutShort_cutShort long]

/-- Whatever a text says and whatever the limit is, the result is on one line and at most three characters
longer than the limit. A text within the limit only has its line ends replaced, and of a longer one as
many characters as the limit says stay, with three dots behind them. The result is left as it is when it is
treated again. -/
theorem oneLine_bounded (text : String) (limit : Nat) :
    ('\n' ∉ (oneLine text limit).toList ∧ '\r' ∉ (oneLine text limit).toList) ∧
      (oneLine text limit).length ≤ limit + 3 ∧
      (text.length ≤ limit → oneLine text limit = withSpaces text) ∧
      (limit < text.length →
        oneLine text limit = String.ofList ((withSpaces text).toList.take limit) ++ "...") ∧
      oneLine (oneLine text limit) limit = oneLine text limit := by
  refine ⟨⟨?feeds, ?returns⟩, length_oneLine_le text limit, ?short, ?long, oneLine_oneLine text limit⟩
  case feeds => exact fun listed => (onOneLine_oneLine text limit _ listed).1 rfl
  case returns => exact fun listed => (onOneLine_oneLine text limit _ listed).2 rfl
  case short =>
    intro short
    rw [oneLine_eq, if_pos short]
  case long =>
    intro long
    rw [oneLine_eq, if_neg (Nat.not_le.mpr long), cutShort]

/-- Three lines with a character of four bytes among them: at its length the text is kept, the two
characters of one line end made two spaces; a character before, it is cut, and grows. -/
theorem oneLine_bounded_lines :
    oneLine "é\r\n🜁\nb" 6 = "é  🜁 b" ∧ oneLine "é\r\n🜁\nb" 5 = "é  🜁 ..." ∧
      oneLine "é  🜁 ..." 5 = "é  🜁 ..." := by
  have whole := (oneLine_bounded "é\r\n🜁\nb" 6).2.2.1 (by decide)
  obtain ⟨-, -, -, cut, again⟩ := oneLine_bounded "é\r\n🜁\nb" 5
  have cutHere : oneLine "é\r\n🜁\nb" 5 = "é  🜁 ..." := (cut (by decide)).trans (by decide +kernel)
  exact ⟨whole.trans (by decide +kernel), cutHere, cutHere ▸ again⟩

/-- A crash adds one line to the log if its place is named on one line, and at most 163 characters of what
it says are in that line. -/
theorem line_crashEvent {place elapsed : String} (said : Option String) (named : OnOneLine place) :
    OnOneLine ((crashEvent place said).line elapsed) ∧
      ∃ payload, payload.length ≤ 163 ∧ (crashEvent place said).line elapsed =
        "event=panic_captured module=logging status=error location=" ++ place ++ " payload=" ++
          payload := by
  constructor
  · apply OnOneLine.append _ (onOneLine_oneLine _ _)
    apply OnOneLine.append _ (by decide)
    exact OnOneLine.append (by decide) named
  · exact ⟨_, length_oneLine_le _ maxCrashText, rfl⟩

end LevelGraph
