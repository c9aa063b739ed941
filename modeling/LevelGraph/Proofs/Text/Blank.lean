import LevelGraph.Text.Blank
import Mathlib.Data.List.DropRight

/-!
# What trimming leaves

Stripping takes characters from both ends of a text as long as they pass a test. Either all do and nothing
is left, or there is a first character that stays, and what is left begins with it.
-/

namespace LevelGraph.Text

variable {test : Char → Bool} {chars run rest : List Char} {first : Char}

/-- A text is stripped altogether, or there is a first character that stays. -/
theorem all_or_first_kept (test : Char → Bool) (chars : List Char) :
    (∀ char ∈ chars, test char = true) ∨
      ∃ run first rest, chars = run ++ first :: rest ∧ (∀ char ∈ run, test char = true) ∧
        test first = false := by
  have split : chars.takeWhile test ++ chars.dropWhile test = chars := List.takeWhile_append_dropWhile
  have stripped : ∀ char ∈ chars.takeWhile test, test char = true :=
    fun _ listed => List.mem_takeWhile_imp listed
  cases kept : chars.dropWhile test with
  | nil => exact .inl (List.dropWhile_eq_nil_iff.mp kept)
  | cons first rest =>
    refine .inr ⟨_, first, rest, kept ▸ split.symm, stripped, ?_⟩
    have stays := @List.head_dropWhile_not _ test chars (by simp [kept])
    simpa [kept] using stays

/-- What is stripped from the front ends with the first character that stays. -/
theorem dropWhile_of_run (stripped : ∀ char ∈ run, test char = true) (stays : test first = false) :
    (run ++ first :: rest).dropWhile test = first :: rest := by
  rw [List.dropWhile_append_of_pos stripped, List.dropWhile_cons_of_neg (by simp [stays])]

/-- What stays of a text begins with the first character that stays. -/
theorem exists_stripBoth_of_run (stripped : ∀ char ∈ run, test char = true)
    (stays : test first = false) (rest : List Char) :
    ∃ kept, stripBoth test (run ++ first :: rest) = first :: kept := by
  have begins : stripBoth test (run ++ first :: rest) <+: first :: rest := by
    rw [stripBoth, dropWhile_of_run stripped stays]
    exact List.rdropWhile_prefix test _
  rcases List.prefix_cons_iff.mp begins with nothing | ⟨kept, same, -⟩
  · rw [stripBoth, dropWhile_of_run stripped stays] at nothing
    have all := List.rdropWhile_eq_nil_iff.mp nothing first List.mem_cons_self
    exact absurd (stays.symm.trans all) Bool.false_ne_true
  · exact ⟨kept, same⟩

/-- Nothing is left of a text exactly when all of it is stripped. -/
theorem stripBoth_eq_nil_iff : stripBoth test chars = [] ↔ ∀ char ∈ chars, test char = true := by
  constructor
  · intro nothing
    rcases all_or_first_kept test chars with all | ⟨run, first, rest, rfl, stripped, stays⟩
    · exact all
    · obtain ⟨kept, same⟩ := exists_stripBoth_of_run stripped stays rest
      exact nomatch nothing.symm.trans same
  · intro all
    rw [stripBoth, List.dropWhile_eq_nil_iff.mpr all]
    rfl

/-- Trimming leaves nothing exactly of a text that is blank. -/
theorem trim_eq_empty_iff {text : String} : trim text = "" ↔ isBlankText text = true := by
  rw [trim, String.ofList_eq_empty_iff, stripBoth_eq_nil_iff, isBlankText, List.all_eq_true]

end LevelGraph.Text
