import Pushdown.Text.Blank

namespace Pushdown.Text

/-!
# Words, lines and cuts

Words are the maximal runs of characters that are not blank.  A line ends at a
line feed, and a carriage return right before that line feed belongs to the
ending; a last line without a line feed keeps its carriage return.
-/

/-- The maximal runs of characters that are not separators. -/
def runs
    (separates : Char → Bool)
    (text : List Char) :
    List (List Char) :=
  (text.splitOnP separates).filter (!·.isEmpty)

/-- The words of a text, as separated by blanks. -/
def words
    (text : List Char) :
    List String :=
  (runs isBlank text).map String.ofList

/-- The words of a text, as separated by ASCII blanks alone. -/
def asciiWords
    (text : List Char) :
    List String :=
  (runs isAsciiBlank text).map String.ofList

/-- Drops one carriage return at the end. -/
def dropReturn
    (line : List Char) :
    List Char :=
  if line.getLast? = some '\r' then line.dropLast else line

/-- The lines of a text; nothing follows the last line feed of a text that ends in one. -/
def lines
    (text : List Char) :
    List (List Char) :=
  let pieces := text.splitOn '\n'
  let last := pieces.getLastD []
  pieces.dropLast.map dropReturn ++ if last.isEmpty then [] else [last]

/-- The text before and after the first arrow `->`. -/
def cutAtArrow? : List Char → Option (List Char × List Char)
  | [] =>
      none
  | '-' :: '>' :: after =>
      some ([], after)
  | character :: rest =>
      (cutAtArrow? rest).map fun (before, after) => (character :: before, after)

theorem ne_nil_of_mem_runs
    {separates : Char → Bool}
    {text run : List Char}
    (member : run ∈ runs separates text) :
    run ≠ [] := by
  simp only [runs, List.mem_filter] at member
  intro empty
  simp [empty] at member

@[simp]
theorem runs_nil
    (separates : Char → Bool) :
    runs separates [] = [] :=
  rfl

/-- No run goes over a separator. -/
theorem runs_append_separator
    {separates : Char → Bool}
    (before : List Char)
    {separator : Char}
    (isSeparator : separates separator = true)
    (after : List Char) :
    runs separates (before ++ separator :: after) =
      runs separates before ++ runs separates after := by
  rw [runs, List.splitOnP_append_cons before after isSeparator, List.filter_append]
  rfl

/-- A separator at the front is skipped. -/
theorem runs_cons_separator
    {separates : Char → Bool}
    {separator : Char}
    (isSeparator : separates separator = true)
    (text : List Char) :
    runs separates (separator :: text) = runs separates text :=
  runs_append_separator [] isSeparator text

/-- A text without separators is one run. -/
theorem runs_eq_singleton
    {separates : Char → Bool}
    {word : List Char}
    (solid : ∀ character ∈ word, separates character = false)
    (nonempty : word ≠ []) :
    runs separates word = [word] := by
  cases word with
  | nil =>
      contradiction
  | cons character rest =>
      rw [runs, List.splitOnP_eq_singleton solid]
      rfl

/-- The cut loses nothing but the arrow. -/
theorem eq_of_cutAtArrow?
    {text before after : List Char}
    (cut : cutAtArrow? text = some (before, after)) :
    text = before ++ '-' :: '>' :: after := by
  fun_induction cutAtArrow? text generalizing before with
  | case1 =>
      simp at cut
  | case2 rest =>
      simp_all
  | case3 character rest _ inductionHypothesis =>
      simp only [Option.map_eq_some_iff, Prod.exists, Prod.mk.injEq] at cut
      obtain ⟨start, _, found, rfl, rfl⟩ := cut
      simp [inductionHypothesis found]

end Pushdown.Text
