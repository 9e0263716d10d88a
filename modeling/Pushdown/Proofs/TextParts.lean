import Mathlib.Data.List.TakeWhile
import Pushdown.Proofs.WrittenText

namespace Pushdown.Text

/-!
# The parts of a text

A text is cut at its first arrow, divided at a mark, freed of the blanks at its ends, or
split into words.  Here it is said for each of these what the parts are, without the
functions that find them: the parts make up the text again, together with what has been
taken away, and nothing that would be taken away is left where it matters.
-/

/-! ## Before and after the first arrow -/

/-- The line is the two parts with an arrow between them, and no arrow comes earlier. -/
structure CutsAtArrow
    (line before after : List Char) :
    Prop where
  whole :
    line = before ++ '-' :: '>' :: after
  first :
    ¬ ['-', '>'] <:+: before

theorem cutsAtArrow_cons_iff
    {character : Char}
    {rest before after : List Char}
    (notHere : ¬ ['-', '>'] <+: character :: rest) :
    CutsAtArrow (character :: rest) before after ↔
      ∃ start, before = character :: start ∧ CutsAtArrow rest start after := by
  constructor
  · rintro ⟨whole, first⟩
    cases before with
    | nil => simp [whole] at notHere
    | cons other start =>
        rw [List.cons_append, List.cons.injEq] at whole
        obtain ⟨rfl, whole⟩ := whole
        rw [List.infix_cons_iff, not_or] at first
        exact ⟨start, rfl, whole, first.2⟩
  · rintro ⟨start, rfl, whole, first⟩
    refine ⟨by rw [whole]; rfl, ?_⟩
    rw [List.infix_cons_iff, not_or]
    refine ⟨?_, first⟩
    -- An arrow at the front of the part would be one at the front of the line.
    intro here
    exact notHere (here.trans (by simp [whole]))

theorem cutAtArrow?_eq_some_iff
    {line before after : List Char} :
    cutAtArrow? line = some (before, after) ↔ CutsAtArrow line before after := by
  fun_induction cutAtArrow? line generalizing before with
  | case1 =>
      simp only [reduceCtorEq, false_iff]
      rintro ⟨whole, _⟩
      simp at whole
  | case2 rest =>
      simp only [Option.some.injEq, Prod.mk.injEq]
      constructor
      · rintro ⟨rfl, rfl⟩
        exact ⟨rfl, by simp⟩
      · rintro ⟨whole, first⟩
        cases before with
        | nil => simpa using whole
        | cons hyphen start =>
            cases start with
            | nil => simp at whole
            | cons arrowHead others =>
                simp only [List.cons_append, List.cons.injEq] at whole
                obtain ⟨rfl, rfl, _⟩ := whole
                exact (first ⟨[], others, rfl⟩).elim
  | case3 character rest notHere inductionHypothesis =>
      have noArrowHere : ¬ ['-', '>'] <+: character :: rest := by
        rintro ⟨after, whole⟩
        simp only [List.cons_append, List.nil_append, List.cons.injEq] at whole
        exact notHere after whole.1.symm whole.2.symm
      rw [cutsAtArrow_cons_iff noArrowHere]
      simp only [← inductionHypothesis, Option.map_eq_some_iff, Prod.exists, Prod.mk.injEq]
      grind

theorem CutsAtArrow.unique
    {line before after otherBefore otherAfter : List Char}
    (cuts : CutsAtArrow line before after)
    (otherCuts : CutsAtArrow line otherBefore otherAfter) :
    before = otherBefore ∧ after = otherAfter := by
  rw [← cutAtArrow?_eq_some_iff] at cuts otherCuts
  simpa [cuts] using otherCuts

theorem CutsAtArrow.arrow
    {line before after : List Char}
    (cuts : CutsAtArrow line before after) :
    ['-', '>'] <:+: line :=
  ⟨before, after, by simp [cuts.whole]⟩

theorem cutAtArrow?_eq_none_iff
    {line : List Char} :
    cutAtArrow? line = none ↔ ¬ ['-', '>'] <:+: line := by
  rw [← not_iff_not, not_not, ← ne_eq, Option.ne_none_iff_exists']
  constructor
  · rintro ⟨⟨before, after⟩, cut⟩
    exact ⟨before, after, by simp [eq_of_cutAtArrow? cut]⟩
  · intro arrow
    fun_induction cutAtArrow? line with
    | case1 => simp at arrow
    | case2 rest => exact ⟨_, rfl⟩
    | case3 character rest notHere inductionHypothesis =>
        rw [List.infix_cons_iff] at arrow
        rcases arrow with ⟨after, whole⟩ | later
        · simp only [List.cons_append, List.nil_append, List.cons.injEq] at whole
          exact (notHere after whole.1.symm whole.2.symm).elim
        · obtain ⟨_, cut⟩ := inductionHypothesis later
          exact ⟨_, by rw [cut]; rfl⟩

/-- A space behind the head does not make an arrow of it. -/
theorem cutsAtArrow_spaced
    {head : List Char}
    (noArrow : ¬ ['-', '>'] <:+: head)
    (body : List Char) :
    CutsAtArrow (head ++ ' ' :: '-' :: '>' :: body) (head ++ [' ']) body := by
  refine ⟨by simp, ?_⟩
  rw [List.infix_concat_iff, not_or]
  refine ⟨?_, noArrow⟩
  rintro ⟨front, atEnd⟩
  have sameLast := congrArg List.getLast? atEnd
  simp at sameLast

/-! ## Pieces between marks -/

/-- The text is the pieces with a mark between every two of them, and no piece has a mark in it. -/
structure Divided
    (mark : Char)
    (text : List Char)
    (pieces : List (List Char)) :
    Prop where
  nonempty :
    pieces ≠ []
  unmarked :
    ∀ piece ∈ pieces, mark ∉ piece
  whole :
    text = [mark].intercalate pieces

theorem splitOn_eq_iff_divided
    {mark : Char}
    {text : List Char}
    {pieces : List (List Char)} :
    text.splitOn mark = pieces ↔ Divided mark text pieces := by
  constructor
  · rintro rfl
    exact ⟨List.splitOn_ne_nil mark text, fun _ isPiece => List.not_mem_of_mem_splitOn isPiece,
      (List.intercalate_splitOn mark).symm⟩
  · rintro ⟨nonempty, unmarked, rfl⟩
    exact List.splitOn_intercalate mark unmarked nonempty

theorem Divided.subset
    {mark : Char}
    {text piece : List Char}
    {pieces : List (List Char)}
    (divided : Divided mark text pieces)
    (isPiece : piece ∈ pieces) :
    piece ⊆ text := by
  rw [← splitOn_eq_iff_divided] at divided
  exact List.subset_of_mem_splitOn (divided ▸ isPiece)

/-! ## Without the blanks at the ends -/

/-- The text is the core with blanks around it, and the core has no blank at its ends. -/
def Trims
    (text core : List Char) :
    Prop :=
  (∃ front back,
    text = front ++ core ++ back ∧
      (∀ character ∈ front, isBlank character = true) ∧
      ∀ character ∈ back, isBlank character = true) ∧
    (∀ character, core.head? = some character → isBlank character = false) ∧
    ∀ character, core.getLast? = some character → isBlank character = false

theorem Trims.infix
    {text core : List Char}
    (trims : Trims text core) :
    core <:+: text := by
  obtain ⟨⟨front, back, whole, _, _⟩, _, _⟩ := trims
  exact ⟨front, back, whole.symm⟩

/-- No blank is left to be cut off, also if some are put behind the core. -/
theorem Trims.append_blanks
    {text core blanks : List Char}
    (trims : Trims text core)
    (blank : ∀ character ∈ blanks, isBlank character = true) :
    Trims (core ++ blanks) core :=
  ⟨⟨[], blanks, rfl, List.forall_mem_nil _, blank⟩, trims.2⟩

theorem IsWord.trims_append_space
    {word : String}
    (isWord : IsWord word) :
    Trims (word.toList ++ [' ']) word.toList := by
  refine ⟨⟨[], [' '], rfl, List.forall_mem_nil _, List.forall_mem_singleton.mpr rfl⟩, ?_, ?_⟩
  · exact fun character isFirst => isWord.solid character (List.mem_of_head? isFirst)
  · exact fun character isLast => isWord.solid character (List.mem_of_getLast? isLast)

theorem trimStart_append_of_blank
    {front : List Char}
    (blank : ∀ character ∈ front, isBlank character = true)
    (rest : List Char) :
    trimStart (front ++ rest) = trimStart rest := by
  rw [trimStart, List.dropWhile_append_of_pos blank, trimStart]

theorem trimStart_eq_self
    {text : List Char}
    (solid : ∀ character, text.head? = some character → isBlank character = false) :
    trimStart text = text := by
  cases text with
  | nil => rfl
  | cons first rest =>
      rw [trimStart, List.dropWhile_cons_of_neg (by simp [solid first rfl])]

theorem solid_of_head?_trimStart
    {text : List Char}
    {first : Char}
    (isFirst : (trimStart text).head? = some first) :
    isBlank first = false := by
  have notDropped := List.head?_dropWhile_not isBlank text
  rw [trimStart] at isFirst
  simpa [isFirst] using notDropped

theorem trims_trim
    (text : List Char) :
    Trims text (trim text) := by
  let front := text.takeWhile isBlank
  let back := ((trimStart text).reverse.takeWhile isBlank).reverse
  have fromStart : front ++ trimStart text = text := List.takeWhile_append_dropWhile
  have fromEnd : trim text ++ back = trimStart text := by
    rw [trim, trimEnd, ← List.reverse_append]
    exact (congrArg List.reverse List.takeWhile_append_dropWhile).trans (List.reverse_reverse _)
  refine ⟨⟨front, back, ?_, fun _ => List.mem_takeWhile_imp, ?_⟩, ?_, ?_⟩
  · rw [List.append_assoc, fromEnd, fromStart]
  · intro character isDropped
    exact List.mem_takeWhile_imp (List.mem_reverse.mp isDropped)
  · intro first isFirst
    have firstOfRest : (trimStart text).head? = some first := by
      rw [← fromEnd, List.head?_append, isFirst, Option.some_or]
    exact solid_of_head?_trimStart firstOfRest
  · intro last isLast
    rw [trim, trimEnd, List.getLast?_reverse] at isLast
    exact solid_of_head?_trimStart isLast

theorem trim_eq_iff_trims
    {text core : List Char} :
    trim text = core ↔ Trims text core := by
  constructor
  · rintro rfl
    exact trims_trim text
  · rintro ⟨⟨front, back, rfl, frontBlank, backBlank⟩, firstSolid, lastSolid⟩
    rw [trim, List.append_assoc, trimStart_append_of_blank frontBlank]
    cases core with
    | nil =>
        rw [List.nil_append, ← List.append_nil back, trimStart_append_of_blank backBlank]
        rfl
    | cons first rest =>
        have reversedBlank : ∀ character ∈ back.reverse, isBlank character = true :=
          fun character member => backBlank character (List.mem_reverse.mp member)
        have started : trimStart (first :: rest ++ back) = first :: rest ++ back :=
          trimStart_eq_self firstSolid
        rw [started, trimEnd, List.reverse_append, trimStart_append_of_blank reversedBlank,
          trimStart_eq_self, List.reverse_reverse]
        rwa [List.head?_reverse]

/-- Nothing is left exactly of a text that has only blanks. -/
theorem trim_eq_nil_iff
    {text : List Char} :
    trim text = [] ↔ ∀ character ∈ text, isBlank character = true := by
  rw [trim_eq_iff_trims]
  constructor
  · rintro ⟨⟨front, back, rfl, frontBlank, backBlank⟩, _, _⟩
    simpa [or_imp, forall_and] using ⟨frontBlank, backBlank⟩
  · intro blank
    exact ⟨⟨text, [], by simp, blank, List.forall_mem_nil _⟩, by simp, by simp⟩

/-! ## Words between separators -/

/-- The words follow each other in the text with separators between them and around them. -/
inductive Separated
    (separates : Char → Bool) :
    List Char → List (List Char) → Prop where
  | nil :
      Separated separates [] []
  | skip
      {separator : Char}
      {rest : List Char}
      {words : List (List Char)} :
      separates separator = true →
      Separated separates rest words →
      Separated separates (separator :: rest) words
  | last
      {word : List Char} :
      word ≠ [] →
      (∀ character ∈ word, separates character = false) →
      Separated separates word [word]
  | word
      {word rest : List Char}
      {separator : Char}
      {words : List (List Char)} :
      word ≠ [] →
      (∀ character ∈ word, separates character = false) →
      separates separator = true →
      Separated separates rest words →
      Separated separates (word ++ separator :: rest) (word :: words)

section Separated

variable
  {separates : Char → Bool}
  {text : List Char}
  {words : List (List Char)}

theorem Separated.runs_eq
    (separated : Separated separates text words) :
    runs separates text = words := by
  induction separated with
  | nil => rfl
  | skip isSeparator _ inductionHypothesis =>
      rw [runs_cons_separator isSeparator, inductionHypothesis]
  | last nonempty solid => exact runs_eq_singleton solid nonempty
  | word nonempty solid isSeparator _ inductionHypothesis =>
      rw [runs_append_separator _ isSeparator, runs_eq_singleton solid nonempty,
        inductionHypothesis]
      rfl

theorem Separated.subset
    (separated : Separated separates text words)
    {word : List Char}
    (isWord : word ∈ words) :
    word ⊆ text := by
  induction separated with
  | nil => cases isWord
  | skip _ _ inductionHypothesis =>
      exact List.subset_cons_of_subset _ (inductionHypothesis isWord)
  | last _ _ =>
      rw [List.mem_singleton] at isWord
      exact isWord ▸ List.Subset.refl _
  | word _ _ _ _ inductionHypothesis =>
      rcases List.mem_cons.mp isWord with rfl | later
      · exact List.subset_append_left _ _
      · exact List.subset_append_of_subset_right _
          (List.subset_cons_of_subset _ (inductionHypothesis later))

/-- Every text has its words. -/
theorem exists_separated
    (separates : Char → Bool)
    (text : List Char) :
    ∃ words, Separated separates text words := by
  -- The induction is on the length, as a whole word is taken from the front at a time.
  induction size : text.length using Nat.strong_induction_on generalizing text with
  | _ size inductionHypothesis =>
      subst size
      let front := text.takeWhile (!separates ·)
      have solid : ∀ character ∈ front, separates character = false :=
        fun character member => by simpa using List.mem_takeWhile_imp member
      have split : front ++ text.dropWhile (!separates ·) = text :=
        List.takeWhile_append_dropWhile
      have next := List.head?_dropWhile_not (!separates ·) text
      rcases remaining : text.dropWhile (!separates ·) with _ | ⟨separator, rest⟩
      · rw [remaining, List.append_nil] at split
        rw [← split]
        by_cases isEmpty : front = []
        · exact ⟨[], isEmpty ▸ .nil⟩
        · exact ⟨[front], .last isEmpty solid⟩
      · rw [remaining] at split next
        have isSeparator : separates separator = true := by simpa using next
        have shorter : rest.length < text.length := by
          rw [← split, List.length_append, List.length_cons]
          omega
        obtain ⟨words, separated⟩ := inductionHypothesis rest.length shorter rest rfl
        rw [← split]
        by_cases isEmpty : front = []
        · exact ⟨words, isEmpty ▸ .skip isSeparator separated⟩
        · exact ⟨front :: words, .word isEmpty solid isSeparator separated⟩

theorem runs_eq_iff_separated :
    runs separates text = words ↔ Separated separates text words := by
  constructor
  · rintro rfl
    obtain ⟨words, separated⟩ := exists_separated separates text
    exact separated.runs_eq ▸ separated
  · exact Separated.runs_eq

end Separated

end Pushdown.Text
