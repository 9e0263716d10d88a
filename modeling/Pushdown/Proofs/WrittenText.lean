import Pushdown.Proofs.Data.List
import Pushdown.Text.Listing
import Pushdown.Text.Numeral
import Pushdown.Text.Split

namespace Pushdown.Text

/-!
# Reading what was written

Written words come apart again at the blanks between them, and written lines at their
line feeds, provided that no word has a blank in it.  A written number is read as itself.
-/

/-! ## Words -/

/-- Neither empty nor with a blank in it, so that it stays one word between blanks. -/
structure IsWord
    (word : String) :
    Prop where
  nonempty :
    word ≠ ""
  solid :
    ∀ character ∈ word.toList, isBlank character = false

instance (word : String) : Decidable (IsWord word) :=
  decidable_of_iff (word ≠ "" ∧ word.toList.all (!isBlank ·) = true)
    ⟨fun ⟨nonempty, solid⟩ => ⟨nonempty, by simpa using solid⟩,
      fun ⟨nonempty, solid⟩ => ⟨nonempty, by simpa using solid⟩⟩

theorem IsWord.toList_ne_nil
    {word : String}
    (isWord : IsWord word) :
    word.toList ≠ [] := by
  simpa using isWord.nonempty

theorem IsWord.append
    {first second : String}
    (firstIsWord : IsWord first)
    (secondIsWord : IsWord second) :
    IsWord (first ++ second) := by
  refine ⟨?_, ?_⟩
  · simp [firstIsWord.nonempty]
  · intro character member
    rw [String.toList_append, List.mem_append] at member
    exact member.elim (firstIsWord.solid character) (secondIsWord.solid character)

theorem words_append_blank
    {word : String}
    (isWord : IsWord word)
    {blank : Char}
    (blankIsBlank : isBlank blank = true)
    (rest : List Char) :
    words (word.toList ++ blank :: rest) = word :: words rest := by
  rw [words, runs_append_separator _ blankIsBlank,
    runs_eq_singleton isWord.solid isWord.toList_ne_nil]
  simp [words]

theorem words_toList
    {word : String}
    (isWord : IsWord word) :
    words word.toList = [word] := by
  rw [words, runs_eq_singleton isWord.solid isWord.toList_ne_nil]
  simp

/-- Words with spaces between them. -/
theorem words_intercalate
    {written : List String}
    (areWords : ∀ word ∈ written, IsWord word) :
    words (" ".intercalate written).toList = written := by
  induction written with
  | nil => rfl
  | cons first rest inductionHypothesis =>
      rw [List.forall_mem_cons] at areWords
      cases rest with
      | nil => simpa using words_toList areWords.1
      | cons second others =>
          have split : (" ".intercalate (first :: second :: others)).toList =
              first.toList ++ ' ' :: (" ".intercalate (second :: others)).toList := by
            simp [String.intercalate_cons_cons]
          rw [split, words_append_blank areWords.1 rfl, inductionHypothesis areWords.2]

theorem words_trimEnd
    (text : List Char) :
    words (trimEnd text) = words text := by
  induction text using List.reverseRecOn with
  | nil => rfl
  | append_singleton text last inductionHypothesis =>
      cases blank : isBlank last with
      | false => rw [trimEnd_append_solid text blank]
      | true =>
          rw [trimEnd_append_blank text blank, inductionHypothesis, words, words,
            runs_append_separator text blank, runs_nil, List.append_nil]

/-- Words are solid. -/
theorem isWord_of_mem_words
    {text : List Char}
    {word : String}
    (member : word ∈ words text) :
    IsWord word := by
  obtain ⟨run, isRun, rfl⟩ := List.mem_map.mp member
  refine ⟨?_, ?_⟩
  · simpa using ne_nil_of_mem_runs isRun
  · rw [String.toList_ofList]
    exact List.eq_false_of_mem_splitOnP (List.mem_filter.mp isRun).1

/-- The words between ASCII blanks are the words of a text if it has no other blanks. -/
theorem asciiWords_eq_words
    {text : List Char}
    (ascii : ∀ character ∈ text, isBlank character = true → isAsciiBlank character = true) :
    asciiWords text = words text := by
  have same : ∀ character ∈ text, isAsciiBlank character = isBlank character := by
    intro character member
    exact Bool.eq_iff_iff.mpr ⟨isBlank_of_isAsciiBlank, ascii character member⟩
  rw [asciiWords, words, runs, runs, List.splitOnP_congr same]

/-- Any other blank is left in one of the words between ASCII blanks. -/
theorem isAsciiBlank_of_asciiWords
    {text : List Char}
    (areWords : ∀ word ∈ asciiWords text, IsWord word) :
    ∀ character ∈ text, isBlank character = true → isAsciiBlank character = true := by
  intro character member blank
  by_contra other
  rw [Bool.not_eq_true] at other
  obtain ⟨piece, isPiece, inPiece⟩ := List.exists_mem_splitOnP member other
  have isRun : piece ∈ runs isAsciiBlank text :=
    List.mem_filter.mpr ⟨isPiece, by simpa using List.ne_nil_of_mem inPiece⟩
  have solid := (areWords _ (List.mem_map_of_mem isRun)).solid character (by simpa using inPiece)
  rw [blank] at solid
  cases solid

/-- A carriage return at the end is a separator like others. -/
theorem runs_dropReturn
    {separates : Char → Bool}
    (separatesReturn : separates '\r' = true)
    (line : List Char) :
    runs separates (dropReturn line) = runs separates line := by
  unfold dropReturn
  split
  · next isLast =>
      obtain ⟨front, rfl⟩ := List.getLast?_eq_some_iff.mp isLast
      rw [List.dropLast_concat, runs_append_separator front separatesReturn, runs_nil,
        List.append_nil]
  · rfl

/-- Names in a listing. -/
theorem words_spaced
    {written : List String}
    (areWords : ∀ word ∈ written, IsWord word) :
    words (spaced written).toList = written := by
  have split : ∀ first rest, (terminated (first :: rest)).toList =
      first.toList ++ ' ' :: (terminated rest).toList := by
    simp [terminated]
  rw [spaced, String.toList_ofList, words_trimEnd]
  induction written with
  | nil => rfl
  | cons first rest inductionHypothesis =>
      rw [List.forall_mem_cons] at areWords
      rw [split, words_append_blank areWords.1 rfl, inductionHypothesis areWords.2]

/-- The first character that is not blank begins the first word. -/
theorem head?_trimStart
    (text : List Char) :
    (trimStart text).head? = (words text).head?.bind (·.toList.head?) := by
  induction text with
  | nil => rfl
  | cons first rest inductionHypothesis =>
      cases blank : isBlank first with
      | true =>
          rw [trimStart, List.dropWhile_cons_of_pos blank, words, runs_cons_separator blank]
          exact inductionHypothesis
      | false =>
          obtain ⟨piece, pieces, split⟩ :=
            List.exists_cons_of_ne_nil (List.splitOnP_ne_nil isBlank rest)
          simp [trimStart, words, runs, List.splitOnP_cons_eq_if_modifyHead, blank, split]

/-! ## Lines -/

/-- No other blanks than spaces, so that it stays one line. -/
def IsLine
    (line : String) :
    Prop :=
  ∀ character ∈ line.toList, character = ' ' ∨ isBlank character = false

instance (line : String) : Decidable (IsLine line) :=
  decidable_of_iff (line.toList.all (fun character => character == ' ' || !isBlank character) = true)
    (by simp [IsLine])

theorem IsWord.isLine
    {word : String}
    (isWord : IsWord word) :
    IsLine word :=
  fun character member => .inr (isWord.solid character member)

theorem IsLine.append
    {first second : String}
    (firstIsLine : IsLine first)
    (secondIsLine : IsLine second) :
    IsLine (first ++ second) := by
  intro character member
  rw [String.toList_append, List.mem_append] at member
  exact member.elim (firstIsLine character) (secondIsLine character)

theorem isLine_intercalate
    {written : List String}
    (areWords : ∀ word ∈ written, IsWord word) :
    IsLine (" ".intercalate written) := by
  induction written with
  | nil => simp [IsLine]
  | cons first rest inductionHypothesis =>
      rw [List.forall_mem_cons] at areWords
      cases rest with
      | nil => simpa using areWords.1.isLine
      | cons second others =>
          rw [String.intercalate_cons_cons]
          have space : IsLine " " := by simp [IsLine]
          exact (areWords.1.isLine.append space).append (inductionHypothesis areWords.2)

/-- Nothing but spaces is written besides the names. -/
theorem mem_spaced
    {written : List String}
    {character : Char}
    (member : character ∈ (spaced written).toList) :
    character = ' ' ∨ ∃ word ∈ written, character ∈ word.toList := by
  have kept : character ∈ (terminated written).toList := by
    rw [spaced, String.toList_ofList, trimEnd, List.mem_reverse] at member
    exact List.mem_reverse.mp ((List.dropWhile_sublist isBlank).subset member)
  rw [terminated, String.toList_join, List.mem_flatMap] at kept
  obtain ⟨_, isTerminated, inWord⟩ := kept
  obtain ⟨word, isWritten, rfl⟩ := List.mem_map.mp isTerminated
  rw [String.toList_append, List.mem_append] at inWord
  rcases inWord with inWord | isSpace
  · exact .inr ⟨word, isWritten, inWord⟩
  · exact .inl (by simpa using isSpace)

theorem isLine_spaced
    {written : List String}
    (areWords : ∀ word ∈ written, IsWord word) :
    IsLine (spaced written) := by
  intro character member
  rcases mem_spaced member with isSpace | ⟨word, isWritten, inWord⟩
  · exact .inl isSpace
  · exact .inr ((areWords word isWritten).solid character inWord)

theorem asciiWords_spaced
    {written : List String}
    (areWords : ∀ word ∈ written, IsWord word) :
    asciiWords (spaced written).toList = written := by
  have ascii : ∀ character ∈ (spaced written).toList,
      isBlank character = true → isAsciiBlank character = true := by
    intro character member blank
    rcases isLine_spaced areWords character member with rfl | isSolid
    · rfl
    · rw [blank] at isSolid
      cases isSolid
  rw [asciiWords_eq_words ascii, words_spaced areWords]

theorem dropReturn_subset
    (line : List Char) :
    dropReturn line ⊆ line := by
  unfold dropReturn
  split
  · exact List.dropLast_subset line
  · exact List.Subset.refl line

theorem exists_piece_of_mem_lines
    {text line : List Char}
    (isLine : line ∈ lines text) :
    ∃ piece ∈ text.splitOn '\n', line ⊆ piece := by
  rcases List.mem_append.mp isLine with terminated | isLast
  · obtain ⟨piece, isPiece, rfl⟩ := List.mem_map.mp terminated
    exact ⟨piece, List.dropLast_subset _ isPiece, dropReturn_subset piece⟩
  · have last : (text.splitOn '\n').getLastD [] ∈ text.splitOn '\n' := by
      rw [List.getLastD_eq_getLast?,
        List.getLast?_eq_some_getLast (List.splitOn_ne_nil '\n' text)]
      exact List.getLast_mem _
    split at isLast
    · contradiction
    · rw [List.mem_singleton] at isLast
      exact ⟨_, last, isLast ▸ List.Subset.refl _⟩

/-- No line has a line feed in it. -/
theorem lineFeed_not_mem_of_mem_lines
    {text line : List Char}
    (isLine : line ∈ lines text) :
    '\n' ∉ line := by
  obtain ⟨piece, isPiece, contained⟩ := exists_piece_of_mem_lines isLine
  exact fun member => List.not_mem_of_mem_splitOn isPiece (contained member)

theorem subset_of_mem_lines
    {text line : List Char}
    (isLine : line ∈ lines text) :
    line ⊆ text := by
  obtain ⟨piece, isPiece, contained⟩ := exists_piece_of_mem_lines isLine
  exact List.Subset.trans contained (List.subset_of_mem_splitOn isPiece)

/-- A line without its line feed is the only line of a text, unless there is nothing in it. -/
theorem lines_eq_singleton
    {line : List Char}
    (noLineFeed : '\n' ∉ line) :
    lines line = if line.isEmpty then [] else [line] := by
  simp [lines, List.splitOn_eq_singleton noLineFeed]

/-- What is in front of the first line feed is a line, without a carriage return at its end. -/
theorem lines_append_lineFeed
    {line : List Char}
    (noLineFeed : '\n' ∉ line)
    (rest : List Char) :
    lines (line ++ '\n' :: rest) = dropReturn line :: lines rest := by
  obtain ⟨first, pieces, split⟩ := List.exists_cons_of_ne_nil (List.splitOn_ne_nil '\n' rest)
  simp only [lines, List.splitOn_append_cons_self_of_not_mem noLineFeed, split]
  simp

theorem IsLine.lineFeed_not_mem
    {line : String}
    (isLine : IsLine line) :
    '\n' ∉ line.toList := by
  intro member
  exact absurd (isLine _ member) (by decide)

theorem IsLine.dropReturn_eq
    {line : String}
    (isLine : IsLine line) :
    dropReturn line.toList = line.toList := by
  refine if_neg fun isLast => ?_
  exact absurd (isLine _ (List.mem_of_getLast? isLast)) (by decide)

/-- Lines, each with a line feed at its end, lose a carriage return in front of it. -/
theorem lines_terminated
    {written : List (List Char)}
    (areLines : ∀ line ∈ written, '\n' ∉ line) :
    lines (written.flatMap (· ++ ['\n'])) = written.map dropReturn := by
  induction written with
  | nil => rfl
  | cons first rest inductionHypothesis =>
      rw [List.forall_mem_cons] at areLines
      rw [List.flatMap_cons, List.append_assoc, List.singleton_append,
        lines_append_lineFeed areLines.1, inductionHypothesis areLines.2, List.map_cons]

/-- Lines without other blanks than spaces stay whole. -/
theorem lines_join
    {written : List String}
    (areLines : ∀ line ∈ written, IsLine line) :
    lines (String.join (written.map (· ++ "\n"))).toList = written.map String.toList := by
  have terminated :
      (String.join (written.map (· ++ "\n"))).toList =
        (written.map String.toList).flatMap (· ++ ['\n']) := by
    simp [List.flatMap_map, String.toList_join]
  rw [terminated, lines_terminated, List.map_map]
  · exact List.map_congr_left fun line isWritten => (areLines line isWritten).dropReturn_eq
  · intro line isWritten
    obtain ⟨origin, member, rfl⟩ := List.mem_map.mp isWritten
    exact (areLines origin member).lineFeed_not_mem

/-- What is read from lines with line feeds between them, if carriage returns do not matter. -/
theorem map_lines_intercalate
    {α : Type}
    {read : List Char → α}
    {written : List String}
    (areLines : ∀ line ∈ written, line ≠ "" ∧ '\n' ∉ line.toList)
    (same : ∀ line ∈ written, read (dropReturn line.toList) = read line.toList) :
    (lines ("\n".intercalate written).toList).map read =
      written.map fun line => read line.toList := by
  induction written with
  | nil => rfl
  | cons first rest inductionHypothesis =>
      rw [List.forall_mem_cons] at areLines same
      cases rest with
      | nil =>
          rw [String.intercalate_singleton, lines_eq_singleton areLines.1.2,
            if_neg (by simpa using areLines.1.1)]
          rfl
      | cons second others =>
          have split : ("\n".intercalate (first :: second :: others)).toList =
              first.toList ++ '\n' :: ("\n".intercalate (second :: others)).toList := by
            simp [String.intercalate_cons_cons]
          rw [split, lines_append_lineFeed areLines.1.2, List.map_cons, same.1,
            inductionHypothesis areLines.2 same.2]
          rfl

/-! ## Numbers -/

theorem isBlank_of_isDigit
    {character : Char}
    (isDigit : character.isDigit = true) :
    isBlank character = false := by
  rw [Char.isDigit, Bool.and_eq_true, decide_eq_true_iff, decide_eq_true_iff] at isDigit
  have lower : 48 ≤ character.toNat := isDigit.1
  have upper : character.toNat ≤ 57 := isDigit.2
  rw [← Bool.not_eq_true, isBlank, CodeRange.anyContains_iff]
  simp [blankRanges, CodeRange.single]
  omega

theorem toList_toString
    (number : Nat) :
    (toString number).toList = Nat.toDigits 10 number := by
  rw [Nat.toString_eq_ofList_toDigits, String.toList_ofList]

theorem isDigit_of_mem_toString
    {number : Nat}
    {character : Char}
    (member : character ∈ (toString number).toList) :
    character.isDigit = true := by
  rw [toList_toString] at member
  exact Nat.isDigit_of_mem_toDigits (by decide) (by decide) member

theorem isWord_toString
    (number : Nat) :
    IsWord (toString number) := by
  constructor
  · rw [ne_eq, ← String.toList_eq_nil_iff, toList_toString]
    exact Nat.toDigits_ne_nil
  · intro character member
    exact isBlank_of_isDigit (isDigit_of_mem_toString member)

/-- A number that is not too large is read as itself. -/
theorem numeral?_toString
    {number : Nat}
    (small : number < numeralBound) :
    numeral? (toString number) = some number := by
  have areDigits : ∀ digit ∈ Nat.toDigits 10 number, digit.isDigit = true := by
    rw [← toList_toString]
    exact fun digit member => isDigit_of_mem_toString member
  have unsigned : dropPlus (Nat.toDigits 10 number) = Nat.toDigits 10 number := by
    unfold dropPlus
    split
    · next rest startsWithPlus =>
        have isDigit := areDigits '+' (by simp [startsWithPlus])
        contradiction
    · rfl
  have value : digitsValue (Nat.toDigits 10 number) = number := by
    rw [digitsValue, ← Nat.ofDigitChars_eq_foldl, Nat.ofDigitChars_toDigits (by decide) (by decide)]
  simp only [numeral?, toList_toString, unsigned, value]
  rw [if_pos ⟨Nat.toDigits_ne_nil, List.all_eq_true.mpr areDigits, small⟩]

end Pushdown.Text
