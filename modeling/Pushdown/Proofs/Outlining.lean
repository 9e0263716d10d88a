import Mathlib.Data.List.ReduceOption
import Pushdown.Definition.Outline
import Pushdown.Proofs.Data.List
import Pushdown.Proofs.WrittenText

namespace Pushdown

/-!
# What it takes to read an outline

A text is read in stages: lines to directives, directives to rules and a fresh
automaton, transition lines to transitions that are added.  Here it is said exactly
when the first stage succeeds and with what result, so that directives can be
followed back to the lines that they are written on.
-/

/-! ## Numbered lines -/

theorem Text.content_numberedLines
    (text : String) :
    (numberedLines text).map (·.content) = lines text.toList := by
  simp [numberedLines, Function.comp_def, List.zipIdx_map_fst]

namespace Text.Numbered

/-- Numbered items are read when their contents are. -/
theorem mapM_read_eq_ok_iff
    {ε α β : Type}
    {reader : α → Except ε β}
    {items : List (Numbered α)}
    {contents : List β} :
    (∃ results, items.mapM (read reader) = .ok results ∧ results.map (·.content) = contents) ↔
      List.Forall₂ (fun item content => reader item = .ok content)
        (items.map (·.content)) contents := by
  have read_iff : ∀ {item : Numbered α} {result : Numbered β},
      read reader item = .ok result ↔
        reader item.content = .ok result.content ∧ item.line = result.line := by
    intro item result
    cases result
    unfold read
    cases reader item.content <;> simp [and_comm]
  simp only [List.mapM_eq_ok_iff, read_iff, List.forall₂_map_left_iff]
  constructor
  · rintro ⟨results, reads, rfl⟩
    rw [List.forall₂_map_right_iff]
    exact reads.imp fun _ _ both => both.1
  · refine List.exists_map_eq_of_forall₂ ?_
    intro item content isRead
    exact ⟨⟨item.line, content⟩, ⟨isRead, rfl⟩, rfl⟩

end Text.Numbered

/-! ## Directives and their lines -/

theorem readNumber_eq_ok_iff
    {word : String}
    {number : Nat} :
    readNumber word = .ok number ↔ Text.numeral? word = some number := by
  unfold readNumber
  cases Text.numeral? word <;> simp

/-- The name of a directive, and what the words after it stand for. -/
def Directive.WrittenAs
    (name : String)
    (words : List String) :
    Directive → Prop
  | .states count =>
      name = "states" ∧ Text.numeral? (" ".intercalate words) = some count
  | .start state =>
      name = "start" ∧ Text.numeral? (" ".intercalate words) = some state
  | .accept accepted =>
      name = "accept" ∧
        List.Forall₂ (fun word state => Text.numeral? word = some state) words accepted
  | .terminals names =>
      name = "terminals" ∧ words = names
  | .nonterminals names =>
      name = "variables" ∧ words = names
  | .rule ruleWords =>
      name = "rule" ∧ words = ruleWords
  | .transition transitionWords =>
      name = "trans" ∧ words = transitionWords

theorem Directive.read_eq_ok_iff
    {name : String}
    {words : List String}
    {directive : Directive} :
    Directive.read name words = .ok directive ↔ directive.WrittenAs name words := by
  -- With each name only one kind of directive is left, and with no name none.
  unfold Directive.read Header.text
  split_ifs <;> cases directive <;>
    simp_all [WrittenAs, Except.map_eq_ok_iff, List.mapM_eq_ok_iff, readNumber_eq_ok_iff]

namespace Outline

/-- The words of a line tell whether it is a comment. -/
theorem lineWords_eq_ite
    (line : List Char) :
    lineWords line =
      if (Text.words line).head?.bind (·.toList.head?) = some '#' then [] else Text.words line := by
  simp only [lineWords, isComment, Text.head?_trimStart, beq_iff_eq]

/-- A line whose first word does not begin a comment has all of its words. -/
theorem lineWords_eq
    {line : List Char}
    {first : String}
    {rest : List String}
    (split : Text.words line = first :: rest)
    (notComment : first.toList.head? ≠ some '#') :
    lineWords line = first :: rest := by
  rw [lineWords_eq_ite, split]
  exact if_neg notComment

theorem lineWords_dropReturn
    (line : List Char) :
    lineWords (Text.dropReturn line) = lineWords line := by
  have sameWords : Text.words (Text.dropReturn line) = Text.words line := by
    rw [Text.words, Text.words, Text.runs_dropReturn rfl]
  rw [lineWords_eq_ite, lineWords_eq_ite, sameWords]

/-- The directive of a line with words; a line without words has none. -/
inductive LineWrittenAs : List Char → Option Directive → Prop where
  | blank
      {line : List Char} :
      lineWords line = [] →
      LineWrittenAs line none
  | directive
      {line : List Char}
      {name : String}
      {words : List String}
      {directive : Directive} :
      lineWords line = name :: words →
      directive.WrittenAs name words →
      LineWrittenAs line (some directive)

theorem readLine_eq_ok_iff
    {line : Text.Numbered (List Char)}
    {item : Option (Text.Numbered Directive)} :
    readLine line = .ok item ↔
      ∃ directive?,
        LineWrittenAs line.content directive? ∧
          item = directive?.map fun directive => ⟨line.line, directive⟩ := by
  unfold readLine
  split
  · next noWords =>
      constructor
      · intro isRead
        cases isRead
        exact ⟨none, .blank noWords, rfl⟩
      · rintro ⟨directive?, written, rfl⟩
        cases written with
        | blank _ => rfl
        | directive someWords _ => simp [noWords] at someWords
  · next name words someWords =>
      constructor
      · intro isRead
        split at isRead
        · next directive parsed =>
            cases isRead
            exact ⟨some directive, .directive someWords (Directive.read_eq_ok_iff.mp parsed), rfl⟩
        · contradiction
      · rintro ⟨directive?, written, rfl⟩
        cases written with
        | blank noWords => simp [noWords] at someWords
        | directive sameWords written =>
            rw [someWords, List.cons.injEq] at sameWords
            obtain ⟨rfl, rfl⟩ := sameWords
            rw [Directive.read_eq_ok_iff.mpr written]
            rfl

/-- The lines determine the directives, in their order. -/
theorem read_eq_ok_iff
    {text : String}
    {directives : List Directive} :
    (∃ outline, read text = .ok outline ∧ outline.directives.map (·.content) = directives) ↔
      ∃ items,
        List.Forall₂ LineWrittenAs (Text.lines text.toList) items ∧
          items.reduceOption = directives := by
  have withoutLines : ∀ items : List (Option (Text.Numbered Directive)),
      (items.map (Option.map (·.content))).reduceOption =
        (items.filterMap id).map (·.content) := by
    simp [List.reduceOption, List.filterMap_map, List.map_filterMap]
  simp only [read, Except.bind_eq_ok_iff, Except.pure_eq_ok_iff, List.mapM_eq_ok_iff,
    readLine_eq_ok_iff]
  rw [← Text.content_numberedLines]
  constructor
  · rintro ⟨_, ⟨items, reads, rfl⟩, rfl⟩
    refine ⟨items.map (Option.map (·.content)), ?_, withoutLines items⟩
    rw [List.forall₂_map_left_iff, List.forall₂_map_right_iff]
    refine reads.imp ?_
    rintro line _ ⟨directive?, written, rfl⟩
    cases directive? <;> exact written
  · rintro ⟨items, written, rfl⟩
    rw [List.forall₂_map_left_iff] at written
    have numberLine : ∀ (line : Text.Numbered (List Char)) (directive? : Option Directive),
        LineWrittenAs line.content directive? →
          ∃ item : Option (Text.Numbered Directive),
            (∃ found?,
              LineWrittenAs line.content found? ∧
                item = found?.map fun directive => ⟨line.line, directive⟩) ∧
              item.map (·.content) = directive? := by
      intro line directive? isWritten
      exact ⟨_, ⟨directive?, isWritten, rfl⟩, by simp [Function.comp_def]⟩
    obtain ⟨numbered, reads, rfl⟩ := List.exists_map_eq_of_forall₂ numberLine written
    exact ⟨_, ⟨numbered, reads, rfl⟩, (withoutLines numbered).symm⟩

theorem contents_eq
    (outline : Outline)
    (keep : Directive → Option α) :
    outline.contents keep = (outline.directives.map (·.content)).filterMap keep := by
  rw [contents, select, List.map_filterMap, List.filterMap_map]
  refine List.filterMap_congr fun item _ => ?_
  simp [Function.comp_def]

/-! ## Words after the name of a directive -/

/-- The words after a name, if a line begins with it. -/
def wordsAfter?
    (name : String)
    (line : List Char) :
    Option (List String) :=
  match lineWords line with
  | [] => none
  | first :: words => if first = name then some words else none

/-- The words after a name, for every line of a text that begins with it. -/
def wordsAfter
    (name text : String) :
    List (List String) :=
  (Text.lines text.toList).filterMap (wordsAfter? name)

/-- What is kept of the directives of one name is what the words after that name stand for. -/
theorem contents_eq_filterMap_wordsAfter
    {α : Type}
    {text name : String}
    {outline : Outline}
    {keep : Directive → Option α}
    {value? : List String → Option α}
    (isRead : read text = .ok outline)
    (keeps : ∀ {directive : Directive} {first : String} {words : List String},
      directive.WrittenAs first words →
        keep directive = if first = name then value? words else none) :
    outline.contents keep = (wordsAfter name text).filterMap value? := by
  have keepsLine : ∀ {line directive?},
      LineWrittenAs line directive? →
        directive?.bind keep = (wordsAfter? name line).bind value? := by
    intro line directive? written
    cases written with
    | blank noWords => simp [wordsAfter?, noWords]
    | directive someWords written =>
        simp only [wordsAfter?, someWords, Option.bind_some, keeps written]
        split <;> rfl
  obtain ⟨items, written, total⟩ := read_eq_ok_iff.mp ⟨outline, isRead, rfl⟩
  rw [contents_eq, ← total, List.reduceOption, List.filterMap_filterMap, wordsAfter,
    List.filterMap_filterMap]
  exact List.filterMap_congr_of_forall₂ written keepsLine

/-- What is kept of the directives of one name are the words after that name. -/
theorem contents_eq_wordsAfter
    {text name : String}
    {outline : Outline}
    {keep : Directive → Option (List String)}
    (isRead : read text = .ok outline)
    (keeps : ∀ {directive : Directive} {first : String} {words : List String},
      directive.WrittenAs first words →
        keep directive = if first = name then some words else none) :
    outline.contents keep = wordsAfter name text := by
  rw [contents_eq_filterMap_wordsAfter isRead keeps, List.filterMap_some]

theorem stateCount?_eq
    {text : String}
    {outline : Outline}
    (isRead : read text = .ok outline) :
    outline.stateCount? =
      ((wordsAfter "states" text).filterMap fun words =>
        Text.numeral? (" ".intercalate words)).getLast? := by
  refine congrArg List.getLast? (contents_eq_filterMap_wordsAfter isRead ?_)
  intro directive first words written
  cases directive <;> simp_all [Directive.WrittenAs]

theorem start?_eq
    {text : String}
    {outline : Outline}
    (isRead : read text = .ok outline) :
    outline.start? =
      ((wordsAfter "start" text).filterMap fun words =>
        Text.numeral? (" ".intercalate words)).getLast? := by
  refine congrArg List.getLast? (contents_eq_filterMap_wordsAfter isRead ?_)
  intro directive first words written
  cases directive <;> simp_all [Directive.WrittenAs]

theorem acceptStates_eq
    {text : String}
    {outline : Outline}
    (isRead : read text = .ok outline) :
    outline.acceptStates =
      ((wordsAfter "accept" text).map fun words => words.filterMap Text.numeral?).flatten := by
  rw [← List.filterMap_eq_map]
  refine congrArg List.flatten (contents_eq_filterMap_wordsAfter isRead ?_)
  intro directive first words written
  cases directive with
  | accept states =>
      obtain ⟨rfl, numbers⟩ := written
      simp [List.filterMap_eq_of_forall₂ numbers]
  | _ => simp_all [Directive.WrittenAs]

theorem terminals_eq
    {text : String}
    {outline : Outline}
    (isRead : read text = .ok outline) :
    outline.terminals = (wordsAfter "terminals" text).flatten := by
  rw [terminals, contents_eq_wordsAfter isRead]
  intro directive first words written
  cases directive <;> simp_all [Directive.WrittenAs]

theorem nonterminals_eq
    {text : String}
    {outline : Outline}
    (isRead : read text = .ok outline) :
    outline.nonterminals = (wordsAfter "variables" text).flatten := by
  rw [nonterminals, contents_eq_wordsAfter isRead]
  intro directive first words written
  cases directive <;> simp_all [Directive.WrittenAs]

theorem ruleLines_eq
    {text : String}
    {outline : Outline}
    (isRead : read text = .ok outline) :
    outline.ruleLines.map (·.content) = wordsAfter "rule" text := by
  refine contents_eq_wordsAfter isRead ?_
  intro directive first words written
  cases directive <;> simp_all [Directive.WrittenAs]

theorem transitionLines_eq
    {text : String}
    {outline : Outline}
    (isRead : read text = .ok outline) :
    outline.transitionLines.map (·.content) = wordsAfter "trans" text := by
  refine contents_eq_wordsAfter isRead ?_
  intro directive first words written
  cases directive <;> simp_all [Directive.WrittenAs]

end Outline

end Pushdown
