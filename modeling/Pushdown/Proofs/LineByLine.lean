import Pushdown.Proofs.Path
import Pushdown.Proofs.Reading
import Pushdown.Proofs.WrittenText
import Pushdown.Session

namespace Pushdown

/-!
# Answers line by line

A session answers every line of its input with one automaton, and what it writes for
a line does not depend on the lines before.  Runs that are cut short and words that are
rejected are answers like others, but a session ends with the first line whose word is
accepted without a derivation, and the lines behind it get no answer.

The budget of a session stands for the time that it has if no step limit is set.
-/

/-! ## Lines of their own -/

namespace Text

/-- Between blanks there are no words. -/
theorem words_eq_nil
    {line : List Char}
    (blank : isBlankLine line = true) :
    words line = [] := by
  unfold words
  induction line with
  | nil => rfl
  | cons first rest inductionHypothesis =>
      rw [isBlankLine, List.all_cons, Bool.and_eq_true] at blank
      rw [runs_cons_separator blank.1]
      exact inductionHypothesis blank.2

theorem join_eq_empty_iff
    {texts : List String} :
    String.join texts = "" ↔ ∀ text ∈ texts, text = "" := by
  induction texts with
  | nil => simp
  | cons first rest inductionHypothesis =>
      rw [String.join_cons, String.append_eq_empty_iff, inductionHypothesis, List.forall_mem_cons]

end Text

/-- The run on the empty word is done before its first step. -/
theorem Automaton.run_nil
    (machine : Automaton)
    (budget : Nat) :
    machine.run budget [] = .ok ⟨[], false⟩ := by
  have done : (machine.initial []).isDone = true := rfl
  have history : machine.history (machine.limitOr budget) [] =
      ⟨[], machine.initial [], .finished⟩ :=
    history_eq_iff.mpr ⟨.nil _, Nat.zero_le _, .finished done⟩
  rw [run, runWithin, history]
  rfl

/-! ## One answer -/

namespace Answer

theorem failure_ofTrace_eq_some_iff
    {trace : Trace}
    {log : List LogLine}
    {error : DerivationError} :
    (ofTrace trace log).failure = some error ↔
      trace.isAccepted = true ∧ Derivation.ofTrace trace = .error error := by
  unfold ofTrace
  split
  · next accepted => cases Derivation.ofTrace trace <;> simp [accepted]
  · next refused => simp [refused]

theorem output_ofTrace_ne_empty
    (trace : Trace)
    (log : List LogLine) :
    (ofTrace trace log).output ≠ "" := by
  unfold ofTrace
  split
  · cases Derivation.ofTrace trace <;> simp [line]
  · simp [line]

variable
  {machine : Automaton}
  {budget : Nat}
  {input : List Char}

theorem exists_ofLine_eq_ofTrace
    {trace : Trace}
    (returned : machine.run budget ((Text.words input).map Terminal.mk) = .ok trace) :
    ∃ log, ofLine machine budget input = ofTrace trace log := by
  rw [Automaton.run, Automaton.runWithin] at returned
  simp only [ofLine, returned]
  exact ⟨_, rfl⟩

theorem exists_ofLine_eq_ofError
    {error : RunError}
    (cutShort : machine.run budget ((Text.words input).map Terminal.mk) = .error error) :
    ∃ log, ofLine machine budget input = ofError (String.ofList input) error log := by
  rw [Automaton.run, Automaton.runWithin] at cutShort
  simp only [ofLine, cutShort]
  exact ⟨_, rfl⟩

/-- Only an accepted word without a derivation ends a session. -/
theorem failure_ofLine_eq_some_iff
    {error : DerivationError} :
    (ofLine machine budget input).failure = some error ↔
      ∃ trace,
        machine.run budget ((Text.words input).map Terminal.mk) = .ok trace ∧
          trace.isAccepted = true ∧
          Derivation.ofTrace trace = .error error := by
  cases result : machine.run budget ((Text.words input).map Terminal.mk) with
  | ok trace =>
      obtain ⟨log, answer⟩ := exists_ofLine_eq_ofTrace result
      simp [answer, failure_ofTrace_eq_some_iff]
  | error problem =>
      obtain ⟨log, answer⟩ := exists_ofLine_eq_ofError result
      simp [answer, ofError]

/-- Every answer ends a line of the output. -/
theorem output_ofLine_ne_empty :
    (ofLine machine budget input).output ≠ "" := by
  cases result : machine.run budget ((Text.words input).map Terminal.mk) with
  | ok trace =>
      obtain ⟨log, answer⟩ := exists_ofLine_eq_ofTrace result
      exact answer ▸ output_ofTrace_ne_empty trace log
  | error problem =>
      obtain ⟨log, answer⟩ := exists_ofLine_eq_ofError result
      simp [answer, ofError, line]

end Answer

/-! ## Many lines -/

namespace Session

variable
  {options : Options}
  {budget : Nat}
  {definition : Definition}

/-- What a session writes before the answers. -/
def tablePart
    (options : Options)
    (definition : Definition) :
    String :=
  if options.table then tableOutput definition else ""

/-- What is written for lines, those without words left out. -/
def textOfLines
    (options : Options)
    (budget : Nat)
    (definition : Definition)
    (lines : List (List Char)) :
    String :=
  String.join
    ((answers (limited options definition.automaton) budget
      (lines.filter fun line => !Text.isBlankLine line)).map (·.output))

/-- What a session writes after the table. -/
def answerText
    (options : Options)
    (budget : Nat)
    (definition : Definition)
    (input : String) :
    String :=
  textOfLines options budget definition (Text.lines input.toList)

/-- What a session writes after the table if a line is all of its input. -/
def answerTo
    (options : Options)
    (budget : Nat)
    (definition : Definition)
    (line : List Char) :
    String :=
  answerText options budget definition (String.ofList line)

/-- The output of a session on a text that can be read is the table and the answers. -/
theorem output_run
    {text : String}
    (isRead : Definition.read text = .ok definition)
    (input : String) :
    (run options budget text input).output =
      tablePart options definition ++ answerText options budget definition input := by
  simp only [run, isRead]
  rfl

/-- The word on a line is accepted, but there is no derivation of its trace. -/
def Underivable
    (options : Options)
    (budget : Nat)
    (definition : Definition)
    (line : List Char) :
    Prop :=
  ∃ trace error,
    (limited options definition.automaton).run budget ((Text.words line).map Terminal.mk) =
        .ok trace ∧
      trace.isAccepted = true ∧
      Derivation.ofTrace trace = .error error

theorem underivable_iff_any
    {line : List Char} :
    Underivable options budget definition line ↔
      ((limited options definition.automaton).run budget
        ((Text.words line).map Terminal.mk)).toOption.any (fun trace =>
          trace.isAccepted && !(Derivation.ofTrace trace).toOption.isSome) = true := by
  unfold Underivable
  cases (limited options definition.automaton).run budget ((Text.words line).map Terminal.mk) with
  | error problem => simp [Except.toOption]
  | ok trace => cases derived : Derivation.ofTrace trace <;> simp [Except.toOption, derived]

instance
    (options : Options)
    (budget : Nat)
    (definition : Definition)
    (line : List Char) :
    Decidable (Underivable options budget definition line) :=
  decidable_of_iff _ underivable_iff_any.symm

theorem failure_ne_none_iff_underivable
    {line : List Char} :
    (Answer.ofLine (limited options definition.automaton) budget line).failure ≠ none ↔
      Underivable options budget definition line := by
  rw [Option.ne_none_iff_exists']
  simp only [Answer.failure_ofLine_eq_some_iff, Underivable]
  exact exists_comm

/-- Without words there is no run that could be accepted. -/
theorem not_underivable_of_blank
    {line : List Char}
    (blank : Text.isBlankLine line = true) :
    ¬ Underivable options budget definition line := by
  rintro ⟨trace, error, returned, accepted, _⟩
  rw [Text.words_eq_nil blank, List.map_nil, Automaton.run_nil] at returned
  cases returned
  contradiction

theorem textOfLines_singleton
    (line : List Char) :
    textOfLines options budget definition [line] =
      if Text.isBlankLine line then ""
      else (Answer.ofLine (limited options definition.automaton) budget line).output := by
  cases blank : Text.isBlankLine line with
  | true => simp [textOfLines, blank, answers]
  | false =>
      simp only [textOfLines, blank, Bool.not_false, List.filter_cons_of_pos, List.filter_nil,
        answers]
      split <;> simp

/-- A line without a derivation is the last one that is answered. -/
theorem textOfLines_cons_underivable
    {line : List Char}
    (underivable : Underivable options budget definition line)
    (rest : List (List Char)) :
    textOfLines options budget definition (line :: rest) =
      textOfLines options budget definition [line] := by
  have someWords : Text.isBlankLine line = false := by
    rw [← Bool.not_eq_true]
    exact fun blank => not_underivable_of_blank blank underivable
  obtain ⟨error, fails⟩ :=
    Option.ne_none_iff_exists'.mp (failure_ne_none_iff_underivable.mpr underivable)
  simp [textOfLines, someWords, answers, fails]

/-- Any other line is answered, and the lines behind it, too. -/
theorem textOfLines_cons
    {line : List Char}
    (derivable : ¬ Underivable options budget definition line)
    (rest : List (List Char)) :
    textOfLines options budget definition (line :: rest) =
      textOfLines options budget definition [line] ++
        textOfLines options budget definition rest := by
  have goesOn := not_not.mp (mt failure_ne_none_iff_underivable.mp derivable)
  cases blank : Text.isBlankLine line with
  | true => simp [textOfLines, blank, answers]
  | false => simp [textOfLines, blank, answers, goesOn]

theorem answerTo_eq_textOfLines
    {line : List Char}
    (noLineFeed : '\n' ∉ line) :
    answerTo options budget definition line = textOfLines options budget definition [line] := by
  rw [answerTo, answerText, String.toList_ofList, Text.lines_eq_singleton noLineFeed]
  -- An empty line alone is a text without lines, but nothing is written for it anyway.
  cases line <;> rfl

/-- A session writes nothing for a line exactly if there are no words on it. -/
theorem answerTo_eq_empty_iff
    {line : List Char}
    (noLineFeed : '\n' ∉ line) :
    answerTo options budget definition line = "" ↔ Text.isBlankLine line = true := by
  rw [answerTo_eq_textOfLines noLineFeed, textOfLines_singleton]
  split
  · next blank => simp [blank]
  · next someWords => simp [someWords, Answer.output_ofLine_ne_empty]

/-! ## Lines with answers and lines without -/

/-- Lines are answered up to the first whose word is accepted without a derivation; the lines
behind that one are skipped. -/
inductive AnsweredUpTo
    (options : Options)
    (budget : Nat)
    (definition : Definition) :
    (lines answered skipped : List (List Char)) →
    Prop where
  | done :
      AnsweredUpTo options budget definition [] [] []
  | stopped
      {line : List Char}
      {rest : List (List Char)} :
      Underivable options budget definition line →
      AnsweredUpTo options budget definition (line :: rest) [line] rest
  | next
      {line : List Char}
      {rest answered skipped : List (List Char)} :
      ¬ Underivable options budget definition line →
      AnsweredUpTo options budget definition rest answered skipped →
      AnsweredUpTo options budget definition (line :: rest) (line :: answered) skipped

namespace AnsweredUpTo

variable
  {lines answered skipped : List (List Char)}

theorem exists_answered
    (options : Options)
    (budget : Nat)
    (definition : Definition)
    (lines : List (List Char)) :
    ∃ answered skipped, AnsweredUpTo options budget definition lines answered skipped := by
  induction lines with
  | nil => exact ⟨[], [], .done⟩
  | cons line rest inductionHypothesis =>
      by_cases underivable : Underivable options budget definition line
      · exact ⟨[line], rest, .stopped underivable⟩
      · obtain ⟨answered, skipped, upTo⟩ := inductionHypothesis
        exact ⟨line :: answered, skipped, .next underivable upTo⟩

theorem lines_eq
    (upTo : AnsweredUpTo options budget definition lines answered skipped) :
    lines = answered ++ skipped := by
  induction upTo with
  | done | stopped => rfl
  | next _ _ inductionHypothesis => rw [inductionHypothesis, List.cons_append]

/-- The answered lines are answered as they are alone. -/
theorem textOfLines_eq
    (upTo : AnsweredUpTo options budget definition lines answered skipped)
    (noLineFeed : ∀ line ∈ lines, '\n' ∉ line) :
    textOfLines options budget definition lines =
      String.join (answered.map (answerTo options budget definition)) := by
  induction upTo with
  | done => rfl
  | stopped underivable =>
      rw [textOfLines_cons_underivable underivable,
        ← answerTo_eq_textOfLines (noLineFeed _ List.mem_cons_self)]
      simp
  | next derivable _ inductionHypothesis =>
      rw [List.forall_mem_cons] at noLineFeed
      rw [textOfLines_cons derivable, ← answerTo_eq_textOfLines noLineFeed.1,
        inductionHypothesis noLineFeed.2, List.map_cons, String.join_cons]

/-- Nothing is missing from the answers exactly if there were no words on the skipped lines. -/
theorem join_answered_eq_iff
    (upTo : AnsweredUpTo options budget definition lines answered skipped)
    (noLineFeed : ∀ line ∈ lines, '\n' ∉ line) :
    String.join (answered.map (answerTo options budget definition)) =
        String.join (lines.map (answerTo options budget definition)) ↔
      ∀ line ∈ skipped, Text.isBlankLine line = true := by
  rw [upTo.lines_eq, List.map_append, String.join_append, eq_comm, String.append_eq_left_iff,
    Text.join_eq_empty_iff, List.forall_mem_map]
  exact forall₂_congr fun line isSkipped =>
    answerTo_eq_empty_iff (noLineFeed line (upTo.lines_eq ▸ List.mem_append_right _ isSkipped))

end AnsweredUpTo

/--
What a session writes after the table is what it writes for its lines alone, up to the first
line whose word is accepted without a derivation, and for every line with words it writes
something.  It is what it writes for all of its lines alone exactly if there are no words on
the lines behind that one.

With a step limit this is about all runs, and the budget has no part in it.  Without one it
is about words whose runs end within the budget: a run that the budget cuts short is answered
here like a run over a limit, while a session that sets no limit never writes such an answer.
Every run that ends has a budget that is large enough, by `Automaton.endsWith_iff_exists_budget`.
-/
theorem answerText_linewise
    (options : Options)
    (budget : Nat)
    {text : String}
    (isRead : Definition.read text = .ok definition)
    (input : String) :
    (run options budget text input).output =
        tablePart options definition ++ answerText options budget definition input ∧
      (∀ line ∈ Text.lines input.toList,
        (run options budget text (String.ofList line)).output =
            tablePart options definition ++ answerTo options budget definition line ∧
          (answerTo options budget definition line = "" ↔ Text.isBlankLine line = true)) ∧
      (∃ answered skipped,
        AnsweredUpTo options budget definition (Text.lines input.toList) answered skipped) ∧
      ∀ answered skipped,
        AnsweredUpTo options budget definition (Text.lines input.toList) answered skipped →
        Text.lines input.toList = answered ++ skipped ∧
          answerText options budget definition input =
            String.join (answered.map (answerTo options budget definition)) ∧
          (answerText options budget definition input =
              String.join
                ((Text.lines input.toList).map (answerTo options budget definition)) ↔
            ∀ line ∈ skipped, Text.isBlankLine line = true) := by
  have noLineFeed : ∀ line ∈ Text.lines input.toList, '\n' ∉ line :=
    fun _ => Text.lineFeed_not_mem_of_mem_lines
  refine ⟨output_run isRead input, ?_, AnsweredUpTo.exists_answered _ _ _ _, ?_⟩
  · intro line isLine
    exact ⟨output_run isRead (String.ofList line), answerTo_eq_empty_iff (noLineFeed line isLine)⟩
  · intro answered skipped upTo
    have written :
        answerText options budget definition input =
          String.join (answered.map (answerTo options budget definition)) :=
      upTo.textOfLines_eq noLineFeed
    refine ⟨upTo.lines_eq, written, ?_⟩
    rw [written]
    exact upTo.join_answered_eq_iff noLineFeed

/-- A definition with a word, `a`, that is accepted although `S` is rewritten twice. -/
def rewrittenTwice : String :=
  "states 2\nstart 0\naccept 1\nterminals a b\nvariables S\nrule S -> a\n" ++
    "trans 0 a : -> 1 : / 0 0\ntrans 0 b : -> 1 : / 0\n"

/-- The options of a session that writes no table and allows one step for each run. -/
def oneStep : Options :=
  { automaton := "", table := false, stepLimit := some 1, verbose := false }

/-- The word `b b` needs two steps, `b` has a derivation, and `a` has none. -/
theorem exists_read_rewrittenTwice :
    ∃ definition,
      Definition.read rewrittenTwice = .ok definition ∧
        (limited oneStep definition.automaton).run 0 [⟨"b"⟩, ⟨"b"⟩] =
          .error (.stepLimitExceeded 1) ∧
        ¬ Underivable oneStep 0 definition ['b'] ∧
        Underivable oneStep 0 definition ['a'] := by
  let rules : List Rule := [⟨⟨"S"⟩, [.terminal ⟨"a"⟩]⟩]
  let transitions : List Transition :=
    [⟨0, ⟨"a"⟩, [], 1, [], rules ++ rules⟩, ⟨0, ⟨"b"⟩, [], 1, [], rules⟩]
  have isOutlined :
      Outline.read rewrittenTwice =
        .ok ⟨[ ⟨0, .states 2⟩,
               ⟨1, .start 0⟩,
               ⟨2, .accept [1]⟩,
               ⟨3, .terminals ["a", "b"]⟩,
               ⟨4, .nonterminals ["S"]⟩,
               ⟨5, .rule ["S", "->", "a"]⟩,
               ⟨6, .transition ["0", "a", ":", "->", "1", ":", "/", "0", "0"]⟩,
               ⟨7, .transition ["0", "b", ":", "->", "1", ":", "/", "0"]⟩ ]⟩ := by
    decide +kernel
  obtain ⟨machine, assembled, passed⟩ := Except.exists_eq_ok_of_any
    (Automaton.assemble 2 0 [⟨"a"⟩, ⟨"b"⟩] [⟨"S"⟩] [1] transitions)
    (fun machine =>
      !((limited oneStep machine).run 0 [⟨"b"⟩, ⟨"b"⟩]).toOption.isSome &&
        !decide (Underivable oneStep 0 ⟨machine, .ofRules rules⟩ ['b']) &&
        decide (Underivable oneStep 0 ⟨machine, .ofRules rules⟩ ['a']))
    (by cbv)
  simp only [Bool.and_eq_true, Bool.not_eq_true', decide_eq_true_eq, decide_eq_false_iff_not]
    at passed
  obtain ⟨⟨isCut, derivable⟩, underivable⟩ := passed
  refine ⟨⟨machine, .ofRules rules⟩, ?_, ?_, derivable, underivable⟩
  · exact Definition.read_eq_ok_of_assemble isOutlined rfl rfl (by decide) (by decide) assembled
  · cases result : (limited oneStep machine).run 0 [⟨"b"⟩, ⟨"b"⟩] with
    | ok trace => simp [result, Except.toOption] at isCut
    | error error =>
        rw [(Run.outcome_eq_error_iff.mp result).2]
        rfl

/-- A word that needs too many steps, one with a derivation, one without, and one behind it. -/
theorem answerText_linewise_rewrittenTwice :
    ∃ definition,
      Definition.read rewrittenTwice = .ok definition ∧
        (limited oneStep definition.automaton).run 0 [⟨"b"⟩, ⟨"b"⟩] =
          .error (.stepLimitExceeded 1) ∧
        AnsweredUpTo oneStep 0 definition
          (Text.lines "b b\n\nb\na\nb\n".toList)
          [['b', ' ', 'b'], [], ['b'], ['a']]
          [['b']] ∧
        answerText oneStep 0 definition "b b\n\nb\na\nb\n" =
          String.join
            ([['b', ' ', 'b'], [], ['b'], ['a']].map (answerTo oneStep 0 definition)) ∧
        answerText oneStep 0 definition "b b\n\nb\na\nb\n" ≠
          String.join
            ([['b', ' ', 'b'], [], ['b'], ['a'], ['b']].map (answerTo oneStep 0 definition)) := by
  obtain ⟨definition, isRead, isCut, derivable, underivable⟩ := exists_read_rewrittenTwice
  have lines :
      Text.lines "b b\n\nb\na\nb\n".toList = [['b', ' ', 'b'], [], ['b'], ['a'], ['b']] := by
    decide +kernel
  have tooLong : ¬ Underivable oneStep 0 definition ['b', ' ', 'b'] := by
    rintro ⟨trace, error, returned, _⟩
    exact absurd (isCut.symm.trans returned) (by simp)
  have upTo :
      AnsweredUpTo oneStep 0 definition
        (Text.lines "b b\n\nb\na\nb\n".toList)
        [['b', ' ', 'b'], [], ['b'], ['a']]
        [['b']] :=
    lines ▸ .next tooLong (.next (not_underivable_of_blank rfl)
      (.next derivable (.stopped underivable)))
  obtain ⟨_, _, _, upToEnd⟩ := answerText_linewise oneStep 0 isRead "b b\n\nb\na\nb\n"
  obtain ⟨_, written, complete⟩ := upToEnd _ _ upTo
  rw [lines] at complete
  exact ⟨definition, isRead, isCut, upTo, written, mt complete.mp (by decide)⟩

/-- The answer to `b` is missing behind `a`. -/
theorem output_ne_append_rewrittenTwice :
    ∃ definition,
      Definition.read rewrittenTwice = .ok definition ∧
        (run oneStep 0 rewrittenTwice "a\nb\n").output ≠
          (run oneStep 0 rewrittenTwice "a\n").output ++
            (run oneStep 0 rewrittenTwice "b\n").output := by
  obtain ⟨definition, isRead, _, _, underivable⟩ := exists_read_rewrittenTwice
  have outputOf : ∀ input lines,
      Text.lines input.toList = lines →
      (run oneStep 0 rewrittenTwice input).output = textOfLines oneStep 0 definition lines := by
    rintro input _ rfl
    exact (output_run isRead input).trans String.empty_append
  refine ⟨definition, isRead, ?_⟩
  rw [outputOf "a\nb\n" [['a'], ['b']] (by decide +kernel),
    outputOf "a\n" [['a']] (by decide +kernel),
    outputOf "b\n" [['b']] (by decide +kernel),
    textOfLines_cons_underivable underivable, ne_comm, ne_eq, String.append_eq_left_iff,
    textOfLines_singleton, if_neg (by decide)]
  exact Answer.output_ofLine_ne_empty

end Session

end Pushdown
