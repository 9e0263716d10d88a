import Pushdown.Proofs.LineGrammar
import Pushdown.Proofs.LineOrder

namespace Pushdown

/-!
# The first faulty transition line

Lines are read in several passes, but the transitions are added last and in the order of
their lines.  If one of them is faulty, then all that is declared is in order and so are
all transitions in front of it, and nobody has looked at those behind it.
-/

namespace Outline

/-! ## Lines without transitions -/

def isTransition
    (words : List String) :
    Bool :=
  words.head? == some "trans"

/-- All lines that are not those of transitions, blank lines and comments among them. -/
def withoutTransitions
    (lines : List (List String)) :
    List (List String) :=
  lines.filter fun words => !isTransition words

theorem withoutTransitions_append
    (front back : List (List String)) :
    withoutTransitions (front ++ back) = withoutTransitions front ++ withoutTransitions back :=
  List.filter_append ..

theorem withoutTransitions_idem
    (lines : List (List String)) :
    withoutTransitions (withoutTransitions lines) = withoutTransitions lines := by
  simp [withoutTransitions]

/-- The second text is the first one without the transition lines from a line on. -/
def CutFrom
    (line : Nat)
    (text shortened : String) :
    Prop :=
  wordsByLine shortened =
    (wordsByLine text).take line ++ withoutTransitions ((wordsByLine text).drop line)

/-- The texts have the same lines, apart from the transition lines after a line. -/
structure AgreeThrough
    (line : Nat)
    (text other : String) :
    Prop where
  through :
    (wordsByLine other).take (line + 1) = (wordsByLine text).take (line + 1)
  after :
    withoutTransitions ((wordsByLine other).drop (line + 1)) =
      withoutTransitions ((wordsByLine text).drop (line + 1))

instance (line : Nat) (text shortened : String) : Decidable (CutFrom line text shortened) :=
  inferInstanceAs (Decidable (_ = _))

instance (line : Nat) (text other : String) : Decidable (AgreeThrough line text other) :=
  decidable_of_iff
    ((wordsByLine other).take (line + 1) = (wordsByLine text).take (line + 1) ∧
      withoutTransitions ((wordsByLine other).drop (line + 1)) =
        withoutTransitions ((wordsByLine text).drop (line + 1)))
    ⟨fun ⟨through, after⟩ => ⟨through, after⟩, fun ⟨through, after⟩ => ⟨through, after⟩⟩

/-- Lines keep their words when each is written with a line feed at its end. -/
theorem wordsByLine_terminated
    {written : List (List Char)}
    (areLines : ∀ line ∈ written, '\n' ∉ line) :
    wordsByLine (String.ofList (written.flatMap (· ++ ['\n']))) = written.map lineWords := by
  rw [wordsByLine, String.toList_ofList, Text.lines_terminated areLines, List.map_map]
  exact List.map_congr_left fun line _ => lineWords_dropReturn line

/-- Lines can be left out of every text. -/
theorem exists_cutFrom
    (line : Nat)
    (text : String) :
    ∃ shortened, CutFrom line text shortened := by
  let raw := Text.lines text.toList
  let kept := raw.take line ++ (raw.drop line).filter fun line => !isTransition (lineWords line)
  have areLines : ∀ line ∈ kept, '\n' ∉ line := by
    intro line isKept
    have isLine : line ∈ raw := by
      rcases List.mem_append.mp isKept with inFront | behind
      · exact List.mem_of_mem_take inFront
      · exact List.mem_of_mem_drop (List.mem_of_mem_filter behind)
    exact Text.lineFeed_not_mem_of_mem_lines isLine
  refine ⟨_, (wordsByLine_terminated areLines).trans ?_⟩
  simp only [kept, raw, wordsByLine, withoutTransitions, List.map_append, List.map_take,
    ← List.map_drop, List.filter_map, Function.comp_def]

/-! ## Numbered words -/

/-- The words after a name, with the numbers of their lines. -/
def numberedAfter
    (name : String)
    (firstLine : Nat)
    (lines : List (List String)) :
    List (Text.Numbered (List String)) :=
  (lines.zipIdx firstLine).filterMap fun (words, line) =>
    if words.head? = some name then some ⟨line, words.tail⟩ else none

theorem numberedAfter_append
    (name : String)
    (firstLine : Nat)
    (front back : List (List String)) :
    numberedAfter name firstLine (front ++ back) =
      numberedAfter name firstLine front ++
        numberedAfter name (firstLine + front.length) back := by
  rw [numberedAfter, List.zipIdx_append, List.filterMap_append]
  rfl

theorem numberedAfter_cons
    (name : String)
    (firstLine : Nat)
    (words : List String)
    (rest : List (List String)) :
    numberedAfter name firstLine ((name :: words) :: rest) =
      ⟨firstLine, words⟩ :: numberedAfter name (firstLine + 1) rest := by
  simp [numberedAfter]

/-- An item has the number of the line that its words are on. -/
theorem getElem?_of_mem_numberedAfter
    {name : String}
    {firstLine : Nat}
    {lines : List (List String)}
    {item : Text.Numbered (List String)}
    (member : item ∈ numberedAfter name firstLine lines) :
    firstLine ≤ item.line ∧ lines[item.line - firstLine]? = some (name :: item.content) := by
  obtain ⟨⟨words, line⟩, isNumbered, begins⟩ := List.mem_filterMap.mp member
  rw [List.mk_mem_zipIdx_iff_le_and_getElem?_sub] at isNumbered
  rw [Option.ite_none_right_eq_some, Option.some.injEq] at begins
  obtain ⟨isName, rfl⟩ := begins
  rw [← List.eq_cons_of_mem_head? isName]
  exact isNumbered

/-- No line of a text without transitions is that of a transition. -/
theorem numberedAfter_withoutTransitions
    (firstLine : Nat)
    (lines : List (List String)) :
    numberedAfter "trans" firstLine (withoutTransitions lines) = [] := by
  rw [List.eq_nil_iff_forall_not_mem]
  intro item member
  have isLine := List.mem_of_getElem? (getElem?_of_mem_numberedAfter member).2
  simp [withoutTransitions, isTransition] at isLine

/-- What is kept of the directives of one name are its words, each with the number of its line. -/
theorem select_eq_numberedAfter
    {text name : String}
    {outline : Outline}
    {keep : Directive → Option (List String)}
    (isRead : read text = .ok outline)
    (keeps : ∀ {directive : Directive} {first : String} {words : List String},
      directive.WrittenAs first words →
        keep directive = if first = name then some words else none) :
    outline.select keep = numberedAfter name 0 (wordsByLine text) := by
  simp only [read, Except.bind_eq_ok_iff, Except.pure_eq_ok_iff, List.mapM_eq_ok_iff] at isRead
  obtain ⟨items, reads, rfl⟩ := isRead
  have keepsLine : ∀ {line : Text.Numbered (List Char)} {item : Option (Text.Numbered Directive)},
      readLine line = .ok item →
        (item.bind fun directive => (keep directive.content).map (.mk directive.line)) =
          if (lineWords line.content).head? = some name then
            some (Text.Numbered.mk line.line (lineWords line.content).tail)
          else none := by
    intro line item lineIsRead
    obtain ⟨directive?, written, rfl⟩ := readLine_eq_ok_iff.mp lineIsRead
    cases written with
    | blank noWords => simp [noWords]
    | directive someWords written =>
        simp only [someWords, Option.map_some, Option.bind_some, keeps written, List.head?_cons,
          Option.some.injEq, List.tail_cons]
        split <;> rfl
  rw [select, List.filterMap_filterMap, numberedAfter, wordsByLine, List.zipIdx_map,
    List.filterMap_map]
  refine (List.filterMap_congr_of_forall₂ reads keepsLine).trans ?_
  rw [Text.numberedLines, List.filterMap_map]
  rfl

theorem numbered_ruleLines_eq
    {text : String}
    {outline : Outline}
    (isRead : read text = .ok outline) :
    outline.ruleLines = numberedAfter "rule" 0 (wordsByLine text) := by
  refine select_eq_numberedAfter isRead ?_
  intro directive first words written
  cases directive <;> simp_all [Directive.WrittenAs]

theorem numbered_transitionLines_eq
    {text : String}
    {outline : Outline}
    (isRead : read text = .ok outline) :
    outline.transitionLines = numberedAfter "trans" 0 (wordsByLine text) := by
  refine select_eq_numberedAfter isRead ?_
  intro directive first words written
  cases directive <;> simp_all [Directive.WrittenAs]

/-! ## Faults in front of the transitions -/

/-- A fault in a directive has the number of the line of the directive. -/
theorem directive_of_read_eq_error
    {text : String}
    {line : Nat}
    {fault : LineFault}
    (failed : read text = .error ⟨line, fault⟩) :
    ∃ name words,
      (wordsByLine text)[line]? = some (name :: words) ∧
        Directive.read name words = .error fault := by
  rw [read, Except.bind_eq_error_iff] at failed
  rcases failed with failed | ⟨_, _, isPure⟩
  · obtain ⟨⟨number, content⟩, isLine, isFaulty⟩ := List.exists_eq_error_of_mapM failed
    simp only [Text.numberedLines, List.mem_map, List.mk_mem_zipIdx_iff_getElem?, Prod.exists,
      Text.Numbered.mk.injEq] at isLine
    obtain ⟨_, _, isLine, rfl, rfl⟩ := isLine
    unfold readLine at isFaulty
    split at isFaulty
    · cases isFaulty
    · next name words someWords =>
        split at isFaulty
        · cases isFaulty
        · next parsed =>
            cases isFaulty
            refine ⟨name, words, ?_, parsed⟩
            rw [wordsByLine, List.getElem?_map, isLine, Option.map_some]
            exact congrArg some someWords
  · cases isPure

/-- What is declared can only be at fault for a missing header or on the line of a rule. -/
theorem missingHeader_or_rule_of_frame_eq_error
    {outline : Outline}
    {line : Nat}
    {fault : LineFault}
    (failed : outline.frame = .error (.faultyLine ⟨line, fault⟩)) :
    (∃ header, fault = .missingHeader header) ∨ ∃ words, ⟨line, words⟩ ∈ outline.ruleLines := by
  have ofRequire : ∀ {header : Header} {number? : Option Nat},
      require header number? = .error (.faultyLine ⟨line, fault⟩) →
        fault = .missingHeader header := by
    intro header number? missing
    unfold require at missing
    split at missing <;> cases missing
    rfl
  simp only [frame, Except.bind_eq_error_iff] at failed
  rcases failed with states | ⟨_, _, start | ⟨_, _, grammar | ⟨_, _, declared | ⟨_, _, isPure⟩⟩⟩⟩
  · exact .inl ⟨_, ofRequire states⟩
  · exact .inl ⟨_, ofRequire start⟩
  · right
    rw [Outline.grammar, Except.bind_eq_error_iff] at grammar
    rcases grammar with failed | ⟨_, _, isPure⟩
    · rw [Except.mapError_eq_error_iff] at failed
      obtain ⟨numbered, failed, same⟩ := failed
      cases same
      obtain ⟨⟨number, words⟩, isRule, isFaulty⟩ := List.exists_eq_error_of_mapM failed
      refine ⟨words, ?_⟩
      unfold Text.Numbered.read at isFaulty
      split at isFaulty <;> cases isFaulty
      exact isRule
    · cases isPure
  · rw [declare, Except.mapError_eq_error_iff] at declared
    obtain ⟨_, _, same⟩ := declared
    cases same
  · cases isPure

/-! ## Texts that declare the same -/

theorem wordsAfter_eq_of_withoutTransitions
    {name first second : String}
    (isOther : name ≠ "trans")
    (same :
      withoutTransitions (wordsByLine first) = withoutTransitions (wordsByLine second)) :
    wordsAfter name first = wordsAfter name second := by
  have others : ∀ text : String,
      wordsAfter name text =
        (withoutTransitions (wordsByLine text)).filterMap fun words =>
          if words.head? = some name then some words.tail else none := by
    intro text
    rw [wordsAfter_eq_filterMap_wordsByLine, withoutTransitions, List.filterMap_filter]
    refine List.filterMap_congr fun words _ => ?_
    cases words with
    | nil => simp
    | cons begin rest =>
        by_cases isName : begin = name <;> simp [isName, isOther, isTransition]
  rw [others first, others second, same]

/-- No line of a transition is unreadable as a directive. -/
theorem exists_read_of_withoutTransitions
    {first second : String}
    {outline : Outline}
    (isRead : read first = .ok outline)
    (same :
      withoutTransitions (wordsByLine first) = withoutTransitions (wordsByLine second)) :
    ∃ other, read second = .ok other := by
  have everyLine := exists_read_eq_ok_iff.mp ⟨outline, isRead⟩
  refine exists_read_eq_ok_iff.mpr fun words isLine => ?_
  obtain ⟨inSecond, nonempty⟩ := List.mem_filter.mp isLine
  by_cases isTrans : isTransition words = true
  · have begins : words.head? = some "trans" := beq_iff_eq.mp isTrans
    exact ⟨"trans", words.tail, .transition words.tail, List.eq_cons_of_mem_head? begins,
      rfl, rfl⟩
  · have kept : words ∈ withoutTransitions (wordsByLine second) :=
      List.mem_filter.mpr ⟨inSecond, by simpa using isTrans⟩
    rw [← same] at kept
    exact everyLine words (List.mem_filter.mpr ⟨(List.mem_filter.mp kept).1, nonempty⟩)

/-- Lines of transitions have no part in what is declared. -/
theorem frame_eq_of_wordsAfter
    {first second : String}
    {outline other : Outline}
    {frame : Definition}
    (isRead : read first = .ok outline)
    (otherIsRead : read second = .ok other)
    (sameWords : ∀ name, name ≠ "trans" → wordsAfter name first = wordsAfter name second)
    (isFrame : outline.frame = .ok frame) :
    other.frame = .ok frame ∧ other.nonterminals = outline.nonterminals := by
  have sameNonterminals : other.nonterminals = outline.nonterminals := by
    rw [nonterminals_eq otherIsRead, nonterminals_eq isRead, sameWords _ (by decide)]
  have sameStates : other.stateCount? = outline.stateCount? := by
    rw [stateCount?_eq otherIsRead, stateCount?_eq isRead, sameWords _ (by decide)]
  have sameStart : other.start? = outline.start? := by
    rw [start?_eq otherIsRead, start?_eq isRead, sameWords _ (by decide)]
  have sameRules : other.ruleLines.map (·.content) = outline.ruleLines.map (·.content) := by
    rw [ruleLines_eq otherIsRead, ruleLines_eq isRead, sameWords _ (by decide)]
  have sameDeclaration : other.declare = outline.declare := by
    funext states start
    simp only [declare, sameNonterminals, terminals_eq otherIsRead, terminals_eq isRead,
      acceptStates_eq otherIsRead, acceptStates_eq isRead, sameWords "terminals" (by decide),
      sameWords "accept" (by decide)]
  refine ⟨?_, sameNonterminals⟩
  simp only [Outline.frame, Except.bind_eq_ok_iff, grammar_eq_ok_iff, sameStates, sameStart,
    sameRules, sameNonterminals, sameDeclaration] at isFrame ⊢
  exact isFrame

end Outline

namespace Definition

/-! ## Adding lines -/

section Lines

variable
  {nonterminals : List String}
  {definition : Definition}

theorem addLine_eq_error_iff
    {line : Text.Numbered (List String)}
    {error : DefinitionError} :
    definition.addLine nonterminals line = .error error ↔
      ∃ fault,
        definition.addWords nonterminals line.content = .error fault ∧
          error = .faultyLine ⟨line.line, fault⟩ := by
  unfold addLine
  cases definition.addWords nonterminals line.content <;> simp [eq_comm]

/-- A fault that is found while lines are added is on one of them. -/
theorem exists_mem_of_foldlM_eq_error
    {lines : List (Text.Numbered (List String))}
    {error : DefinitionError}
    (failed : lines.foldlM (addLine nonterminals) definition = .error error) :
    ∃ item ∈ lines, ∃ fault, error = .faultyLine ⟨item.line, fault⟩ := by
  induction lines generalizing definition with
  | nil => cases failed
  | cons line rest inductionHypothesis =>
      rw [List.foldlM_cons, Except.bind_eq_error_iff] at failed
      rcases failed with isFaulty | ⟨_, _, later⟩
      · obtain ⟨fault, _, same⟩ := addLine_eq_error_iff.mp isFaulty
        exact ⟨line, List.mem_cons_self, fault, same⟩
      · obtain ⟨item, member, same⟩ := inductionHypothesis later
        exact ⟨item, List.mem_cons_of_mem line member, same⟩

/-- A line is at fault exactly if the lines in front of it can be added and it cannot. -/
theorem foldlM_eq_error_at_iff
    {before after : List (Text.Numbered (List String))}
    {line : Nat}
    {words : List String}
    {fault : LineFault}
    (inFront : ∀ item ∈ before, item.line < line)
    (behind : ∀ item ∈ after, line < item.line) :
    (before ++ ⟨line, words⟩ :: after).foldlM (addLine nonterminals) definition =
        .error (.faultyLine ⟨line, fault⟩) ↔
      ∃ middle,
        before.foldlM (addLine nonterminals) definition = .ok middle ∧
          middle.addWords nonterminals words = .error fault := by
  simp only [List.foldlM_append, List.foldlM_cons, Except.bind_eq_error_iff, addLine_eq_error_iff]
  constructor
  · rintro (failed | ⟨middle, added, ⟨_, isFaulty, same⟩ | ⟨_, _, failed⟩⟩)
    · obtain ⟨item, member, _, same⟩ := exists_mem_of_foldlM_eq_error failed
      have earlier := inFront item member
      cases same
      omega
    · cases same
      exact ⟨middle, added, isFaulty⟩
    · obtain ⟨item, member, _, same⟩ := exists_mem_of_foldlM_eq_error failed
      have later := behind item member
      cases same
      omega
  · rintro ⟨middle, added, isFaulty⟩
    exact .inr ⟨middle, added, .inl ⟨fault, isFaulty, rfl⟩⟩

/-- A rejection is the error of the automaton; an unreadable line has faults of other kinds. -/
theorem exists_of_addWords_eq_rejected
    {words : List String}
    {error : BuildError}
    (failed : definition.addWords nonterminals words = .error (.rejected error)) :
    ∃ transition,
      Transition.read nonterminals definition.grammar words = .ok transition ∧
        definition.automaton.addTransition transition = .error error := by
  rw [addWords, Except.bind_eq_error_iff] at failed
  rcases failed with unreadable | ⟨transition, isRead, failed⟩
  · rw [Transition.read, Except.bind_eq_error_iff] at unreadable
    rcases unreadable with undivided | ⟨_, _, illegible⟩
    · obtain ⟨_, same⟩ := TransitionLine.missingSeparator_of_ofWords undivided
      cases same
    · cases TransitionLine.transition_isNumberFault illegible
  · refine ⟨transition, isRead, ?_⟩
    split at failed
    · cases failed
    · next added =>
        cases failed
        exact added

/-- Whether a line is the first faulty one can be told from the lines up to it. -/
theorem foldlM_numberedAfter_eq_error_iff
    {lines : List (List String)}
    {line : Nat}
    {words : List String}
    {fault : LineFault}
    (isLine : lines[line]? = some ("trans" :: words)) :
    (Outline.numberedAfter "trans" 0 lines).foldlM (addLine nonterminals) definition =
        .error (.faultyLine ⟨line, fault⟩) ↔
      ∃ middle,
        (Outline.numberedAfter "trans" 0 (lines.take line)).foldlM (addLine nonterminals)
            definition =
          .ok middle ∧
          middle.addWords nonterminals words = .error fault := by
  obtain ⟨inBounds, begins⟩ := List.getElem?_eq_some_iff.mp isLine
  have parted : Outline.numberedAfter "trans" 0 lines =
      Outline.numberedAfter "trans" 0 (lines.take line) ++
        ⟨line, words⟩ :: Outline.numberedAfter "trans" (line + 1) (lines.drop (line + 1)) := by
    have split : lines = lines.take line ++ ("trans" :: words) :: lines.drop (line + 1) := by
      rw [← begins, ← List.drop_eq_getElem_cons inBounds, List.take_append_drop]
    conv_lhs => rw [split]
    rw [Outline.numberedAfter_append, Outline.numberedAfter_cons, Nat.zero_add,
      List.length_take_of_le inBounds.le]
  rw [parted]
  refine foldlM_eq_error_at_iff ?_ ?_
  · intro item member
    have isBefore := (Outline.getElem?_of_mem_numberedAfter member).2
    obtain ⟨bound, _⟩ := List.getElem?_eq_some_iff.mp isBefore
    rw [Nat.sub_zero, List.length_take] at bound
    omega
  · intro item member
    have isBehind := (Outline.getElem?_of_mem_numberedAfter member).1
    omega

end Lines

/-! ## Reading up to the first faulty line -/

/-- Texts that declare the same differ in the transitions that they add to it. -/
theorem read_eq_foldlM
    {first second : String}
    {outline : Outline}
    {frame : Definition}
    (isRead : Outline.read first = .ok outline)
    (isFrame : outline.frame = .ok frame)
    (same :
      Outline.withoutTransitions (Outline.wordsByLine first) =
        Outline.withoutTransitions (Outline.wordsByLine second)) :
    read second =
      (Outline.numberedAfter "trans" 0 (Outline.wordsByLine second)).foldlM
        (addLine outline.nonterminals) frame := by
  obtain ⟨other, otherIsRead⟩ := Outline.exists_read_of_withoutTransitions isRead same
  obtain ⟨otherIsFrame, sameNonterminals⟩ :=
    Outline.frame_eq_of_wordsAfter isRead otherIsRead
      (fun name isOther => Outline.wordsAfter_eq_of_withoutTransitions isOther same) isFrame
  rw [read, otherIsRead, ← sameNonterminals, ← Outline.numbered_transitionLines_eq otherIsRead]
  simp only [Except.mapError, bind, Except.bind, ofOutline, otherIsFrame]

/-- With a fault on the line of a transition, all that is declared is in order. -/
theorem exists_frame_of_faulty_transition
    {text : String}
    {line : Nat}
    {fault : LineFault}
    {words : List String}
    (failed : read text = .error (.faultyLine ⟨line, fault⟩))
    (headersPresent : ∀ header, fault ≠ .missingHeader header)
    (isLine : (Outline.wordsByLine text)[line]? = some ("trans" :: words)) :
    ∃ outline frame, Outline.read text = .ok outline ∧ outline.frame = .ok frame := by
  rw [read, Except.bind_eq_error_iff] at failed
  rcases failed with failed | ⟨outline, isRead, failed⟩
  · -- The directive of a transition is read whatever its words are.
    rw [Except.mapError_eq_error_iff] at failed
    obtain ⟨numbered, failed, same⟩ := failed
    cases same
    obtain ⟨_, _, isSameLine, unreadable⟩ := Outline.directive_of_read_eq_error failed
    rw [isLine, Option.some.injEq, List.cons.injEq] at isSameLine
    obtain ⟨rfl, rfl⟩ := isSameLine
    cases unreadable
  · rw [Except.mapError_eq_ok_iff] at isRead
    rw [ofOutline, Except.bind_eq_error_iff] at failed
    rcases failed with failed | ⟨frame, isFrame, _⟩
    · rcases Outline.missingHeader_or_rule_of_frame_eq_error failed with
        ⟨header, isMissing⟩ | ⟨ruleWords, isRule⟩
      · exact absurd isMissing (headersPresent header)
      · rw [Outline.numbered_ruleLines_eq isRead] at isRule
        have isRuleLine := (Outline.getElem?_of_mem_numberedAfter isRule).2
        rw [Nat.sub_zero, isLine] at isRuleLine
        simp at isRuleLine
    · exact ⟨outline, frame, isRead, isFrame⟩

/--
A fault on the line of a transition is the first one there is.  Without the transitions
from that line on the text can be read, and what it is read as refuses the transition of
the line with this fault, which is the error of the automaton if the fault is a rejection.
The transitions behind the line do not matter.
-/
theorem read_of_faulty_transition
    {text : String}
    {line : Nat}
    {fault : LineFault}
    {words : List String}
    (failed : read text = .error (.faultyLine ⟨line, fault⟩))
    (headersPresent : ∀ header, fault ≠ .missingHeader header)
    (isLine : (Outline.wordsByLine text)[line]? = some ("trans" :: words)) :
    (∃ shortened, Outline.CutFrom line text shortened) ∧
      ∃ definition,
        (∀ shortened, Outline.CutFrom line text shortened → read shortened = .ok definition) ∧
          definition.addWords (Outline.wordsAfter "variables" text).flatten words = .error fault ∧
          (∀ error,
            fault = .rejected error →
              ∃ transition,
                Transition.read (Outline.wordsAfter "variables" text).flatten
                    definition.grammar words =
                  .ok transition ∧
                  definition.automaton.addTransition transition = .error error) ∧
          ∀ other, Outline.AgreeThrough line text other → read other = read text := by
  obtain ⟨outline, frame, isRead, isFrame⟩ :=
    exists_frame_of_faulty_transition failed headersPresent isLine
  have added := failed
  rw [read_eq_foldlM isRead isFrame rfl, foldlM_numberedAfter_eq_error_iff isLine] at added
  obtain ⟨definition, added, isFaulty⟩ := added
  refine ⟨Outline.exists_cutFrom line text, definition, ?_, ?_, ?_, ?_⟩
  · intro shortened cut
    have same :
        Outline.withoutTransitions (Outline.wordsByLine text) =
          Outline.withoutTransitions (Outline.wordsByLine shortened) := by
      rw [cut, Outline.withoutTransitions_append, Outline.withoutTransitions_idem,
        ← Outline.withoutTransitions_append, List.take_append_drop]
    rw [read_eq_foldlM isRead isFrame same, cut, Outline.numberedAfter_append,
      Outline.numberedAfter_withoutTransitions, List.append_nil]
    exact added
  · rw [← Outline.nonterminals_eq isRead]
    exact isFaulty
  · rintro error rfl
    rw [← Outline.nonterminals_eq isRead]
    exact exists_of_addWords_eq_rejected isFaulty
  · intro other agree
    have same :
        Outline.withoutTransitions (Outline.wordsByLine text) =
          Outline.withoutTransitions (Outline.wordsByLine other) := by
      rw [← List.take_append_drop (line + 1) (Outline.wordsByLine text),
        ← List.take_append_drop (line + 1) (Outline.wordsByLine other),
        Outline.withoutTransitions_append, Outline.withoutTransitions_append, agree.through,
        agree.after]
    have isOtherLine : (Outline.wordsByLine other)[line]? = some ("trans" :: words) := by
      rw [← isLine, ← List.getElem?_take_of_lt (Nat.lt_succ_self line), agree.through,
        List.getElem?_take_of_lt (Nat.lt_succ_self line)]
    have sameFront :
        (Outline.wordsByLine other).take line = (Outline.wordsByLine text).take line := by
      have taken := congrArg (List.take line) agree.through
      simpa [List.take_take] using taken
    rw [failed, read_eq_foldlM isRead isFrame same, foldlM_numberedAfter_eq_error_iff isOtherLine,
      sameFront]
    exact ⟨definition, added, isFaulty⟩

/-- A definition with a transition that conflicts with the one before it. -/
def conflictingLines : String :=
  "states 2\nstart 0\n# transitions\n\ntrans 0 a : -> 1 :\ntrans 0 a : -> 0 :\n" ++
    "trans nonsense\nterminals a\nvariables S\n"

/-- The same definition without the transition that conflicts and the one behind it. -/
def linesInFront : String :=
  "states 2\nstart 0\n# transitions\n\ntrans 0 a : -> 1 :\nterminals a\nvariables S\n"

/-- The same definition with other transitions behind the one that conflicts. -/
def otherLinesBehind : String :=
  "states 2\nstart 0\n# transitions\n\ntrans 0 a : -> 1 :\ntrans 0 a : -> 0 :\n" ++
    "terminals a\ntrans 1 a : -> 1 :\ntrans 1 a : -> 1 :\nvariables S\n"

/-- The line is the sixth one, a comment and an empty line included, and the next is worse. -/
theorem read_conflictingLines :
    ∃ definition error,
      read linesInFront = .ok definition ∧
        definition.automaton.table.row 0 = [⟨0, ⟨"a"⟩, [], 1, [], []⟩] ∧
        definition.automaton.addTransition ⟨0, ⟨"a"⟩, [], 0, [], []⟩ = .error error ∧
        error = .ambiguous 0 ⟨.emptyStackTop, ⟨0, ⟨"a"⟩, [], 1, [], []⟩⟩ ∧
        read conflictingLines = .error (.faultyLine ⟨5, .rejected error⟩) ∧
        read otherLinesBehind = .error (.faultyLine ⟨5, .rejected error⟩) := by
  have failed :
      read conflictingLines =
        .error (.faultyLine
          ⟨5, .rejected (.ambiguous 0 ⟨.emptyStackTop, ⟨0, ⟨"a"⟩, [], 1, [], []⟩⟩)⟩) := by
    decide +kernel
  have isLine :
      (Outline.wordsByLine conflictingLines)[5]? =
        some ["trans", "0", "a", ":", "->", "0", ":"] := by
    cbv
  obtain ⟨_, definition, readsInFront, _, rejects, sameBehind⟩ :=
    read_of_faulty_transition failed (by simp) isLine
  have isRead := readsInFront linesInFront (of_decide_eq_true (by cbv))
  obtain ⟨_, same, row⟩ := Except.exists_eq_ok_of_any
    (read linesInFront)
    (fun definition => definition.automaton.table.row 0 == [⟨0, ⟨"a"⟩, [], 1, [], []⟩])
    (by decide +kernel)
  obtain rfl := Except.ok.inj (isRead.symm.trans same)
  obtain ⟨transition, transitionIsRead, rejected⟩ := rejects _ rfl
  have nonterminals : (Outline.wordsAfter "variables" conflictingLines).flatten = ["S"] := by
    cbv
  have isTransition :
      Transition.read (Outline.wordsAfter "variables" conflictingLines).flatten
          definition.grammar ["0", "a", ":", "->", "0", ":"] =
        .ok ⟨0, ⟨"a"⟩, [], 0, [], []⟩ := by
    rw [nonterminals]
    rfl
  obtain rfl := Except.ok.inj (transitionIsRead.symm.trans isTransition)
  refine ⟨definition, _, isRead, beq_iff_eq.mp row, rejected, rfl, failed, ?_⟩
  rw [sameBehind otherLinesBehind (of_decide_eq_true (by cbv)), failed]

end Definition

end Pushdown
