import Pushdown.Proofs.Path
import Pushdown.Proofs.Rightmost

namespace Pushdown

/-!
# Reconstruction of a parse

When the labels of every transition explain what it does to the stack and to the
input, a stack stands for a form at every moment of a run: its symbols from the
bottom up, followed by what is still to be read.  Going back over the run, this
form is expanded by the labels, from the last nonterminal left on the stack to
the word.
-/

/-- The symbol a token stands for; a lookahead marker stands for its terminal, a state for none. -/
def StackToken.meaning? : StackToken → Option Symbol
  | .terminal symbol => some (.terminal symbol)
  | .nonterminal symbol => some (.nonterminal symbol)
  | .state _ => none
  | .lookahead symbol => some (.terminal symbol)

namespace Form

/-- The symbols that tokens, listed from the top of the stack down, stand for from the bottom up. -/
def ofTokens
    (tokens : List StackToken) :
    Form :=
  tokens.reverse.filterMap StackToken.meaning?

/-- What is read, unless nothing is. -/
def ofInput
    (input : Terminal) :
    Form :=
  if input.isEpsilon then [] else [.terminal input]

/-- Everything that is read in recorded steps. -/
def ofSteps
    (snapshots : List Snapshot) :
    Form :=
  snapshots.flatMap fun snapshot => ofInput snapshot.consumed

@[simp]
theorem ofTokens_append
    (above below : List StackToken) :
    ofTokens (above ++ below) = ofTokens below ++ ofTokens above := by
  simp [ofTokens]

theorem ofInput_terminalsOnly
    (input : Terminal) :
    TerminalsOnly (ofInput input) := by
  intro symbol member
  unfold ofInput at member
  split at member
  · simp at member
  · rw [List.mem_singleton] at member
    subst member
    rfl

/-- The form of what is read holds the consumed terminals. -/
theorem ofSteps_eq_map
    (snapshots : List Snapshot) :
    ofSteps snapshots = (Automaton.consumedBy snapshots).map .terminal := by
  induction snapshots with
  | nil => rfl
  | cons snapshot rest inductionHypothesis =>
      rw [ofSteps, List.flatMap_cons, ← ofSteps, inductionHypothesis, ofInput]
      by_cases readsNothing : snapshot.consumed = .epsilon <;>
        simp [Automaton.consumedBy, readsNothing]

theorem ofSteps_terminalsOnly
    (snapshots : List Snapshot) :
    TerminalsOnly (ofSteps snapshots) := by
  intro symbol member
  obtain ⟨snapshot, _, isRead⟩ := List.mem_flatMap.mp member
  exact ofInput_terminalsOnly snapshot.consumed symbol isRead

end Form

/-- Tokens that agree stand for the same symbol. -/
theorem StackToken.meaning?_eq_of_agrees
    {first second : StackToken}
    (agreed : first.agrees second = true) :
    first.meaning? = second.meaning? := by
  rcases agrees_iff.mp agreed with rfl | ⟨rfl, tag, rfl⟩ | ⟨rfl, tag, rfl⟩
  · rfl
  · rfl
  · rfl

/-- The tokens at the top stand for what the pattern stands for, above all that lies below. -/
theorem StackToken.AtTop.ofTokens_eq
    {pattern tokens : List StackToken}
    (atTop : AtTop pattern tokens) :
    Form.ofTokens tokens =
      Form.ofTokens (tokens.drop pattern.length) ++ Form.ofTokens pattern := by
  induction atTop with
  | nil tokens => simp [Form.ofTokens]
  | @cons expected token pattern tokens agreed _ inductionHypothesis =>
      have single : Form.ofTokens [token] = Form.ofTokens [expected] := by
        simp only [Form.ofTokens, List.reverse_singleton, List.filterMap_cons,
          meaning?_eq_of_agrees agreed]
      calc
        Form.ofTokens (token :: tokens)
            = Form.ofTokens tokens ++ Form.ofTokens [token] :=
          Form.ofTokens_append [token] tokens
        _ = Form.ofTokens (tokens.drop pattern.length) ++
              (Form.ofTokens pattern ++ Form.ofTokens [expected]) := by
          rw [inductionHypothesis, single, List.append_assoc]
        _ = Form.ofTokens ((token :: tokens).drop (expected :: pattern).length) ++
              Form.ofTokens (expected :: pattern) := by
          rw [← Form.ofTokens_append]
          rfl

/--
The labels of a transition, in reverse, expand what its replacement stands for to
what its pattern stands for, followed by what it reads.
-/
def Transition.LabelConsistent
    (transition : Transition) :
    Prop :=
  Form.Expands transition.rules.reverse
    (Form.ofTokens transition.replacement)
    (Form.ofTokens transition.pattern ++ Form.ofInput transition.input)

namespace Trace

/-- The labels on the steps of an accepted trace, in the order in which they were recorded. -/
def rules
    (trace : Trace) :
    List Rule :=
  trace.snapshots.dropLast.flatMap fun snapshot => snapshot.transition.rules

theorem rulesOfTrace_eq_reverse_rules
    (trace : Trace) :
    Derivation.rulesOfTrace trace = trace.rules.reverse := by
  rw [Derivation.rulesOfTrace, rules, List.reverse_flatMap]
  rfl

theorem ofTrace_eq_ofRules
    {trace : Trace}
    (accepted : trace.isAccepted = true) :
    Derivation.ofTrace trace = Derivation.ofRules trace.rules.reverse := by
  rw [Derivation.ofTrace, if_pos accepted, rulesOfTrace_eq_reverse_rules]

end Trace

namespace Automaton

namespace Path

variable
  {machine : Automaton}
  {first last : Configuration}
  {snapshots : List Snapshot}

/-- Back over one step: the form of the next stack is expanded to that of the stack before. -/
theorem expands_step
    {configuration : Configuration}
    {choice : Choice}
    (chosen : machine.choose? configuration = some choice)
    (consistent : choice.transition.LabelConsistent)
    {later : Form}
    (only : Form.TerminalsOnly later) :
    Form.Expands choice.transition.rules.reverse
      (Form.ofTokens (configuration.follow choice).stack.toList ++ later)
      (Form.ofTokens configuration.stack.toList ++ (Form.ofInput choice.consumed ++ later)) := by
  obtain ⟨_, sameInput, atTop⟩ := mem_row_of_select? chosen
  have matched := (Stack.startsWith_iff.mp atTop).ofTokens_eq
  have inContext := consistent.inContext
    (Form.ofTokens
      (configuration.stack.toList.drop choice.transition.pattern.length)) only
  rw [sameInput] at inContext
  rw [matched, Configuration.follow, Stack.apply, Stack.toList_replaceTop,
    Form.ofTokens_append]
  simpa only [List.append_assoc] using inContext

/-- Back over a path: its labels expand the form at the end to the form at the start. -/
theorem expands
    (consistent : ∀ transition ∈ machine.table.transitions, transition.LabelConsistent)
    (path : machine.Path first snapshots last) :
    Form.Expands
      (snapshots.flatMap fun snapshot => snapshot.transition.rules).reverse
      (Form.ofTokens last.stack.toList)
      (Form.ofTokens first.stack.toList ++ Form.ofSteps snapshots) := by
  induction path with
  | nil configuration =>
      simpa [Form.ofSteps] using Form.Expands.nil (Form.ofTokens configuration.stack.toList)
  | @cons configuration last choice snapshots busy chosen rest inductionHypothesis =>
      obtain ⟨inRow, _, _⟩ := mem_row_of_select? chosen
      have labelled := consistent choice.transition (Table.mem_transitions_of_mem_row inRow)
      have step := expands_step chosen labelled (Form.ofSteps_terminalsOnly snapshots)
      -- In reverse the labels of the later steps come first, and lead to the form after this one.
      rw [List.flatMap_cons, List.reverse_append]
      exact inductionHypothesis.append step

end Path

/-- The trace of an accepted run: the steps, and a marker that repeats the last transition. -/
theorem exists_marked_path_of_isAccepted
    {machine : Automaton}
    {budget : Nat}
    {word : List Terminal}
    {trace : Trace}
    (returned : machine.run budget word = .ok trace)
    (accepted : trace.isAccepted = true) :
    ∃ snapshots final last,
      trace.snapshots =
          snapshots ++ [⟨last.state, .epsilon, last.stack.toList, final.transition, true⟩] ∧
        machine.Path (machine.initial word) snapshots last ∧
        last.isDone = true ∧
        snapshots.getLast? = some final := by
  obtain ⟨_, _, path, halts⟩ := machine.exists_path_history (machine.limitOr budget) word
  rcases Run.outcome_eq_ok_iff.mp returned with ⟨finished, rfl⟩ | ⟨_, rfl⟩
  · obtain ⟨marker, isMarker, _, _⟩ := Run.exists_marker?_eq_some accepted
    obtain ⟨final, isFinal, _, rfl⟩ := Run.marker?_eq_some_iff.mp isMarker
    rw [finished] at halts
    cases halts with
    | finished done =>
        refine ⟨_, final, _, ?_, path, done, isFinal⟩
        rw [isMarker]
        rfl
  · simp [Trace.isAccepted] at accepted

/-- The trace of an accepted run: the steps to its last configuration, which is then shown. -/
theorem exists_path_of_isAccepted
    {machine : Automaton}
    {budget : Nat}
    {word : List Terminal}
    {trace : Trace}
    (returned : machine.run budget word = .ok trace)
    (accepted : trace.isAccepted = true) :
    ∃ snapshots marker last,
      trace.snapshots = snapshots ++ [marker] ∧
        machine.Path (machine.initial word) snapshots last ∧
        last.isDone = true ∧
        marker.stack = last.stack.toList := by
  obtain ⟨snapshots, _, last, shape, path, done, _⟩ :=
    exists_marked_path_of_isAccepted returned accepted
  exact ⟨snapshots, _, last, shape, path, done, rfl⟩

/--
An accepted run that leaves a single nonterminal on the stack is a parse, if the
labels explain all transitions: the labels in reverse are a rightmost derivation
of the word from that nonterminal, and this is the derivation that is rebuilt.
-/
theorem ofTrace_rightmostDerivation
    {machine : Automaton}
    (consistent : ∀ transition ∈ machine.table.transitions, transition.LabelConsistent)
    {budget : Nat}
    {word : List Terminal}
    {trace : Trace}
    (returned : machine.run budget word = .ok trace)
    (accepted : trace.isAccepted = true)
    {head : Nonterminal}
    (final : trace.snapshots.getLast?.map (·.stack) = some [.nonterminal head])
    (labelled : trace.rules ≠ []) :
    ∃ derivation,
      Derivation.ofTrace trace = .ok derivation ∧
        derivation.forms.head? = some [.nonterminal head] ∧
        derivation.forms.getLast? = some (word.map .terminal) ∧
        Form.RightmostDerivation trace.rules.reverse derivation.forms := by
  obtain ⟨snapshots, marker, last, shape, path, done, sameStack⟩ :=
    exists_path_of_isAccepted returned accepted
  have finalStack : last.stack.toList = [.nonterminal head] := by
    simpa [shape, sameStack] using final
  have allRead : last.unread = [] := by
    rw [Configuration.isDone, Bool.and_eq_true] at done
    exact List.isEmpty_iff.mp done.1
  have reads : Form.ofSteps snapshots = word.map .terminal := by
    have read := path.unread_eq
    rw [allRead, List.append_nil] at read
    rw [Form.ofSteps_eq_map, ← read]
    rfl
  have expands : Form.Expands trace.rules.reverse [.nonterminal head] (word.map .terminal) := by
    have wholeRun := path.expands consistent
    rw [finalStack, reads] at wholeRun
    rw [Trace.rules, shape, List.dropLast_concat]
    exact wholeRun
  obtain ⟨derivation, rebuilt, begins, ends, rightmost⟩ :=
    Derivation.exists_ofRules_eq_ok expands (List.reverse_ne_nil_iff.mpr labelled)
  refine ⟨derivation, ?_, begins, ends, rightmost⟩
  rw [Derivation.ofTrace, if_pos accepted, Trace.rulesOfTrace_eq_reverse_rules, rebuilt]

/-- A sum is shifted and reduced under a state marker and with its sign as a lookahead marker. -/
theorem ofTrace_rightmostDerivation_sum :
    ∃ machine trace derivation,
      assemble 3 0 [⟨"n"⟩, ⟨"+"⟩] [⟨"E"⟩] [1]
          [ ⟨0, ⟨"n"⟩, [], 1, [.nonterminal ⟨"E"⟩], [⟨⟨"E"⟩, [.terminal ⟨"n"⟩]⟩]⟩,
            ⟨1, ⟨"+"⟩, [.nonterminal ⟨"E"⟩], 2,
              [.state (.id 2), .lookahead ⟨"+"⟩, .nonterminal ⟨"E"⟩], []⟩,
            ⟨2, ⟨"n"⟩, [.wildcard, .lookahead ⟨"+"⟩, .nonterminal ⟨"E"⟩], 1,
              [.nonterminal ⟨"E"⟩],
              [⟨⟨"E"⟩, [.nonterminal ⟨"E"⟩, .terminal ⟨"+"⟩, .terminal ⟨"n"⟩]⟩]⟩ ] =
          .ok machine ∧
        (∀ transition ∈ machine.table.transitions, transition.LabelConsistent) ∧
        machine.run 9 [⟨"n"⟩, ⟨"+"⟩, ⟨"n"⟩] = .ok trace ∧
        trace.isAccepted = true ∧
        trace.snapshots.getLast?.map (·.stack) = some [.nonterminal ⟨"E"⟩] ∧
        trace.rules ≠ [] ∧
        Derivation.ofTrace trace = .ok derivation ∧
        derivation.forms.head? = some [.nonterminal ⟨"E"⟩] ∧
        derivation.forms.getLast? =
          some [.terminal ⟨"n"⟩, .terminal ⟨"+"⟩, .terminal ⟨"n"⟩] ∧
        Form.RightmostDerivation trace.rules.reverse derivation.forms := by
  let number : Rule := ⟨⟨"E"⟩, [.terminal ⟨"n"⟩]⟩
  let sum : Rule := ⟨⟨"E"⟩, [.nonterminal ⟨"E"⟩, .terminal ⟨"+"⟩, .terminal ⟨"n"⟩]⟩
  let reduceNumber : Transition :=
    ⟨0, ⟨"n"⟩, [], 1, [.nonterminal ⟨"E"⟩], [number]⟩
  let shiftSign : Transition :=
    ⟨1, ⟨"+"⟩, [.nonterminal ⟨"E"⟩], 2,
      [.state (.id 2), .lookahead ⟨"+"⟩, .nonterminal ⟨"E"⟩], []⟩
  let reduceSum : Transition :=
    ⟨2, ⟨"n"⟩, [.wildcard, .lookahead ⟨"+"⟩, .nonterminal ⟨"E"⟩], 1,
      [.nonterminal ⟨"E"⟩], [sum]⟩
  obtain ⟨machine, assembled, passed⟩ := Except.exists_eq_ok_of_any
    (assemble 3 0 [⟨"n"⟩, ⟨"+"⟩] [⟨"E"⟩] [1] [reduceNumber, shiftSign, reduceSum])
    (fun machine =>
      machine.table.transitions == [reduceNumber, shiftSign, reduceSum] &&
        (machine.run 9 [⟨"n"⟩, ⟨"+"⟩, ⟨"n"⟩]).toOption.any fun trace =>
          trace.isAccepted &&
            trace.snapshots.getLast?.map (·.stack) == some [.nonterminal ⟨"E"⟩] &&
            trace.rules == [number, sum])
    (by cbv)
  simp only [Bool.and_eq_true, beq_iff_eq] at passed
  obtain ⟨transitions, passedRun⟩ := passed
  obtain ⟨trace, returned, passedTrace⟩ := Except.exists_eq_ok_of_any _ _ passedRun
  simp only [Bool.and_eq_true, beq_iff_eq] at passedTrace
  obtain ⟨⟨accepted, final⟩, rules⟩ := passedTrace
  have consistent : ∀ transition ∈ machine.table.transitions, transition.LabelConsistent := by
    rw [transitions]
    have numberConsistent : reduceNumber.LabelConsistent :=
      .cons ⟨[], [], rfl, rfl, by decide⟩ (.nil _)
    have signConsistent : shiftSign.LabelConsistent :=
      .nil _
    have sumConsistent : reduceSum.LabelConsistent :=
      .cons ⟨[], [], rfl, rfl, by decide⟩ (.nil _)
    simp [numberConsistent, signConsistent, sumConsistent]
  have labelled : trace.rules ≠ [] := by
    simp [rules]
  obtain ⟨derivation, rebuilt, begins, ends, rightmost⟩ :=
    ofTrace_rightmostDerivation consistent returned accepted final labelled
  exact ⟨machine, trace, derivation, assembled, consistent, returned, accepted, final, labelled,
    rebuilt, begins, ends, rightmost⟩

end Automaton

end Pushdown
