import Mathlib.Data.List.Basic
import Pushdown.Proofs.Replay

namespace Pushdown

/-!
# Which labels are rebuilt to rightmost derivations

A rule is applied to the last occurrence of its own head, and other nonterminals
may stand behind that.  So labels may be replayed although they are those of no
rightmost derivation: then the forms are not one either, and no error says so.
The forms are rightmost exactly if the labels come in the order of a rightmost
derivation, as they always do if no body has more than one nonterminal.
-/

namespace Form

/-- Every form but the first comes from the one before by expanding its last nonterminal. -/
def FollowRightmost
    (rules : List Rule)
    (forms : List Form) :
    Prop :=
  ∀ position form next,
    forms[position]? = some form →
    forms[position + 1]? = some next →
    ∃ rule, rules[position]? = some rule ∧ ExpandsLast rule form next

theorem followRightmost_of_length_le_one
    {rules : List Rule}
    {forms : List Form}
    (short : forms.length ≤ 1) :
    FollowRightmost rules forms := by
  intro position form next _ nextAt
  have inside := (List.getElem?_eq_some_iff.mp nextAt).1
  omega

theorem followRightmost_cons_iff
    {rule : Rule}
    {rest : List Rule}
    {form next : Form}
    {forms : List Form} :
    FollowRightmost (rule :: rest) (form :: next :: forms) ↔
      ExpandsLast rule form next ∧ FollowRightmost rest (next :: forms) := by
  constructor
  · intro follow
    refine ⟨?_, ?_⟩
    · obtain ⟨first, ruleAt, expands⟩ := follow 0 form next rfl rfl
      cases ruleAt
      exact expands
    · intro position laterForm laterNext formAt nextAt
      exact follow (position + 1) laterForm laterNext formAt nextAt
  · rintro ⟨expands, follow⟩ position laterForm laterNext formAt nextAt
    cases position with
    | zero =>
        cases formAt
        cases nextAt
        exact ⟨rule, rfl, expands⟩
    | succ position => exact follow position laterForm laterNext formAt nextAt

/-! ## Forms with a single nonterminal -/

/-- How many symbols of the form can be expanded. -/
def nonterminalCount
    (form : Form) :
    Nat :=
  form.countP Symbol.isNonterminal

/-- In a form with a single nonterminal the replaced one is the last one. -/
theorem expandsLast_of_replaceLast?
    {rule : Rule}
    {form next : Form}
    (single : form.nonterminalCount ≤ 1)
    (replaced : replaceLast? rule form = some next) :
    ExpandsLast rule form next ∧ next.nonterminalCount = nonterminalCount rule.body := by
  obtain ⟨before, after, rfl, rfl, _⟩ := replaceLast?_eq_some_iff.mp replaced
  have headCounts : Symbol.isNonterminal (.nonterminal rule.head) = true := rfl
  simp only [nonterminalCount, List.countP_append, List.countP_cons, headCounts,
    ↓reduceIte] at single ⊢
  have noneBefore : before.countP Symbol.isNonterminal = 0 := by omega
  have noneAfter : after.countP Symbol.isNonterminal = 0 := by omega
  refine ⟨⟨before, after, rfl, rfl, ?_⟩, by omega⟩
  intro symbol member
  rw [List.countP_eq_zero] at noneAfter
  exact Bool.not_eq_true _ ▸ noneAfter symbol member

/-- The last nonterminal of a form that is expanded is the head of the rule. -/
theorem ExpandsLast.getLast?_filter
    {rule : Rule}
    {form next : Form}
    (expands : ExpandsLast rule form next) :
    (form.filter Symbol.isNonterminal).getLast? = some (.nonterminal rule.head) := by
  obtain ⟨before, after, rfl, _, only⟩ := expands
  have nothingAfter : after.filter Symbol.isNonterminal = [] := by
    rw [List.filter_eq_nil_iff]
    intro symbol member
    simp [only symbol member]
  have headStays : Symbol.isNonterminal (.nonterminal rule.head) = true := rfl
  rw [List.filter_append, List.filter_cons_of_pos headStays, nothingAfter,
    List.getLast?_concat]

end Form

namespace Derivation

/-- Only a missing head keeps rules from being applied. -/
theorem exists_headMissing_of_ofRules
    {rules : List Rule}
    {error : DerivationError}
    (failed : ofRules rules = .error error) :
    ∃ rule ∈ rules, error = .headMissing rule := by
  obtain ⟨rule, isMissing, stops⟩ := ofRules_eq_error_iff.mp failed
  exact ⟨rule, stops.mem, isMissing⟩

/-- The first rule expands its own head, and all others the last nonterminal there is then. -/
def RightmostOrder : List Rule → Prop
  | [] => True
  | rule :: rest => ∃ last, Form.Expands rest rule.body last

/-- What is rebuilt from a form is rightmost exactly if the rules expand its last nonterminals. -/
theorem followRightmost_iff_expands
    {form : Form}
    {rules : List Rule}
    {forms : List Form}
    (rebuilt : expand form rules = .ok forms) :
    Form.FollowRightmost rules (form :: forms) ↔ ∃ last, Form.Expands rules form last := by
  induction rules generalizing form forms with
  | nil =>
      cases rebuilt
      constructor
      · intro _
        exact ⟨form, .nil form⟩
      · intro _
        exact Form.followRightmost_of_length_le_one (Nat.le_refl 1)
  | cons rule rest inductionHypothesis =>
      obtain ⟨next, more, replaced, rebuiltRest, rfl⟩ := expand_cons_eq_ok_iff.mp rebuilt
      rw [Form.followRightmost_cons_iff, inductionHypothesis rebuiltRest]
      constructor
      · rintro ⟨first, last, expands⟩
        exact ⟨last, .cons first expands⟩
      · rintro ⟨last, expands⟩
        cases expands with
        | cons first expandsRest =>
            rw [first.replaceLast?_eq] at replaced
            cases replaced
            exact ⟨first, last, expandsRest⟩

/-- What is rebuilt is rightmost if and only if the rules come in such an order. -/
theorem followRightmost_iff_rightmostOrder
    {rules : List Rule}
    {derivation : Derivation}
    (rebuilt : ofRules rules = .ok derivation) :
    Form.FollowRightmost rules derivation.forms ↔ RightmostOrder rules := by
  cases rules with
  | nil =>
      cases rebuilt
      exact iff_of_true (Form.followRightmost_of_length_le_one (Nat.zero_le 1)) trivial
  | cons rule rest =>
      obtain ⟨forms, rebuiltRest, rfl⟩ := ofRules_cons_eq_ok_iff.mp rebuilt
      have first : Form.ExpandsLast rule [.nonterminal rule.head] rule.body :=
        ⟨[], [], rfl, by simp, by decide⟩
      rw [Form.followRightmost_cons_iff, followRightmost_iff_expands rebuiltRest]
      exact and_iff_right first

/-- Rules in such an order can all be applied. -/
theorem RightmostOrder.exists_ofRules_eq_ok
    {rules : List Rule}
    (ordered : RightmostOrder rules) :
    ∃ derivation, ofRules rules = .ok derivation := by
  cases rules with
  | nil => exact ⟨_, rfl⟩
  | cons rule rest =>
      obtain ⟨last, expands⟩ := ordered
      obtain ⟨forms, rebuilt, _, _⟩ := exists_expand_eq_ok expands
      exact ⟨_, ofRules_cons_eq_ok_iff.mpr ⟨forms, rebuilt, rfl⟩⟩

/-- From a single nonterminal, bodies with at most one of them never lead to a second one. -/
theorem exists_expands_of_linear
    {form : Form}
    {rules : List Rule}
    {forms : List Form}
    (linear : ∀ rule ∈ rules, Form.nonterminalCount rule.body ≤ 1)
    (single : form.nonterminalCount ≤ 1)
    (rebuilt : expand form rules = .ok forms) :
    ∃ last, Form.Expands rules form last := by
  induction rules generalizing form forms with
  | nil => exact ⟨form, .nil form⟩
  | cons rule rest inductionHypothesis =>
      rw [List.forall_mem_cons] at linear
      obtain ⟨next, more, replaced, rebuiltRest, _⟩ := expand_cons_eq_ok_iff.mp rebuilt
      obtain ⟨first, sameCount⟩ := Form.expandsLast_of_replaceLast? single replaced
      obtain ⟨last, expands⟩ :=
        inductionHypothesis linear.2 (sameCount ▸ linear.1) rebuiltRest
      exact ⟨last, .cons first expands⟩

theorem rightmostOrder_of_linear
    {rules : List Rule}
    {derivation : Derivation}
    (linear : ∀ rule ∈ rules, Form.nonterminalCount rule.body ≤ 1)
    (rebuilt : ofRules rules = .ok derivation) :
    RightmostOrder rules := by
  cases rules with
  | nil => trivial
  | cons rule rest =>
      rw [List.forall_mem_cons] at linear
      obtain ⟨forms, rebuiltRest, _⟩ := ofRules_cons_eq_ok_iff.mp rebuilt
      exact exists_expands_of_linear linear.2 linear.1 rebuiltRest

end Derivation

/-! ## Accepted traces -/

namespace Trace

/-- What is rebuilt is rightmost, and an error reports labels that come in no such order. -/
def SoundlyRebuilt
    (trace : Trace) :
    Prop :=
  (∀ derivation,
      Derivation.ofTrace trace = .ok derivation →
      Form.FollowRightmost trace.rules.reverse derivation.forms) ∧
    (¬ Derivation.RightmostOrder trace.rules.reverse →
      ∃ error, Derivation.ofTrace trace = .error error)

/-- An accepted trace is rebuilt as it should be if its labels are in order, or do not all apply. -/
theorem soundlyRebuilt_iff
    {trace : Trace}
    (accepted : trace.isAccepted = true) :
    trace.SoundlyRebuilt ↔
      Derivation.RightmostOrder trace.rules.reverse ∨
        ∃ rule ∈ trace.rules, Derivation.ofTrace trace = .error (.headMissing rule) := by
  unfold SoundlyRebuilt
  rw [ofTrace_eq_ofRules accepted]
  cases rebuilt : Derivation.ofRules trace.rules.reverse with
  | error error =>
      obtain ⟨rule, member, rfl⟩ := Derivation.exists_headMissing_of_ofRules rebuilt
      exact iff_of_true
        ⟨fun _ isOk => by contradiction, fun _ => ⟨_, rfl⟩⟩
        (.inr ⟨rule, List.mem_reverse.mp member, rfl⟩)
  | ok derivation =>
      have ordered_iff := Derivation.followRightmost_iff_rightmostOrder rebuilt
      simp [ordered_iff]

end Trace

namespace Automaton

/--
What is rebuilt from an accepted trace is rightmost, or an error, exactly if the
labels come in the order of a rightmost derivation or one of them does not find its
head.  Labels in such an order are always rebuilt, and where no body has more than
one nonterminal all labels that can be applied come in such an order.
-/
theorem ofTrace_soundlyRebuilt_iff
    {machine : Automaton}
    {budget : Nat}
    {word : List Terminal}
    {trace : Trace}
    (returned : machine.run budget word = .ok trace)
    (accepted : trace.isAccepted = true) :
    (trace.SoundlyRebuilt ↔
        Derivation.RightmostOrder trace.rules.reverse ∨
          ∃ rule ∈ trace.rules, Derivation.ofTrace trace = .error (.headMissing rule)) ∧
      (Derivation.RightmostOrder trace.rules.reverse →
        ∃ derivation, Derivation.ofTrace trace = .ok derivation) ∧
      ((∀ transition ∈ machine.table.transitions,
          ∀ rule ∈ transition.rules, Form.nonterminalCount rule.body ≤ 1) →
        trace.SoundlyRebuilt) := by
  have soundly_iff := Trace.soundlyRebuilt_iff accepted
  have fromRules := Trace.ofTrace_eq_ofRules accepted
  refine ⟨soundly_iff, ?_, ?_⟩
  · intro ordered
    rw [fromRules]
    exact ordered.exists_ofRules_eq_ok
  · intro linearTable
    obtain ⟨snapshots, marker, last, shape, path, _, _⟩ :=
      exists_path_of_isAccepted returned accepted
    have linear : ∀ rule ∈ trace.rules.reverse, Form.nonterminalCount rule.body ≤ 1 := by
      intro rule member
      rw [List.mem_reverse, Trace.rules, shape, List.dropLast_concat] at member
      obtain ⟨snapshot, inPath, isLabel⟩ := List.mem_flatMap.mp member
      exact linearTable snapshot.transition (path.mem_transitions inPath) rule isLabel
    rw [soundly_iff, fromRules]
    cases rebuilt : Derivation.ofRules trace.rules.reverse with
    | ok derivation => exact .inl (Derivation.rightmostOrder_of_linear linear rebuilt)
    | error error =>
        obtain ⟨rule, member, rfl⟩ := Derivation.exists_headMissing_of_ofRules rebuilt
        exact .inr ⟨rule, List.mem_reverse.mp member, rfl⟩

/-- The labels of two nested reductions are in order. -/
theorem ofTrace_soundlyRebuilt_nested :
    ∃ machine trace derivation,
      assemble 2 0 [⟨"a"⟩, ⟨"b"⟩] [⟨"S"⟩, ⟨"A"⟩] [1]
          [ ⟨0, ⟨"a"⟩, [], 0, [.terminal ⟨"a"⟩], []⟩,
            ⟨0, ⟨"b"⟩, [.terminal ⟨"a"⟩], 1, [.nonterminal ⟨"S"⟩],
              [ ⟨⟨"A"⟩, [.terminal ⟨"b"⟩]⟩,
                ⟨⟨"S"⟩, [.terminal ⟨"a"⟩, .nonterminal ⟨"A"⟩]⟩ ]⟩ ] = .ok machine ∧
        machine.run 9 [⟨"a"⟩, ⟨"b"⟩] = .ok trace ∧
        trace.isAccepted = true ∧
        Derivation.ofTrace trace = .ok derivation ∧
        trace.SoundlyRebuilt := by
  let leaf : Rule := ⟨⟨"A"⟩, [.terminal ⟨"b"⟩]⟩
  let top : Rule := ⟨⟨"S"⟩, [.terminal ⟨"a"⟩, .nonterminal ⟨"A"⟩]⟩
  let shift : Transition := ⟨0, ⟨"a"⟩, [], 0, [.terminal ⟨"a"⟩], []⟩
  let reduce : Transition :=
    ⟨0, ⟨"b"⟩, [.terminal ⟨"a"⟩], 1, [.nonterminal ⟨"S"⟩], [leaf, top]⟩
  obtain ⟨machine, assembled, passed⟩ := Except.exists_eq_ok_of_any
    (assemble 2 0 [⟨"a"⟩, ⟨"b"⟩] [⟨"S"⟩, ⟨"A"⟩] [1] [shift, reduce])
    (fun machine =>
      machine.table.transitions == [shift, reduce] &&
        (machine.run 9 [⟨"a"⟩, ⟨"b"⟩]).toOption.any fun trace =>
          trace.isAccepted && (Derivation.ofTrace trace).toOption.isSome)
    (by cbv)
  rw [Bool.and_eq_true, beq_iff_eq] at passed
  obtain ⟨trace, returned, passedTrace⟩ := Except.exists_eq_ok_of_any _ _ passed.2
  rw [Bool.and_eq_true] at passedTrace
  obtain ⟨derivation, rebuilt, _⟩ :=
    Except.exists_eq_ok_of_any (Derivation.ofTrace trace) (fun _ => true) (by
      simpa [Option.any_eq_true] using passedTrace.2)
  have soundly := (ofTrace_soundlyRebuilt_iff returned passedTrace.1).2.2
  refine ⟨machine, trace, derivation, assembled, returned, passedTrace.1, rebuilt, soundly ?_⟩
  rw [passed.1]
  decide

/--
The labels of a leftmost derivation are rebuilt without an error: the forms lead to
the word, but a nonterminal is expanded before the one behind it.
-/
theorem not_soundlyRebuilt_leftmost_labels :
    ∃ machine trace derivation,
      assemble 2 0 [⟨"a"⟩] [⟨"S"⟩, ⟨"A"⟩, ⟨"B"⟩] [1]
          [ ⟨0, ⟨"a"⟩, [], 1, [],
              [ ⟨⟨"B"⟩, []⟩,
                ⟨⟨"A"⟩, [.terminal ⟨"a"⟩]⟩,
                ⟨⟨"S"⟩, [.nonterminal ⟨"A"⟩, .nonterminal ⟨"B"⟩]⟩ ]⟩ ] = .ok machine ∧
        machine.run 9 [⟨"a"⟩] = .ok trace ∧
        trace.isAccepted = true ∧
        Derivation.ofTrace trace = .ok derivation ∧
        derivation.forms =
          [ [.nonterminal ⟨"S"⟩],
            [.nonterminal ⟨"A"⟩, .nonterminal ⟨"B"⟩],
            [.terminal ⟨"a"⟩, .nonterminal ⟨"B"⟩],
            [.terminal ⟨"a"⟩] ] ∧
        ¬ Form.FollowRightmost trace.rules.reverse derivation.forms ∧
        ¬ Derivation.RightmostOrder trace.rules.reverse ∧
        ¬ trace.SoundlyRebuilt := by
  let erase : Rule := ⟨⟨"B"⟩, []⟩
  let leaf : Rule := ⟨⟨"A"⟩, [.terminal ⟨"a"⟩]⟩
  let top : Rule := ⟨⟨"S"⟩, [.nonterminal ⟨"A"⟩, .nonterminal ⟨"B"⟩]⟩
  let forms : List Form :=
    [ [.nonterminal ⟨"S"⟩],
      [.nonterminal ⟨"A"⟩, .nonterminal ⟨"B"⟩],
      [.terminal ⟨"a"⟩, .nonterminal ⟨"B"⟩],
      [.terminal ⟨"a"⟩] ]
  obtain ⟨machine, assembled, passed⟩ := Except.exists_eq_ok_of_any
    (assemble 2 0 [⟨"a"⟩] [⟨"S"⟩, ⟨"A"⟩, ⟨"B"⟩] [1]
      [⟨0, ⟨"a"⟩, [], 1, [], [erase, leaf, top]⟩])
    (fun machine =>
      (machine.run 9 [⟨"a"⟩]).toOption.any fun trace =>
        trace.isAccepted && trace.rules == [erase, leaf, top] &&
          (Derivation.ofTrace trace).toOption.any fun derivation =>
            derivation.forms == forms)
    (by cbv)
  obtain ⟨trace, returned, passedTrace⟩ := Except.exists_eq_ok_of_any _ _ passed
  simp only [Bool.and_eq_true, beq_iff_eq] at passedTrace
  obtain ⟨⟨accepted, labels⟩, passedRebuilt⟩ := passedTrace
  obtain ⟨derivation, rebuilt, passedForms⟩ := Except.exists_eq_ok_of_any _ _ passedRebuilt
  have sameForms : derivation.forms = forms := by
    simpa using passedForms
  have notRightmost : ¬ Form.FollowRightmost trace.rules.reverse derivation.forms := by
    rw [labels, sameForms]
    intro follow
    obtain ⟨rule, ruleAt, expands⟩ := follow 1 _ _ rfl rfl
    cases ruleAt
    have isLast := expands.getLast?_filter
    simp [leaf, Symbol.isNonterminal] at isLast
  have rebuiltRules : Derivation.ofRules trace.rules.reverse = .ok derivation := by
    rw [← Trace.ofTrace_eq_ofRules accepted, rebuilt]
  have unordered : ¬ Derivation.RightmostOrder trace.rules.reverse := by
    rwa [← Derivation.followRightmost_iff_rightmostOrder rebuiltRules]
  have unsound : ¬ trace.SoundlyRebuilt := fun soundly =>
    notRightmost (soundly.1 derivation rebuilt)
  exact ⟨machine, trace, derivation, assembled, returned, accepted, rebuilt, sameForms,
    notRightmost, unordered, unsound⟩

end Automaton

end Pushdown
