import Pushdown.Proofs.Reconstruction

namespace Pushdown

/-!
# Replaying labels

The labels on the steps of an accepted trace are replayed once each, the last one
first, whether or not they explain what the steps do.  The first gives its head and
its body as forms.  Every other one replaces the last occurrence of its head in the
form before, and the first one that finds no such occurrence is reported.
-/

namespace Form

/-- The last occurrence of the head becomes the body; all before and after it stays. -/
def ReplacesLast
    (rule : Rule)
    (form next : Form) :
    Prop :=
  ∃ before after,
    form = before ++ .nonterminal rule.head :: after ∧
      next = before ++ rule.body ++ after ∧
      .nonterminal rule.head ∉ after

theorem replacesLast_iff
    {rule : Rule}
    {form next : Form} :
    ReplacesLast rule form next ↔ replaceLast? rule form = some next :=
  replaceLast?_eq_some_iff.symm

/-- The forms after a first one, each from the one before by a replacement. -/
structure ReplacesEach
    (rules : List Rule)
    (form : Form)
    (later : List Form) :
    Prop where
  length :
    later.length = rules.length
  step :
    ∀ (position : Nat) (rule : Rule) (here next : Form),
      rules[position]? = some rule →
      (form :: later)[position]? = some here →
      later[position]? = some next →
      ReplacesLast rule here next

theorem replacesEach_nil_iff
    {form : Form}
    {later : List Form} :
    ReplacesEach [] form later ↔ later = [] := by
  constructor
  · intro replaces
    exact List.eq_nil_of_length_eq_zero replaces.length
  · rintro rfl
    exact ⟨rfl, by simp⟩

theorem replacesEach_cons_iff
    {rule : Rule}
    {rest : List Rule}
    {form : Form}
    {later : List Form} :
    ReplacesEach (rule :: rest) form later ↔
      ∃ next more,
        ReplacesLast rule form next ∧
          ReplacesEach rest next more ∧
          next :: more = later := by
  constructor
  · rintro ⟨length, step⟩
    obtain ⟨next, more, rfl⟩ := List.exists_cons_of_length_eq_add_one length
    refine ⟨next, more, step 0 rule form next rfl rfl rfl, ⟨by simpa using length, ?_⟩, rfl⟩
    intro position laterRule here laterNext ruleAt hereAt nextAt
    exact step (position + 1) laterRule here laterNext ruleAt hereAt nextAt
  · rintro ⟨next, more, first, replaces, rfl⟩
    refine ⟨by simp [replaces.length], ?_⟩
    intro position laterRule here laterNext ruleAt hereAt nextAt
    cases position with
    | zero =>
        cases ruleAt
        cases hereAt
        cases nextAt
        exact first
    | succ position => exact replaces.step position laterRule here laterNext ruleAt hereAt nextAt

/-- A replacement brings in no symbols but those of the body. -/
theorem ReplacesLast.forall_mem
    {rule : Rule}
    {form next : Form}
    (replaces : ReplacesLast rule form next)
    {allowed : Symbol → Prop}
    (inForm : ∀ symbol ∈ form, allowed symbol)
    (inBody : ∀ symbol ∈ rule.body, allowed symbol) :
    ∀ symbol ∈ next, allowed symbol := by
  obtain ⟨before, after, rfl, rfl, _⟩ := replaces
  simp only [List.forall_mem_append, List.forall_mem_cons] at inForm ⊢
  exact ⟨⟨inForm.1, inBody⟩, inForm.2.2⟩

theorem ReplacesEach.forall_mem
    {rules : List Rule}
    {form : Form}
    {later : List Form}
    (replaces : ReplacesEach rules form later)
    {allowed : Symbol → Prop}
    (inForm : ∀ symbol ∈ form, allowed symbol)
    (inBodies : ∀ rule ∈ rules, ∀ symbol ∈ rule.body, allowed symbol) :
    ∀ next ∈ later, ∀ symbol ∈ next, allowed symbol := by
  induction rules generalizing form later with
  | nil =>
      rw [replacesEach_nil_iff] at replaces
      simp [replaces]
  | cons rule rest inductionHypothesis =>
      obtain ⟨next, more, first, replacesRest, rfl⟩ := replacesEach_cons_iff.mp replaces
      rw [List.forall_mem_cons] at inBodies ⊢
      have inNext := first.forall_mem inForm inBodies.1
      exact ⟨inNext, inductionHypothesis replacesRest inNext inBodies.2⟩

end Form

namespace Derivation

theorem expand_eq_ok_iff
    {form : Form}
    {rules : List Rule}
    {forms : List Form} :
    expand form rules = .ok forms ↔ Form.ReplacesEach rules form forms := by
  induction rules generalizing form forms with
  | nil =>
      rw [Form.replacesEach_nil_iff, expand, Except.ok.injEq]
      exact eq_comm
  | cons rule rest inductionHypothesis =>
      simp only [expand_cons_eq_ok_iff, Form.replacesEach_cons_iff, Form.replacesLast_iff,
        inductionHypothesis]

/-- From a form the rules before a rule can be applied, and lead to a form without its head. -/
def StopsFrom
    (form : Form)
    (rules : List Rule)
    (rule : Rule) :
    Prop :=
  ∃ earlier later forms last,
    rules = earlier ++ rule :: later ∧
      Form.ReplacesEach earlier form forms ∧
      (form :: forms).getLast? = some last ∧
      .nonterminal rule.head ∉ last

theorem stopsFrom_cons_iff
    {form : Form}
    {first : Rule}
    {rest : List Rule}
    {rule : Rule} :
    StopsFrom form (first :: rest) rule ↔
      (rule = first ∧ .nonterminal first.head ∉ form) ∨
        ∃ next, Form.ReplacesLast first form next ∧ StopsFrom next rest rule := by
  constructor
  · rintro ⟨earlier, later, forms, last, split, replaces, isLast, absent⟩
    cases earlier with
    | nil =>
        cases split
        rw [Form.replacesEach_nil_iff] at replaces
        subst replaces
        cases isLast
        exact .inl ⟨rfl, absent⟩
    | cons _ earlier =>
        cases split
        obtain ⟨next, more, replacesFirst, replacesRest, rfl⟩ :=
          Form.replacesEach_cons_iff.mp replaces
        rw [List.getLast?_cons_cons] at isLast
        exact .inr ⟨next, replacesFirst, earlier, later, more, last, rfl, replacesRest, isLast,
          absent⟩
  · rintro (⟨rfl, absent⟩ | ⟨next, replacesFirst, earlier, later, more, last, rfl, replacesRest,
      isLast, absent⟩)
    · exact ⟨[], rest, [], form, rfl, Form.replacesEach_nil_iff.mpr rfl, rfl, absent⟩
    · refine ⟨first :: earlier, later, next :: more, last, rfl, ?_, ?_, absent⟩
      · exact Form.replacesEach_cons_iff.mpr ⟨next, more, replacesFirst, replacesRest, rfl⟩
      · rwa [List.getLast?_cons_cons]

/-- What is reported is the first rule whose head is not in the form it should be applied to. -/
theorem expand_eq_error_iff
    {form : Form}
    {rules : List Rule}
    {error : DerivationError} :
    expand form rules = .error error ↔
      ∃ rule, error = .headMissing rule ∧ StopsFrom form rules rule := by
  induction rules generalizing form with
  | nil => simp [expand, StopsFrom]
  | cons first rest inductionHypothesis =>
      simp only [stopsFrom_cons_iff, Form.replacesLast_iff, ← Form.replaceLast?_eq_none_iff]
      cases replaced : Form.replaceLast? first form with
      | none => simp [expand, replaced, eq_comm]
      | some next =>
          have later_iff :
              expand form (first :: rest) = .error error ↔ expand next rest = .error error := by
            cases rebuilt : expand next rest <;> simp [expand, replaced, rebuilt, Except.map]
          simp [later_iff, inductionHypothesis]

/--
The forms of rules that are applied one after the other: none without rules, and
otherwise the head of the first one, its body, and a replacement by each other one.
-/
def Replays :
    List Rule → List Form → Prop
  | [], forms => forms = []
  | rule :: rest, forms =>
      ∃ later,
        forms = [.nonterminal rule.head] :: rule.body :: later ∧
          Form.ReplacesEach rest rule.body later

/-- The rules before a rule can be applied, and their last form does not hold its head. -/
def StopsAt
    (rules : List Rule)
    (rule : Rule) :
    Prop :=
  ∃ earlier later forms last,
    rules = earlier ++ rule :: later ∧
      Replays earlier forms ∧
      forms.getLast? = some last ∧
      .nonterminal rule.head ∉ last

theorem StopsAt.mem
    {rules : List Rule}
    {rule : Rule}
    (stops : StopsAt rules rule) :
    rule ∈ rules := by
  obtain ⟨earlier, later, _, _, rfl, _⟩ := stops
  exact List.mem_append_right earlier List.mem_cons_self

theorem Replays.length_eq
    {rules : List Rule}
    {forms : List Form}
    (replays : Replays rules forms)
    (labelled : rules ≠ []) :
    forms.length = rules.length + 1 := by
  cases rules with
  | nil => contradiction
  | cons rule rest =>
      obtain ⟨later, rfl, replaces⟩ := replays
      simp [replaces.length]

theorem Replays.forall_mem
    {rules : List Rule}
    {forms : List Form}
    (replays : Replays rules forms)
    {allowed : Symbol → Prop}
    (inRules :
      ∀ rule ∈ rules,
        allowed (.nonterminal rule.head) ∧ ∀ symbol ∈ rule.body, allowed symbol) :
    ∀ form ∈ forms, ∀ symbol ∈ form, allowed symbol := by
  cases rules with
  | nil =>
      cases replays
      simp
  | cons rule rest =>
      obtain ⟨later, rfl, replaces⟩ := replays
      rw [List.forall_mem_cons] at inRules
      obtain ⟨⟨inHead, inBody⟩, inRest⟩ := inRules
      have inLater := replaces.forall_mem inBody fun other member => (inRest other member).2
      simpa [List.forall_mem_cons, inHead] using ⟨inBody, inLater⟩

theorem ofRules_eq_ok_iff
    {rules : List Rule}
    {derivation : Derivation} :
    ofRules rules = .ok derivation ↔ Replays rules derivation.forms := by
  obtain ⟨forms⟩ := derivation
  cases rules with
  | nil =>
      rw [ofRules, Except.ok.injEq, mk.injEq]
      exact eq_comm
  | cons rule rest =>
      simp only [ofRules_cons_eq_ok_iff, Replays, expand_eq_ok_iff, mk.injEq, @eq_comm _ forms,
        and_comm]

theorem stopsAt_cons_iff
    {first : Rule}
    {rest : List Rule}
    {rule : Rule} :
    StopsAt (first :: rest) rule ↔ StopsFrom first.body rest rule := by
  constructor
  · rintro ⟨earlier, later, forms, last, split, replays, isLast, absent⟩
    cases earlier with
    | nil =>
        cases replays
        contradiction
    | cons _ earlier =>
        cases split
        obtain ⟨more, rfl, replaces⟩ := replays
        rw [List.getLast?_cons_cons] at isLast
        exact ⟨earlier, later, more, last, rfl, replaces, isLast, absent⟩
  · rintro ⟨earlier, later, more, last, rfl, replaces, isLast, absent⟩
    refine ⟨first :: earlier, later, _, last, rfl, ⟨more, rfl, replaces⟩, ?_, absent⟩
    rwa [List.getLast?_cons_cons]

theorem ofRules_eq_error_iff
    {rules : List Rule}
    {error : DerivationError} :
    ofRules rules = .error error ↔ ∃ rule, error = .headMissing rule ∧ StopsAt rules rule := by
  cases rules with
  | nil => simp [ofRules, StopsAt]
  | cons first rest =>
      simp only [stopsAt_cons_iff, ← expand_eq_error_iff]
      cases rebuilt : expand first.body rest <;> simp [ofRules, rebuilt, Except.map]

end Derivation

/-- Labels that cannot be replayed are reported in another way than a trace that is not accepted. -/
theorem Trace.ofTrace_eq_notAccepted_iff
    {trace : Trace} :
    Derivation.ofTrace trace = .error .notAccepted ↔ trace.isAccepted = false := by
  cases accepted : trace.isAccepted with
  | false => simp [Derivation.ofTrace, accepted]
  | true => simp [ofTrace_eq_ofRules accepted, Derivation.ofRules_eq_error_iff]

namespace Automaton

/-- The labels on recorded steps, those of the last step first and each of these in reverse. -/
def labelsBackwards
    (steps : List Snapshot) :
    List Rule :=
  (steps.flatMap fun snapshot => snapshot.transition.rules).reverse

/-- Before its last snapshot a trace has the labels of its steps. -/
theorem reverse_rules_eq_labelsBackwards
    {trace : Trace}
    {steps : List Snapshot}
    {marker : Snapshot}
    (shape : trace.snapshots = steps ++ [marker]) :
    trace.rules.reverse = labelsBackwards steps := by
  rw [Trace.rules, shape, List.dropLast_concat, labelsBackwards]

/-- The labels of a path are rules that the automaton declares. -/
theorem Path.declaresRules
    {machine : Automaton}
    (wellFormed : machine.WellFormed)
    {first last : Configuration}
    {steps : List Snapshot}
    (path : machine.Path first steps last) :
    ∀ rule ∈ labelsBackwards steps,
      machine.DeclaresSymbol (.nonterminal rule.head) ∧
        ∀ symbol ∈ rule.body, machine.DeclaresSymbol symbol := by
  intro rule member
  rw [labelsBackwards, List.mem_reverse, List.mem_flatMap] at member
  obtain ⟨snapshot, inPath, isLabel⟩ := member
  have inTable := path.mem_transitions inPath
  exact (wellFormed.mem_row_source inTable).2.rules rule isLabel

/--
A trace that is not accepted has no derivation.  An accepted one consists of the steps
of its run and a marker, which repeats the transition of the last step.  The labels on
the steps are replayed once each, the last one first: the trace is rebuilt to the
forms of this replay, or the first label whose head is missing is reported.  All
symbols of the forms are declared.
-/
theorem Built.ofTrace_replays
    {machine : Automaton}
    (built : machine.Built)
    {budget : Nat}
    {word : List Terminal}
    {trace : Trace}
    (returned : machine.run budget word = .ok trace) :
    (Derivation.ofTrace trace = .error .notAccepted ↔ trace.isAccepted = false) ∧
      (trace.isAccepted = true →
        ∃ steps final last,
          trace.snapshots =
              steps ++ [⟨last.state, .epsilon, last.stack.toList, final.transition, true⟩] ∧
            machine.Path (machine.initial word) steps last ∧
            last.isDone = true ∧
            steps.getLast? = some final ∧
            (labelsBackwards steps = [] → Derivation.ofTrace trace = .ok ⟨[]⟩) ∧
            (∀ derivation,
              Derivation.ofTrace trace = .ok derivation ↔
                Derivation.Replays (labelsBackwards steps) derivation.forms) ∧
            (∀ error,
              Derivation.ofTrace trace = .error error ↔
                ∃ rule,
                  error = .headMissing rule ∧
                    Derivation.StopsAt (labelsBackwards steps) rule) ∧
            ∀ derivation,
              Derivation.ofTrace trace = .ok derivation →
              (labelsBackwards steps ≠ [] →
                derivation.forms.length = (labelsBackwards steps).length + 1) ∧
                ∀ form ∈ derivation.forms, ∀ symbol ∈ form, machine.DeclaresSymbol symbol) := by
  refine ⟨Trace.ofTrace_eq_notAccepted_iff, ?_⟩
  intro accepted
  obtain ⟨steps, final, last, shape, path, done, isFinal⟩ :=
    exists_marked_path_of_isAccepted returned accepted
  have rebuilt : Derivation.ofTrace trace = Derivation.ofRules (labelsBackwards steps) := by
    rw [Trace.ofTrace_eq_ofRules accepted, reverse_rules_eq_labelsBackwards shape]
  rw [rebuilt]
  refine ⟨steps, final, last, shape, path, done, isFinal, ?_,
    fun _ => Derivation.ofRules_eq_ok_iff, fun _ => Derivation.ofRules_eq_error_iff, ?_⟩
  · intro unlabelled
    rw [unlabelled, Derivation.ofRules]
  · intro derivation isOk
    have replays := Derivation.ofRules_eq_ok_iff.mp isOk
    exact ⟨replays.length_eq, replays.forall_mem (path.declaresRules built.wellFormed)⟩

/-- Labels over two steps are replayed, others miss a head, and a third trace is not accepted. -/
theorem ofTrace_replays_two_steps :
    ∃ machine replayed missing unaccepted derivation,
      assemble 3 0 [⟨"a"⟩, ⟨"b"⟩] [⟨"S"⟩, ⟨"A"⟩] [1]
          [ ⟨0, ⟨"a"⟩, [], 2, [],
              [⟨⟨"A"⟩, [.terminal ⟨"b"⟩]⟩, ⟨⟨"A"⟩, [.terminal ⟨"a"⟩]⟩]⟩,
            ⟨2, ⟨"b"⟩, [], 1, [],
              [⟨⟨"S"⟩, [.nonterminal ⟨"A"⟩, .nonterminal ⟨"A"⟩]⟩]⟩,
            ⟨0, ⟨"b"⟩, [], 1, [],
              [⟨⟨"A"⟩, [.terminal ⟨"a"⟩]⟩, ⟨⟨"S"⟩, [.terminal ⟨"b"⟩]⟩]⟩ ] = .ok machine ∧
        machine.run 9 [⟨"a"⟩, ⟨"b"⟩] = .ok replayed ∧
        replayed.isAccepted = true ∧
        Derivation.ofTrace replayed = .ok derivation ∧
        derivation.forms =
          [ [.nonterminal ⟨"S"⟩],
            [.nonterminal ⟨"A"⟩, .nonterminal ⟨"A"⟩],
            [.nonterminal ⟨"A"⟩, .terminal ⟨"a"⟩],
            [.terminal ⟨"b"⟩, .terminal ⟨"a"⟩] ] ∧
        (∀ form ∈ derivation.forms, ∀ symbol ∈ form, machine.DeclaresSymbol symbol) ∧
        machine.run 9 [⟨"b"⟩] = .ok missing ∧
        missing.isAccepted = true ∧
        Derivation.ofTrace missing =
          .error (.headMissing ⟨⟨"A"⟩, [.terminal ⟨"a"⟩]⟩) ∧
        machine.run 9 [⟨"a"⟩] = .ok unaccepted ∧
        Derivation.ofTrace unaccepted = .error .notAccepted := by
  let top : Rule := ⟨⟨"S"⟩, [.nonterminal ⟨"A"⟩, .nonterminal ⟨"A"⟩]⟩
  let single : Rule := ⟨⟨"S"⟩, [.terminal ⟨"b"⟩]⟩
  let readA : Rule := ⟨⟨"A"⟩, [.terminal ⟨"a"⟩]⟩
  let readB : Rule := ⟨⟨"A"⟩, [.terminal ⟨"b"⟩]⟩
  let derivation : Derivation :=
    ⟨[ [.nonterminal ⟨"S"⟩],
       [.nonterminal ⟨"A"⟩, .nonterminal ⟨"A"⟩],
       [.nonterminal ⟨"A"⟩, .terminal ⟨"a"⟩],
       [.terminal ⟨"b"⟩, .terminal ⟨"a"⟩] ]⟩
  obtain ⟨machine, assembled, passed⟩ := Except.exists_eq_ok_of_any
    (assemble 3 0 [⟨"a"⟩, ⟨"b"⟩] [⟨"S"⟩, ⟨"A"⟩] [1]
      [ ⟨0, ⟨"a"⟩, [], 2, [], [readB, readA]⟩,
        ⟨2, ⟨"b"⟩, [], 1, [], [top]⟩,
        ⟨0, ⟨"b"⟩, [], 1, [], [readA, single]⟩ ])
    (fun machine =>
      ((machine.run 9 [⟨"a"⟩, ⟨"b"⟩]).toOption.any fun trace =>
          trace.isAccepted && trace.rules.reverse == [top, readA, readB]) &&
        ((machine.run 9 [⟨"b"⟩]).toOption.any fun trace =>
          trace.isAccepted && trace.rules.reverse == [single, readA]) &&
        (machine.run 9 [⟨"a"⟩]).toOption.any fun trace => !trace.isAccepted)
    (by cbv)
  simp only [Bool.and_eq_true] at passed
  obtain ⟨⟨passedReplayed, passedMissing⟩, passedUnaccepted⟩ := passed
  obtain ⟨replayed, replayedRun, isReplayed⟩ := Except.exists_eq_ok_of_any _ _ passedReplayed
  obtain ⟨missing, missingRun, isMissing⟩ := Except.exists_eq_ok_of_any _ _ passedMissing
  obtain ⟨unaccepted, unacceptedRun, isUnaccepted⟩ :=
    Except.exists_eq_ok_of_any _ _ passedUnaccepted
  rw [Bool.and_eq_true, beq_iff_eq] at isReplayed isMissing
  rw [Bool.not_eq_true'] at isUnaccepted
  have built := Built.assemble assembled
  obtain ⟨_, replays⟩ := built.ofTrace_replays replayedRun
  obtain ⟨_, _, _, shape, _, _, _, _, ok_iff, _, ofOk⟩ := replays isReplayed.1
  have rebuilt : Derivation.ofTrace replayed = .ok derivation := by
    rw [ok_iff, ← reverse_rules_eq_labelsBackwards shape, isReplayed.2]
    have lastReplaced : Form.ReplacesLast readA top.body _ :=
      ⟨[.nonterminal ⟨"A"⟩], [], rfl, rfl, by simp⟩
    have onlyReplaced : Form.ReplacesLast readB [.nonterminal ⟨"A"⟩, .terminal ⟨"a"⟩] _ :=
      ⟨[], [.terminal ⟨"a"⟩], rfl, rfl, by simp⟩
    refine ⟨_, rfl, Form.replacesEach_cons_iff.mpr ⟨_, _, lastReplaced, ?_, rfl⟩⟩
    exact Form.replacesEach_cons_iff.mpr
      ⟨_, _, onlyReplaced, Form.replacesEach_nil_iff.mpr rfl, rfl⟩
  obtain ⟨_, replaysMissing⟩ := built.ofTrace_replays missingRun
  obtain ⟨_, _, _, shapeMissing, _, _, _, _, _, error_iff, _⟩ := replaysMissing isMissing.1
  have reported : Derivation.ofTrace missing = .error (.headMissing readA) := by
    rw [error_iff, ← reverse_rules_eq_labelsBackwards shapeMissing, isMissing.2]
    refine ⟨readA, rfl, [single], [], _, single.body, rfl, ⟨[], rfl, ?_⟩, rfl, ?_⟩
    · exact Form.replacesEach_nil_iff.mpr rfl
    · simp [single]
  have noDerivation := (built.ofTrace_replays unacceptedRun).1.mpr isUnaccepted
  exact ⟨machine, replayed, missing, unaccepted, derivation, assembled, replayedRun, isReplayed.1,
    rebuilt, rfl, (ofOk derivation rebuilt).2, missingRun, isMissing.1, reported, unacceptedRun,
    noDerivation⟩

end Automaton

end Pushdown
