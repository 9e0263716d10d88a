import Pushdown.Run

namespace Pushdown

/-!
# Derivations

The rules on the transitions of an accepted trace, taken in reverse, rebuild a
derivation of the word.  The first rule gives its head and its body as the first
two sentential forms; every other rule replaces the last occurrence of its head
in the form before.
-/

/-- Why there is no derivation. -/
inductive DerivationError where
  | notAccepted
  /-- The head of the rule is not in the sentential form. -/
  | headMissing (rule : Rule)
deriving Repr, DecidableEq

namespace DerivationError

def message : DerivationError → String
  | .notAccepted =>
      "Trace is not accepting, no derivation available."
  | .headMissing rule =>
      "Variable " ++ rule.head.text ++
        " not found in sentential form while applying " ++ rule.text ++ "."

def detail : DerivationError → String
  | .notAccepted =>
      "NotAccepted"
  | .headMissing rule =>
      "DerivationMismatch \x7b lhs: " ++ Text.quoted rule.head.text ++
        ", rule: " ++ Text.quoted rule.text ++ " \x7d"

end DerivationError

abbrev Form :=
  List Symbol

namespace Form

def text
    (form : Form) :
    String :=
  Text.spaced (form.map Symbol.text)

/-- Replaces the last occurrence of the head of a rule by its body. -/
def replaceLast?
    (rule : Rule) :
    Form → Option Form
  | [] => none
  | symbol :: rest =>
      match replaceLast? rule rest with
      | some replaced => some (symbol :: replaced)
      | none =>
          if symbol = .nonterminal rule.head then some (rule.body ++ rest) else none

/-- A form without the head of a rule is the one that has no replacement. -/
theorem replaceLast?_eq_none_iff
    {rule : Rule}
    {form : Form} :
    replaceLast? rule form = none ↔ .nonterminal rule.head ∉ form := by
  induction form with
  | nil => simp [replaceLast?]
  | cons symbol rest inductionHypothesis =>
      cases found : replaceLast? rule rest with
      | some replaced =>
          have inRest : .nonterminal rule.head ∈ rest := by
            refine Decidable.not_not.mp fun absent => ?_
            rw [inductionHypothesis.mpr absent] at found
            contradiction
          simp [replaceLast?, found, inRest]
      | none =>
          have absent := inductionHypothesis.mp found
          by_cases isHead : symbol = .nonterminal rule.head
          · simp [replaceLast?, found, isHead]
          · simp [replaceLast?, found, isHead, absent, Ne.symm isHead]

/-- The symbols before and after the replaced one stay as they are. -/
theorem replaceLast?_append
    (rule : Rule)
    (before after : Form)
    (absent : .nonterminal rule.head ∉ after) :
    replaceLast? rule (before ++ .nonterminal rule.head :: after) =
      some (before ++ rule.body ++ after) := by
  induction before with
  | nil => simp [replaceLast?, replaceLast?_eq_none_iff.mpr absent]
  | cons symbol rest inductionHypothesis => simp [replaceLast?, inductionHypothesis]

/-- The replaced occurrence of the head is the one behind which there is no other. -/
theorem replaceLast?_eq_some_iff
    {rule : Rule}
    {form next : Form} :
    replaceLast? rule form = some next ↔
      ∃ before after,
        form = before ++ .nonterminal rule.head :: after ∧
          next = before ++ rule.body ++ after ∧
          .nonterminal rule.head ∉ after := by
  constructor
  · intro replaced
    have present : .nonterminal rule.head ∈ form := by
      refine Decidable.not_not.mp fun absent => ?_
      rw [replaceLast?_eq_none_iff.mpr absent] at replaced
      contradiction
    obtain ⟨reversedAfter, reversedBefore, shape, absent⟩ :=
      List.eq_append_cons_of_mem (List.mem_reverse.mpr present)
    have splitForm :
        form = reversedBefore.reverse ++ .nonterminal rule.head :: reversedAfter.reverse := by
      rw [← List.reverse_reverse form, shape]
      simp
    have absentAfter : .nonterminal rule.head ∉ reversedAfter.reverse := by
      rwa [List.mem_reverse]
    rw [splitForm, replaceLast?_append rule _ _ absentAfter] at replaced
    exact ⟨_, _, splitForm, (Option.some.inj replaced).symm, absentAfter⟩
  · rintro ⟨before, after, rfl, rfl, absent⟩
    exact replaceLast?_append rule before after absent

end Form

/-- The sentential forms of a derivation, the first one first. -/
structure Derivation where
  forms : List Form
deriving Repr, DecidableEq

namespace Derivation

def text
    (derivation : Derivation) :
    String :=
  " => ".intercalate (derivation.forms.map Form.text)

/-- The forms that follow a form when rules are applied one after the other. -/
def expand
    (form : Form) :
    List Rule → Except DerivationError (List Form)
  | [] => .ok []
  | rule :: rest =>
      match Form.replaceLast? rule form with
      | none => .error (.headMissing rule)
      | some next => (expand next rest).map (next :: ·)

theorem expand_cons_eq_ok_iff
    {rule : Rule}
    {rest : List Rule}
    {form : Form}
    {forms : List Form} :
    expand form (rule :: rest) = .ok forms ↔
      ∃ next more,
        Form.replaceLast? rule form = some next ∧
          expand next rest = .ok more ∧
          next :: more = forms := by
  cases replaced : Form.replaceLast? rule form with
  | none => simp [expand, replaced]
  | some next =>
      cases rebuilt : expand next rest <;>
        simp [expand, replaced, rebuilt, Except.map]

/-- The derivation by a list of rules; without rules it has no forms. -/
def ofRules : List Rule → Except DerivationError Derivation
  | [] => .ok ⟨[]⟩
  | rule :: rest =>
      (expand rule.body rest).map fun forms =>
        ⟨[.nonterminal rule.head] :: rule.body :: forms⟩

theorem ofRules_cons_eq_ok_iff
    {rule : Rule}
    {rest : List Rule}
    {derivation : Derivation} :
    ofRules (rule :: rest) = .ok derivation ↔
      ∃ forms,
        expand rule.body rest = .ok forms ∧
          ⟨[.nonterminal rule.head] :: rule.body :: forms⟩ = derivation := by
  cases rebuilt : expand rule.body rest <;> simp [ofRules, rebuilt, Except.map]

/-- The rules of a trace in reverse; the last snapshot, which shows the end, adds none. -/
def rulesOfTrace
    (trace : Trace) :
    List Rule :=
  trace.snapshots.dropLast.reverse.flatMap fun snapshot => snapshot.transition.rules.reverse

def ofTrace
    (trace : Trace) :
    Except DerivationError Derivation :=
  if trace.isAccepted then
    ofRules (rulesOfTrace trace)
  else
    .error .notAccepted

/-- The rules that can be applied to a form, up to the first that cannot. -/
def applicable
    (form : Form) :
    List Rule → List Rule
  | [] => []
  | rule :: rest =>
      match Form.replaceLast? rule form with
      | none => []
      | some next => rule :: applicable next rest

/-- The rules applied by `ofRules`, those before an error included. -/
def applied : List Rule → List Rule
  | [] => []
  | rule :: rest => rule :: applicable rule.body rest

end Derivation

end Pushdown
