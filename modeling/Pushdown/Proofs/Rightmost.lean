import Pushdown.Derivation

namespace Pushdown

/-!
# Rightmost derivations

A rule expands the last nonterminal of a form when it is its head.  Rules that do
so one after the other, whatever stands before and however many terminals after,
form a rightmost derivation.  This is the notion with which the rebuilt
derivations are compared; it does not mention how they are rebuilt.
-/

namespace Form

/-- No symbol of the form can be expanded. -/
def TerminalsOnly
    (form : Form) :
    Prop :=
  ∀ symbol ∈ form, symbol.isNonterminal = false

instance
    (form : Form) :
    Decidable (TerminalsOnly form) :=
  inferInstanceAs (Decidable (∀ symbol ∈ form, symbol.isNonterminal = false))

/-- The last nonterminal of the form is the head of the rule, and is replaced by its body. -/
def ExpandsLast
    (rule : Rule)
    (form next : Form) :
    Prop :=
  ∃ before after,
    form = before ++ .nonterminal rule.head :: after ∧
      next = before ++ rule.body ++ after ∧
      TerminalsOnly after

/-- The rules expand, one after the other, the last nonterminal there is. -/
inductive Expands : List Rule → Form → Form → Prop where
  | nil (form : Form) :
      Expands [] form form
  | cons
      {rule : Rule}
      {rest : List Rule}
      {form next last : Form} :
      ExpandsLast rule form next →
      Expands rest next last →
      Expands (rule :: rest) form last

/-- The forms of a rightmost derivation by the rules, the first form included. -/
structure RightmostDerivation
    (rules : List Rule)
    (forms : List Form) :
    Prop where
  length :
    forms.length = rules.length + 1
  step :
    ∀ {position rule form next},
      rules[position]? = some rule →
      forms[position]? = some form →
      forms[position + 1]? = some next →
      ExpandsLast rule form next

theorem TerminalsOnly.append
    {first second : Form}
    (firstOnly : TerminalsOnly first)
    (secondOnly : TerminalsOnly second) :
    TerminalsOnly (first ++ second) := by
  intro symbol member
  rcases List.mem_append.mp member with inFirst | inSecond
  · exact firstOnly symbol inFirst
  · exact secondOnly symbol inSecond

/-- A head before terminals only is not among them. -/
theorem TerminalsOnly.not_mem
    {form : Form}
    (only : TerminalsOnly form)
    (head : Nonterminal) :
    .nonterminal head ∉ form := by
  intro member
  have isTerminal := only _ member
  contradiction

/-- Anything may stand before a form that is expanded, and terminals after it. -/
theorem ExpandsLast.inContext
    {rule : Rule}
    {form next : Form}
    (expands : ExpandsLast rule form next)
    (leading : Form)
    {trailing : Form}
    (only : TerminalsOnly trailing) :
    ExpandsLast rule (leading ++ form ++ trailing) (leading ++ next ++ trailing) := by
  obtain ⟨before, after, rfl, rfl, afterOnly⟩ := expands
  refine ⟨leading ++ before, after ++ trailing, ?_, ?_, afterOnly.append only⟩
  · simp [List.append_assoc]
  · simp [List.append_assoc]

namespace Expands

theorem inContext
    {rules : List Rule}
    {form last : Form}
    (expands : Expands rules form last)
    (leading : Form)
    {trailing : Form}
    (only : TerminalsOnly trailing) :
    Expands rules (leading ++ form ++ trailing) (leading ++ last ++ trailing) := by
  induction expands with
  | nil form => exact .nil _
  | cons first _ inductionHypothesis =>
      exact .cons (first.inContext leading only) inductionHypothesis

theorem append
    {first second : List Rule}
    {form between last : Form}
    (firstExpands : Expands first form between)
    (secondExpands : Expands second between last) :
    Expands (first ++ second) form last := by
  induction firstExpands with
  | nil form => exact secondExpands
  | cons step _ inductionHypothesis => exact .cons step (inductionHypothesis secondExpands)

end Expands

namespace RightmostDerivation

theorem single
    (form : Form) :
    RightmostDerivation [] [form] := by
  refine ⟨rfl, ?_⟩
  intro position rule form next ruleAt
  simp at ruleAt

theorem cons
    {rule : Rule}
    {rest : List Rule}
    {form next : Form}
    {forms : List Form}
    (first : ExpandsLast rule form next)
    (derivation : RightmostDerivation rest (next :: forms)) :
    RightmostDerivation (rule :: rest) (form :: next :: forms) := by
  refine ⟨by simp [derivation.length], ?_⟩
  intro position otherRule otherForm otherNext ruleAt formAt nextAt
  cases position with
  | zero =>
      cases ruleAt
      cases formAt
      cases nextAt
      exact first
  | succ position => exact derivation.step ruleAt formAt nextAt

end RightmostDerivation

/-- Where the last nonterminal is expanded, the last occurrence of the head is replaced. -/
theorem ExpandsLast.replaceLast?_eq
    {rule : Rule}
    {form next : Form}
    (expands : ExpandsLast rule form next) :
    replaceLast? rule form = some next := by
  obtain ⟨before, after, rfl, rfl, afterOnly⟩ := expands
  exact replaceLast?_append rule before after (afterOnly.not_mem rule.head)

end Form

namespace Derivation

/-- Rules that expand the last nonterminals can be applied, and give a rightmost derivation. -/
theorem exists_expand_eq_ok
    {rules : List Rule}
    {form last : Form}
    (expands : Form.Expands rules form last) :
    ∃ forms,
      expand form rules = .ok forms ∧
        (form :: forms).getLast? = some last ∧
        Form.RightmostDerivation rules (form :: forms) := by
  induction expands with
  | nil form => exact ⟨[], rfl, rfl, .single form⟩
  | cons first _ inductionHypothesis =>
      obtain ⟨forms, rebuilt, ends, derivation⟩ := inductionHypothesis
      refine ⟨_ :: forms, ?_, ?_, .cons first derivation⟩
      · exact expand_cons_eq_ok_iff.mpr ⟨_, _, first.replaceLast?_eq, rebuilt, rfl⟩
      · rwa [List.getLast?_cons_cons]

/-- From a single nonterminal, the first rule gives two forms, and all others one each. -/
theorem exists_ofRules_eq_ok
    {rules : List Rule}
    {head : Nonterminal}
    {last : Form}
    (expands : Form.Expands rules [.nonterminal head] last)
    (labelled : rules ≠ []) :
    ∃ derivation,
      ofRules rules = .ok derivation ∧
        derivation.forms.head? = some [.nonterminal head] ∧
        derivation.forms.getLast? = some last ∧
        Form.RightmostDerivation rules derivation.forms := by
  cases expands with
  | nil => contradiction
  | @cons rule rest _ next _ first expandsRest =>
      obtain ⟨before, after, single, rfl, _⟩ := first
      obtain ⟨rfl, headIsHead, rfl⟩ : before = [] ∧ rule.head = head ∧ after = [] := by
        cases before with
        | nil =>
            simp only [List.nil_append, List.cons.injEq, Symbol.nonterminal.injEq] at single
            exact ⟨rfl, single.1.symm, single.2.symm⟩
        | cons symbol symbols => simp at single
      simp only [List.nil_append, List.append_nil] at expandsRest
      obtain ⟨forms, rebuilt, ends, derivation⟩ := exists_expand_eq_ok expandsRest
      refine ⟨⟨[.nonterminal rule.head] :: rule.body :: forms⟩, ?_, ?_, ?_, ?_⟩
      · exact ofRules_cons_eq_ok_iff.mpr ⟨forms, rebuilt, rfl⟩
      · simp [headIsHead]
      · rwa [List.getLast?_cons_cons]
      · exact .cons ⟨[], [], rfl, by simp, by decide⟩ derivation

end Derivation

end Pushdown
