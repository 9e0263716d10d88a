import Mathlib.Data.List.Forall2
import Pushdown.Proofs.Agreement

namespace Pushdown

/-!
# A stack is the list of its tokens, the top first

Tokens are stored with the bottom first, while patterns, replacements and the view
begin at the top.  So the operations are said here once more, on lists that begin
at the top.  Whatever is pushed and applied, wildcards included, the stack gives the
answers that the list gives and shows the list, and it is never cut below its bottom.
-/

namespace StackToken

/-! ## Patterns, position by position -/

/-- A token matches itself, and the wildcard and a state match each other. -/
inductive Matches : StackToken → StackToken → Prop where
  | same (token : StackToken) :
      Matches token token
  | wildcardFirst (tag : StateTag) :
      Matches .wildcard (.state tag)
  | wildcardSecond (tag : StateTag) :
      Matches (.state tag) .wildcard

theorem agrees_iff_matches
    {first second : StackToken} :
    first.agrees second = true ↔ first.Matches second := by
  constructor
  · intro agreed
    rcases agrees_iff.mp agreed with
      same | ⟨isWildcard, tag, isState⟩ | ⟨isWildcard, tag, isState⟩
    · subst same
      exact .same _
    · subst isWildcard isState
      exact .wildcardFirst tag
    · subst isWildcard isState
      exact .wildcardSecond tag
  · intro matched
    apply agrees_iff.mpr
    cases matched with
    | same => exact .inl rfl
    | wildcardFirst tag => exact .inr (.inl ⟨rfl, tag, rfl⟩)
    | wildcardSecond tag => exact .inr (.inr ⟨rfl, tag, rfl⟩)

/-- A pattern fits tokens that are no fewer if it matches them at each of its positions. -/
structure Fits
    (pattern tokens : List StackToken) :
    Prop where
  length_le :
    pattern.length ≤ tokens.length
  matched :
    ∀ (position : Nat) {expected token : StackToken},
      pattern[position]? = some expected →
      tokens[position]? = some token →
      expected.Matches token

theorem fits_nil
    (tokens : List StackToken) :
    Fits [] tokens where
  length_le := Nat.zero_le _
  matched := by simp

theorem fits_cons_iff
    {expected token : StackToken}
    {pattern tokens : List StackToken} :
    Fits (expected :: pattern) (token :: tokens) ↔
      expected.Matches token ∧ Fits pattern tokens := by
  constructor
  · intro fits
    have head : expected.Matches token :=
      fits.matched 0 rfl rfl
    refine ⟨head, Nat.le_of_succ_le_succ fits.length_le, ?_⟩
    intro position other below inPattern inTokens
    exact fits.matched (position + 1) inPattern inTokens
  · intro ⟨head, rest⟩
    refine ⟨Nat.succ_le_succ rest.length_le, ?_⟩
    intro position other below inPattern inTokens
    cases position with
    | zero =>
        cases inPattern
        cases inTokens
        exact head
    | succ position => exact rest.matched position inPattern inTokens

/-- To fit is to be at the top. -/
theorem fits_iff_atTop
    {pattern tokens : List StackToken} :
    Fits pattern tokens ↔ AtTop pattern tokens := by
  constructor
  · intro fits
    induction pattern generalizing tokens with
    | nil => exact .nil tokens
    | cons expected rest inductionHypothesis =>
        cases tokens with
        | nil => exact (Nat.not_succ_le_zero _ fits.length_le).elim
        | cons token below =>
            obtain ⟨head, restFits⟩ := fits_cons_iff.mp fits
            exact .cons (agrees_iff_matches.mpr head) (inductionHypothesis restFits)
  · intro atTop
    induction atTop with
    | nil tokens => exact fits_nil tokens
    | cons agreed _ inductionHypothesis =>
        exact fits_cons_iff.mpr ⟨agrees_iff_matches.mp agreed, inductionHypothesis⟩

instance decidableFits
    (pattern tokens : List StackToken) :
    Decidable (Fits pattern tokens) :=
  decidable_of_iff (pattern.length ≤ tokens.length ∧ overlap pattern tokens = true)
    (atTop_iff.symm.trans fits_iff_atTop.symm)

end StackToken

namespace Stack

/-! ## Operations on a stack and on a list -/

/-- What may be done to a stack. -/
inductive Operation where
  | push (token : StackToken)
  | apply (transition : Transition)
deriving Repr, DecidableEq

/--
The answer to an operation, and the stack after it; a refused one leaves the stack as it is.

Nothing has to be put back for that: the only check, of the pattern against the top, comes
before the first token is cut off.
-/
def perform
    (stack : Stack) :
    Operation → Except StackMismatch Unit × Stack
  | .push token =>
      (.ok (), stack.push token)
  | .apply transition =>
      match stack.checkedApply transition with
      | .ok after => (.ok (), after)
      | .error mismatch => (.error mismatch, stack)

/-- The answer to an operation, and the list after it, where the top comes first. -/
def performOnList
    (tokens : List StackToken) :
    Operation → Except StackMismatch Unit × List StackToken
  | .push token =>
      (.ok (), token :: tokens)
  | .apply transition =>
      if StackToken.Fits transition.pattern tokens then
        (.ok (), transition.replacement ++ tokens.drop transition.pattern.length)
      else
        (.error ⟨transition⟩, tokens)

/-- The answers to operations, one after the other, each with what is there after it. -/
def history
    {State : Type}
    (step : State → Operation → Except StackMismatch Unit × State)
    (state : State) :
    List Operation → List (Except StackMismatch Unit × State)
  | [] => []
  | operation :: rest =>
      step state operation :: history step (step state operation).2 rest

/-! ## What a stack shows -/

theorem startsWith_iff_fits
    {stack : Stack}
    {pattern : List StackToken} :
    stack.startsWith pattern = true ↔ StackToken.Fits pattern stack.toList :=
  startsWith_iff.trans StackToken.fits_iff_atTop.symm

theorem checkedApply_of_fits
    {stack : Stack}
    {transition : Transition}
    (fits : StackToken.Fits transition.pattern stack.toList) :
    stack.checkedApply transition = .ok (stack.apply transition) :=
  if_pos (startsWith_iff_fits.mpr fits)

theorem checkedApply_of_not_fits
    {stack : Stack}
    {transition : Transition}
    (misfit : ¬ StackToken.Fits transition.pattern stack.toList) :
    stack.checkedApply transition = .error ⟨transition⟩ :=
  if_neg fun atTop => misfit (startsWith_iff_fits.mp atTop)

/-- The bottom stays below what is put in the place of the top. -/
theorem tokens_replaceTop
    (stack : Stack)
    (dropped : Nat)
    (replacement : List StackToken) :
    (stack.replaceTop dropped replacement).tokens.toList =
      stack.tokens.toList.take (stack.depth - dropped) ++ replacement.reverse := by
  simp [replaceTop]

/--
All that is asked of a stack is answered as for a list of tokens, the top first, and
where a transition is applied, the stack is at least as high as what is cut off.
-/
structure Presents
    (stack : Stack)
    (tokens : List StackToken) :
    Prop where
  snapshot :
    stack.toList = tokens
  depth :
    stack.depth = tokens.length
  isEmpty :
    stack.isEmpty = true ↔ tokens = []
  top :
    stack.top? = tokens.head?
  startsWith :
    ∀ pattern,
      stack.startsWith pattern = true ↔ StackToken.Fits pattern tokens
  /-- The height that is kept, and the pattern above it, are the whole stack. -/
  truncation :
    ∀ {transition : Transition} {after : Stack},
      stack.checkedApply transition = .ok after →
      ∃ height,
        height + transition.pattern.length = stack.depth ∧
          after.tokens.toList =
            stack.tokens.toList.take height ++ transition.replacement.reverse

theorem exists_height_of_checkedApply
    {stack after : Stack}
    {transition : Transition}
    (applied : stack.checkedApply transition = .ok after) :
    ∃ height,
      height + transition.pattern.length = stack.depth ∧
        after.tokens.toList =
          stack.tokens.toList.take height ++ transition.replacement.reverse := by
  by_cases fits : StackToken.Fits transition.pattern stack.toList
  · have enough : transition.pattern.length ≤ stack.depth := by
      simpa only [length_toList] using fits.length_le
    rw [checkedApply_of_fits fits] at applied
    cases applied
    exact ⟨stack.depth - transition.pattern.length, Nat.sub_add_cancel enough,
      tokens_replaceTop stack _ _⟩
  · rw [checkedApply_of_not_fits fits] at applied
    contradiction

/-- The view decides all the rest. -/
theorem presents_toList
    (stack : Stack) :
    stack.Presents stack.toList where
  snapshot := rfl
  depth := (length_toList stack).symm
  isEmpty := by rw [isEmpty_eq, List.isEmpty_iff]
  top := top?_eq stack
  startsWith := fun _ => startsWith_iff_fits
  truncation := exists_height_of_checkedApply

/-! ## Sequences of operations -/

/-- A stack answers an operation as its list does, and its list becomes what the list becomes. -/
theorem performOnList_toList
    (stack : Stack)
    (operation : Operation) :
    performOnList stack.toList operation =
      ((stack.perform operation).1, (stack.perform operation).2.toList) := by
  cases operation with
  | push token => simp only [performOnList, perform, toList_push]
  | apply transition =>
      by_cases fits : StackToken.Fits transition.pattern stack.toList
      · have replaced : (stack.apply transition).toList =
            transition.replacement ++ stack.toList.drop transition.pattern.length :=
          toList_replaceTop stack _ _
        simp only [performOnList, perform, checkedApply_of_fits fits, if_pos fits, replaced]
      · simp only [performOnList, perform, checkedApply_of_not_fits fits, if_neg fits]

theorem presents_perform
    {stack : Stack}
    {tokens : List StackToken}
    (presents : stack.Presents tokens)
    (operation : Operation) :
    (stack.perform operation).1 = (performOnList tokens operation).1 ∧
      (stack.perform operation).2.Presents (performOnList tokens operation).2 := by
  have sameTokens := presents.snapshot
  subst sameTokens
  rw [performOnList_toList]
  exact ⟨rfl, presents_toList _⟩

/-- So it goes on, from a stack that shows a list, through any sequence of operations. -/
theorem presents_history
    {stack : Stack}
    {tokens : List StackToken}
    (presents : stack.Presents tokens)
    (operations : List Operation) :
    List.Forall₂
      (fun performed listed =>
        performed.1 = listed.1 ∧ performed.2.Presents listed.2)
      (history perform stack operations)
      (history performOnList tokens operations) := by
  induction operations generalizing stack tokens with
  | nil => exact .nil
  | cons operation rest inductionHypothesis =>
      have sameStep := presents_perform presents operation
      exact .cons sameStep (inductionHypothesis sameStep.2)

/--
From the empty stack on, whatever is pushed and applied, each operation is answered as
on a list where the top comes first; after each, the stack shows that list, and a
transition that is applied next finds all the tokens that it cuts off.
-/
theorem history_refines_list
    (operations : List Operation) :
    empty.Presents [] ∧
      List.Forall₂
        (fun performed listed =>
          performed.1 = listed.1 ∧ performed.2.Presents listed.2)
        (history perform empty operations)
        (history performOnList [] operations) := by
  have atFirst : empty.Presents [] := presents_toList empty
  exact ⟨atFirst, presents_history atFirst operations⟩

/-- Refused first for a token, then for the height, then applied through wildcards of both sides. -/
example :
    (history performOnList []
        [ .push (.state (.id 1)),
          .push .wildcard,
          .apply ⟨0, .epsilon, [.lookahead ⟨"x"⟩], 0, [], []⟩,
          .apply ⟨0, .epsilon, [.wildcard, .wildcard, .wildcard], 0, [], []⟩,
          .apply ⟨0, .epsilon, [.state (.id 7), .wildcard], 0,
            [.terminal ⟨"x"⟩, .nonterminal ⟨"E"⟩], []⟩ ]).map (·.2) =
      [ [.state (.id 1)],
        [.wildcard, .state (.id 1)],
        [.wildcard, .state (.id 1)],
        [.wildcard, .state (.id 1)],
        [.terminal ⟨"x"⟩, .nonterminal ⟨"E"⟩] ] :=
  rfl

end Stack

end Pushdown
