import Pushdown.Stack

namespace Pushdown

/-!
# Patterns and the stacks that have them at the top

Agreement of tokens is not transitive, because the wildcard agrees with every
state.  A token that is not the wildcard passes agreement on, so two patterns at
the top of one stack without wildcards overlap.  In the other direction two
overlapping patterns have a stack without wildcards in common.
-/

namespace StackToken

/-- Tokens agree when they are equal, or one is the wildcard and the other one a state. -/
theorem agrees_iff
    {first second : StackToken} :
    first.agrees second = true ↔
      first = second ∨
        (first = wildcard ∧ ∃ tag, second = .state tag) ∨
        (second = wildcard ∧ ∃ tag, first = .state tag) := by
  rcases first with _ | _ | firstTag | _ <;> rcases second with _ | _ | secondTag | _
  case state.state =>
    cases firstTag <;> cases secondTag <;> simp [agrees, StateTag.agrees, wildcard]
  all_goals simp [agrees, wildcard]

theorem agrees_comm
    (first second : StackToken) :
    first.agrees second = second.agrees first := by
  rw [Bool.eq_iff_iff, agrees_iff, agrees_iff, eq_comm]
  exact or_congr_right or_comm

/-- A token other than the wildcard passes agreement on. -/
theorem agrees_of_agrees
    {first second between : StackToken}
    (concrete : between ≠ wildcard)
    (firstAgrees : first.agrees between = true)
    (secondAgrees : second.agrees between = true) :
    first.agrees second = true := by
  rw [agrees_iff] at firstAgrees secondAgrees ⊢
  rcases firstAgrees with rfl | ⟨rfl, tag, rfl⟩ | ⟨isWildcard, _⟩
  · rcases secondAgrees with rfl | ⟨rfl, tag, rfl⟩ | ⟨isWildcard, _⟩
    · exact .inl rfl
    · exact .inr (.inr ⟨rfl, tag, rfl⟩)
    · exact (concrete isWildcard).elim
  · rcases secondAgrees with rfl | ⟨rfl, _⟩ | ⟨isWildcard, _⟩
    · exact .inr (.inl ⟨rfl, tag, rfl⟩)
    · exact .inl rfl
    · exact (concrete isWildcard).elim
  · exact (concrete isWildcard).elim

/-- A token, or the state zero in place of the wildcard. -/
def ground
    (token : StackToken) :
    StackToken :=
  if token.isWildcard then .state (.id 0) else token

theorem ground_wildcard :
    wildcard.ground = .state (.id 0) :=
  rfl

theorem ground_eq_self
    {token : StackToken}
    (concrete : token ≠ wildcard) :
    token.ground = token := by
  simp [ground, isWildcard, concrete]

theorem ground_ne_wildcard
    (token : StackToken) :
    token.ground ≠ wildcard := by
  by_cases concrete : token = wildcard
  · rw [concrete, ground_wildcard]
    simp [wildcard]
  · rwa [ground_eq_self concrete]

theorem agrees_ground
    (token : StackToken) :
    token.agrees token.ground = true := by
  rw [agrees_iff]
  by_cases concrete : token = wildcard
  · exact .inr (.inl ⟨concrete, _, by rw [concrete, ground_wildcard]⟩)
  · exact .inl (ground_eq_self concrete).symm

/-- The more precise of two tokens that agree. -/
def sharper
    (first second : StackToken) :
    StackToken :=
  if first.isWildcard then second else first

theorem sharper_eq
    (first second : StackToken) :
    first.sharper second = first ∨ first.sharper second = second := by
  unfold sharper
  split <;> simp

/-- The more precise of two agreeing tokens agrees with both once it is ground. -/
theorem agrees_ground_sharper
    {first second : StackToken}
    (agreed : first.agrees second = true) :
    first.agrees (first.sharper second).ground = true ∧
      second.agrees (first.sharper second).ground = true := by
  -- Agreement is not transitive through a wildcard, so the sides are told apart.
  by_cases concrete : first = wildcard
  · have sharper_second : first.sharper second = second := by
      simp [sharper, isWildcard, concrete]
    have grounded := agrees_ground second
    rw [sharper_second]
    refine ⟨?_, grounded⟩
    rw [agrees_iff] at agreed grounded ⊢
    rcases agreed with rfl | ⟨_, tag, rfl⟩ | ⟨rfl, _⟩
    · exact grounded
    · refine .inr (.inl ⟨concrete, ?_⟩)
      cases tag with
      | wildcard => exact ⟨_, ground_wildcard⟩
      | id number => exact ⟨_, ground_eq_self (by simp [wildcard])⟩
    · exact .inr (.inl ⟨concrete, _, ground_wildcard⟩)
  · have sharper_first : first.sharper second = first := by
      simp [sharper, isWildcard, concrete]
    rw [sharper_first]
    refine ⟨agrees_ground first, ?_⟩
    rw [ground_eq_self concrete, agrees_comm]
    exact agreed

theorem overlap_comm
    (first second : List StackToken) :
    overlap first second = overlap second first := by
  induction first generalizing second with
  | nil => cases second <;> rfl
  | cons token rest inductionHypothesis =>
      cases second with
      | nil => rfl
      | cons other others =>
          simp only [overlap]
          rw [agrees_comm, inductionHypothesis]

/-- The pattern agrees, token by token, with the top of a stack seen from the top down. -/
inductive AtTop : List StackToken → List StackToken → Prop where
  | nil (tokens : List StackToken) :
      AtTop [] tokens
  | cons
      {expected token : StackToken}
      {pattern tokens : List StackToken} :
      expected.agrees token = true →
      AtTop pattern tokens →
      AtTop (expected :: pattern) (token :: tokens)

theorem atTop_iff
    {pattern tokens : List StackToken} :
    AtTop pattern tokens ↔
      pattern.length ≤ tokens.length ∧ overlap pattern tokens = true := by
  induction pattern generalizing tokens with
  | nil => simp [AtTop.nil, overlap]
  | cons expected rest inductionHypothesis =>
      constructor
      · intro atTop
        cases atTop with
        | cons agreed below =>
            obtain ⟨fits, overlaps⟩ := inductionHypothesis.mp below
            exact ⟨Nat.succ_le_succ fits, by simp [overlap, agreed, overlaps]⟩
      · rintro ⟨fits, overlaps⟩
        cases tokens with
        | nil => simp at fits
        | cons token below =>
            simp only [overlap, Bool.and_eq_true] at overlaps
            exact .cons overlaps.1
              (inductionHypothesis.mpr ⟨Nat.le_of_succ_le_succ fits, overlaps.2⟩)

/-- A pattern at the top stays there when tokens are put below. -/
theorem AtTop.append
    {pattern tokens : List StackToken}
    (atTop : AtTop pattern tokens)
    (lower : List StackToken) :
    AtTop pattern (tokens ++ lower) := by
  induction atTop with
  | nil tokens => exact .nil _
  | cons agreed _ inductionHypothesis => exact .cons agreed inductionHypothesis

/-- A pattern at the top of tokens without wildcards overlaps what is at the top of a deeper stack. -/
theorem AtTop.overlap_above
    {first second tokens : List StackToken}
    (firstAtTop : AtTop first tokens)
    (concrete : wildcard ∉ tokens)
    {lower : List StackToken}
    (secondAtTop : AtTop second (tokens ++ lower)) :
    StackToken.overlap first second = true := by
  induction firstAtTop generalizing second with
  | nil tokens => simp [StackToken.overlap]
  | @cons expected token pattern tokens agreed _ inductionHypothesis =>
      cases secondAtTop with
      | nil => simp [StackToken.overlap]
      | cons otherAgreed otherBelow =>
          rw [List.mem_cons, not_or] at concrete
          have tops := agrees_of_agrees (Ne.symm concrete.1) agreed otherAgreed
          have below := inductionHypothesis concrete.2 otherBelow
          simp [StackToken.overlap, tops, below]

/-- Two patterns at the top of a stack without wildcards overlap. -/
theorem AtTop.overlap
    {first second tokens : List StackToken}
    (firstAtTop : AtTop first tokens)
    (secondAtTop : AtTop second tokens)
    (concrete : wildcard ∉ tokens) :
    StackToken.overlap first second = true :=
  firstAtTop.overlap_above concrete ((List.append_nil tokens).symm ▸ secondAtTop)

/-- A stack for two overlapping patterns: the more precise tokens, with state zero for wildcards. -/
def commonStack : List StackToken → List StackToken → List StackToken
  | first :: rest, second :: others =>
      (first.sharper second).ground :: commonStack rest others
  | [], others => others.map ground
  | rest, [] => rest.map ground

theorem atTop_map_ground
    (pattern : List StackToken) :
    AtTop pattern (pattern.map ground) := by
  induction pattern with
  | nil => exact .nil _
  | cons token rest inductionHypothesis =>
      exact .cons (agrees_ground token) inductionHypothesis

/-- Overlapping patterns are both at the top of their common stack. -/
theorem atTop_commonStack
    {first second : List StackToken}
    (overlaps : overlap first second = true) :
    AtTop first (commonStack first second) ∧
      AtTop second (commonStack first second) := by
  induction first generalizing second with
  | nil => exact ⟨.nil _, by simpa [commonStack] using atTop_map_ground second⟩
  | cons token rest inductionHypothesis =>
      cases second with
      | nil => exact ⟨atTop_map_ground (token :: rest), .nil _⟩
      | cons other others =>
          simp only [overlap, Bool.and_eq_true] at overlaps
          obtain ⟨tokenAgrees, otherAgrees⟩ := agrees_ground_sharper overlaps.1
          obtain ⟨restAtTop, othersAtTop⟩ := inductionHypothesis overlaps.2
          exact ⟨.cons tokenAgrees restAtTop, .cons otherAgrees othersAtTop⟩

/-- Every token of the common stack comes from one of the two patterns. -/
theorem exists_of_mem_commonStack
    {first second : List StackToken}
    {token : StackToken}
    (member : token ∈ commonStack first second) :
    ∃ origin, (origin ∈ first ∨ origin ∈ second) ∧ token = origin.ground := by
  fun_induction commonStack first second with
  | case1 first rest second others inductionHypothesis =>
      rcases List.mem_cons.mp member with isTop | below
      · refine ⟨first.sharper second, ?_, isTop⟩
        rcases sharper_eq first second with same | same <;> simp [same]
      · obtain ⟨origin, fromPatterns, grounded⟩ := inductionHypothesis below
        refine ⟨origin, ?_, grounded⟩
        exact fromPatterns.imp (List.mem_cons_of_mem _) (List.mem_cons_of_mem _)
  | case2 others =>
      obtain ⟨origin, fromOthers, grounded⟩ := List.mem_map.mp member
      exact ⟨origin, .inr fromOthers, grounded.symm⟩
  | case3 rest =>
      obtain ⟨origin, fromRest, grounded⟩ := List.mem_map.mp member
      exact ⟨origin, .inl fromRest, grounded.symm⟩

theorem wildcard_not_mem_commonStack
    (first second : List StackToken) :
    wildcard ∉ commonStack first second := by
  intro member
  obtain ⟨origin, _, grounded⟩ := exists_of_mem_commonStack member
  exact ground_ne_wildcard origin grounded.symm

/-- The states of the common stack are those of the patterns, and the state zero. -/
theorem lt_of_mem_commonStack
    {first second : List StackToken}
    {bound number : Nat}
    (positive : 0 < bound)
    (bounded :
      ∀ number,
        .state (.id number) ∈ first ∨ .state (.id number) ∈ second →
        number < bound)
    (member : .state (.id number) ∈ commonStack first second) :
    number < bound := by
  obtain ⟨origin, fromPatterns, grounded⟩ := exists_of_mem_commonStack member
  by_cases concrete : origin = wildcard
  · rw [concrete, ground_wildcard] at grounded
    cases grounded
    exact positive
  · rw [ground_eq_self concrete] at grounded
    exact bounded number (grounded ▸ fromPatterns)

end StackToken

namespace Stack

/-- No token of the stack is the wildcard. -/
def WildcardFree
    (stack : Stack) :
    Prop :=
  .wildcard ∉ stack.toList

/-- Every state on the stack has a number below a bound. -/
def StatesBelow
    (stack : Stack)
    (bound : Nat) :
    Prop :=
  ∀ number, .state (.id number) ∈ stack.toList → number < bound

/-- A pattern is at the top of a stack when it is at the top of its view. -/
theorem startsWith_iff
    {stack : Stack}
    {pattern : List StackToken} :
    stack.startsWith pattern = true ↔ StackToken.AtTop pattern stack.toList := by
  simp [startsWith_eq, StackToken.atTop_iff]

/-- Two patterns at the top of a stack without wildcards overlap. -/
theorem WildcardFree.overlap
    {stack : Stack}
    (concrete : stack.WildcardFree)
    {first second : List StackToken}
    (firstAtTop : stack.startsWith first = true)
    (secondAtTop : stack.startsWith second = true) :
    StackToken.overlap first second = true := by
  rw [startsWith_iff] at firstAtTop secondAtTop
  exact firstAtTop.overlap secondAtTop concrete

/-- Two patterns overlap when a stack of states below a bound, and of no wildcards, has both. -/
theorem overlap_iff_exists_startsWith
    {first second : List StackToken}
    {bound : Nat}
    (positive : 0 < bound)
    (bounded :
      ∀ number,
        .state (.id number) ∈ first ∨ .state (.id number) ∈ second →
        number < bound) :
    StackToken.overlap first second = true ↔
      ∃ stack : Stack,
        stack.WildcardFree ∧
          stack.StatesBelow bound ∧
          stack.startsWith first = true ∧
          stack.startsWith second = true := by
  constructor
  · intro overlaps
    obtain ⟨firstAtTop, secondAtTop⟩ := StackToken.atTop_commonStack overlaps
    let common := StackToken.commonStack first second
    have view : (empty.replaceTop 0 common).toList = common := by simp
    refine ⟨empty.replaceTop 0 common, ?_, ?_, ?_, ?_⟩
    · rw [WildcardFree, view]
      exact StackToken.wildcard_not_mem_commonStack first second
    · intro number member
      rw [view] at member
      exact StackToken.lt_of_mem_commonStack positive bounded member
    · rwa [startsWith_iff, view]
    · rwa [startsWith_iff, view]
  · rintro ⟨stack, concrete, _, firstAtTop, secondAtTop⟩
    exact WildcardFree.overlap concrete firstAtTop secondAtTop

end Stack

end Pushdown
