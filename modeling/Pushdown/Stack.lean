import Pushdown.Transition

namespace Pushdown

/-!
# The working stack

The tokens are held with the top at the end, so that pushing and dropping touch
the end alone.  The view of a stack is the list `toList` of its tokens from the
top down; each operation has one equation that says what it does to the view.
-/

/-- A stack of tokens, the bottom first. -/
structure Stack where
  tokens : Array StackToken
deriving Repr, DecidableEq

/-- The transition whose pattern is not at the top of the stack. -/
structure StackMismatch where
  transition : Transition
deriving Repr, DecidableEq

namespace StackMismatch

def message
    (mismatch : StackMismatch) :
    String :=
  "Stack top does not match the pattern of " ++ mismatch.transition.text ++ "."

def detail
    (mismatch : StackMismatch) :
    String :=
  "StackMismatch(" ++ Text.quoted mismatch.transition.text ++ ")"

end StackMismatch

namespace Stack

def empty : Stack :=
  ⟨#[]⟩

instance : Inhabited Stack :=
  ⟨empty⟩

/-- The tokens from the top down. -/
def toList
    (stack : Stack) :
    List StackToken :=
  stack.tokens.toList.reverse

def depth
    (stack : Stack) :
    Nat :=
  stack.tokens.size

def isEmpty
    (stack : Stack) :
    Bool :=
  stack.tokens.isEmpty

def top?
    (stack : Stack) :
    Option StackToken :=
  stack.tokens.back?

def push
    (stack : Stack)
    (token : StackToken) :
    Stack :=
  ⟨stack.tokens.push token⟩

/-- Whether the tokens below a height agree with a pattern, from that height down. -/
def agreesBelow
    (tokens : Array StackToken) :
    List StackToken → Nat → Bool
  | [], _ => true
  | _ :: _, 0 => false
  | expected :: rest, height + 1 =>
      tokens[height]?.any expected.agrees && agreesBelow tokens rest height

/-- Whether the tokens at the top agree with a pattern; a pattern longer than the stack does not. -/
def startsWith
    (stack : Stack)
    (pattern : List StackToken) :
    Bool :=
  agreesBelow stack.tokens pattern stack.depth

/-- Drops tokens from the top, then puts others there, the first of them on top. -/
def replaceTop
    (stack : Stack)
    (dropped : Nat)
    (replacement : List StackToken) :
    Stack :=
  ⟨replacement.foldr
    (fun token tokens => tokens.push token)
    (stack.tokens.shrink (stack.depth - dropped))⟩

/-- The stack after a transition whose pattern is at the top. -/
def apply
    (stack : Stack)
    (transition : Transition) :
    Stack :=
  stack.replaceTop transition.pattern.length transition.replacement

/-- Applies a transition if its pattern is at the top. -/
def checkedApply
    (stack : Stack)
    (transition : Transition) :
    Except StackMismatch Stack :=
  if stack.startsWith transition.pattern then
    .ok (stack.apply transition)
  else
    .error ⟨transition⟩

/-! ## The view from the top down -/

theorem ext_toList
    {first second : Stack}
    (same : first.toList = second.toList) :
    first = second := by
  cases first
  cases second
  simpa [toList] using same

@[simp]
theorem toList_empty :
    empty.toList = [] :=
  rfl

@[simp]
theorem toList_push
    (stack : Stack)
    (token : StackToken) :
    (stack.push token).toList = token :: stack.toList := by
  simp [push, toList]

@[simp]
theorem length_toList
    (stack : Stack) :
    stack.toList.length = stack.depth := by
  simp [toList, depth]

theorem isEmpty_eq
    (stack : Stack) :
    stack.isEmpty = stack.toList.isEmpty := by
  simp [isEmpty, toList, Array.isEmpty]

theorem top?_eq
    (stack : Stack) :
    stack.top? = stack.toList.head? := by
  simp [top?, toList, Array.getLast?_toList]

@[simp]
theorem toList_replaceTop
    (stack : Stack)
    (dropped : Nat)
    (replacement : List StackToken) :
    (stack.replaceTop dropped replacement).toList =
      replacement ++ stack.toList.drop dropped := by
  simp [replaceTop, toList, depth, List.drop_reverse]

/-- Agreement below a height is agreement with the tokens that are there, read downwards. -/
theorem agreesBelow_eq
    (tokens : Array StackToken)
    (pattern : List StackToken)
    {height : Nat}
    (inside : height ≤ tokens.size) :
    agreesBelow tokens pattern height =
      (decide (pattern.length ≤ height) &&
        StackToken.overlap pattern (tokens.toList.take height).reverse) := by
  induction pattern generalizing height with
  | nil => simp [agreesBelow, StackToken.overlap]
  | cons expected rest inductionHypothesis =>
      cases height with
      | zero => simp [agreesBelow]
      | succ height =>
          have below : height < tokens.size := inside
          have belowList : height < tokens.toList.length := by simpa using below
          rw [agreesBelow, inductionHypothesis (by omega),
            List.take_succ_eq_append_getElem belowList]
          simp only [List.reverse_append, List.reverse_cons, List.reverse_nil, List.nil_append,
            List.cons_append, StackToken.overlap, Array.getElem_toList,
            Array.getElem?_eq_getElem below, Option.any_some, List.length_cons,
            Nat.add_le_add_iff_right]
          exact Bool.and_left_comm ..

/-- A pattern is at the top when it is no longer than the stack and agrees with the view. -/
theorem startsWith_eq
    (stack : Stack)
    (pattern : List StackToken) :
    stack.startsWith pattern =
      (decide (pattern.length ≤ stack.depth) &&
        StackToken.overlap pattern stack.toList) := by
  have whole : stack.tokens.toList.take stack.tokens.size = stack.tokens.toList :=
    List.take_of_length_le (by simp)
  rw [startsWith, depth, agreesBelow_eq stack.tokens pattern (Nat.le_refl _), whole, toList]

end Stack

end Pushdown
