import Pushdown.Text.Quoted

namespace Pushdown.Text

/-!
# Control characters in a log

A terminal would act on some control characters.  In the log these are shown by
their codes; all other characters stand for themselves.
-/

/-- How a character stands in the log. -/
def visibleCharacter
    (character : Char) :
    List Char :=
  match character with
  | '\x1b' => ['\\', 'x', '1', 'b']
  | '\x07' => ['\\', 'x', '0', '7']
  | '\x08' => ['\\', 'x', '0', '8']
  | '\x0c' => ['\\', 'x', '0', 'c']
  | '\x7f' => ['\\', 'x', '7', 'f']
  | other =>
      if 0x80 ≤ other.toNat ∧ other.toNat ≤ 0x9F then codeEscape other else [other]

/-- A text without the control characters that a terminal would act on. -/
def visible
    (text : String) :
    String :=
  String.ofList (text.toList.flatMap visibleCharacter)

end Pushdown.Text
