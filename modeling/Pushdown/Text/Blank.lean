import Pushdown.Text.CodeRange

namespace Pushdown.Text

/-!
# Blank characters

Blank characters separate words and are cut off at the ends of a text.  They
are the characters of the Unicode property `White_Space`; the right sides of
productions are split at the ASCII ones only.
-/

/-- The characters of the Unicode property `White_Space`. -/
def blankRanges : List CodeRange :=
  [ ⟨0x9, 0xD⟩, .single 0x20, .single 0x85, .single 0xA0, .single 0x1680,
    ⟨0x2000, 0x200A⟩, ⟨0x2028, 0x2029⟩, .single 0x202F, .single 0x205F,
    .single 0x3000 ]

/-- A blank character has the Unicode property `White_Space`. -/
def isBlank
    (character : Char) :
    Bool :=
  CodeRange.anyContains blankRanges character

/-- The ASCII blanks are space, tab, line feed, form feed and carriage return. -/
def isAsciiBlank
    (character : Char) :
    Bool :=
  character == ' ' || character == '\t' || character == '\n' ||
    character == '\x0c' || character == '\r'

/-- Every ASCII blank is blank; the vertical tab is the ASCII character that is blank only here. -/
theorem isBlank_of_isAsciiBlank
    {character : Char}
    (ascii : isAsciiBlank character = true) :
    isBlank character = true := by
  simp only [isAsciiBlank, Bool.or_eq_true, beq_iff_eq] at ascii
  rcases ascii with (((rfl | rfl) | rfl) | rfl) | rfl <;> rfl

/-! ## Cutting blanks off the ends -/

/-- Drops the blanks before the first other character. -/
def trimStart
    (text : List Char) :
    List Char :=
  text.dropWhile isBlank

/-- Drops the blanks after the last other character. -/
def trimEnd
    (text : List Char) :
    List Char :=
  (trimStart text.reverse).reverse

def trim
    (text : List Char) :
    List Char :=
  trimEnd (trimStart text)

/-- A blank at the end is dropped. -/
theorem trimEnd_append_blank
    (text : List Char)
    {last : Char}
    (blank : isBlank last = true) :
    trimEnd (text ++ [last]) = trimEnd text := by
  simp [trimEnd, trimStart, blank]

/-- A text that ends in a character that is not blank stays whole. -/
theorem trimEnd_append_solid
    (text : List Char)
    {last : Char}
    (solid : isBlank last = false) :
    trimEnd (text ++ [last]) = text ++ [last] := by
  simp [trimEnd, trimStart, solid]

end Pushdown.Text
