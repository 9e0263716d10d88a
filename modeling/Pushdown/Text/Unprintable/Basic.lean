import Pushdown.Text.CodeRange
import Pushdown.Text.Unprintable.Extending
import Pushdown.Text.Unprintable.Unassigned

namespace Pushdown.Text

/-!
# Unprintable characters

Quoted text shows a character by its code point when it would not be seen, or
would be drawn onto the character before it.  The tables are those of Unicode 17.
-/

/-- Controls, format characters, private use, and separators other than the space. -/
def invisibleRanges : List CodeRange :=
  [ ⟨0x0, 0x1F⟩, ⟨0x7F, 0xA0⟩, .single 0xAD, ⟨0x600, 0x605⟩, .single 0x61C, .single 0x6DD,
    .single 0x70F, ⟨0x890, 0x891⟩, .single 0x8E2, .single 0x1680, .single 0x180E,
    ⟨0x2000, 0x200F⟩, ⟨0x2028, 0x202F⟩, ⟨0x205F, 0x2064⟩, ⟨0x2066, 0x206F⟩, .single 0x3000,
    ⟨0xE000, 0xF8FF⟩, .single 0xFEFF, ⟨0xFFF9, 0xFFFB⟩, .single 0x110BD, .single 0x110CD,
    ⟨0x13430, 0x1343F⟩, ⟨0x1BCA0, 0x1BCA3⟩, ⟨0x1D173, 0x1D17A⟩, .single 0xE0001,
    ⟨0xE0020, 0xE007F⟩, ⟨0xF0000, 0xFFFFD⟩, ⟨0x100000, 0x10FFFD⟩ ]

/-- Fillers count as letters, but nothing is drawn for them. -/
def fillerRanges : List CodeRange :=
  [ ⟨0x115F, 0x1160⟩, .single 0x3164, .single 0xFFA0 ]

/-- The ASCII characters from the space to the tilde. -/
def isPrintableAscii
    (character : Char) :
    Bool :=
  (CodeRange.mk 0x20 0x7E).contains character

/-- A character is unprintable when it is in one of the four tables. -/
def isUnprintable
    (character : Char) :
    Bool :=
  !isPrintableAscii character &&
    (CodeRange.anyContains invisibleRanges character ||
      CodeRange.anyContains fillerRanges character ||
      CodeRange.anyContains extendingRanges character ||
      CodeRange.anyContains unassignedRanges character)

end Pushdown.Text
