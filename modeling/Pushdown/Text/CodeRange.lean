namespace Pushdown.Text

/-!
# Ranges of code points

A character property is given as a list of closed ranges of code points.
-/

/-- A closed range of code points. -/
structure CodeRange where
  first : Nat
  last : Nat
deriving Repr, DecidableEq

namespace CodeRange

/-- The range that holds one code point. -/
def single
    (code : Nat) :
    CodeRange :=
  ⟨code, code⟩

/-- Both ends belong to the range. -/
def contains
    (range : CodeRange)
    (character : Char) :
    Bool :=
  range.first ≤ character.toNat && character.toNat ≤ range.last

/-- A character has a property when some range of the property holds it. -/
def anyContains
    (ranges : List CodeRange)
    (character : Char) :
    Bool :=
  ranges.any (·.contains character)

theorem contains_iff
    {range : CodeRange}
    {character : Char} :
    range.contains character = true ↔
      range.first ≤ character.toNat ∧ character.toNat ≤ range.last := by
  simp [contains]

theorem anyContains_iff
    {ranges : List CodeRange}
    {character : Char} :
    anyContains ranges character = true ↔
      ∃ range ∈ ranges, range.first ≤ character.toNat ∧ character.toNat ≤ range.last := by
  simp [anyContains, contains_iff]

end CodeRange

end Pushdown.Text
