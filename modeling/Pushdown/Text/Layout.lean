namespace Pushdown.Text

/-!
# Layout of a field

A field is first cut to its precision and then filled up to its width.  Both
count characters.
-/

/-- Where the text of a field stands. -/
inductive Alignment where
  | left
  | right
  | center
deriving Repr, DecidableEq

/-- How a text is fitted into a field. -/
structure Layout where
  precision : Option Nat := none
  width : Nat := 0
  alignment : Alignment := .left
  fill : Char := ' '
deriving Repr, DecidableEq

namespace Layout

/-- Every text is kept as it is. -/
def plain : Layout :=
  {}

/-- The text stands at the right of a field of this width. -/
def flushRight
    (width : Nat) :
    Layout :=
  { width := width, alignment := .right }

/-- The number of fill characters before the text; of an odd rest the smaller half comes first. -/
def leading
    (alignment : Alignment)
    (missing : Nat) :
    Nat :=
  match alignment with
  | .left =>
      0
  | .right =>
      missing
  | .center =>
      missing / 2

/-- Keeps as many characters as the precision allows. -/
def cut
    (layout : Layout)
    (text : List Char) :
    List Char :=
  match layout.precision with
  | none =>
      text
  | some precision =>
      text.take precision

/-- Fills a text up to the width. -/
def pad
    (layout : Layout)
    (text : List Char) :
    List Char :=
  let missing := layout.width - text.length
  let before := leading layout.alignment missing
  List.replicate before layout.fill ++ text ++
    List.replicate (missing - before) layout.fill

/-- Fits a text into the field. -/
def apply
    (layout : Layout)
    (text : String) :
    String :=
  String.ofList (layout.pad (layout.cut text.toList))

end Layout

end Pushdown.Text
