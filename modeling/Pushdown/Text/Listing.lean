import Pushdown.Text.Blank

namespace Pushdown.Text

/-!
# Written lists

Names are written with a space between them.  Blanks at the end of the whole
are dropped, so a last name that is itself blank leaves no trace.  Other items
stand between brackets, with a comma between them.
-/

/-- Every name with a space after it. -/
def terminated
    (names : List String) :
    String :=
  String.join (names.map (· ++ " "))

/-- The names with spaces between them, and no blank at the end. -/
def spaced
    (names : List String) :
    String :=
  String.ofList (trimEnd (terminated names).toList)

/-- Items between an opening and a closing mark, with a comma between two items. -/
def enclosed
    (opening : String)
    (items : List String)
    (closing : String) :
    String :=
  opening ++ ", ".intercalate items ++ closing

end Pushdown.Text
