import Pushdown.Text.Unprintable.Basic

namespace Pushdown.Text

/-!
# Quoted text

A text in double quotes, in which every character can be told apart: quotes,
backslashes and unprintable characters are escaped.
-/

/-- The lower case hexadecimal digits of a number, without leading zeros. -/
def hexDigits
    (number : Nat) :
    List Char :=
  Nat.toDigits 16 number

/-- The escape of a character by its code point. -/
def codeEscape
    (character : Char) :
    List Char :=
  "\\u\x7b".toList ++ hexDigits character.toNat ++ ['\x7d']

/-- How a character stands between the quotes. -/
def quotedCharacter
    (character : Char) :
    List Char :=
  match character with
  | '"' =>
      ['\\', '"']
  | '\\' =>
      ['\\', '\\']
  | '\n' =>
      ['\\', 'n']
  | '\r' =>
      ['\\', 'r']
  | '\t' =>
      ['\\', 't']
  | '\x00' =>
      ['\\', '0']
  | other =>
      if isUnprintable other then codeEscape other else [other]

def quoted
    (text : String) :
    String :=
  String.ofList ('"' :: text.toList.flatMap quotedCharacter ++ ['"'])

end Pushdown.Text
