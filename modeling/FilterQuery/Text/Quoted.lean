import FilterQuery.Text.GraphemeExtend
import FilterQuery.Text.Unprintable

/-!
# Quoted text

`quoted s` shows a text between double quotes so that every character of it can be seen: a quote
and a backslash are preceded by a backslash, line breaks, tabs and NUL have a letter each, and a
character without a printed form, or one that would attach itself to the character before it, is
given by its code point.
-/

namespace FilterQuery.Text

/-- A character by its code point, as in `\u{301}`. -/
def codePoint (c : Char) : List Char :=
  '\\' :: 'u' :: '{' :: Nat.toDigits 16 c.toNat ++ ['}']

/-- A character as it stands between quotes. -/
def quotedChar (c : Char) : List Char :=
  match c with
  | '"' => ['\\', '"']
  | '\\' => ['\\', '\\']
  | '\n' => ['\\', 'n']
  | '\r' => ['\\', 'r']
  | '\t' => ['\\', 't']
  | '\x00' => ['\\', '0']
  | c => if isGraphemeExtend c || isUnprintable c then codePoint c else [c]

/-- A text between double quotes. -/
def quoted (s : String) : String :=
  String.ofList ('"' :: s.toList.flatMap quotedChar ++ ['"'])

end FilterQuery.Text
