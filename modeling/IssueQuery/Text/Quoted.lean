import IssueQuery.Text.Basic
import IssueQuery.Text.Mark
import IssueQuery.Text.Unprintable

namespace IssueQuery.Text

/-- Digits of a code point in lowercase hexadecimal. -/
def hexDigits (n : Nat) : Text := Nat.toDigits 16 n

/-- How a character is shown between double quotes: quote, backslash and the common controls by a
letter, whatever cannot be seen on its own by its code point, all else as it is. -/
def showChar (c : Char) : Text :=
  match c with
  | '"' => ['\\', '"']
  | '\\' => ['\\', '\\']
  | '\n' => ['\\', 'n']
  | '\r' => ['\\', 'r']
  | '\t' => ['\\', 't']
  | '\x00' => ['\\', '0']
  | c =>
    if inRanges unprintableRanges c.toNat || inRanges extendingRanges c.toNat then
      ['\\', 'u', '{'] ++ hexDigits c.toNat ++ ['}']
    else [c]

/-- Text as messages quote it. -/
def quoted (t : Text) : Text := '"' :: t.flatMap showChar ++ ['"']

end IssueQuery.Text
