import GhciBridge.Text.Hidden

/-!
# Quoted texts

Messages quote a text between double quotes so that every character of it can
be seen.
-/

namespace GhciBridge
namespace Text

/-- The lower case hexadecimal spelling of a number, without leading zeros. -/
def hex (n : Nat) : Text :=
  Nat.toDigits 16 n

/-- The form of one character between quotes. -/
def quoteChar (c : Char) : Text :=
  match c with
  | '"' => ['\\', '"']
  | '\\' => ['\\', '\\']
  | '\n' => ['\\', 'n']
  | '\r' => ['\\', 'r']
  | '\t' => ['\\', 't']
  | '\x00' => ['\\', '0']
  | c => if isHidden c then "\\u\x7b".toList ++ hex c.toNat ++ ['}'] else [c]

/-- The text between double quotes, with its hidden characters spelled out. -/
def quoted (text : Text) : Text :=
  '"' :: text.flatMap quoteChar ++ ['"']

end Text
end GhciBridge
