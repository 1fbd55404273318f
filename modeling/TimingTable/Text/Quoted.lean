import TimingTable.Text.Unprintable

/-!
# Quoted texts

`quoted` shows a text between double quotes, on one line and with nothing invisible in it: a double
quote and a backslash have a backslash before them, the tab, the carriage return, the line feed and
the NUL have a letter of their own, and every other unprintable character is written by its code
point.
-/

namespace TimingTable.Text

/-- A character by its code point, in lower-case hexadecimal without leading zeros. -/
def byCode (c : Char) : List Char :=
  "\\u\x7b".toList ++ Nat.toDigits 16 c.toNat ++ ['\x7d']

/-- How a quoted text shows one character. -/
def quotedChar (c : Char) : List Char :=
  match c with
  | '"' => ['\\', '"']
  | '\\' => ['\\', '\\']
  | '\t' => ['\\', 't']
  | '\r' => ['\\', 'r']
  | '\n' => ['\\', 'n']
  | '\x00' => ['\\', '0']
  | c => if isUnprintable c then byCode c else [c]

def quoted (s : String) : String :=
  String.ofList ('"' :: s.toList.flatMap quotedChar ++ ['"'])

end TimingTable.Text
