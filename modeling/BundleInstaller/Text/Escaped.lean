import BundleInstaller.Text.Unprintable

/-!
# Quoted text in messages

`quoted` shows a text between double quotes, such that nothing in it can be mistaken for the end
or hide from the reader: quotes and backslashes are escaped, the usual blanks have short escapes,
and every other character that would not show is written as its number in hexadecimal.
-/

namespace BundleInstaller.Text

def hexNumber (c : Char) : List Char := Nat.toDigits 16 c.toNat

/-- A character as it stands between double quotes. -/
def escapeChar (c : Char) : List Char :=
  match c with
  | '"' => ['\\', '"']
  | '\\' => ['\\', '\\']
  | '\n' => ['\\', 'n']
  | '\r' => ['\\', 'r']
  | '\t' => ['\\', 't']
  | '\x00' => ['\\', '0']
  | _ => if isPrintable c then [c] else ['\\', 'u', '\x7b'] ++ hexNumber c ++ ['\x7d']

def quoted (s : String) : String :=
  String.ofList ('"' :: (s.toList.flatMap escapeChar ++ ['"']))

end BundleInstaller.Text
