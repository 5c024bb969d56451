import GameSheet.Text.Printable

/-!
Quoted text. Text stands between quotation marks, with escapes for the marks, the backslash, line ends
and everything that would not show as itself.
-/

namespace GameSheet.Text.Quoted

def hexDigits (n : Nat) : List Char := Nat.toDigits 16 n

def codePoint (c : Char) : List Char := ['\\', 'u', '\x7b'] ++ hexDigits c.toNat ++ ['\x7d']

def escape (c : Char) : List Char :=
  if c = '\x00' then ['\\', '0']
  else if c = '\t' then ['\\', 't']
  else if c = '\r' then ['\\', 'r']
  else if c = '\n' then ['\\', 'n']
  else if c = '"' then ['\\', '"']
  else if c = '\\' then ['\\', '\\']
  else if isPrintable c then [c]
  else codePoint c

def text (s : String) : String := String.ofList ('"' :: s.toList.flatMap escape ++ ['"'])

end GameSheet.Text.Quoted
