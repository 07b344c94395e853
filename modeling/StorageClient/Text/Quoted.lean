import StorageClient.Text.Visible
/-!
# StorageClient.Text.Quoted

Texts quoted for a developer's eye. A quote and a backslash are escaped, the usual control
characters have their short escapes, and whatever cannot be seen is written by its code point.
-/

namespace StorageClient.Text.Quoted

/-- The code point of a character in base sixteen. -/
def codePoint (c : Char) : List Char :=
  ['\\', 'u', '\x7b'] ++ Nat.toDigits 16 c.toNat ++ ['\x7d']

/-- One character inside the quotes. -/
def escape (c : Char) : List Char :=
  if c = '\x00' then ['\\', '0']
  else if c = '\t' then ['\\', 't']
  else if c = '\r' then ['\\', 'r']
  else if c = '\n' then ['\\', 'n']
  else if c = '\\' then ['\\', '\\']
  else if c = '"' then ['\\', '"']
  else if Visible.isVisible c then [c]
  else codePoint c

/-- A text in quotes. -/
def quote (text : String) : String :=
  String.ofList ('"' :: (text.toList.flatMap escape ++ ['"']))

end StorageClient.Text.Quoted
