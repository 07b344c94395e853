/-!
# StorageClient.Text.JsonString

String literals of JSON, as this library writes them. A quote, a backslash, a line feed, a carriage
return and a tab have two-character escapes; every other control character (the C0 range, DEL and
the C1 range) is written as `u` with four lower-case hexadecimal digits; all other characters stand
for themselves. So a literal holds no control character, and ends at its first bare quote.
-/

namespace StorageClient.Text.JsonString

/-- The digit `n` of base sixteen in lower case, for `n < 16`. -/
def hexDigit (n : Nat) : Char :=
  if n < 10 then Char.ofNat ('0'.toNat + n) else Char.ofNat ('a'.toNat + (n - 10))

/-- The control characters of Unicode: U+0000 to U+001F and U+007F to U+009F. -/
def isControl (c : Char) : Bool :=
  c.toNat < 0x20 || (0x7f ≤ c.toNat && c.toNat < 0xa0)

/-- One character inside a literal. -/
def escape (c : Char) : List Char :=
  if c = '"' then ['\\', '"']
  else if c = '\\' then ['\\', '\\']
  else if c = '\n' then ['\\', 'n']
  else if c = '\r' then ['\\', 'r']
  else if c = '\t' then ['\\', 't']
  else if isControl c then
    ['\\', 'u', '0', '0', hexDigit (c.toNat / 16), hexDigit (c.toNat % 16)]
  else [c]

/-- A text as a literal, quotes included. -/
def quote (text : String) : List Char :=
  '"' :: (text.toList.flatMap escape ++ ['"'])

end StorageClient.Text.JsonString
