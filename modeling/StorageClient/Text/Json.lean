import StorageClient.Text.JsonString
/-!
# StorageClient.Text.Json

JSON documents: a reader that takes exactly the texts of the JSON grammar, and a writer without
blanks.

Design points:

* A document keeps what its reader may want to be strict about: members stand in the order they
  were written, also twice, and a number is the literal as it was written.
* An escape may name one half of a surrogate pair. The grammar allows that, but a string with a
  half by itself is no text, so its text is missing (`none`). Whoever needs the text can refuse the
  document, and whoever passes over the string need not care.
* Reading recurses on fuel. A value needs at most two units for each of its characters, and
  `Json.parse` brings that many.
-/

namespace StorageClient

/-- A JSON document. -/
inductive Json
  | null
  | bool (value : Bool)
  /-- A number, as it was written. -/
  | number (literal : List Char)
  /-- A string; its text is missing if it has half a surrogate pair. -/
  | string (text : Option String)
  | array (elements : List Json)
  /-- The members of an object, in the order they were written. -/
  | object (members : List (Option String × Json))

namespace Json

/-! ### Blanks, words and numbers -/

/-- The characters that may stand between tokens. -/
def isBlank (c : Char) : Bool := c == ' ' || c == '\t' || c == '\n' || c == '\r'

/-- What follows after blanks. -/
def skipBlanks (input : List Char) : List Char := input.dropWhile isBlank

/-- Nothing is skipped before a character that is no blank. -/
theorem skipBlanks_cons {c : Char} (solid : isBlank c = false) (rest : List Char) :
    skipBlanks (c :: rest) = c :: rest := by
  simp [skipBlanks, List.dropWhile, solid]

/-- What follows after a word, if the input starts with it. -/
def expect : List Char → List Char → Option (List Char)
  | [], input => some input
  | _ :: _, [] => none
  | c :: word, d :: input => if c = d then expect word input else none

/-- One or more digits. -/
def readDigits (input : List Char) : Option (List Char × List Char) :=
  match input.takeWhile Char.isDigit with
  | [] => none
  | digits => some (digits, input.dropWhile Char.isDigit)

/-- The whole part of a number: zero, or digits that do not start with zero. -/
def readWhole : List Char → Option (List Char × List Char)
  | '0' :: rest => some (['0'], rest)
  | input => readDigits input

/-- The fraction of a number, if it has one. -/
def readFraction : List Char → Option (List Char × List Char)
  | '.' :: rest => (readDigits rest).map fun (digits, rest) => ('.' :: digits, rest)
  | input => some ([], input)

/-- The sign of an exponent, if it has one. -/
def readSign : List Char → List Char × List Char
  | '+' :: rest => (['+'], rest)
  | '-' :: rest => (['-'], rest)
  | input => ([], input)

/-- The exponent of a number, if it has one. -/
def readExponent : List Char → Option (List Char × List Char)
  | c :: rest =>
    if c = 'e' ∨ c = 'E' then
      let (sign, rest) := readSign rest
      (readDigits rest).map fun (digits, rest) => (c :: sign ++ digits, rest)
    else some ([], c :: rest)
  | [] => some ([], [])

/-- A number without a sign. -/
def readUnsigned (input : List Char) : Option (List Char × List Char) := do
  let (whole, rest) ← readWhole input
  let (fraction, rest) ← readFraction rest
  let (exponent, rest) ← readExponent rest
  return (whole ++ fraction ++ exponent, rest)

/-- A number. -/
def readNumber : List Char → Option (List Char × List Char)
  | '-' :: rest => (readUnsigned rest).map fun (literal, rest) => ('-' :: literal, rest)
  | input => readUnsigned input

/-! ### Strings -/

/-- What a string literal is made of: characters, and halves of surrogate pairs. -/
inductive Piece
  | char (c : Char)
  | half (code : Nat)

/-- The value of a digit of base sixteen. -/
def hexValue (c : Char) : Option Nat :=
  if c.isDigit then some (c.toNat - '0'.toNat)
  else if 'a' ≤ c ∧ c ≤ 'f' then some (c.toNat - 'a'.toNat + 10)
  else if 'A' ≤ c ∧ c ≤ 'F' then some (c.toNat - 'A'.toNat + 10)
  else none

/-- What four digits of base sixteen stand for. -/
def pieceOfHex (a b c d : Char) : Option Piece := do
  let code := (((← hexValue a) * 16 + (← hexValue b)) * 16 + (← hexValue c)) * 16 + (← hexValue d)
  return if 0xd800 ≤ code ∧ code < 0xe000 then .half code else .char (Char.ofNat code)

/-- What a character after a backslash stands for. -/
def escaped : Char → Option Char
  | '"' => some '"'
  | '\\' => some '\\'
  | '/' => some '/'
  | 'b' => some '\x08'
  | 'f' => some '\x0c'
  | 'n' => some '\n'
  | 'r' => some '\r'
  | 't' => some '\t'
  | _ => none

/-- The pieces of a string literal up to its closing quote. -/
def readPieces : List Char → Option (List Piece × List Char)
  | '"' :: rest => some ([], rest)
  | '\\' :: 'u' :: a :: b :: c :: d :: rest => do
    let piece ← pieceOfHex a b c d
    let (pieces, rest) ← readPieces rest
    return (piece :: pieces, rest)
  | '\\' :: c :: rest => do
    let char ← escaped c
    let (pieces, rest) ← readPieces rest
    return (.char char :: pieces, rest)
  | c :: rest =>
    if c.toNat < 0x20 then none
    else do
      let (pieces, rest) ← readPieces rest
      return (.char c :: pieces, rest)
  | [] => none

/-- The text of some pieces, where the halves of a pair stand for one character. -/
def textOfPieces : List Piece → Option (List Char)
  | [] => some []
  | .char c :: rest => (textOfPieces rest).map (c :: ·)
  | .half high :: .half low :: rest =>
    if high < 0xdc00 ∧ 0xdc00 ≤ low then
      (textOfPieces rest).map (Char.ofNat (0x10000 + (high - 0xd800) * 0x400 + (low - 0xdc00)) :: ·)
    else none
  | .half _ :: _ => none

/-- A string literal after its opening quote. -/
def readString (input : List Char) : Option (Option String × List Char) :=
  (readPieces input).map fun (pieces, rest) => ((textOfPieces pieces).map String.ofList, rest)

/-! ### Values -/

mutual

/-- A value, after blanks. -/
def readValue : Nat → List Char → Option (Json × List Char)
  | 0, _ => none
  | fuel + 1, input =>
    match skipBlanks input with
    | '"' :: rest => (readString rest).map fun (text, rest) => (.string text, rest)
    | '[' :: rest =>
      match skipBlanks rest with
      | ']' :: rest => some (.array [], rest)
      | rest => (readElements fuel rest).map fun (elements, rest) => (.array elements, rest)
    | '\x7b' :: rest =>
      match skipBlanks rest with
      | '\x7d' :: rest => some (.object [], rest)
      | rest => (readMembers fuel rest).map fun (members, rest) => (.object members, rest)
    | 'n' :: rest => (expect ['u', 'l', 'l'] rest).map fun rest => (.null, rest)
    | 't' :: rest => (expect ['r', 'u', 'e'] rest).map fun rest => (.bool true, rest)
    | 'f' :: rest => (expect ['a', 'l', 's', 'e'] rest).map fun rest => (.bool false, rest)
    | rest => (readNumber rest).map fun (literal, rest) => (.number literal, rest)

/-- One or more elements up to the end of their array. -/
def readElements : Nat → List Char → Option (List Json × List Char)
  | 0, _ => none
  | fuel + 1, input => do
    let (element, rest) ← readValue fuel input
    match skipBlanks rest with
    | ']' :: rest => return ([element], rest)
    | ',' :: rest =>
      let (elements, rest) ← readElements fuel rest
      return (element :: elements, rest)
    | _ => none

/-- One or more members up to the end of their object. -/
def readMembers : Nat → List Char → Option (List (Option String × Json) × List Char)
  | 0, _ => none
  | fuel + 1, input =>
    match skipBlanks input with
    | '"' :: rest => do
      let (key, rest) ← readString rest
      match skipBlanks rest with
      | ':' :: rest =>
        let (value, rest) ← readValue fuel rest
        match skipBlanks rest with
        | '\x7d' :: rest => return ([(key, value)], rest)
        | ',' :: rest =>
          let (members, rest) ← readMembers fuel rest
          return ((key, value) :: members, rest)
        | _ => none
      | _ => none
    | _ => none

end

/-- The document of a text, if the text is one value with nothing but blanks around it. -/
def parse (text : String) : Option Json :=
  let input := text.toList
  match readValue (2 * input.length + 2) input with
  | some (value, rest) => if (skipBlanks rest).isEmpty then some value else none
  | none => none

/-! ### Writing -/

/-- A string, where half a surrogate pair stands for a missing text. -/
def writeString : Option String → List Char
  | some text => Text.JsonString.quote text
  | none => "\"\\ud800\"".toList

mutual

/-- A value without blanks. -/
def write : Json → List Char
  | null => ['n', 'u', 'l', 'l']
  | bool true => ['t', 'r', 'u', 'e']
  | bool false => ['f', 'a', 'l', 's', 'e']
  | number literal => literal
  | string text => writeString text
  | array elements => '[' :: writeElements elements
  | object members => '\x7b' :: writeMembers members

/-- The elements of an array, with its end. -/
def writeElements : List Json → List Char
  | [] => [']']
  | [element] => write element ++ [']']
  | element :: rest => write element ++ ',' :: writeElements rest

/-- The members of an object, with its end. -/
def writeMembers : List (Option String × Json) → List Char
  | [] => ['\x7d']
  | [(key, value)] => writeString key ++ ':' :: (write value ++ ['\x7d'])
  | (key, value) :: rest => writeString key ++ ':' :: (write value ++ ',' :: writeMembers rest)

end

/-- The text of a document. -/
def render (document : Json) : String := String.ofList document.write

/-! ### Natural numbers -/

/-- The value of a row of digits. -/
def valueOfDigits (digits : List Char) : Nat :=
  digits.foldl (fun value digit => 10 * value + (digit.toNat - '0'.toNat)) 0

/-- The natural number that a literal names, if it is nothing but digits. -/
def natural? : Json → Option Nat
  | number literal => if literal.all Char.isDigit then some (valueOfDigits literal) else none
  | _ => none

/-- The document of a natural number. -/
def ofNat (value : Nat) : Json := .number (Nat.toDigits 10 value)

/-- The document of a text. -/
def ofText (text : String) : Json := .string (some text)

end Json

end StorageClient
