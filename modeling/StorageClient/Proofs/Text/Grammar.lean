import StorageClient.Proofs.Text.Literals
import StorageClient.Proofs.Text.Numbers
import Mathlib.Data.List.DropRight
/-!
# StorageClient.Proofs.Text.Grammar

Documents and their texts. The grammar (`Json.TextOf`) says which texts a document has, without
saying how they are read. There are many: blanks may stand around every token, and a character of a
string may be spelled in several ways.

* `Json.parse_eq_some_iff`: the reader takes exactly the texts of the grammar, each for the
  document it is a text of. So no text has two documents.
* `Json.textOf_render_keyed`: the writer gives one of the texts of its document.

A text that is there is read by its derivation, one case for each rule, with fuel for twice its
length. What follows it may be anything that does not go on with a number (`Ends`), since a number
alone does not tell where it ends. That nothing else is read goes by the fuel.
-/

namespace StorageClient

namespace Json

/-! ### Grammar -/

/-- Nothing but blanks. -/
def Blanks (text : List Char) : Prop := ∀ c ∈ text, isBlank c = true

mutual

/-- A document, from its first character to its last. -/
inductive Spelled : Json → List Char → Prop
  | null : Spelled .null ['n', 'u', 'l', 'l']
  | yes : Spelled (.bool true) ['t', 'r', 'u', 'e']
  | no : Spelled (.bool false) ['f', 'a', 'l', 's', 'e']
  | number {literal : List Char} (isNumber : Number literal) : Spelled (.number literal) literal
  | string {text : Option String} {literal : List Char} (spelled : StringSpelled text literal) :
      Spelled (.string text) literal
  | emptyArray {blanks : List Char} (blank : Blanks blanks) :
      Spelled (.array []) ('[' :: (blanks ++ [']']))
  | array {elements : List Json} {body : List Char} (spelled : ElementsSpelled elements body) :
      Spelled (.array elements) ('[' :: (body ++ [']']))
  | emptyObject {blanks : List Char} (blank : Blanks blanks) :
      Spelled (.object []) ('\x7b' :: (blanks ++ ['\x7d']))
  | object {members : List (Option String × Json)} {body : List Char}
      (spelled : MembersSpelled members body) :
      Spelled (.object members) ('\x7b' :: (body ++ ['\x7d']))

/-- A document with blanks around it. -/
inductive Padded : Json → List Char → Prop
  | mk {document : Json} {before text after : List Char} (blankBefore : Blanks before)
      (spelled : Spelled document text) (blankAfter : Blanks after) :
      Padded document (before ++ text ++ after)

/-- One or more elements with commas between them. -/
inductive ElementsSpelled : List Json → List Char → Prop
  | last {element : Json} {text : List Char} (spelled : Padded element text) :
      ElementsSpelled [element] text
  | comma {element : Json} {elements : List Json} {first rest : List Char}
      (head : Padded element first) (tail : ElementsSpelled elements rest) :
      ElementsSpelled (element :: elements) (first ++ ',' :: rest)

/-- A key and its value. -/
inductive MemberSpelled : Option String × Json → List Char → Prop
  | mk {key : Option String} {value : Json} {before name after text : List Char}
      (blankBefore : Blanks before) (named : StringSpelled key name) (blankAfter : Blanks after)
      (spelled : Padded value text) :
      MemberSpelled (key, value) (before ++ name ++ after ++ ':' :: text)

/-- One or more members with commas between them. -/
inductive MembersSpelled : List (Option String × Json) → List Char → Prop
  | last {member : Option String × Json} {text : List Char} (spelled : MemberSpelled member text) :
      MembersSpelled [member] text
  | comma {member : Option String × Json} {members : List (Option String × Json)}
      {first rest : List Char} (head : MemberSpelled member first)
      (tail : MembersSpelled members rest) :
      MembersSpelled (member :: members) (first ++ ',' :: rest)

end

/-- A text is one of a document if it is the document with blanks around it. -/
def TextOf (document : Json) (text : String) : Prop := Padded document text.toList

/-! ### Blanks -/

theorem skipBlanks_append {blanks : List Char} (blank : Blanks blanks) (rest : List Char) :
    skipBlanks (blanks ++ rest) = skipBlanks rest :=
  List.dropWhile_append_of_pos blank

theorem skipBlanks_skipBlanks (input : List Char) :
    skipBlanks (skipBlanks input) = skipBlanks input :=
  List.dropWhile_idempotent isBlank input

/-- What is skipped are blanks. -/
theorem exists_blanks (input : List Char) :
    ∃ blanks, Blanks blanks ∧ input = blanks ++ skipBlanks input :=
  ⟨input.takeWhile isBlank, fun _ => List.mem_takeWhile_imp,
    List.takeWhile_append_dropWhile.symm⟩

theorem isBlank_cases {c : Char} (blank : isBlank c = true) :
    c = ' ' ∨ c = '\t' ∨ c = '\n' ∨ c = '\r' := by
  simpa only [isBlank, Bool.or_eq_true, beq_iff_eq, or_assoc] using blank

theorem Ends.blanks {blanks rest : List Char} (blank : Blanks blanks) (ends : Ends rest) :
    Ends (blanks ++ rest) := by
  cases blanks with
  | nil => exact ends
  | cons c others =>
    refine .cons ?_ (others ++ rest)
    obtain rfl | rfl | rfl | rfl := isBlank_cases (blank c (List.mem_cons_self ..)) <;> decide

/-! ### First characters -/

section

variable {document : Json} {elements : List Json} {member : Option String × Json}
  {members : List (Option String × Json)} {text : List Char}

theorem ne_of_starts {c d : Char} (starts : c = '-' ∨ c.isDigit = true)
    (other : d ≠ '-' ∧ d.isDigit = false) : c ≠ d := by
  rintro rfl
  simp [other] at starts

theorem isBlank_of_starts {c : Char} (starts : c = '-' ∨ c.isDigit = true) :
    isBlank c = false := by
  have ne (d : Char) (other : d ≠ '-' ∧ d.isDigit = false) : c ≠ d := ne_of_starts starts other
  simp [isBlank, ne ' ' (by decide), ne '\t' (by decide), ne '\n' (by decide),
    ne '\r' (by decide)]

/-- A document starts with a character that is neither a blank nor the end of an array. -/
theorem Spelled.exists_cons (spelled : Spelled document text) :
    ∃ c rest, text = c :: rest ∧ isBlank c = false ∧ c ≠ ']' := by
  cases spelled with
  | number isNumber =>
    obtain ⟨c, rest, rfl, starts⟩ := isNumber.exists_cons
    exact ⟨c, rest, rfl, isBlank_of_starts starts, ne_of_starts starts (by decide)⟩
  | string spelled =>
    cases spelled
    exact ⟨_, _, rfl, by decide⟩
  | _ => exact ⟨_, _, rfl, by decide⟩

theorem Padded.skipBlanks (spelled : Padded document text) (rest : List Char) :
    ∃ c others, skipBlanks (text ++ rest) = c :: others ∧ c ≠ ']' := by
  obtain ⟨blankBefore, spelled, -⟩ := spelled
  obtain ⟨c, others, rfl, solid, noEnd⟩ := spelled.exists_cons
  rw [List.append_assoc, List.append_assoc, skipBlanks_append blankBefore, List.cons_append,
    skipBlanks_cons solid]
  exact ⟨c, _, rfl, noEnd⟩

theorem ElementsSpelled.skipBlanks (spelled : ElementsSpelled elements text) (rest : List Char) :
    ∃ c others, skipBlanks (text ++ rest) = c :: others ∧ c ≠ ']' := by
  cases spelled with
  | last spelled => exact spelled.skipBlanks rest
  | comma head tail =>
    rw [List.append_assoc]
    exact head.skipBlanks _

theorem MemberSpelled.skipBlanks (spelled : MemberSpelled member text) (rest : List Char) :
    ∃ others, skipBlanks (text ++ rest) = '"' :: others := by
  obtain ⟨blankBefore, ⟨pieces⟩, -, -⟩ := spelled
  simp only [List.append_assoc, skipBlanks_append blankBefore, List.cons_append,
    skipBlanks_cons (show isBlank '"' = false from rfl)]
  exact ⟨_, rfl⟩

theorem MembersSpelled.skipBlanks (spelled : MembersSpelled members text) (rest : List Char) :
    ∃ others, skipBlanks (text ++ rest) = '"' :: others := by
  cases spelled with
  | last spelled => exact spelled.skipBlanks rest
  | comma head tail =>
    rw [List.append_assoc]
    exact head.skipBlanks _

end

/-! ### Values -/

theorem readValue_of_starts (fuel : Nat) {c : Char} (starts : c = '-' ∨ c.isDigit = true)
    (rest : List Char) :
    readValue (fuel + 1) (c :: rest) =
      (readNumber (c :: rest)).map fun (literal, rest) => (.number literal, rest) := by
  rw [readValue, skipBlanks_cons (isBlank_of_starts starts)]
  split
  case h_7 => rfl
  all_goals
    rename_i same
    exact absurd (List.cons.inj same).1 (ne_of_starts starts (by decide))

theorem readValue_skipBlanks (fuel : Nat) (input : List Char) :
    readValue fuel (skipBlanks input) = readValue fuel input := by
  cases fuel with
  | zero => rfl
  | succ fuel => rw [readValue, readValue, skipBlanks_skipBlanks]

theorem readElements_skipBlanks (fuel : Nat) (input : List Char) :
    readElements fuel (skipBlanks input) = readElements fuel input := by
  cases fuel with
  | zero => rfl
  | succ fuel => rw [readElements, readElements, readValue_skipBlanks]

theorem readMembers_skipBlanks (fuel : Nat) (input : List Char) :
    readMembers fuel (skipBlanks input) = readMembers fuel input := by
  cases fuel with
  | zero => rfl
  | succ fuel => rw [readMembers, readMembers, skipBlanks_skipBlanks]

/-! ### Reading a document that is there -/

mutual

theorem Spelled.read {document : Json} {text : List Char} : Spelled document text →
    ∀ (fuel : Nat) (rest : List Char), 2 * text.length ≤ fuel + 1 → Ends rest →
      readValue (fuel + 1) (text ++ rest) = some (document, rest)
  | .null, fuel, rest, _, _ => by
    simp [readValue, skipBlanks_cons, isBlank, expect]
  | .yes, fuel, rest, _, _ => by
    simp [readValue, skipBlanks_cons, isBlank, expect]
  | .no, fuel, rest, _, _ => by
    simp [readValue, skipBlanks_cons, isBlank, expect]
  | .number isNumber, fuel, rest, _, ends => by
    have read := readNumber_append isNumber ends
    obtain ⟨c, others, rfl, starts⟩ := isNumber.exists_cons
    rw [List.cons_append] at read ⊢
    rw [readValue_of_starts fuel starts, read]
    rfl
  | .string spelled, fuel, rest, _, _ => by
    obtain ⟨after, same, read⟩ := readString_append spelled rest
    rw [same, readValue, skipBlanks_cons rfl]
    simp only [read, Option.map_some]
  | .emptyArray blank, fuel, rest, _, _ => by
    simp [readValue, skipBlanks_cons, isBlank, skipBlanks_append blank]
  | .array spelled, fuel, rest, enough, _ => by
    simp only [List.length_cons, List.length_append] at enough
    obtain ⟨fuel, rfl⟩ : ∃ less, fuel = less + 2 := ⟨fuel - 2, by omega⟩
    have read := spelled.read fuel rest (by omega)
    obtain ⟨c, others, skipped, noEnd⟩ := spelled.skipBlanks (']' :: rest)
    rw [← readElements_skipBlanks, skipped] at read
    simp only [List.cons_append, List.append_assoc, List.nil_append]
    rw [readValue, skipBlanks_cons rfl]
    simp only [skipped]
    -- The first element does not start like the end of an array, so the array is not empty.
    split
    · rename_i same
      exact absurd (List.cons.inj same).1 noEnd
    · simp only [read, Option.map_some]
  | .emptyObject blank, fuel, rest, _, _ => by
    simp [readValue, skipBlanks_cons, isBlank, skipBlanks_append blank]
  | .object spelled, fuel, rest, enough, _ => by
    simp only [List.length_cons, List.length_append] at enough
    obtain ⟨fuel, rfl⟩ : ∃ less, fuel = less + 2 := ⟨fuel - 2, by omega⟩
    have read := spelled.read fuel rest (by omega)
    obtain ⟨others, skipped⟩ := spelled.skipBlanks ('\x7d' :: rest)
    rw [← readMembers_skipBlanks, skipped] at read
    simp only [List.cons_append, List.append_assoc, List.nil_append]
    rw [readValue, skipBlanks_cons rfl]
    simp only [skipped]
    exact congrArg (Option.map fun (members, rest) => (object members, rest)) read

/-- The blanks behind a document are left to whoever asked for it. -/
theorem Padded.read {document : Json} {text : List Char} : Padded document text →
    ∀ (fuel : Nat) (rest : List Char), 2 * text.length ≤ fuel + 1 → Ends rest →
      ∃ blanks, Blanks blanks ∧
        readValue (fuel + 1) (text ++ rest) = some (document, blanks ++ rest)
  | .mk blankBefore spelled blankAfter, fuel, rest, enough, ends => by
    refine ⟨_, blankAfter, ?_⟩
    simp only [List.length_append] at enough
    rw [← readValue_skipBlanks, List.append_assoc, List.append_assoc,
      skipBlanks_append blankBefore, readValue_skipBlanks]
    exact spelled.read fuel _ (by omega) (ends.blanks blankAfter)

theorem ElementsSpelled.read {elements : List Json} {text : List Char} :
    ElementsSpelled elements text →
    ∀ (fuel : Nat) (rest : List Char), 2 * text.length ≤ fuel + 1 →
      readElements (fuel + 2) (text ++ ']' :: rest) = some (elements, rest)
  | .last spelled, fuel, rest, enough => by
    obtain ⟨blanks, blank, read⟩ :=
      spelled.read fuel (']' :: rest) enough (.cons (by decide) rest)
    rw [readElements, read]
    simp [skipBlanks_append blank, skipBlanks_cons, isBlank]
  | @ElementsSpelled.comma _ _ _ others head tail, fuel, rest, enough => by
    simp only [List.length_append, List.length_cons] at enough
    obtain ⟨fuel, rfl⟩ : ∃ less, fuel = less + 1 := ⟨fuel - 1, by omega⟩
    obtain ⟨blanks, blank, readHead⟩ :=
      head.read (fuel + 1) (',' :: (others ++ ']' :: rest)) (by omega) (.cons (by decide) _)
    have readTail := tail.read fuel rest (by omega)
    rw [List.append_assoc, List.cons_append, readElements, readHead]
    simp [skipBlanks_append blank, skipBlanks_cons, isBlank, readTail]

/-- What the reader does behind a member. -/
theorem MemberSpelled.read {member : Option String × Json} {text : List Char} :
    MemberSpelled member text →
    ∀ (fuel : Nat) (rest : List Char), 2 * text.length ≤ fuel + 1 → Ends rest →
      readMembers (fuel + 2) (text ++ rest) =
        match skipBlanks rest with
        | '\x7d' :: rest => some ([member], rest)
        | ',' :: rest => do
          let (members, rest) ← readMembers (fuel + 1) rest
          return (member :: members, rest)
        | _ => none
  | @MemberSpelled.mk _ _ _ _ after text blankBefore named blankAfter spelled,
      fuel, rest, enough, ends => by
    simp only [List.length_append, List.length_cons] at enough
    obtain ⟨blanks, blank, read⟩ := spelled.read fuel rest (by omega) ends
    obtain ⟨afterName, same, readName⟩ :=
      readString_append named (after ++ ':' :: (text ++ rest))
    rw [readMembers]
    simp only [List.append_assoc, List.cons_append, skipBlanks_append blankBefore, same,
      skipBlanks_cons (show isBlank '"' = false from rfl), readName,
      skipBlanks_append blankAfter, skipBlanks_cons (show isBlank ':' = false from rfl), read,
      skipBlanks_append blank, Option.bind_eq_bind, Option.bind_some]
    rfl

theorem MembersSpelled.read {members : List (Option String × Json)} {text : List Char} :
    MembersSpelled members text →
    ∀ (fuel : Nat) (rest : List Char), 2 * text.length ≤ fuel + 1 →
      readMembers (fuel + 2) (text ++ '\x7d' :: rest) = some (members, rest)
  | .last spelled, fuel, rest, enough => by
    rw [spelled.read fuel _ enough (.cons (by decide) rest), skipBlanks_cons rfl]
    rfl
  | .comma head tail, fuel, rest, enough => by
    simp only [List.length_append, List.length_cons] at enough
    obtain ⟨fuel, rfl⟩ : ∃ less, fuel = less + 1 := ⟨fuel - 1, by omega⟩
    have readTail := tail.read fuel rest (by omega)
    rw [List.append_assoc, List.cons_append,
      head.read (fuel + 1) _ (by omega) (.cons (by decide) _), skipBlanks_cons rfl]
    simp [readTail]

end

/-! ### Reading nothing else -/

theorem eq_of_expect {word input rest : List Char} (found : expect word input = some rest) :
    input = word ++ rest := by
  induction word generalizing input with
  | nil => exact Option.some.inj found
  | cons c word ih =>
    cases input with
    | nil => simp [expect] at found
    | cons d input =>
      simp only [expect, Option.ite_none_right_eq_some] at found
      obtain ⟨rfl, found⟩ := found
      rw [ih found, List.cons_append]

/-- Before what is not skipped stand blanks. -/
theorem exists_of_skipBlanks {input rest : List Char} {c : Char}
    (skipped : skipBlanks input = c :: rest) :
    ∃ blanks, Blanks blanks ∧ input = blanks ++ c :: rest := by
  obtain ⟨blanks, blank, same⟩ := exists_blanks input
  exact ⟨blanks, blank, skipped ▸ same⟩

/-
By induction on the fuel. The reader of a value skips the blanks before it and leaves those behind
it, so these are found where the next token is asked for (`exists_of_skipBlanks`).
-/

mutual

theorem spelled_of_readValue {fuel : Nat} {input rest : List Char} {document : Json}
    (read : readValue fuel input = some (document, rest)) :
    ∃ blanks text, Blanks blanks ∧ Spelled document text ∧ input = blanks ++ (text ++ rest) := by
  cases fuel with
  | zero => simp [readValue] at read
  | succ fuel =>
    obtain ⟨blanks, blank, same⟩ := exists_blanks input
    suffices ∃ text, Spelled document text ∧ skipBlanks input = text ++ rest by
      obtain ⟨text, spelled, skipped⟩ := this
      exact ⟨blanks, text, blank, spelled, skipped ▸ same⟩
    rw [readValue] at read
    split at read
    -- A string.
    case h_1 skipped =>
      obtain ⟨⟨text, _⟩, readString, ⟨rfl, rfl⟩⟩ := Option.map_eq_some_iff.mp read
      obtain ⟨literal, spelled, same⟩ := spelled_of_readString readString
      exact ⟨literal, .string spelled, skipped.trans same⟩
    -- An array.
    case h_2 after skipped =>
      split at read
      case h_1 ended =>
        obtain ⟨rfl, rfl⟩ := read
        obtain ⟨inside, blank, rfl⟩ := exists_of_skipBlanks ended
        exact ⟨_, .emptyArray blank, by simp [skipped]⟩
      case h_2 =>
        obtain ⟨⟨elements, _⟩, readElements, ⟨rfl, rfl⟩⟩ := Option.map_eq_some_iff.mp read
        rw [readElements_skipBlanks] at readElements
        obtain ⟨body, spelled, rfl⟩ := spelled_of_readElements readElements
        exact ⟨_, .array spelled, by simp [skipped]⟩
    -- An object.
    case h_3 after skipped =>
      split at read
      case h_1 ended =>
        obtain ⟨rfl, rfl⟩ := read
        obtain ⟨inside, blank, rfl⟩ := exists_of_skipBlanks ended
        exact ⟨_, .emptyObject blank, by simp [skipped]⟩
      case h_2 =>
        obtain ⟨⟨members, _⟩, readMembers, ⟨rfl, rfl⟩⟩ := Option.map_eq_some_iff.mp read
        rw [readMembers_skipBlanks] at readMembers
        obtain ⟨body, spelled, rfl⟩ := spelled_of_readMembers readMembers
        exact ⟨_, .object spelled, by simp [skipped]⟩
    -- One of the three words.
    case h_4 skipped =>
      obtain ⟨_, found, ⟨rfl, rfl⟩⟩ := Option.map_eq_some_iff.mp read
      exact ⟨_, .null, by rw [skipped, eq_of_expect found]; rfl⟩
    case h_5 skipped =>
      obtain ⟨_, found, ⟨rfl, rfl⟩⟩ := Option.map_eq_some_iff.mp read
      exact ⟨_, .yes, by rw [skipped, eq_of_expect found]; rfl⟩
    case h_6 skipped =>
      obtain ⟨_, found, ⟨rfl, rfl⟩⟩ := Option.map_eq_some_iff.mp read
      exact ⟨_, .no, by rw [skipped, eq_of_expect found]; rfl⟩
    -- A number.
    case h_7 =>
      obtain ⟨⟨literal, _⟩, readNumber, ⟨rfl, rfl⟩⟩ := Option.map_eq_some_iff.mp read
      obtain ⟨number, same⟩ := number_of_readNumber readNumber
      exact ⟨literal, .number number, same⟩

theorem spelled_of_readElements {fuel : Nat} {input rest : List Char} {elements : List Json}
    (read : readElements fuel input = some (elements, rest)) :
    ∃ text, ElementsSpelled elements text ∧ input = text ++ ']' :: rest := by
  cases fuel with
  | zero => simp [readElements] at read
  | succ fuel =>
    rw [readElements] at read
    simp only [Option.bind_eq_bind, Option.bind_eq_some_iff, Prod.exists] at read
    obtain ⟨element, after, readElement, read⟩ := read
    obtain ⟨before, text, blank, spelled, rfl⟩ := spelled_of_readValue readElement
    split at read
    case h_1 skipped =>
      obtain ⟨rfl, rfl⟩ := read
      obtain ⟨behind, blankBehind, rfl⟩ := exists_of_skipBlanks skipped
      exact ⟨_, .last (.mk blank spelled blankBehind), by simp⟩
    case h_2 skipped =>
      obtain ⟨behind, blankBehind, rfl⟩ := exists_of_skipBlanks skipped
      simp only [Option.pure_def, Option.bind_eq_some_iff, Option.some.injEq, Prod.exists,
        Prod.mk.injEq] at read
      obtain ⟨elements, _, readOthers, rfl, rfl⟩ := read
      obtain ⟨others, spelledOthers, rfl⟩ := spelled_of_readElements readOthers
      exact ⟨_, .comma (.mk blank spelled blankBehind) spelledOthers, by simp⟩
    case h_3 => simp at read

theorem spelled_of_readMembers {fuel : Nat} {input rest : List Char}
    {members : List (Option String × Json)}
    (read : readMembers fuel input = some (members, rest)) :
    ∃ text, MembersSpelled members text ∧ input = text ++ '\x7d' :: rest := by
  cases fuel with
  | zero => simp [readMembers] at read
  | succ fuel =>
    rw [readMembers] at read
    split at read
    case h_2 => simp at read
    case h_1 skipped =>
      obtain ⟨before, blankBefore, rfl⟩ := exists_of_skipBlanks skipped
      simp only [Option.bind_eq_bind, Option.bind_eq_some_iff, Prod.exists] at read
      obtain ⟨key, afterKey, readKey, read⟩ := read
      obtain ⟨name, named, same⟩ := spelled_of_readString readKey
      split at read
      case h_2 => simp at read
      case h_1 colon =>
        obtain ⟨between, blankBetween, rfl⟩ := exists_of_skipBlanks colon
        simp only [Option.bind_eq_some_iff, Prod.exists] at read
        obtain ⟨value, afterValue, readValue, read⟩ := read
        obtain ⟨blanks, text, blank, spelled, rfl⟩ := spelled_of_readValue readValue
        split at read
        case h_1 ended =>
          obtain ⟨rfl, rfl⟩ := read
          obtain ⟨behind, blankBehind, rfl⟩ := exists_of_skipBlanks ended
          exact ⟨_, .last (.mk blankBefore named blankBetween (.mk blank spelled blankBehind)),
            by simp [same]⟩
        case h_2 comma =>
          obtain ⟨behind, blankBehind, rfl⟩ := exists_of_skipBlanks comma
          simp only [Option.pure_def, Option.bind_eq_some_iff, Option.some.injEq, Prod.exists,
            Prod.mk.injEq] at read
          obtain ⟨members, _, readOthers, rfl, rfl⟩ := read
          obtain ⟨others, spelledOthers, rfl⟩ := spelled_of_readMembers readOthers
          exact ⟨_, .comma (.mk blankBefore named blankBetween (.mk blank spelled blankBehind))
            spelledOthers, by simp [same]⟩
        case h_3 => simp at read

end

/-- The reader takes exactly the texts of the grammar. -/
theorem parse_eq_some_iff {text : String} {document : Json} :
    parse text = some document ↔ TextOf document text := by
  constructor
  · intro read
    simp only [parse] at read
    split at read
    case h_2 => simp at read
    case h_1 value rest readValue =>
      obtain ⟨blanks, body, blank, spelled, same⟩ := spelled_of_readValue readValue
      split at read
      case isFalse => simp at read
      case isTrue ended =>
        obtain rfl := Option.some.inj read
        obtain ⟨behind, blankBehind, parts⟩ := exists_blanks rest
        rw [List.isEmpty_iff.mp ended, List.append_nil] at parts
        rw [TextOf, same, parts, ← List.append_assoc]
        exact .mk blank spelled blankBehind
  · intro spelled
    obtain ⟨behind, blankBehind, read⟩ :=
      spelled.read (2 * text.toList.length + 1) [] (by omega) (by rintro _ ⟨⟩)
    rw [List.append_nil, List.append_nil] at read
    have ended : skipBlanks behind = [] := List.dropWhile_eq_nil_iff.mpr blankBehind
    simp [parse, read, ended]

/-! ### Writing -/

theorem blanks_nil : Blanks [] := fun _ mem => absurd mem List.not_mem_nil

theorem Spelled.padded {document : Json} {text : List Char} (spelled : Spelled document text) :
    Padded document text := by
  have padded := Padded.mk blanks_nil spelled blanks_nil
  rwa [List.nil_append, List.append_nil] at padded

/-- Members whose keys are texts. -/
def keyed (members : List (String × Json)) : List (Option String × Json) :=
  members.map fun member => (some member.1, member.2)

theorem writeString_some (text : String) : writeString (some text) = Text.JsonString.quote text :=
  rfl

theorem memberSpelled_write {member : String × Json}
    (spelled : Spelled member.2 member.2.write) :
    MemberSpelled (some member.1, member.2)
      (writeString (some member.1) ++ ':' :: member.2.write) := by
  have name := spelled_quote member.1
  have whole := MemberSpelled.mk blanks_nil name blanks_nil spelled.padded
  rwa [List.nil_append, List.append_nil, ← writeString_some] at whole

/-- Members are written as one of their texts if their values are. -/
theorem membersSpelled_write {first : String × Json} {others : List (String × Json)}
    (spelled : ∀ member ∈ first :: others, Spelled member.2 member.2.write) :
    ∃ body, MembersSpelled (keyed (first :: others)) body ∧
      writeMembers (keyed (first :: others)) = body ++ ['\x7d'] := by
  induction others generalizing first with
  | nil =>
    have head := memberSpelled_write (spelled first (List.mem_cons_self ..))
    exact ⟨_, .last head, by simp [keyed, writeMembers]⟩
  | cons second others ih =>
    have head := memberSpelled_write (spelled first (List.mem_cons_self ..))
    obtain ⟨body, tail, same⟩ := ih fun member mem => spelled member (.tail _ mem)
    refine ⟨_, .comma head tail, ?_⟩
    simp only [keyed, List.map_cons] at same ⊢
    simp [writeMembers, same]

/-- An object is written as one of its texts if its values are. -/
theorem textOf_render_keyed {members : List (String × Json)}
    (spelled : ∀ member ∈ members, Spelled member.2 member.2.write) :
    TextOf (.object (keyed members)) (render (.object (keyed members))) := by
  have whole : Spelled (.object (keyed members)) (write (.object (keyed members))) := by
    cases members with
    | nil => exact .emptyObject blanks_nil
    | cons first others =>
      obtain ⟨body, all, same⟩ := membersSpelled_write spelled
      rw [write, same]
      exact .object all
  rw [TextOf, render, String.toList_ofList]
  exact whole.padded

end Json

end StorageClient
