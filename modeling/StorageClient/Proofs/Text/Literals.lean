import StorageClient.Text.Json
import Mathlib.Tactic.SplitIfs
/-!
# StorageClient.Proofs.Text.Literals

String literals. The grammar of a literal is a piece after the other between two quotes
(`Json.StringSpelled`), and the reader takes exactly that: it undoes one piece at a time, whatever
follows (`readPieces_piece`), and ends at the first bare quote.

`Text.JsonString.quote` escapes character by character, and every escape is one way to spell its
character (`spelled_escape`). So literals are read back as they were written. No text can end its
literal early, since only the closing quote is written bare.

The reader is a strict one and knows nothing of this writer: it takes every literal of the grammar,
and gives halves of surrogate pairs as such. The writer never needs a half.
-/

namespace StorageClient

open Text.JsonString

/-! ### Grammar -/

namespace Json

/-- The ways to spell a piece of a literal: as it is, by the name it has after a backslash, or by
its number. -/
inductive Piece.Spelled : Piece → List Char → Prop
  | bare {c : Char} (above : 0x20 ≤ c.toNat) (noQuote : c ≠ '"') (noBackslash : c ≠ '\\') :
      Piece.Spelled (.char c) [c]
  | named {name c : Char} (names : escaped name = some c) : Piece.Spelled (.char c) ['\\', name]
  | numbered {a b c d : Char} {piece : Piece} (numbers : pieceOfHex a b c d = some piece) :
      Piece.Spelled piece ['\\', 'u', a, b, c, d]

/-- Pieces one after the other. -/
inductive PiecesSpelled : List Piece → List Char → Prop
  | nil : PiecesSpelled [] []
  | cons {piece : Piece} {pieces : List Piece} {first rest : List Char}
      (head : piece.Spelled first) (tail : PiecesSpelled pieces rest) :
      PiecesSpelled (piece :: pieces) (first ++ rest)

/-- A string between its quotes. -/
inductive StringSpelled : Option String → List Char → Prop
  | mk {pieces : List Piece} {body : List Char} (spelled : PiecesSpelled pieces body) :
      StringSpelled ((textOfPieces pieces).map String.ofList) ('"' :: (body ++ ['"']))

/-! ### Reading -/

/-- The reader takes exactly the piece that is there, whatever follows. -/
theorem readPieces_piece {piece : Piece} {text : List Char} (spelled : piece.Spelled text)
    (rest : List Char) :
    readPieces (text ++ rest) =
      (readPieces rest).map fun (pieces, rest) => (piece :: pieces, rest) := by
  cases spelled with
  | bare above noQuote noBackslash =>
    rw [List.singleton_append, readPieces]
    · simp only [if_neg (Nat.not_lt.mpr above)]
      cases readPieces rest <;> rfl
    all_goals simp_all
  | @named name c names =>
    have noNumber : name ≠ 'u' := by rintro rfl; simp [escaped] at names
    rw [List.cons_append, List.singleton_append, readPieces]
    · simp only [names, Option.bind_eq_bind, Option.bind_some]
      cases readPieces rest <;> rfl
    · intro _ _ _ _ _ named_u
      exact absurd named_u noNumber
  | numbered numbers =>
    simp only [List.cons_append, List.nil_append, readPieces, numbers]
    cases readPieces rest <;> rfl

theorem readPieces_append {pieces : List Piece} {body : List Char}
    (spelled : PiecesSpelled pieces body) (rest : List Char) :
    readPieces (body ++ '"' :: rest) = some (pieces, rest) := by
  induction spelled with
  | nil => simp [readPieces]
  | cons head tail ih =>
    rw [List.append_assoc, readPieces_piece head, ih]
    rfl

/-- A literal is read right behind its opening quote, and the reader stops right behind its closing
one. -/
theorem readString_append {text : Option String} {literal : List Char}
    (spelled : StringSpelled text literal) (rest : List Char) :
    ∃ body, literal ++ rest = '"' :: body ∧ readString body = some (text, rest) := by
  obtain ⟨pieces⟩ := spelled
  refine ⟨_, rfl, ?_⟩
  simp [readString, readPieces_append pieces]

/-- Whatever the reader takes are pieces and a quote. -/
theorem spelled_of_readPieces {input rest : List Char} {pieces : List Piece}
    (read : readPieces input = some (pieces, rest)) :
    ∃ body, PiecesSpelled pieces body ∧ input = body ++ '"' :: rest := by
  fun_induction readPieces input generalizing pieces with
  | case1 =>
    obtain ⟨rfl, rfl⟩ := read
    exact ⟨[], .nil, rfl⟩
  | case2 a b c d after ih =>
    simp only [Option.bind_eq_bind, Option.bind_eq_some_iff, Option.pure_def, Option.some.injEq,
      Prod.exists, Prod.mk.injEq] at read
    obtain ⟨piece, numbers, others, _, readOthers, rfl, rfl⟩ := read
    obtain ⟨body, spelled, rfl⟩ := ih readOthers
    exact ⟨_, .cons (.numbered numbers) spelled, by simp⟩
  | case3 name after _ ih =>
    simp only [Option.bind_eq_bind, Option.bind_eq_some_iff, Option.pure_def, Option.some.injEq,
      Prod.exists, Prod.mk.injEq] at read
    obtain ⟨c, names, others, _, readOthers, rfl, rfl⟩ := read
    obtain ⟨body, spelled, rfl⟩ := ih readOthers
    exact ⟨_, .cons (.named names) spelled, by simp⟩
  | case4 => simp at read
  | case5 c after noQuote _ noEscape above ih =>
    simp only [Option.bind_eq_bind, Option.bind_eq_some_iff, Option.pure_def, Option.some.injEq,
      Prod.exists, Prod.mk.injEq] at read
    obtain ⟨others, behind, readOthers, rfl, rfl⟩ := read
    obtain ⟨body, spelled, rfl⟩ := ih readOthers
    -- A backslash with something behind it would start an escape.
    have noBackslash : c ≠ '\\' := by
      intro backslash
      obtain ⟨d, more, same⟩ := List.exists_cons_of_ne_nil (l := body ++ '"' :: behind) (by simp)
      exact noEscape d more backslash same
    exact ⟨_, .cons (.bare (Nat.not_lt.mp above) noQuote noBackslash) spelled, by simp⟩
  | case6 => simp at read

theorem spelled_of_readString {input rest : List Char} {text : Option String}
    (read : readString input = some (text, rest)) :
    ∃ literal, StringSpelled text literal ∧ '"' :: input = literal ++ rest := by
  obtain ⟨⟨pieces, _⟩, readPieces, ⟨rfl, rfl⟩⟩ := Option.map_eq_some_iff.mp read
  obtain ⟨body, spelled, rfl⟩ := spelled_of_readPieces readPieces
  exact ⟨_, .mk spelled, by simp⟩

end Json

/-! ### Escapes -/

namespace Text.JsonString

theorem toNat_lt_of_isControl {c : Char} (control : isControl c = true) : c.toNat < 0xa0 := by
  simp only [isControl, Bool.or_eq_true, Bool.and_eq_true, decide_eq_true_eq] at control
  omega

theorem isControl_hexDigit : ∀ n < 16, isControl (hexDigit n) = false := by decide

/-- The three forms of an escape: a backslash and the character that names this one, the number of
a control character, or the character itself. -/
theorem escape_cases (c : Char) :
    (∃ d, isControl d = false ∧ Json.escaped d = some c ∧ escape c = ['\\', d]) ∨
    (isControl c = true ∧ escape c =
      ['\\', 'u', '0', '0', hexDigit (c.toNat / 16), hexDigit (c.toNat % 16)]) ∨
    (isControl c = false ∧ c ≠ '"' ∧ c ≠ '\\' ∧ escape c = [c]) := by
  unfold escape
  split_ifs with quote backslash lineFeed carriageReturn tab control
  · exact .inl ⟨'"', rfl, congrArg some quote.symm, rfl⟩
  · exact .inl ⟨'\\', rfl, congrArg some backslash.symm, rfl⟩
  · exact .inl ⟨'n', rfl, congrArg some lineFeed.symm, rfl⟩
  · exact .inl ⟨'r', rfl, congrArg some carriageReturn.symm, rfl⟩
  · exact .inl ⟨'t', rfl, congrArg some tab.symm, rfl⟩
  · exact .inr (.inl ⟨control, rfl⟩)
  · exact .inr (.inr ⟨by simpa using control, quote, backslash, rfl⟩)

theorem isControl_of_mem_escape {c d : Char} (mem : d ∈ escape c) : isControl d = false := by
  obtain ⟨e, visible, -, form⟩ | ⟨control, form⟩ | ⟨visible, -, -, form⟩ := escape_cases c <;>
    simp only [form, List.mem_cons, List.not_mem_nil, or_false] at mem
  · obtain rfl | rfl := mem
    · rfl
    · exact visible
  · have below := toNat_lt_of_isControl control
    have high := isControl_hexDigit (c.toNat / 16) (by omega)
    have low := isControl_hexDigit (c.toNat % 16) (Nat.mod_lt _ (by decide))
    obtain rfl | rfl | rfl | rfl | rfl | rfl := mem <;> first | assumption | rfl
  · exact mem ▸ visible

theorem isControl_of_mem_quote {text : String} {d : Char} (mem : d ∈ quote text) :
    isControl d = false := by
  simp only [quote, List.mem_cons, List.mem_append, List.mem_flatMap, List.not_mem_nil,
    or_false] at mem
  obtain rfl | ⟨c, -, mem⟩ | rfl := mem
  · rfl
  · exact isControl_of_mem_escape mem
  · rfl

end Text.JsonString

/-! ### Writing -/

namespace Json

theorem hexValue_hexDigit : ∀ n < 16, hexValue (hexDigit n) = some n := by decide

/-- The four digits of a control character name it. -/
theorem pieceOfHex_of_isControl {c : Char} (control : isControl c = true) :
    pieceOfHex '0' '0' (hexDigit (c.toNat / 16)) (hexDigit (c.toNat % 16)) =
      some (.char c) := by
  have below := toNat_lt_of_isControl control
  have zero : hexValue '0' = some 0 := by decide
  have high := hexValue_hexDigit (c.toNat / 16) (by omega)
  have low := hexValue_hexDigit (c.toNat % 16) (Nat.mod_lt _ (by decide))
  have code : ((0 * 16 + 0) * 16 + c.toNat / 16) * 16 + c.toNat % 16 = c.toNat := by omega
  have noHalf : ¬(0xd800 ≤ c.toNat ∧ c.toNat < 0xe000) := by omega
  simp only [pieceOfHex, zero, high, low, Option.bind_eq_bind, Option.bind_some, code,
    if_neg noHalf, Char.ofNat_toNat, Option.pure_def]

/-- The escape of a character spells it. -/
theorem spelled_escape (c : Char) : Piece.Spelled (.char c) (escape c) := by
  obtain ⟨d, -, names, form⟩ | ⟨control, form⟩ | ⟨visible, noQuote, noBackslash, form⟩ :=
    escape_cases c
  · exact form ▸ .named names
  · exact form ▸ .numbered (pieceOfHex_of_isControl control)
  · have above : 0x20 ≤ c.toNat :=
      Nat.not_lt.mp fun below => by simp [isControl, below] at visible
    exact form ▸ .bare above noQuote noBackslash

theorem piecesSpelled_escape (text : List Char) :
    PiecesSpelled (text.map .char) (text.flatMap escape) := by
  induction text with
  | nil => exact .nil
  | cons c text ih => exact .cons (spelled_escape c) ih

theorem textOfPieces_char (text : List Char) : textOfPieces (text.map .char) = some text := by
  induction text with
  | nil => rfl
  | cons c text ih => simp [textOfPieces, ih]

/-- A written literal spells its text. -/
theorem spelled_quote (text : String) : StringSpelled (some text) (quote text) := by
  have spelled := StringSpelled.mk (piecesSpelled_escape text.toList)
  rwa [textOfPieces_char, Option.map_some, String.ofList_toList] at spelled

end Json

end StorageClient
