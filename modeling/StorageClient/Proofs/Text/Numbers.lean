import StorageClient.Text.Json
import Mathlib.Data.List.TakeWhile
/-!
# StorageClient.Proofs.Text.Numbers

Number literals. The grammar of a number is a sign, a whole part, a fraction and an exponent, one
after the other; `Json.readNumber` takes each part as far as it goes. So it reads every literal of
the grammar, provided that the text behind it could not go on with the number (`Ends`), and it
takes nothing but literals of the grammar.

A natural number is written with the digits of its value, and these have it for their value.
-/

namespace StorageClient

namespace Json

/-! ### Grammar -/

/-- One or more digits. -/
structure Digits (text : List Char) : Prop where
  ne_nil : text ≠ []
  isDigit : ∀ c ∈ text, c.isDigit = true

/-- A whole part: zero, or digits that do not start with zero. -/
inductive Whole : List Char → Prop
  | zero : Whole ['0']
  | digits {text : List Char} (digits : Digits text) (noZero : text.head? ≠ some '0') : Whole text

/-- A fraction, or none. -/
inductive Fraction : List Char → Prop
  | nil : Fraction []
  | point {digits : List Char} (after : Digits digits) : Fraction ('.' :: digits)

/-- An exponent, or none. -/
inductive Exponent : List Char → Prop
  | nil : Exponent []
  | mark {mark : Char} {sign digits : List Char} (isMark : mark = 'e' ∨ mark = 'E')
      (isSign : sign = [] ∨ sign = ['+'] ∨ sign = ['-']) (after : Digits digits) :
      Exponent (mark :: sign ++ digits)

/-- A number without a sign. -/
inductive Unsigned : List Char → Prop
  | mk {whole fraction exponent : List Char} (isWhole : Whole whole)
      (isFraction : Fraction fraction) (isExponent : Exponent exponent) :
      Unsigned (whole ++ fraction ++ exponent)

/-- A number. -/
inductive Number : List Char → Prop
  | positive {literal : List Char} (unsigned : Unsigned literal) : Number literal
  | negative {literal : List Char} (unsigned : Unsigned literal) : Number ('-' :: literal)

/-- A text that does not go on with digits. -/
def EndsDigits (rest : List Char) : Prop := ∀ c ∈ rest.head?, c.isDigit = false

/-- A text that does not go on with a number. -/
def Ends (rest : List Char) : Prop :=
  ∀ c ∈ rest.head?, c.isDigit = false ∧ c ≠ '.' ∧ c ≠ 'e' ∧ c ≠ 'E'

theorem Ends.cons {c : Char} (noNumber : c.isDigit = false ∧ c ≠ '.' ∧ c ≠ 'e' ∧ c ≠ 'E')
    (rest : List Char) : Ends (c :: rest) := by
  rintro _ ⟨⟩
  exact noNumber

theorem Ends.endsDigits {rest : List Char} (ends : Ends rest) : EndsDigits rest :=
  fun c head => (ends c head).1

/-! ### Reading a number that is there -/

theorem readDigits_append {digits rest : List Char} (isDigits : Digits digits)
    (ends : EndsDigits rest) : readDigits (digits ++ rest) = some (digits, rest) := by
  have taken : (digits ++ rest).takeWhile Char.isDigit = digits := by
    rw [List.takeWhile_append_of_pos isDigits.isDigit]
    cases rest with
    | nil => simp
    | cons c rest => simp [List.takeWhile, ends c rfl]
  have dropped : (digits ++ rest).dropWhile Char.isDigit = rest := by
    rw [List.dropWhile_append_of_pos isDigits.isDigit]
    cases rest with
    | nil => rfl
    | cons c rest => simp [List.dropWhile, ends c rfl]
  rw [readDigits, taken, dropped]
  split
  · exact absurd rfl isDigits.ne_nil
  · rfl

theorem Digits.exists_cons {digits : List Char} (isDigits : Digits digits) :
    ∃ c rest, digits = c :: rest ∧ c.isDigit = true := by
  cases digits with
  | nil => exact absurd rfl isDigits.ne_nil
  | cons c rest => exact ⟨c, rest, rfl, isDigits.isDigit c (List.mem_cons_self ..)⟩

theorem readWhole_append {whole rest : List Char} (isWhole : Whole whole)
    (ends : EndsDigits rest) : readWhole (whole ++ rest) = some (whole, rest) := by
  cases isWhole with
  | zero => rfl
  | digits isDigits noZero =>
    obtain ⟨c, others, rfl, -⟩ := isDigits.exists_cons
    rw [List.cons_append, readWhole]
    · exact readDigits_append isDigits ends
    · rintro _ ⟨rfl, -⟩
      exact noZero rfl

theorem readFraction_append {fraction rest : List Char} (isFraction : Fraction fraction)
    (ends : EndsDigits rest) (noPoint : ∀ c ∈ rest.head?, c ≠ '.') :
    readFraction (fraction ++ rest) = some (fraction, rest) := by
  cases isFraction with
  | nil =>
    rw [List.nil_append, readFraction]
    rintro _ rfl
    exact noPoint '.' rfl rfl
  | point after => simp [readFraction, readDigits_append after ends]

theorem readSign_append {sign digits : List Char} (rest : List Char)
    (isSign : sign = [] ∨ sign = ['+'] ∨ sign = ['-']) (after : Digits digits) :
    readSign (sign ++ (digits ++ rest)) = (sign, digits ++ rest) := by
  obtain rfl | rfl | rfl := isSign
  · obtain ⟨c, others, rfl, digit⟩ := after.exists_cons
    rw [List.nil_append, readSign]
    · rintro _ ⟨rfl, -⟩
      exact absurd digit (by decide)
    · rintro _ ⟨rfl, -⟩
      exact absurd digit (by decide)
  · rfl
  · rfl

theorem readExponent_append {exponent rest : List Char} (isExponent : Exponent exponent)
    (ends : Ends rest) : readExponent (exponent ++ rest) = some (exponent, rest) := by
  cases isExponent with
  | nil =>
    cases rest with
    | nil => rfl
    | cons c rest =>
      obtain ⟨-, -, noSmall, noCapital⟩ := ends c rfl
      simp [readExponent, noSmall, noCapital]
  | mark isMark isSign after =>
    simp only [List.cons_append, List.append_assoc, readExponent, if_pos isMark,
      readSign_append rest isSign after, readDigits_append after ends.endsDigits, Option.map_some]

/-- What may stand behind the whole part of a number: a fraction, an exponent, or its end. -/
theorem endsDigits_exponent {exponent rest : List Char} (isExponent : Exponent exponent)
    (ends : Ends rest) :
    EndsDigits (exponent ++ rest) ∧ ∀ c ∈ (exponent ++ rest).head?, c ≠ '.' := by
  cases isExponent with
  | nil => exact ⟨ends.endsDigits, fun c head => (ends c head).2.1⟩
  | mark isMark isSign after =>
    constructor
    · rintro c ⟨⟩
      obtain rfl | rfl := isMark <;> decide
    · rintro c ⟨⟩
      obtain rfl | rfl := isMark <;> decide

theorem endsDigits_fraction {fraction rest : List Char} (isFraction : Fraction fraction)
    (ends : EndsDigits rest) : EndsDigits (fraction ++ rest) := by
  cases isFraction with
  | nil => exact ends
  | point after => rintro c ⟨⟩; decide

theorem readUnsigned_append {literal rest : List Char} (unsigned : Unsigned literal)
    (ends : Ends rest) : readUnsigned (literal ++ rest) = some (literal, rest) := by
  obtain ⟨isWhole, isFraction, isExponent⟩ := unsigned
  obtain ⟨noDigit, noPoint⟩ := endsDigits_exponent isExponent ends
  simp [readUnsigned, List.append_assoc, readWhole_append isWhole
    (endsDigits_fraction isFraction noDigit), readFraction_append isFraction noDigit noPoint,
    readExponent_append isExponent ends]

theorem Unsigned.exists_cons {literal : List Char} (unsigned : Unsigned literal) :
    ∃ c rest, literal = c :: rest ∧ c.isDigit = true := by
  obtain ⟨isWhole, -, -⟩ := unsigned
  cases isWhole with
  | zero => exact ⟨'0', _, rfl, rfl⟩
  | digits isDigits noZero =>
    obtain ⟨c, rest, rfl, digit⟩ := isDigits.exists_cons
    exact ⟨c, _, rfl, digit⟩

/-- A number starts with its sign or a digit. -/
theorem Number.exists_cons {literal : List Char} (number : Number literal) :
    ∃ c rest, literal = c :: rest ∧ (c = '-' ∨ c.isDigit = true) := by
  cases number with
  | positive unsigned =>
    obtain ⟨c, rest, rfl, digit⟩ := unsigned.exists_cons
    exact ⟨c, rest, rfl, .inr digit⟩
  | negative unsigned => exact ⟨'-', _, rfl, .inl rfl⟩

/-- The reader takes exactly a number that is there, if the text behind it does not go on with
it. -/
theorem readNumber_append {literal rest : List Char} (number : Number literal)
    (ends : Ends rest) : readNumber (literal ++ rest) = some (literal, rest) := by
  cases number with
  | positive unsigned =>
    obtain ⟨c, others, rfl, digit⟩ := unsigned.exists_cons
    rw [List.cons_append, readNumber]
    · exact readUnsigned_append unsigned ends
    · rintro _ ⟨rfl, -⟩
      exact absurd digit (by decide)
  | negative unsigned => simp [readNumber, readUnsigned_append unsigned ends]

/-! ### Reading nothing else -/

theorem digits_of_readDigits {input digits rest : List Char}
    (read : readDigits input = some (digits, rest)) : Digits digits ∧ input = digits ++ rest := by
  unfold readDigits at read
  split at read
  · simp at read
  · rename_i noNil
    obtain ⟨rfl, rfl⟩ := read
    exact ⟨⟨noNil, fun c => List.mem_takeWhile_imp⟩, List.takeWhile_append_dropWhile.symm⟩

theorem whole_of_readWhole {input whole rest : List Char}
    (read : readWhole input = some (whole, rest)) : Whole whole ∧ input = whole ++ rest := by
  unfold readWhole at read
  split at read
  · obtain ⟨rfl, rfl⟩ := read
    exact ⟨.zero, rfl⟩
  · rename_i noZero
    obtain ⟨isDigits, rfl⟩ := digits_of_readDigits read
    refine ⟨.digits isDigits fun zero => ?_, rfl⟩
    obtain ⟨c, others, rfl, -⟩ := isDigits.exists_cons
    obtain rfl : c = '0' := Option.some.inj zero
    exact noZero _ rfl

theorem fraction_of_readFraction {input fraction rest : List Char}
    (read : readFraction input = some (fraction, rest)) :
    Fraction fraction ∧ input = fraction ++ rest := by
  unfold readFraction at read
  split at read
  · obtain ⟨⟨digits, _⟩, read, ⟨rfl, rfl⟩⟩ := Option.map_eq_some_iff.mp read
    obtain ⟨after, rfl⟩ := digits_of_readDigits read
    exact ⟨.point after, rfl⟩
  · obtain ⟨rfl, rfl⟩ := read
    exact ⟨.nil, rfl⟩

theorem sign_of_readSign (input : List Char) :
    ((readSign input).1 = [] ∨ (readSign input).1 = ['+'] ∨ (readSign input).1 = ['-']) ∧
      input = (readSign input).1 ++ (readSign input).2 := by
  unfold readSign
  split <;> simp

theorem exponent_of_readExponent {input exponent rest : List Char}
    (read : readExponent input = some (exponent, rest)) :
    Exponent exponent ∧ input = exponent ++ rest := by
  cases input with
  | nil =>
    obtain ⟨rfl, rfl⟩ := read
    exact ⟨.nil, rfl⟩
  | cons c input =>
    simp only [readExponent] at read
    split at read
    · rename_i isMark
      obtain ⟨⟨digits, _⟩, readDigits, ⟨rfl, rfl⟩⟩ := Option.map_eq_some_iff.mp read
      obtain ⟨isSign, parts⟩ := sign_of_readSign input
      obtain ⟨after, same⟩ := digits_of_readDigits readDigits
      refine ⟨.mark isMark isSign after, ?_⟩
      calc c :: input = c :: ((readSign input).1 ++ (readSign input).2) :=
            congrArg (c :: ·) parts
        _ = c :: (readSign input).1 ++ digits ++ _ := by rw [same]; simp
    · obtain ⟨rfl, rfl⟩ := read
      exact ⟨.nil, rfl⟩

theorem unsigned_of_readUnsigned {input literal rest : List Char}
    (read : readUnsigned input = some (literal, rest)) :
    Unsigned literal ∧ input = literal ++ rest := by
  simp only [readUnsigned, Option.bind_eq_bind, Option.bind_eq_some_iff, Option.pure_def,
    Option.some.injEq, Prod.exists, Prod.mk.injEq] at read
  obtain ⟨whole, _, readWhole, fraction, _, readFraction, exponent, _, readExponent, rfl, rfl⟩ :=
    read
  obtain ⟨isWhole, rfl⟩ := whole_of_readWhole readWhole
  obtain ⟨isFraction, rfl⟩ := fraction_of_readFraction readFraction
  obtain ⟨isExponent, rfl⟩ := exponent_of_readExponent readExponent
  exact ⟨.mk isWhole isFraction isExponent, by simp⟩

/-- Whatever the reader takes is a number. -/
theorem number_of_readNumber {input literal rest : List Char}
    (read : readNumber input = some (literal, rest)) :
    Number literal ∧ input = literal ++ rest := by
  unfold readNumber at read
  split at read
  · obtain ⟨⟨_, _⟩, readUnsigned, ⟨rfl, rfl⟩⟩ := Option.map_eq_some_iff.mp read
    obtain ⟨unsigned, rfl⟩ := unsigned_of_readUnsigned readUnsigned
    exact ⟨.negative unsigned, rfl⟩
  · obtain ⟨unsigned, rfl⟩ := unsigned_of_readUnsigned read
    exact ⟨.positive unsigned, rfl⟩

/-! ### Natural numbers -/

theorem digits_toDigits (n : Nat) : Digits (Nat.toDigits 10 n) :=
  ⟨Nat.toDigits_ne_nil, fun _ => Nat.isDigit_of_mem_toDigits (by decide) (by decide)⟩

/-- The digits of a positive number do not start with zero. -/
theorem head?_toDigits {n : Nat} (positive : 0 < n) :
    (Nat.toDigits 10 n).head? ≠ some '0' := by
  induction n using Nat.strongRecOn with
  | ind n ih =>
    obtain small | large := Nat.lt_or_ge n 10
    · have digit : ∀ m < 10, 0 < m → [Nat.digitChar m].head? ≠ some '0' := by decide
      rw [Nat.toDigits_of_lt_base small]
      exact digit n small positive
    · have first := ih (n / 10) (by omega) (by omega)
      obtain ⟨c, rest, form, -⟩ := (digits_toDigits (n / 10)).exists_cons
      rw [Nat.toDigits_of_base_le (by decide) large]
      rw [form] at first ⊢
      exact first

theorem number_toDigits (n : Nat) : Number (Nat.toDigits 10 n) := by
  have whole : Whole (Nat.toDigits 10 n) := by
    obtain rfl | positive := Nat.eq_zero_or_pos n
    · exact .zero
    · exact .digits (digits_toDigits n) (head?_toDigits positive)
  simpa using Number.positive (.mk whole .nil .nil)

/-- A natural number is what its document names. -/
theorem natural?_ofNat (n : Nat) : (ofNat n).natural? = some n := by
  have all : (Nat.toDigits 10 n).all Char.isDigit = true :=
    List.all_eq_true.mpr (digits_toDigits n).isDigit
  have value : valueOfDigits (Nat.toDigits 10 n) = n := by
    rw [valueOfDigits, ← Nat.ofDigitChars_eq_foldl, Nat.ofDigitChars_ten_toDigits]
  simp only [ofNat, natural?, all, if_true, value]

end Json

end StorageClient
