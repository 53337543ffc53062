import Mathlib.Data.List.DropRight
import VtableHeader.Json.Reader

/-!
# The grammar of JSON texts

A value can be written in many ways: blanks between its parts, escapes inside strings, signs and
marks in numbers.  `Denotes` says which texts denote a value, one rule for each form of the grammar,
and counts how many arrays and objects lie inside one another.  A number denotes a value only if it
is in the range of doubles.

The reader takes every text that denotes a value for that value, if the text is not nested too
deeply.  It may leave blanks behind which the text ends with, so readings are compared up to blanks;
and what follows a text must not continue it as a number.
-/

namespace VtableHeader.Json

/-! ## Texts of values -/

/-- Blanks only. -/
def Blanks (text : List Char) : Prop :=
  ∀ char ∈ text, isBlank char = true

/-- The letters that may follow a backslash, and the characters that they stand for. -/
def shortEscapes : List (Char × Char) :=
  [('"', '"'), ('\\', '\\'), ('/', '/'), ('b', '\x08'), ('f', '\x0c'), ('n', '\n'), ('r', '\r'),
    ('t', '\t')]

/-- Four hexadecimal digits and the number that they spell. -/
structure Hex4 (digits : List Char) (unit : Nat) : Prop where
  length : digits.length = 4
  hexadecimal : digits.all (Numeral.isDigitOf 16) = true
  value : Numeral.ofDigits 16 digits = unit

/-- Whether a character may stand for itself inside a string. -/
def isPlain (char : Char) : Bool :=
  char != '"' && char != '\\' && 0x20 ≤ char.toNat

/-- A text of one character inside a string. -/
inductive CharText : List Char → Char → Prop where
  | plain {char : Char} (itself : isPlain char = true) : CharText [char] char
  | short {letter char : Char} (known : (letter, char) ∈ shortEscapes) :
      CharText ['\\', letter] char
  | unicode {digits : List Char} {unit : Nat} (spelled : Hex4 digits unit)
      (notLow : isLowSurrogate unit = false) (notHigh : isHighSurrogate unit = false) :
      CharText ('\\' :: 'u' :: digits) (Char.ofNat unit)
  | pair {first second : List Char} {high low : Nat} (spelledHigh : Hex4 first high)
      (spelledLow : Hex4 second low) (isHigh : isHighSurrogate high = true)
      (isLow : isLowSurrogate low = true) :
      CharText ('\\' :: 'u' :: first ++ '\\' :: 'u' :: second)
        (Char.ofNat (0x10000 + (high - 0xd800) * 0x400 + (low - 0xdc00)))

theorem CharText.length_pos {front : List Char} {char : Char} (spelled : CharText front char) :
    0 < front.length := by
  cases spelled <;> simp

/-- A text of a string between its quotes. -/
inductive CharsText : List Char → List Char → Prop where
  | nil : CharsText [] []
  | cons {front rest : List Char} {char : Char} {chars : List Char} (first : CharText front char)
      (others : CharsText rest chars) : CharsText (front ++ rest) (char :: chars)

/-- Plain characters spell themselves. -/
theorem charsText_of_isPlain {chars : List Char} (plain : chars.all isPlain = true) :
    CharsText chars chars := by
  induction chars with
  | nil => exact .nil
  | cons char others ih =>
      rw [List.all_cons, Bool.and_eq_true] at plain
      exact .cons (.plain plain.1) (ih plain.2)

/-- One or more digits. -/
def Digits (text : List Char) : Prop :=
  text ≠ [] ∧ ∀ char ∈ text, char.isDigit = true

/-- The digits before the point: a zero alone, or digits that start with another one. -/
def WholeText (digits : List Char) : Prop :=
  digits = ['0'] ∨ Digits digits ∧ digits.head? ≠ some '0'

/-- A text of the digits after the point. -/
inductive FractionText : List Char → List Char → Prop where
  | absent : FractionText [] []
  | point {digits : List Char} (written : Digits digits) : FractionText ('.' :: digits) digits

/-- The signs of an exponent. -/
def exponentSigns : List (List Char × Int) :=
  [([], 1), (['+'], 1), (['-'], -1)]

/-- A text of an exponent. -/
inductive ExponentText : List Char → Option Int → Prop where
  | absent : ExponentText [] none
  | power {mark : Char} {signText digits : List Char} {sign : Int}
      (marked : mark = 'e' ∨ mark = 'E') (signed : (signText, sign) ∈ exponentSigns)
      (written : Digits digits) :
      ExponentText (mark :: (signText ++ digits)) (some (sign * Numeral.ofDigits 10 digits))

/-- How a member of an object is written: the texts of its key and value, and the blanks before the
key and before the colon. -/
structure MemberForm where
  member : String × Json
  before : List Char
  key : List Char
  between : List Char
  value : List Char

/-- The text of a member. -/
def MemberForm.text (form : MemberForm) : List Char :=
  form.before ++ '"' :: (form.key ++ '"' :: (form.between ++ ':' :: form.value))

/-- Texts with commas between them. -/
def separated (texts : List (List Char)) : List Char :=
  [','].intercalate texts

/-- The texts that denote a value with at most `depth` arrays and objects inside one another. -/
inductive Denotes : Nat → List Char → Json → Prop where
  | null {depth : Nat} : Denotes depth ['n', 'u', 'l', 'l'] .null
  | true {depth : Nat} : Denotes depth ['t', 'r', 'u', 'e'] (.bool true)
  | false {depth : Nat} : Denotes depth ['f', 'a', 'l', 's', 'e'] (.bool false)
  | number {depth : Nat} {number : Number} {fraction exponent : List Char}
      (whole : WholeText number.whole) (fractionText : FractionText fraction number.fraction)
      (exponentText : ExponentText exponent number.exponent) (finite : number.isFinite = true) :
      Denotes depth
        ((if number.negative then ['-'] else []) ++ (number.whole ++ (fraction ++ exponent)))
        (.number number)
  | string {depth : Nat} {text chars : List Char} (spelled : CharsText text chars) :
      Denotes depth ('"' :: (text ++ ['"'])) (.string (String.ofList chars))
  | emptyArray {depth : Nat} {blanks : List Char} (blank : Blanks blanks) :
      Denotes (depth + 1) ('[' :: (blanks ++ [']'])) (.array [])
  | array {depth : Nat} {items : List (List Char × Json)} (nonempty : items ≠ [])
      (each : ∀ item ∈ items, Denotes depth item.1 item.2) :
      Denotes (depth + 1) ('[' :: (separated (items.map Prod.fst) ++ [']']))
        (.array (items.map Prod.snd))
  | emptyObject {depth : Nat} {blanks : List Char} (blank : Blanks blanks) :
      Denotes (depth + 1) ('{' :: (blanks ++ ['}'])) (.object [])
  | object {depth : Nat} {forms : List MemberForm} (nonempty : forms ≠ [])
      (keys : ∀ form ∈ forms, CharsText form.key form.member.1.toList)
      (blanks : ∀ form ∈ forms, Blanks form.before ∧ Blanks form.between)
      (each : ∀ form ∈ forms, Denotes depth form.value form.member.2) :
      Denotes (depth + 1) ('{' :: (separated (forms.map MemberForm.text) ++ ['}']))
        (.object (forms.map MemberForm.member))
  | spaced {depth : Nat} {before text after : List Char} {json : Json} (blankBefore : Blanks before)
      (blankAfter : Blanks after) (denotes : Denotes depth text json) :
      Denotes depth (before ++ (text ++ after)) json

theorem skipBlanks_cons {char : Char} {text : List Char} (solid : isBlank char = false) :
    skipBlanks (char :: text) = char :: text := by
  simp [skipBlanks, solid]

theorem skipBlanks_append {blanks : List Char} (blank : Blanks blanks) (text : List Char) :
    skipBlanks (blanks ++ text) = skipBlanks text :=
  List.dropWhile_append_of_pos blank

/-- A value is read from its first character that is not blank. -/
theorem readValue_skipBlanks (care : Care) (bound levels : Nat) (text : List Char) :
    readValue care bound levels (skipBlanks text) = readValue care bound levels text := by
  have same : skipBlanks (skipBlanks text) = skipBlanks text :=
    List.dropWhile_idempotent isBlank text
  cases levels <;> rw [readValue, readValue, same]

section Starts

variable {bound : Nat}

/-- Where no array or object begins, a scalar is read. -/
theorem readValue_eq_readScalar (care : Care) (levels : Nat) {char : Char} {text : List Char}
    (solid : isBlank char = false) (notArray : char ≠ '[') (notObject : char ≠ '{') :
    readValue care bound levels (char :: text) = readScalar care bound (char :: text) := by
  cases levels with
  | zero => rw [readValue, skipBlanks_cons solid]
  | succ levels =>
      rw [readValue, skipBlanks_cons solid]
      split
      case h_1 same => exact absurd (List.cons.inj same).1 notArray
      case h_2 same => exact absurd (List.cons.inj same).1 notObject
      case h_3 => rfl

theorem readValue_bracket (care : Care) (levels : Nat) (text : List Char) :
    readValue care bound (levels + 1) ('[' :: text) =
      readArray bound (fun _ => readValue care bound levels) text := by
  rw [readValue, skipBlanks_cons rfl]
  rfl

theorem readValue_brace (care : Care) (levels : Nat) (text : List Char) :
    readValue care bound (levels + 1) ('{' :: text) =
      readObject care bound (fun _ => readValue care bound levels) text := by
  rw [readValue, skipBlanks_cons rfl]
  rfl

end Starts

theorem readHex4_append {digits : List Char} {unit : Nat} (spelled : Hex4 digits unit)
    (rest : List Char) : readHex4 (digits ++ rest) = .ok (unit, rest) := by
  obtain ⟨length, hexadecimal, value⟩ := spelled
  match digits, length with
  | [a, b, c, d], _ =>
      simp only [List.cons_append, List.nil_append, readHex4, hexadecimal, if_true, value]

/-- Every text of a character is read as that character. -/
theorem readChars_charText {front : List Char} {char : Char} (spelled : CharText front char)
    (bound : Nat) (text : List Char) :
    readChars .full (bound + 1) (front ++ text) = (do
      let (chars, rest) ← readChars .full bound text
      return (char :: chars, rest)) := by
  cases spelled with
  | plain itself =>
      simp only [isPlain, Bool.and_eq_true, bne_iff_ne, decide_eq_true_eq] at itself
      obtain ⟨⟨notQuote, notBackslash⟩, notControl⟩ := itself
      have visible : ¬char.toNat < 0x20 := Nat.not_lt.mpr notControl
      simp [readChars, notQuote, notBackslash, visible]
  | short known =>
      simp only [shortEscapes, List.mem_cons, Prod.mk.injEq, List.not_mem_nil, or_false] at known
      rcases known with ⟨rfl, rfl⟩ | ⟨rfl, rfl⟩ | ⟨rfl, rfl⟩ | ⟨rfl, rfl⟩ | ⟨rfl, rfl⟩ |
        ⟨rfl, rfl⟩ | ⟨rfl, rfl⟩ | ⟨rfl, rfl⟩ <;> rfl
  | unicode spelled notLow notHigh =>
      have read := readHex4_append spelled text
      simp [readChars, readEscape, readUnicode, read, notLow, notHigh, bind, Except.bind, pure,
        Except.pure]
  | @pair first second high low spelledHigh spelledLow isHigh isLow =>
      have notLow : isLowSurrogate high = false := by
        simp only [isHighSurrogate, Bool.and_eq_true, decide_eq_true_eq] at isHigh
        simp [isLowSurrogate]
        omega
      have readFirst := readHex4_append spelledHigh ('\\' :: 'u' :: (second ++ text))
      have readSecond := readHex4_append spelledLow text
      simp [readChars, readEscape, readUnicode, readLowSurrogate, readFirst, readSecond, notLow,
        isHigh, isLow, bind, Except.bind, pure, Except.pure]

theorem length_le_of_charsText {text chars : List Char} (spelled : CharsText text chars) :
    chars.length ≤ text.length := by
  induction spelled with
  | nil => exact Nat.le_refl 0
  | cons first others ih =>
      have visible := first.length_pos
      simp only [List.length_append, List.length_cons]
      omega

/-- Every text of a string is read up to the closing quote. -/
theorem readChars_charsText {bound : Nat} {text chars : List Char} (spelled : CharsText text chars)
    (enough : chars.length < bound) (rest : List Char) :
    readChars .full bound (text ++ '"' :: rest) = .ok (chars, rest) := by
  induction spelled generalizing bound with
  | nil =>
      obtain ⟨bound, rfl⟩ := Nat.exists_eq_add_one_of_ne_zero (Nat.ne_zero_of_lt enough)
      rfl
  | cons first others ih =>
      obtain ⟨bound, rfl⟩ := Nat.exists_eq_add_one_of_ne_zero (Nat.ne_zero_of_lt enough)
      rw [List.append_assoc, readChars_charText first, ih (Nat.lt_of_succ_lt_succ enough)]
      rfl

theorem readString_charsText {bound : Nat} {text chars : List Char}
    (spelled : CharsText text chars) (enough : text.length < bound) (rest : List Char) :
    readString .full bound (text ++ '"' :: rest) = .ok (String.ofList chars, rest) := by
  have read := readChars_charsText spelled
    (Nat.lt_of_le_of_lt (length_le_of_charsText spelled) enough) rest
  simp [readString, read, bind, Except.bind, pure, Except.pure]

/-! ## Numbers -/

/-- Whether a character that follows a number can be taken for a part of it. -/
def continuesNumber (char : Char) : Bool :=
  char.isDigit || char == '.' || char == 'e' || char == 'E'

/-- A text that does not continue a number before it. -/
def Apart (text : List Char) : Prop :=
  ∀ char ∈ text.head?, continuesNumber char = false

theorem apart_cons {char : Char} {text : List Char} (stops : continuesNumber char = false) :
    Apart (char :: text) := by
  intro first same
  rw [List.head?_cons, Option.mem_some] at same
  rwa [← same]

theorem Apart.stops {text : List Char} (apart : Apart text) {char : Char}
    (first : char ∈ text.head?) :
    char.isDigit = false ∧ char ≠ '.' ∧ char ≠ 'e' ∧ char ≠ 'E' := by
  simpa [continuesNumber, and_assoc] using apart char first

theorem readDigits_append {digits rest : List Char} (written : Digits digits)
    (stops : ∀ char ∈ rest.head?, char.isDigit = false) :
    readDigits (digits ++ rest) = .ok (digits, rest) := by
  obtain ⟨nonempty, all⟩ := written
  have taken : (digits ++ rest).takeWhile Char.isDigit = digits := by
    cases rest with
    | nil => simpa using all
    | cons char rest =>
        rw [List.takeWhile_append_of_pos all,
          List.takeWhile_cons_of_neg (by simp [stops char rfl]), List.append_nil]
  have left : (digits ++ rest).dropWhile Char.isDigit = rest := by
    rw [List.dropWhile_append_of_pos all]
    cases rest with
    | nil => rfl
    | cons char rest => rw [List.dropWhile_cons_of_neg (by simp [stops char rfl])]
  rw [readDigits, taken, left]
  split
  case h_1 => exact absurd rfl nonempty
  case h_2 => rfl

theorem readWhole_append {whole rest : List Char} (written : WholeText whole)
    (stops : ∀ char ∈ rest.head?, char.isDigit = false) :
    readWhole (whole ++ rest) = .ok (whole, rest) := by
  rcases written with rfl | ⟨digits, notZero⟩
  · cases rest with
    | nil => rfl
    | cons char rest => simp [readWhole, stops char rfl]
  · obtain ⟨char, others, rfl⟩ := List.exists_cons_of_ne_nil digits.1
    have read := readDigits_append digits stops
    rw [List.cons_append] at read ⊢
    unfold readWhole
    split
    case h_1 same => exact absurd (congrArg some (List.cons.inj same).1) notZero
    case h_2 => exact read

theorem readFraction_append {fraction digits rest : List Char}
    (written : FractionText fraction digits)
    (stops : ∀ char ∈ rest.head?, char.isDigit = false ∧ char ≠ '.') :
    readFraction (fraction ++ rest) = .ok (digits, rest) := by
  cases written with
  | absent =>
      rw [List.nil_append]
      unfold readFraction
      split
      case h_1 rest => exact absurd rfl (stops '.' rfl).2
      case h_2 => rfl
  | point written => exact readDigits_append written fun char same => (stops char same).1

theorem readExponent_append {exponent rest : List Char} {value : Option Int}
    (written : ExponentText exponent value) (apart : Apart rest) :
    readExponent (exponent ++ rest) = .ok (value, rest) := by
  cases written with
  | absent =>
      cases rest with
      | nil => rfl
      | cons char rest =>
          obtain ⟨-, -, notMark⟩ := apart.stops rfl
          simp [readExponent, notMark]
  | @power mark signText digits sign marked signed written =>
      have read : readExponentDigits sign (digits ++ rest) =
          .ok (some (sign * Numeral.ofDigits 10 digits), rest) := by
        rw [readExponentDigits, readDigits_append written fun _ same => (apart.stops same).1]
        rfl
      simp only [exponentSigns, List.mem_cons, Prod.mk.injEq, List.not_mem_nil, or_false] at signed
      rcases signed with ⟨rfl, rfl⟩ | ⟨rfl, rfl⟩ | ⟨rfl, rfl⟩
      · -- Without a sign the first digit must not be taken for one.
        obtain ⟨char, others, rfl⟩ := List.exists_cons_of_ne_nil written.1
        have digit := written.2 char List.mem_cons_self
        simp only [List.nil_append, List.cons_append, readExponent, marked, if_true] at read ⊢
        split
        case h_1 same => exact absurd ((List.cons.inj same).1 ▸ digit) (by decide)
        case h_2 same => exact absurd ((List.cons.inj same).1 ▸ digit) (by decide)
        case h_3 => exact read
      · simp [readExponent, marked, read]
      · simp [readExponent, marked, read]

/-- What follows the fraction of a number does not continue the fraction. -/
theorem ExponentText.stops {exponent rest : List Char} {value : Option Int}
    (written : ExponentText exponent value) (apart : Apart rest) :
    ∀ char ∈ (exponent ++ rest).head?, char.isDigit = false ∧ char ≠ '.' := by
  intro char same
  cases written with
  | absent =>
      obtain ⟨notDigit, notPoint, -⟩ := apart.stops same
      exact ⟨notDigit, notPoint⟩
  | power marked =>
      obtain rfl := Option.some.inj same
      rcases marked with rfl | rfl <;> decide

/-- What follows the whole part of a number does not continue its digits. -/
theorem FractionText.stops {fraction digits rest : List Char}
    (written : FractionText fraction digits)
    (stops : ∀ char ∈ rest.head?, char.isDigit = false) :
    ∀ char ∈ (fraction ++ rest).head?, char.isDigit = false := by
  intro char same
  cases written with
  | absent => exact stops char same
  | point =>
      obtain rfl := Option.some.inj same
      rfl

/-- A number is read up to a character that does not continue it. -/
theorem readNumber_append {number : Number} {fraction exponent rest : List Char}
    (whole : WholeText number.whole) (fractionText : FractionText fraction number.fraction)
    (exponentText : ExponentText exponent number.exponent) (finite : number.isFinite = true)
    (apart : Apart rest) :
    readNumber .full number.negative (number.whole ++ (fraction ++ (exponent ++ rest))) =
      .ok (.number number, rest) := by
  have afterFraction := exponentText.stops apart
  have afterWhole := fractionText.stops fun char same => (afterFraction char same).1
  simp only [readNumber, readWhole_append whole afterWhole,
    readFraction_append fractionText afterFraction, readExponent_append exponentText apart, finite,
    bind, Except.bind]
  rfl

theorem digit_of_wholeText {whole : List Char} (written : WholeText whole) :
    ∃ char others, whole = char :: others ∧ char.isDigit = true := by
  rcases written with rfl | ⟨⟨nonempty, all⟩, -⟩
  · exact ⟨'0', [], rfl, rfl⟩
  · obtain ⟨char, others, rfl⟩ := List.exists_cons_of_ne_nil nonempty
    exact ⟨char, others, rfl, all char List.mem_cons_self⟩

theorem ne_of_isDigit {char other : Char} (digit : char.isDigit = true)
    (different : other.isDigit = false) : char ≠ other := by
  rintro rfl
  rw [digit] at different
  contradiction

theorem isBlank_of_isDigit {char : Char} (digit : char.isDigit = true) : isBlank char = false := by
  simp [isBlank, ne_of_isDigit digit]

theorem readScalar_digit (care : Care) (bound : Nat) {char : Char} (digit : char.isDigit = true)
    (text : List Char) :
    readScalar care bound (char :: text) = readNumber care false (char :: text) := by
  simp only [readScalar]
  split
  case h_6 => simp [digit]
  all_goals simp at digit

theorem readValue_number {number : Number} {fraction exponent rest : List Char}
    (whole : WholeText number.whole) (fractionText : FractionText fraction number.fraction)
    (exponentText : ExponentText exponent number.exponent) (finite : number.isFinite = true)
    (apart : Apart rest) (bound levels : Nat) :
    readValue .full bound levels ((if number.negative then ['-'] else []) ++
        (number.whole ++ (fraction ++ (exponent ++ rest)))) =
      .ok (.number number, rest) := by
  have read := readNumber_append whole fractionText exponentText finite apart
  cases sign : number.negative with
  | true =>
      rw [sign] at read
      exact (readValue_eq_readScalar .full levels rfl (by decide) (by decide)).trans read
  | false =>
      obtain ⟨char, others, shape, digit⟩ := digit_of_wholeText whole
      rw [sign, shape, List.cons_append] at read
      simp only [shape, Bool.false_eq_true, if_false, List.nil_append, List.cons_append]
      rw [readValue_eq_readScalar .full levels (isBlank_of_isDigit digit)
        (ne_of_isDigit digit rfl) (ne_of_isDigit digit rfl), readScalar_digit .full bound digit]
      exact read

/-! ## Parts of a container -/

/-- The reader takes `text` for `value` in front of every text that does not continue a number, and
leaves that text but for blanks. -/
def ReadsAs {α : Type} (reader : Reader α) (text : List Char) (value : α) : Prop :=
  ∀ rest, Apart rest →
    ∃ left, reader (text ++ rest) = .ok (value, left) ∧ skipBlanks left = skipBlanks rest

theorem separated_singleton (text : List Char) : separated [text] = text := by
  simp [separated]

theorem separated_cons_cons (first second : List Char) (others : List (List Char)) :
    separated (first :: second :: others) = first ++ ',' :: separated (second :: others) := by
  simp [separated, List.intercalate]

/-- The first part stands in front. -/
theorem exists_separated_eq_append (first : List Char) (others : List (List Char)) :
    ∃ more, separated (first :: others) = first ++ more := by
  cases others with
  | nil => exact ⟨[], by simp [separated_singleton]⟩
  | cons second others => exact ⟨_, separated_cons_cons first second others⟩

/-- A text with commas is as long as its parts, and has a comma between any two of them. -/
theorem length_le_length_separated (texts : List (List Char)) :
    texts.length ≤ (separated texts).length + 1 ∧
      ∀ text ∈ texts, text.length ≤ (separated texts).length := by
  induction texts with
  | nil => simp
  | cons first others ih =>
      cases others with
      | nil => simp [separated_singleton]
      | cons second others =>
          obtain ⟨count, sizes⟩ := ih
          have size : (separated (first :: second :: others)).length =
              first.length + ((separated (second :: others)).length + 1) := by
            rw [separated_cons_cons, List.length_append, List.length_cons]
          rw [size, List.length_cons, List.forall_mem_cons]
          refine ⟨by omega, by omega, ?_⟩
          intro text member
          have size := sizes text member
          omega

/-- The text of a value has a character that is no blank, and it does not end an array. -/
theorem Denotes.exists_first {depth : Nat} {text : List Char} {json : Json}
    (denotes : Denotes depth text json) :
    ∃ first others, skipBlanks text = first :: others ∧ first ≠ ']' := by
  induction denotes with
  | null | true | false | string | emptyArray | array | emptyObject | object =>
      exact ⟨_, _, skipBlanks_cons rfl, by decide⟩
  | @number _ number _ _ whole =>
      cases number.negative with
      | true => exact ⟨_, _, skipBlanks_cons rfl, by decide⟩
      | false =>
          obtain ⟨char, others, shape, digit⟩ := digit_of_wholeText whole
          rw [shape]
          exact ⟨_, _, skipBlanks_cons (isBlank_of_isDigit digit), ne_of_isDigit digit rfl⟩
  | @spaced _ before text after _ blankBefore _ _ ih =>
      obtain ⟨first, others, shape, notClosing⟩ := ih
      refine ⟨first, others ++ after, ?_, notClosing⟩
      rw [skipBlanks_append blankBefore, skipBlanks, List.dropWhile_append, ← skipBlanks, shape]
      rfl

section Arrays

variable {bound depth levels : Nat} {items : List (List Char × Json)}

theorem readItems_skipBlanks (care : Care) (count position : Nat) (text : List Char) :
    readItems (fun _ => readValue care bound levels) count position (skipBlanks text) =
      readItems (fun _ => readValue care bound levels) count position text := by
  cases count with
  | zero => rfl
  | succ count => rw [readItems, readItems, readValue_skipBlanks]

theorem exists_first_separated (nonempty : items ≠ [])
    (each : ∀ item ∈ items, Denotes depth item.1 item.2) (rest : List Char) :
    ∃ first others,
      skipBlanks (separated (items.map Prod.fst) ++ rest) = first :: others ∧ first ≠ ']' := by
  obtain ⟨item, others, rfl⟩ := List.exists_cons_of_ne_nil nonempty
  obtain ⟨more, shape⟩ := exists_separated_eq_append item.1 (others.map Prod.fst)
  obtain ⟨first, tail, start, notClosing⟩ := (each item List.mem_cons_self).exists_first
  refine ⟨first, tail ++ (more ++ rest), ?_, notClosing⟩
  rw [List.map_cons, shape, List.append_assoc, skipBlanks, List.dropWhile_append, ← skipBlanks,
    start]
  rfl

/-- Items are read up to the closing bracket. -/
theorem readItems_separated {count position : Nat} (nonempty : items ≠ [])
    (each : ∀ item ∈ items, Denotes depth item.1 item.2)
    (reads : ∀ item ∈ items, ReadsAs (readValue .full bound levels) item.1 item.2)
    (enough : items.length ≤ count) (rest : List Char) :
    readItems (fun _ => readValue .full bound levels) count position
        (separated (items.map Prod.fst) ++ ']' :: rest) =
      .ok (items.map Prod.snd, rest) := by
  induction items generalizing count position with
  | nil => exact absurd rfl nonempty
  | cons item others ih =>
      obtain ⟨count, rfl⟩ := Nat.exists_eq_add_one_of_ne_zero (Nat.ne_zero_of_lt enough)
      obtain ⟨readsFirst, reads⟩ := List.forall_mem_cons.mp reads
      obtain ⟨_, each⟩ := List.forall_mem_cons.mp each
      cases others with
      | nil =>
          obtain ⟨left, read, same⟩ := readsFirst (']' :: rest) (apart_cons rfl)
          rw [skipBlanks_cons rfl] at same
          simp only [List.map_cons, List.map_nil, separated_singleton, readItems, read, bind,
            Except.bind, same]
          rfl
      | cons next more =>
          have nonempty : next :: more ≠ [] := List.cons_ne_nil next more
          have text : separated ((item :: next :: more).map Prod.fst) ++ ']' :: rest =
              item.1 ++ ',' :: (separated ((next :: more).map Prod.fst) ++ ']' :: rest) := by
            simp only [List.map_cons, separated_cons_cons, List.append_assoc, List.cons_append]
          have tail : ∀ position, readItems (fun _ => readValue .full bound levels) count position
              (separated ((next :: more).map Prod.fst) ++ ']' :: rest) =
                .ok ((next :: more).map Prod.snd, rest) :=
            fun _ => ih nonempty each reads (Nat.le_of_succ_le_succ enough)
          obtain ⟨first, others, start, notClosing⟩ :=
            exists_first_separated nonempty each (']' :: rest)
          obtain ⟨left, read, same⟩ := readsFirst
            (',' :: (separated ((next :: more).map Prod.fst) ++ ']' :: rest)) (apart_cons rfl)
          rw [skipBlanks_cons rfl] at same
          rw [text, readItems, read]
          simp only [bind, Except.bind, same, start]
          split
          case h_1 empty => simp at empty
          case h_2 closed => exact absurd (List.cons.inj closed).1 notClosing
          case h_3 =>
            rw [← start, readItems_skipBlanks, tail]
            rfl

/-- An array is read after its opening bracket if its items are. -/
theorem readArray_separated (nonempty : items ≠ [])
    (each : ∀ item ∈ items, Denotes depth item.1 item.2)
    (reads : ∀ item ∈ items, ReadsAs (readValue .full bound levels) item.1 item.2)
    (enough : items.length ≤ bound) (rest : List Char) :
    readArray bound (fun _ => readValue .full bound levels)
        (separated (items.map Prod.fst) ++ ']' :: rest) =
      .ok (.array (items.map Prod.snd), rest) := by
  obtain ⟨first, others, start, notClosing⟩ := exists_first_separated nonempty each (']' :: rest)
  simp only [readArray, start]
  split
  case h_1 empty => simp at empty
  case h_2 closed => exact absurd (List.cons.inj closed).1 notClosing
  case h_3 =>
    rw [← start, readItems_skipBlanks, readItems_separated nonempty each reads enough]
    rfl

end Arrays

section Objects

variable {bound depth levels : Nat} {forms : List MemberForm}

/-- What the reader sees of a member: the blanks before it are gone. -/
theorem skipBlanks_memberText {form : MemberForm} (blank : Blanks form.before) (rest : List Char) :
    skipBlanks (form.text ++ rest) =
      '"' :: (form.key ++ '"' :: (form.between ++ ':' :: (form.value ++ rest))) := by
  simp only [MemberForm.text, List.append_assoc, List.cons_append]
  rw [skipBlanks_append blank, skipBlanks_cons rfl]

theorem readMember_text {form : MemberForm} (key : CharsText form.key form.member.1.toList)
    (blanks : Blanks form.before ∧ Blanks form.between)
    (reads : ReadsAs (readValue .full bound levels) form.value form.member.2)
    (enough : form.key.length < bound) :
    ReadsAs (fun text =>
        readMember .full bound (fun _ => readValue .full bound levels) (skipBlanks text))
      form.text form.member := by
  intro rest apart
  obtain ⟨left, read, same⟩ := reads rest apart
  refine ⟨left, ?_, same⟩
  have keyRead := readString_charsText key enough (form.between ++ ':' :: (form.value ++ rest))
  have colon : skipBlanks (form.between ++ ':' :: (form.value ++ rest)) =
      ':' :: (form.value ++ rest) := by
    rw [skipBlanks_append blanks.2, skipBlanks_cons rfl]
  rw [String.ofList_toList] at keyRead
  simp only [skipBlanks_memberText blanks.1, readMember, keyRead, bind, Except.bind, colon,
    readValue_skipBlanks, read]
  rfl

/-- Members are read up to the closing brace. -/
theorem readMembers_separated {value : String → Reader Json} {count : Nat} (nonempty : forms ≠ [])
    (reads : ∀ form ∈ forms, ReadsAs (fun text => readMember .full bound value (skipBlanks text))
      form.text form.member)
    (enough : forms.length ≤ count) (rest : List Char) :
    readMembers .full bound value count
        (skipBlanks (separated (forms.map MemberForm.text) ++ '}' :: rest)) =
      .ok (forms.map MemberForm.member, rest) := by
  induction forms generalizing count with
  | nil => exact absurd rfl nonempty
  | cons form others ih =>
      obtain ⟨count, rfl⟩ := Nat.exists_eq_add_one_of_ne_zero (Nat.ne_zero_of_lt enough)
      obtain ⟨readsFirst, reads⟩ := List.forall_mem_cons.mp reads
      cases others with
      | nil =>
          obtain ⟨left, read, same⟩ := readsFirst ('}' :: rest) (apart_cons rfl)
          rw [skipBlanks_cons rfl] at same
          simp only [List.map_cons, List.map_nil, separated_singleton, readMembers, read, bind,
            Except.bind, same]
          rfl
      | cons next more =>
          have text : separated ((form :: next :: more).map MemberForm.text) ++ '}' :: rest =
              form.text ++ ',' ::
                (separated ((next :: more).map MemberForm.text) ++ '}' :: rest) := by
            simp only [List.map_cons, separated_cons_cons, List.append_assoc, List.cons_append]
          have tail := ih (List.cons_ne_nil next more) reads (Nat.le_of_succ_le_succ enough)
          obtain ⟨left, read, same⟩ := readsFirst
            (',' :: (separated ((next :: more).map MemberForm.text) ++ '}' :: rest))
            (apart_cons rfl)
          rw [skipBlanks_cons rfl] at same
          simp only [text, readMembers, read, bind, Except.bind, same, tail]
          rfl

/-- An object is read after its opening brace if its members are. -/
theorem readObject_separated {value : String → Reader Json} (nonempty : forms ≠ [])
    (blanks : ∀ form ∈ forms, Blanks form.before ∧ Blanks form.between)
    (reads : ∀ form ∈ forms, ReadsAs (fun text => readMember .full bound value (skipBlanks text))
      form.text form.member)
    (enough : forms.length ≤ bound) (rest : List Char) :
    readObject .full bound value (separated (forms.map MemberForm.text) ++ '}' :: rest) =
      .ok (.object (forms.map MemberForm.member), rest) := by
  have read := readMembers_separated nonempty reads enough rest
  obtain ⟨others, start⟩ : ∃ others,
      skipBlanks (separated (forms.map MemberForm.text) ++ '}' :: rest) = '"' :: others := by
    obtain ⟨form, others, rfl⟩ := List.exists_cons_of_ne_nil nonempty
    obtain ⟨more, shape⟩ := exists_separated_eq_append form.text (others.map MemberForm.text)
    have start := skipBlanks_memberText (blanks form List.mem_cons_self).1 (more ++ '}' :: rest)
    rw [List.map_cons, shape, List.append_assoc]
    exact ⟨_, start⟩
  rw [start] at read
  simp only [readObject, start]
  split
  case h_1 empty => simp at empty
  case h_2 closed => exact absurd (List.cons.inj closed).1 (by decide)
  case h_3 =>
    rw [read]
    rfl

end Objects

/-- Blanks do not continue a number. -/
theorem apart_blanks_append {blanks rest : List Char} (blank : Blanks blanks) (apart : Apart rest) :
    Apart (blanks ++ rest) := by
  cases blanks with
  | nil => exact apart
  | cons char others =>
      apply apart_cons
      have here := blank char List.mem_cons_self
      simp only [isBlank, Bool.or_eq_true, beq_iff_eq] at here
      rcases here with ((rfl | rfl) | rfl) | rfl <;> rfl

/-- Every text that denotes a value is read as that value, if it is not nested too deeply. -/
theorem Denotes.readsAs {bound depth levels : Nat} {text : List Char} {json : Json}
    (denotes : Denotes depth text json) (fits : depth ≤ levels) (enough : text.length ≤ bound) :
    ReadsAs (readValue .full bound levels) text json := by
  -- The levels are used up by containers only, while the bound stays: every part is shorter.
  induction denotes generalizing levels with
  | null | true | false =>
      intro rest _
      exact ⟨rest, readValue_eq_readScalar .full levels rfl (by decide) (by decide), rfl⟩
  | number whole fractionText exponentText finite =>
      intro rest apart
      refine ⟨rest, ?_, rfl⟩
      simp only [List.append_assoc]
      exact readValue_number whole fractionText exponentText finite apart bound levels
  | @string _ text chars spelled =>
      intro rest _
      refine ⟨rest, ?_, rfl⟩
      simp only [List.length_cons, List.length_append, List.length_nil] at enough
      have read := readString_charsText spelled (show text.length < bound by omega) rest
      rw [List.cons_append, readValue_eq_readScalar .full levels rfl (by decide) (by decide)]
      simp [readScalar, read, bind, Except.bind, pure, Except.pure]
  | @emptyArray depth blanks blank =>
      obtain ⟨levels, rfl⟩ := Nat.exists_eq_add_one_of_ne_zero (Nat.ne_zero_of_lt fits)
      intro rest _
      refine ⟨rest, ?_, rfl⟩
      rw [List.cons_append, readValue_bracket, readArray, List.append_assoc,
        skipBlanks_append blank]
      rfl
  | @array depth items nonempty each ih =>
      obtain ⟨levels, rfl⟩ := Nat.exists_eq_add_one_of_ne_zero (Nat.ne_zero_of_lt fits)
      intro rest _
      refine ⟨rest, ?_, rfl⟩
      obtain ⟨count, sizes⟩ := length_le_length_separated (items.map Prod.fst)
      simp only [List.length_cons, List.length_append, List.length_nil] at enough
      rw [List.length_map] at count
      have reads : ∀ item ∈ items, ReadsAs (readValue .full bound levels) item.1 item.2 := by
        intro item member
        have size := sizes item.1 (List.mem_map_of_mem member)
        exact ih item member (Nat.le_of_succ_le_succ fits) (by omega)
      rw [List.cons_append, readValue_bracket, List.append_assoc]
      exact readArray_separated nonempty each reads (by omega) rest
  | @emptyObject depth blanks blank =>
      obtain ⟨levels, rfl⟩ := Nat.exists_eq_add_one_of_ne_zero (Nat.ne_zero_of_lt fits)
      intro rest _
      refine ⟨rest, ?_, rfl⟩
      rw [List.cons_append, readValue_brace, readObject, List.append_assoc,
        skipBlanks_append blank]
      rfl
  | @object depth forms nonempty keys blanks each ih =>
      obtain ⟨levels, rfl⟩ := Nat.exists_eq_add_one_of_ne_zero (Nat.ne_zero_of_lt fits)
      intro rest _
      refine ⟨rest, ?_, rfl⟩
      obtain ⟨count, sizes⟩ := length_le_length_separated (forms.map MemberForm.text)
      simp only [List.length_cons, List.length_append, List.length_nil] at enough
      rw [List.length_map] at count
      have reads : ∀ form ∈ forms, ReadsAs (fun text =>
          readMember .full bound (fun _ => readValue .full bound levels) (skipBlanks text))
            form.text form.member := by
        intro form member
        have size := sizes form.text (List.mem_map_of_mem member)
        simp only [MemberForm.text, List.length_append, List.length_cons] at size
        apply readMember_text (keys form member) (blanks form member)
        · exact ih form member (Nat.le_of_succ_le_succ fits) (by omega)
        · omega
      rw [List.cons_append, readValue_brace, List.append_assoc]
      exact readObject_separated nonempty blanks reads (by omega) rest
  | @spaced _ before text after json blankBefore blankAfter _ ih =>
      -- A number stops at the blanks after it, and the reader leaves them to what follows.
      intro rest apart
      simp only [List.length_append] at enough
      obtain ⟨left, read, same⟩ :=
        ih fits (by omega) (after ++ rest) (apart_blanks_append blankAfter apart)
      refine ⟨left, ?_, same.trans (skipBlanks_append blankAfter rest)⟩
      rw [← readValue_skipBlanks, List.append_assoc, skipBlanks_append blankBefore,
        readValue_skipBlanks, List.append_assoc]
      exact read

end VtableHeader.Json
