import AsmLens.Unicode

/-!
# Texts

A text is the list of its characters, so that a column is an index into it and no column can fall inside a
character. Here is all that is done with texts before anything is known of the language: cutting and
trimming, taking lines apart, searching, and reading and writing numbers and quoted text.

* `length_trimEnd_le`, `trimEnd_eq_nil_iff`: what trimming leaves.
* `not_isBlank_head_trimStart`: trimmed text begins with a character that is not blank.
* `splitLines_append_newline`: a text that ends with a newline can be split on its own, whatever
  follows it.
* `openingQuote?_isSome_iff`: a column is inside a literal exactly when an odd number of quotes
  stands before it.
* `firstMatch?_eq_some_iff`: the search stops at a column exactly when the look-up succeeds there
  and at no column before.
* `firstMatch?_eq_none_iff`: it finds nothing exactly when the look-up fails at every column.
* `numeral_zeroPadded`: leading zeros do not change a number.
* `isDigitOf_of_mem_toDigits`: a number is written in digits of its base only.
-/
namespace AsmLens

/-! ## Pieces of a text -/

/-- A text, character by character. -/
abbrev Text := List Char

instance : Coe String Text := ⟨String.toList⟩

namespace Text
open Unicode (isBlank)

/-- The characters from column `start` up to but not including column `stop`. Columns past the end
of the text are clamped to it. -/
def slice (text : Text) (start stop : Nat) : Text := (text.take stop).drop start

/-- The text without its leading blanks. -/
def trimStart (text : Text) : Text := text.dropWhile isBlank

/-- The text without its trailing blanks. -/
def trimEnd (text : Text) : Text := (text.reverse.dropWhile isBlank).reverse

/-- The text without the blanks at either end. -/
def trim (text : Text) : Text := trimEnd (trimStart text)

/-- How many bytes the UTF-8 form of the text takes. -/
def utf8Size : Text → Nat
  | [] => 0
  | c :: rest => c.utf8Size + utf8Size rest

/-- How many blanks the text begins with. -/
def indentation (text : Text) : Nat := (text.takeWhile isBlank).length

/-- The text with its ASCII letters in upper case. -/
def asciiUpper (text : Text) : Text := text.map Char.toUpper

/-- The text padded with spaces on the left to at least `width` characters. -/
def padLeft (width : Nat) (text : Text) : Text :=
  List.replicate (width - text.length) ' ' ++ text

/-- The text padded with spaces on the right to at least `width` characters. -/
def padRight (width : Nat) (text : Text) : Text :=
  text ++ List.replicate (width - text.length) ' '

theorem length_slice (text : Text) (start stop : Nat) :
    (slice text start stop).length = min stop text.length - start := by
  simp [slice]

theorem slice_self (text : Text) (column : Nat) : slice text column column = [] := by
  simp [slice]

theorem slice_append_slice (text : Text) {a b c : Nat} (hab : a ≤ b) (hbc : b ≤ c) :
    slice text a b ++ slice text b c = slice text a c := by
  unfold slice
  rw [List.drop_take, List.drop_take, List.drop_take]
  have h : c - a = (b - a) + (c - b) := by omega
  rw [h, List.take_add, List.drop_drop]
  congr 3
  omega

theorem length_trimEnd_le (text : Text) : (trimEnd text).length ≤ text.length := by
  have := (List.dropWhile_suffix (l := text.reverse) isBlank).length_le
  simpa [trimEnd] using this

theorem indentation_add_length_trimStart (text : Text) :
    indentation text + (trimStart text).length = text.length := by
  unfold indentation trimStart
  rw [← List.length_append, List.takeWhile_append_dropWhile]

theorem drop_indentation (text : Text) : text.drop (indentation text) = trimStart text := by
  unfold indentation trimStart
  induction text with
  | nil => rfl
  | cons c rest ih =>
    by_cases h : isBlank c = true
    · simp [h, ih]
    · simp [h]

theorem trimEnd_prefix (text : Text) : trimEnd text <+: text := by
  have h := List.dropWhile_suffix (l := text.reverse) isBlank
  have := List.reverse_prefix.mpr h
  simpa [trimEnd] using this

theorem drop_prefix_drop {part text : Text} (h : part <+: text) (n : Nat) :
    part.drop n <+: text.drop n := by
  obtain ⟨rest, rfl⟩ := h
  rw [List.drop_append]
  exact List.prefix_append _ _

theorem trimStart_eq_nil_iff {text : Text} :
    trimStart text = [] ↔ ∀ c ∈ text, isBlank c = true := by
  induction text with
  | nil => simp [trimStart]
  | cons c rest ih =>
    unfold trimStart at ih ⊢
    by_cases h : isBlank c = true
    · simp [h, ih]
    · simp [h]

theorem trimEnd_eq_nil_iff {text : Text} :
    trimEnd text = [] ↔ ∀ c ∈ text, isBlank c = true := by
  rw [trimEnd, List.reverse_eq_nil_iff, ← trimStart, trimStart_eq_nil_iff]
  simp

theorem not_isBlank_head_trimStart {text rest : Text} {c : Char}
    (h : trimStart text = c :: rest) : isBlank c = false := by
  have := List.head?_dropWhile_not isBlank text
  rw [trimStart] at h
  rw [h] at this
  simpa using this

end Text
end AsmLens

/-!
## Lines

A newline ends a line, and one carriage return directly before it belongs to the line's end. What
follows the last newline is a line of its own unless it is empty; a carriage return there stays.
-/

namespace AsmLens.Text

/-- A line read backwards, put into reading order without the carriage return that ends it. -/
def closeLine : Text → Text
  | '\r' :: line => line.reverse
  | line => line.reverse

/-- The lines of a text whose first line has begun; `line` holds its characters so far,
backwards. -/
def splitLinesFrom (line : Text) : Text → List Text
  | [] => if line.isEmpty then [] else [line.reverse]
  | '\n' :: rest => closeLine line :: splitLinesFrom [] rest
  | c :: rest => splitLinesFrom (c :: line) rest

/-- The lines of a text, without their ends. -/
def splitLines (text : Text) : List Text := splitLinesFrom [] text

theorem splitLinesFrom_append_newline (line text rest : Text) :
    splitLinesFrom line (text ++ '\n' :: rest) =
      splitLinesFrom line (text ++ ['\n']) ++ splitLines rest := by
  induction text generalizing line with
  | nil => simp [splitLinesFrom, splitLines]
  | cons c text ih =>
    by_cases h : c = '\n'
    · subst h
      simp [splitLinesFrom, ih]
    · simp [splitLinesFrom, ih]

theorem splitLines_append_newline (text rest : Text) :
    splitLines (text ++ '\n' :: rest) = splitLines (text ++ ['\n']) ++ splitLines rest :=
  splitLinesFrom_append_newline [] text rest

/-!
## Quotes and what they enclose

Single quotes enclose literals: every quote either opens a literal or closes the one that is open,
and a literal that is never closed runs to the end of the line. There are no escapes.
-/

/-- The first column, counted from `column`, at which `target` stands outside literals; `quoted`
says whether the text begins inside one. -/
def unquotedFrom (target : Char) (quoted : Bool) (column : Nat) : Text → Option Nat
  | [] => none
  | c :: rest =>
    if c = '\'' then unquotedFrom target (!quoted) (column + 1) rest
    else if c = target ∧ quoted = false then some column
    else unquotedFrom target quoted (column + 1) rest

/-- The first column at which `target` stands outside literals (`find_unquoted`). -/
def firstUnquoted? (target : Char) (text : Text) : Option Nat := unquotedFrom target false 0 text

/-- The column of the quote that is open after the text, given the one that is open before it; the
text begins at `column`. -/
def openQuoteAfter (opening : Option Nat) (column : Nat) : Text → Option Nat
  | [] => opening
  | c :: rest =>
    if c = '\'' then openQuoteAfter (if opening.isSome then none else some column) (column + 1) rest
    else openQuoteAfter opening (column + 1) rest

/-- The column of the quote that opens the literal which `column` lies in (`find_opening_quote`). -/
def openingQuote? (text : Text) (column : Nat) : Option Nat :=
  openQuoteAfter none 0 (text.take column)

theorem openQuoteAfter_isSome (opening : Option Nat) (column : Nat) (text : Text) :
    (openQuoteAfter opening column text).isSome =
      (opening.isSome ^^ decide (text.count '\'' % 2 = 1)) := by
  induction text generalizing opening column with
  | nil => simp [openQuoteAfter]
  | cons c rest ih =>
    unfold openQuoteAfter
    split
    case isTrue h =>
      subst h
      rw [ih]
      rcases Nat.mod_two_eq_zero_or_one (rest.count '\'') with hr | hr <;>
        cases opening <;> simp [hr, Nat.add_mod]
    case isFalse h =>
      rw [ih, List.count_cons_of_ne (by simpa using h)]

theorem openingQuote?_isSome_iff {text : Text} {column : Nat} :
    (openingQuote? text column).isSome = true ↔ (text.take column).count '\'' % 2 = 1 := by
  simp [openingQuote?, openQuoteAfter_isSome]

/-!
## Searching a text from left to right

A look-up examines what begins at a column and may find something there. The search returns the
first column at which it does.
-/

variable {α : Type}

/-- The first column, counted from `column`, at which the look-up finds something. -/
def firstMatchFrom (look : Text → Option α) (column : Nat) : Text → Option (Nat × α)
  | [] => none
  | c :: rest =>
    match look (c :: rest) with
    | some found => some (column, found)
    | none => firstMatchFrom look (column + 1) rest

/-- The first column of the text at which the look-up finds something, with what it finds. -/
def firstMatch? (look : Text → Option α) (text : Text) : Option (Nat × α) :=
  firstMatchFrom look 0 text

theorem firstMatchFrom_map {β : Type} (f : α → β) (look : Text → Option α) (column : Nat)
    (text : Text) :
    firstMatchFrom (fun text => (look text).map f) column text =
      (firstMatchFrom look column text).map fun found => (found.1, f found.2) := by
  induction text generalizing column with
  | nil => rfl
  | cons c rest ih =>
    unfold firstMatchFrom
    cases look (c :: rest) with
    | some found => rfl
    | none => exact ih (column + 1)

theorem firstMatch?_map {β : Type} (f : α → β) (look : Text → Option α) (text : Text) :
    firstMatch? (fun text => (look text).map f) text =
      (firstMatch? look text).map fun found => (found.1, f found.2) :=
  firstMatchFrom_map f look 0 text

theorem firstMatchFrom_eq_some_iff {look : Text → Option α} {column p : Nat} {text : Text}
    {found : α} :
    firstMatchFrom look column text = some (p, found) ↔
      ∃ n, p = column + n ∧ n < text.length ∧ look (text.drop n) = some found ∧
        ∀ m < n, look (text.drop m) = none := by
  induction text generalizing column with
  | nil => simp [firstMatchFrom]
  | cons c rest ih =>
    unfold firstMatchFrom
    cases h : look (c :: rest) with
    | some a =>
      simp only [Option.some.injEq, Prod.mk.injEq]
      constructor
      · rintro ⟨rfl, rfl⟩
        exact ⟨0, by simp, by simp, by simpa using h, by simp⟩
      · rintro ⟨n, rfl, -, hn, hm⟩
        cases n with
        | zero => exact ⟨by simp, by simpa [h] using hn⟩
        | succ n => simpa [h] using hm 0 (by omega)
    | none =>
      simp only [ih]
      constructor
      · rintro ⟨n, rfl, hlt, hn, hm⟩
        refine ⟨n + 1, by omega, by simpa using hlt, by simpa using hn, ?_⟩
        intro m hlm
        cases m with
        | zero => simpa using h
        | succ m => simpa using hm m (by omega)
      · rintro ⟨n, rfl, hlt, hn, hm⟩
        cases n with
        | zero => simp [h] at hn
        | succ n =>
          refine ⟨n, by omega, by simpa using hlt, by simpa using hn, ?_⟩
          intro m hlm
          simpa using hm (m + 1) (by omega)

theorem firstMatch?_eq_some_iff {look : Text → Option α} {p : Nat} {text : Text} {found : α} :
    firstMatch? look text = some (p, found) ↔
      p < text.length ∧ look (text.drop p) = some found ∧
        ∀ m < p, look (text.drop m) = none := by
  unfold firstMatch?
  rw [firstMatchFrom_eq_some_iff]
  constructor
  · rintro ⟨n, rfl, h⟩
    simpa using h
  · intro h
    exact ⟨p, by simp, h⟩

theorem firstMatchFrom_eq_none_iff {look : Text → Option α} {column : Nat} {text : Text} :
    firstMatchFrom look column text = none ↔ ∀ n < text.length, look (text.drop n) = none := by
  induction text generalizing column with
  | nil => simp [firstMatchFrom]
  | cons c rest ih =>
    unfold firstMatchFrom
    cases h : look (c :: rest) with
    | some a =>
      simp only [reduceCtorEq, false_iff, Classical.not_forall]
      exact ⟨0, by simp, by simp [h]⟩
    | none =>
      simp only [ih]
      constructor
      · intro hr n hn
        cases n with
        | zero => simpa using h
        | succ n => simpa using hr n (by simpa using hn)
      · intro hr n hn
        simpa using hr (n + 1) (by simpa using hn)

theorem firstMatch?_eq_none_iff {look : Text → Option α} {text : Text} :
    firstMatch? look text = none ↔ ∀ n < text.length, look (text.drop n) = none :=
  firstMatchFrom_eq_none_iff

/-!
## Numerals

Reading and writing of whole numbers in positional notation. Writing uses the fewest digits and
upper-case letters; reading takes digits of either case and any number of leading zeros. Code points
are written in lower case.
-/

/-- The value of a digit of a base up to sixteen, or `none` for any other character. -/
def digitValue? (c : Char) : Option Nat :=
  if '0' ≤ c ∧ c ≤ '9' then some (c.toNat - '0'.toNat)
  else if 'a' ≤ c ∧ c ≤ 'f' then some (c.toNat - 'a'.toNat + 10)
  else if 'A' ≤ c ∧ c ≤ 'F' then some (c.toNat - 'A'.toNat + 10)
  else none

/-- Whether the character is a digit of the base. -/
def isDigitOf (base : Nat) (c : Char) : Bool := (digitValue? c).any (· < base)

/-- The number that the digits spell after those that already make up `value`. -/
def numeralFrom (base value : Nat) (digits : Text) : Nat :=
  digits.foldl (fun n c => n * base + (digitValue? c).getD 0) value

/-- The number that the digits spell. -/
def numeral (base : Nat) (digits : Text) : Nat := numeralFrom base 0 digits

/-- The number that the text spells when it is one or more digits of the base. -/
def numeral? (base : Nat) (text : Text) : Option Nat :=
  if text ≠ [] ∧ text.all (isDigitOf base) then some (numeral base text) else none

/-- The number in the base, with as few digits as possible. -/
def ofNat (base n : Nat) : Text := asciiUpper (Nat.toDigits base n)

/-- The number in decimal notation. -/
def decimal (n : Nat) : Text := Nat.toDigits 10 n

/-- The integer in decimal notation, with a minus sign if it is negative. -/
def signedDecimal : Int → Text
  | .ofNat n => decimal n
  | .negSucc n => '-' :: decimal (n + 1)

/-- The digits with zeros before them, up to at least `width` digits. -/
def zeroPadded (width : Nat) (digits : Text) : Text :=
  List.replicate (width - digits.length) '0' ++ digits

/-- The code point of the character in hexadecimal digits. -/
def codePointDigits (c : Char) : Text := Nat.toDigits 16 c.toNat

/-- The character by its code point in braces. -/
def bracedCodePoint (c : Char) : Text := "\\u\x7b" ++ codePointDigits c ++ "\x7d"

theorem numeral_append_digit (base : Nat) (digits : Text) (c : Char) :
    numeral base (digits ++ [c]) = numeral base digits * base + (digitValue? c).getD 0 := by
  simp [numeral, numeralFrom]

/-- More digits never make a number smaller. -/
theorem le_numeralFrom {base : Nat} (pos : 0 < base) (value : Nat) (digits : Text) :
    value ≤ numeralFrom base value digits := by
  induction digits generalizing value with
  | nil => exact Nat.le_refl value
  | cons c rest ih =>
    have hstep := Nat.le_mul_of_pos_right value pos
    have := ih (value * base + (digitValue? c).getD 0)
    simp only [numeralFrom, List.foldl_cons] at this ⊢
    omega

/-- Leading zeros do not change a number. -/
theorem numeral_zeroPadded (base width : Nat) (digits : Text) :
    numeral base (zeroPadded width digits) = numeral base digits := by
  unfold zeroPadded
  generalize width - digits.length = k
  induction k with
  | zero => rfl
  | succ k ih =>
    rw [List.replicate_succ, List.cons_append]
    simpa [numeral, numeralFrom, digitValue?] using ih

theorem digitValue?_digitChar {d : Nat} (h : d < 16) :
    digitValue? (Nat.digitChar d) = some d := by
  have digit : ∀ d : Fin 16, digitValue? (Nat.digitChar d.val) = some d.val := by decide
  exact digit ⟨d, h⟩

/-- A number is written in digits of its base only. -/
theorem isDigitOf_of_mem_toDigits {base : Nat} (two_le : 2 ≤ base) (le_sixteen : base ≤ 16)
    (n : Nat) : ∀ c ∈ Nat.toDigits base n, isDigitOf base c = true := by
  have small : ∀ d, d < base → isDigitOf base (Nat.digitChar d) = true := fun d hd => by
    rw [isDigitOf, digitValue?_digitChar (by omega)]
    simpa using hd
  induction n using Nat.strongRecOn with
  | ind n ih =>
    intro c hc
    rw [Nat.toDigits_eq_if (by omega)] at hc
    split at hc
    · obtain rfl := List.mem_singleton.mp hc
      exact small n (by assumption)
    · rcases List.mem_append.mp hc with hc | hc
      · exact ih (n / base) (Nat.div_lt_self (by omega) (by omega)) c hc
      · obtain rfl := List.mem_singleton.mp hc
        exact small _ (Nat.mod_lt _ (by omega))

theorem not_mem_codePointDigits {d : Char} (h : isDigitOf 16 d = false) (c : Char) :
    d ∉ codePointDigits c := fun mem => by
  rw [isDigitOf_of_mem_toDigits (by decide) (by decide) _ d mem] at h
  exact absurd h (by decide)

theorem newline_not_mem_decimal (n : Nat) : '\n' ∉ decimal n := fun h =>
  absurd (isDigitOf_of_mem_toDigits (by decide) (by decide) n _ h) (by decide)

/-!
## Text in upper case

Names in tables are compared in upper case, with the full mapping of Unicode: a text may get
longer, as `ß` becomes `SS`.
-/

/-- The text in upper case. -/
def upperCase (text : Text) : Text := text.flatMap Unicode.upperCase

end AsmLens.Text

/-!
## Quoted text

Text between double quotes, on one line and with nothing invisible in it. A tab, a carriage return,
a newline, a zero character, a backslash and a double quote are written as a backslash and one
more character; any other character that does not show in print, or that would merge with the
character before it, is written as its code point in braces.
-/

namespace AsmLens.Text.Quoted

/-- How a character is written between double quotes. -/
def escape (c : Char) : Text :=
  if c = '\t' then "\\t"
  else if c = '\r' then "\\r"
  else if c = '\n' then "\\n"
  else if c = '\x00' then "\\0"
  else if c = '\\' then "\\\\"
  else if c = '"' then "\\\""
  else if Unicode.showsAlone c then [c]
  else bracedCodePoint c

/-- The text between double quotes, where `write` says how each of its characters is written. -/
def encodeWith (write : Char → Text) (text : Text) : Text := '"' :: text.flatMap write ++ ['"']

/-- The text between double quotes. -/
def encode (text : Text) : Text := encodeWith escape text

end AsmLens.Text.Quoted
