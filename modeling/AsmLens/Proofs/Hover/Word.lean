import AsmLens.Proofs.Hover.Field
import AsmLens.Proofs.Line.Names

/-!
# Hover text on a word

Outside literals, hover is meant to show the value of the word at the column, with the minus sign before it.
It asks first whether the whole field is one literal, but looks only at the first and the last character of
the field. A field that begins with one literal and ends with another passes for one literal as well, and
then every word in it is covered by the codes of all characters from the first to the last one. A word is
never in a field that is one literal, for no literal is open at it.

Results:
* `signedWordAt?_eq_some_iff`: the word with its sign, without reference to how it is found.
* `constantAt?_of_plain`, `constantAt?_of_quoted`: the constant at a column outside literals.
* `word_shown_iff`: the value of the word is shown exactly where the field does not begin and end with a
  quote.
-/
namespace AsmLens.Hover
open Constant (evaluate)
open Line (ofText)
open AsmLens.Span (IsWord WordCharAt)
open Text (IsLiteral)

variable {raw : Text} {field span word : Span} {column q : Nat}

/-! ## The word with its sign -/

/-- The span is the word at the column, with the minus sign directly before it if that is in the field. -/
inductive SignedWord (raw : Text) (field : Span) (column : Nat) : Span → Prop
  | negative {minus stop : Nat} (isWord : IsWord raw ⟨minus + 1, stop⟩)
    (contains : (⟨minus + 1, stop⟩ : Span).contains column = true) (sign : raw[minus]? = some '-')
    (inside : field.start ≤ minus) : SignedWord raw field column ⟨minus, stop⟩
  | plain {word : Span} (isWord : IsWord raw word) (contains : word.contains column = true)
    (unsigned : ∀ minus, minus + 1 = word.start → raw[minus]? = some '-' → minus < field.start) :
    SignedWord raw field column word

theorem signedWordAt?_eq_some_iff :
    signedWordAt? raw field column = some span ↔ SignedWord raw field column span := by
  rw [signedWordAt?, Option.map_eq_some_iff]
  constructor
  · intro ⟨word, hword, e⟩
    obtain ⟨isWord, contains⟩ := Span.wordAt?_eq_some_iff.mp hword
    split at e
    case isTrue h =>
      subst e
      have hstart : (⟨word.start - 1 + 1, word.stop⟩ : Span) = word := by
        rw [Nat.sub_add_cancel (by omega)]
      exact SignedWord.negative (hstart ▸ isWord) (hstart ▸ contains) h.2 (by omega)
    case isFalse h =>
      subst e
      refine SignedWord.plain isWord contains fun minus hm sign => Nat.lt_of_not_le fun hle => h ?_
      exact ⟨by omega, by rwa [← hm]⟩
  · intro h
    cases h with
    | negative isWord contains sign inside =>
      refine ⟨_, Span.wordAt?_eq_some_iff.mpr ⟨isWord, contains⟩, if_pos ⟨?_, sign⟩⟩
      exact Nat.lt_succ_of_le inside
    | plain isWord contains unsigned =>
      refine ⟨_, Span.wordAt?_eq_some_iff.mpr ⟨isWord, contains⟩, if_neg fun ⟨hlt, sign⟩ => ?_⟩
      have := unsigned (span.start - 1) (by omega) sign
      omega

/-- At a word character there is exactly one word with its sign. -/
theorem existsUnique_signedWord (h : WordCharAt raw column) (field : Span) :
    ∃! span, SignedWord raw field column span := by
  simp only [← signedWordAt?_eq_some_iff]
  have hsome : (signedWordAt? raw field column).isSome = true := by
    rw [signedWordAt?, Option.isSome_map]
    exact Span.wordAt?_isSome_iff.mpr (Span.wordCharAt_iff.mp h)
  obtain ⟨span, hspan⟩ := Option.isSome_iff_exists.mp hsome
  exact ⟨span, hspan, fun other hother => Option.some.inj (hother.symm.trans hspan)⟩

theorem not_wordCharAt_of_quote (hq : raw[q]? = some '\'') : ¬ WordCharAt raw q := by
  rw [WordCharAt, hq]
  decide

theorem not_between_of_quote (h : IsWord raw word) (hq : raw[q]? = some '\'') :
    q < word.start ∨ word.stop ≤ q := by
  rcases Nat.lt_or_ge q word.start with hlt | hge
  · exact Or.inl hlt
  · exact Or.inr (Nat.le_of_not_lt fun hlt => not_wordCharAt_of_quote hq (h.inside q hge hlt))

theorem not_mem_extract_of_isWord (h : IsWord raw word) : '\'' ∉ word.extract raw := by
  intro hmem
  obtain ⟨q, h1, h2, hq⟩ := Text.mem_slice_iff.mp hmem
  have := not_between_of_quote h hq
  omega

theorem SignedWord.not_mem_extract (h : SignedWord raw field column span) :
    '\'' ∉ span.extract raw := by
  cases h with
  | plain isWord => exact not_mem_extract_of_isWord isWord
  | negative isWord contains sign =>
    intro hmem
    obtain ⟨q, h1, h2, hq⟩ := Text.mem_slice_iff.mp hmem
    rcases Nat.lt_or_eq_of_le h1 with hlt | e
    · exact not_wordCharAt_of_quote hq (isWord.inside q hlt h2)
    · rw [← e, sign] at hq
      cases hq

/-! ## The constant at a column outside literals -/

theorem looksLiteral_iff {text : Text} :
    looksLiteral text = true ↔ ∃ body, body ≠ [] ∧ text = '\'' :: body ++ ['\''] := by
  constructor
  · intro h
    simp only [looksLiteral, Bool.and_eq_true, decide_eq_true_eq, beq_iff_eq] at h
    obtain ⟨⟨hlen, hhead⟩, hlast⟩ := h
    obtain ⟨rest, rfl⟩ := List.head?_eq_some_iff.mp hhead
    rcases List.eq_nil_or_concat' rest with rfl | ⟨body, last, rfl⟩
    · simp at hlen
    · refine ⟨body, ?_, ?_⟩
      · rintro rfl
        simp at hlen
      · rw [← List.cons_append, List.getLast?_concat, Option.some.injEq] at hlast
        rw [hlast]
        rfl
  · rintro ⟨body, hne, rfl⟩
    have hpos := List.length_pos_iff.mpr hne
    have hlen : 3 ≤ ('\'' :: body ++ ['\'']).length := by
      simp only [List.length_append, List.length_cons, List.length_nil]
      omega
    rw [looksLiteral, List.getLast?_concat, decide_eq_true hlen]
    rfl

theorem constantAt?_of_quoted {body : Text} (outside : Text.openingQuote? raw column = none)
    (hfield : field.extract raw = '\'' :: body ++ ['\'']) (hne : body ≠ []) :
    constantAt? raw field column = some (body.map fun ch => (ch.toNat : Int)) := by
  have hlooks : looksLiteral (field.extract raw) = true := looksLiteral_iff.mpr ⟨body, hne, hfield⟩
  rw [constantAt?_eq_some_iff, constantSpanAt?_of_outside (by simp [outside]), if_pos hlooks]
  refine ⟨fun h => hne (List.map_eq_nil_iff.mp h), field, rfl, ?_⟩
  rw [hfield, Constant.evaluate_quoted]

theorem constantAt?_of_plain (outside : Text.openingQuote? raw column = none)
    (plain : looksLiteral (field.extract raw) = false) (token : SignedWord raw field column span) :
    constantAt? raw field column = evaluate (span.extract raw) := by
  rw [constantAt?_eq, constantSpanAt?_of_outside (by simp [outside]), plain,
    if_neg Bool.false_ne_true, signedWordAt?_eq_some_iff.mpr token, Option.bind_some]
  cases he : evaluate (span.extract raw) with
  | none => rfl
  | some values =>
    obtain ⟨v, -, rfl⟩ := (Constant.evaluate_eq_some_iff_of_not_mem token.not_mem_extract).mp he
    rfl

/-! ## The field that passes for one literal -/

section
variable {body : Text} (hfield : field.extract raw = '\'' :: body ++ ['\''])
include hfield

theorem length_of_quoted : field.start + (body.length + 2) = min field.stop raw.length := by
  have hlen := Span.length_extract field raw
  rw [hfield] at hlen
  simp only [List.length_append, List.length_cons, List.length_nil] at hlen
  omega

theorem getElem?_of_quoted {k : Nat} (hk : k < body.length + 2) :
    raw[field.start + k]? = ('\'' :: body ++ ['\''])[k]? := by
  have hlen := length_of_quoted hfield
  rw [← hfield, Span.extract, Text.getElem?_slice, if_pos (by omega)]

/-- A word character of the field stands between the quotes at its ends. -/
theorem between_of_quoted (hc : field.contains column = true) (hword : WordCharAt raw column) :
    field.start < column ∧ column < field.start + (body.length + 1) := by
  have hlen := length_of_quoted hfield
  have hopening := not_wordCharAt_of_quote (getElem?_of_quoted hfield (Nat.succ_pos _))
  have hclosing : ¬ WordCharAt raw (field.start + (body.length + 1)) := by
    refine not_wordCharAt_of_quote ((getElem?_of_quoted hfield (Nat.lt_succ_self _)).trans ?_)
    simp
  have hne : column ≠ field.start := by rintro rfl; exact hopening hword
  have hne' : column ≠ field.start + (body.length + 1) := by rintro rfl; exact hclosing hword
  have hlt := hword.lt_length
  obtain ⟨h1, h2⟩ := Span.contains_iff.mp hc
  omega

/-- The codes of the characters between the quotes are never the value of a word among them. -/
theorem evaluate_ne_of_quoted (hc : field.contains column = true) (hword : WordCharAt raw column)
    (token : SignedWord raw field column span) :
    evaluate (span.extract raw) ≠ some (body.map fun ch => (ch.toNat : Int)) := by
  intro h
  obtain ⟨v, -, e⟩ := (Constant.evaluate_eq_some_iff_of_not_mem token.not_mem_extract).mp h
  -- there is one value, so there is one character, and that is the word
  obtain ⟨c, rfl, -⟩ := List.map_eq_singleton_iff.mp e
  have hopening : raw[field.start]? = some '\'' := getElem?_of_quoted hfield (Nat.succ_pos _)
  have hchar : raw[field.start + 1]? = some c := getElem?_of_quoted hfield (by simp)
  have hclosing : raw[field.start + 2]? = some '\'' := getElem?_of_quoted hfield (by simp)
  obtain ⟨h1, h2⟩ := between_of_quoted hfield hc hword
  rw [List.length_singleton] at h2
  have single : ∀ {word : Span}, IsWord raw word → word.contains column = true →
      word = ⟨field.start + 1, field.start + 2⟩ := by
    intro word isWord contains
    obtain ⟨h3, h4⟩ := Span.contains_iff.mp contains
    have hstart := not_between_of_quote isWord hopening
    have hstop := not_between_of_quote isWord hclosing
    cases word
    simp only [Span.mk.injEq] at *
    omega
  cases token with
  | negative isWord contains sign =>
    have hminus := congrArg Span.start (single isWord contains)
    rw [Nat.succ.inj hminus, hopening] at sign
    cases sign
  | plain isWord contains =>
    have hextract : span.extract raw = [c] := by
      rw [single isWord contains, Span.extract, Text.slice_succ, hchar, Option.toList_some]
    rw [hextract] at h
    exact Constant.evaluate_singleton_ne c h

end

/-! ## What is shown -/

theorem extract_part (raw : Text) (number : Nat) {p : Part} (hp : p = .data ∨ p = .value) :
    ((ofText raw number).part p).span.extract raw = ((ofText raw number).part p).text :=
  (Line.part_on raw number (by rcases hp with rfl | rfl <;> decide)).slice_eq

/-- At a word character of the data or of a value that is in no literal, the value of the word with its sign
is shown, and nothing if it has none, exactly if the field does not begin and end with a quote. If it
does, the codes of all characters between these two are shown, and the two do not enclose a literal.
All of this holds where the manual describes no register of the data. -/
theorem word_shown_iff (raw : Text) (number : Nat) (manual : Manual) {p : Part}
    (hp : p = .data ∨ p = .value) {column : Nat}
    (hc : ((ofText raw number).part p).span.contains column = true)
    (hword : WordCharAt raw column) (outside : (ofText raw number).openingQuote? column = none)
    (hno : NoRegisterAt (ofText raw number) column manual) :
    let line := ofText raw number
    let field := line.part p
    (∃! token, SignedWord raw field.span column token) ∧
      ∀ token, SignedWord raw field.span column token →
        (at? line column manual = (evaluate (token.extract raw)).map renderings ↔
            ∀ body, field.text ≠ '\'' :: body ++ ['\'']) ∧
          ∀ body, field.text = '\'' :: body ++ ['\''] →
            at? line column manual = some (renderings (body.map fun ch => (ch.toNat : Int))) ∧
              ¬ IsLiteral raw field.span.start (field.span.stop - 1) := by
  intro line field
  rw [Line.openingQuote?, Line.raw_ofText] at outside
  have hshown : at? line column manual = (constantAt? raw field.span column).map renderings :=
    at?_of_noRegisterAt hp hc hno
  have hextract : field.span.extract raw = field.text := extract_part raw number hp
  refine ⟨existsUnique_signedWord hword _, fun token htoken => ?_⟩
  have hquoted : ∀ body, field.text = '\'' :: body ++ ['\''] →
      constantAt? raw field.span column = some (body.map fun ch => (ch.toNat : Int)) := by
    intro body hbody
    have hfield := hextract.trans hbody
    refine constantAt?_of_quoted outside hfield ?_
    rintro rfl
    have hbetween := between_of_quoted hfield hc hword
    rw [List.length_nil] at hbetween
    omega
  refine ⟨⟨fun h body hbody => ?_, fun h => ?_⟩, fun body hbody => ⟨?_, fun hliteral => ?_⟩⟩
  · rw [hshown, hquoted body hbody] at h
    obtain ⟨values, hvalues, e⟩ := Option.map_eq_some_iff.mp h.symm
    rw [renderings_inj.mp e] at hvalues
    exact evaluate_ne_of_quoted (hextract.trans hbody) hc hword htoken hvalues
  · have plain : looksLiteral (field.span.extract raw) = false := by
      rw [Bool.eq_false_iff, ne_eq, looksLiteral_iff]
      intro ⟨body, _, hbody⟩
      exact h body (hextract.symm.trans hbody)
    rw [hshown, constantAt?_of_plain outside plain htoken]
  · rw [hshown, hquoted body hbody, Option.map_some]
  · have hbetween := between_of_quoted (hextract.trans hbody) hc hword
    have hstop := (Span.contains_iff.mp hc).2
    rw [hliteral.openingQuote?_eq hbetween.1 (Nat.le_sub_one_of_lt hstop)] at outside
    cases outside

/-- A number with its sign, a word that is no constant, and a number between two literals. -/
theorem word_shown_iff_both_ways :
    at? (ofText "X WORD -10" 0) 8 Manual.empty = some (renderings [-10]) ∧
      at? (ofText " BR LOOP" 0) 5 Manual.empty = none ∧
      at? (ofText "X STR 'a', 65, 'b'" 0) 11 Manual.empty ≠ some (renderings [65]) := by
  obtain ⟨-, hsigned⟩ := word_shown_iff "X WORD -10" 0 Manual.empty (Or.inr rfl)
    (show _ = true by decide) (show WordCharAt _ 8 by decide) (by decide) fun _ _ _ => rfl
  obtain ⟨-, hname⟩ := word_shown_iff " BR LOOP" 0 Manual.empty (Or.inl rfl)
    (show _ = true by decide) (show WordCharAt _ 5 by decide) (by decide) fun _ _ _ => rfl
  obtain ⟨-, hhidden⟩ := word_shown_iff "X STR 'a', 65, 'b'" 0 Manual.empty (Or.inr rfl)
    (show _ = true by decide) (show WordCharAt _ 11 by decide) (by decide) fun _ _ _ => rfl
  have signedWord : ∀ {raw : Text} {field token : Span} {column : Nat},
      signedWordAt? raw field column = some token → SignedWord raw field column token :=
    signedWordAt?_eq_some_iff.mp
  refine ⟨?_, ?_, fun h => ?_⟩
  · refine ((hsigned ⟨7, 10⟩ (signedWord (by decide))).1.mpr fun body e => ?_).trans (by decide)
    cases (List.cons.inj e).1
  · refine ((hname ⟨4, 8⟩ (signedWord (by decide))).1.mpr fun body e => ?_).trans (by decide)
    cases (List.cons.inj e).1
  · have hvalue : evaluate ((⟨11, 13⟩ : Span).extract "X STR 'a', 65, 'b'") = some [65] := by decide
    refine (hhidden ⟨11, 13⟩ (signedWord (by decide))).1.mp ?_ "a', 65, 'b" (by decide)
    rw [hvalue]
    exact h

/-- At a number between two literals, the codes of both literals and of all that stands between them are
shown in place of the number. -/
theorem word_hidden_between_literals :
    let raw : Text := "X STR 'a', 65, 'b'"
    let line := ofText raw 0
    let field := (line.part .value).span
    (field.contains 11 = true ∧ WordCharAt raw 11 ∧ line.openingQuote? 11 = none ∧
        NoRegisterAt line 11 Manual.empty) ∧
      SignedWord raw field 11 ⟨11, 13⟩ ∧ evaluate ((⟨11, 13⟩ : Span).extract raw) = some [65] ∧
      at? line 11 Manual.empty = some (renderings [97, 39, 44, 32, 54, 53, 44, 32, 39, 98]) ∧
      at? line 11 Manual.empty ≠ some (renderings [65]) := by
  refine ⟨⟨by decide, by decide, by decide, fun _ _ _ => rfl⟩, ?_, by decide, by decide, by decide⟩
  exact signedWordAt?_eq_some_iff.mp (by decide)

end AsmLens.Hover
