import AsmLens.Proofs.Text.Blanks
import Mathlib.Order.Bounds.Defs

/-!
# Quotes, searches and margins

What stands inside a literal and what does not: for the scans that look for a character outside literals, for
the scan that an editor asks for the open quote, and for a text with something put before it.

Results:
* `firstUnquoted?_eq_some_iff`, `firstUnquoted?_eq_none_iff`: the scan for a character other than
  the quote finds the least column at which it stands unquoted.
* `firstUnquoted?_take`: the scan of a prefix finds what the scan of the whole text finds in it.
* `firstUnquoted?_append_cons`: where the scan stops behind a text with closed literals.
* `openingQuote?_succ`: what one more character does to the open quote.
* `openingQuote?_eq_none_iff`, `isGreatest_of_openingQuote?`: a quote is open exactly behind an odd
  number of quotes, and it is the last of them.
* `openingQuote?_eq_some_iff`: it is the one that opens a literal which is not closed before the column.
* `firstUnquoted?_eq_some_iff_isLeast`: the scan for a character finds the least column that has it
  and at which no quote is open.
* `slice_margin`: a slice of the text is a slice of the whole.
* `trimEnd_margin`: the end of the whole is that of the text, if this is not blank.
* `firstMatch?_margin`, `firstUnquoted?_margin`: the two searches from left to right.
-/
namespace AsmLens.Text

/-!
## Characters outside literals

A column is inside a literal when an odd number of quotes stands before it. A character stands
unquoted at a column when the text has it there and the column is not inside a literal; so whether
it does depends on the text up to that column alone.
-/

/-- An odd number of quotes stands before the column. -/
def InLiteral (text : Text) (column : Nat) : Prop := (text.take column).count '\'' % 2 = 1

instance (text : Text) (column : Nat) : Decidable (InLiteral text column) :=
  inferInstanceAs (Decidable (_ = _))

/-- The character stands at the column, outside literals. -/
def Unquoted (target : Char) (text : Text) (column : Nat) : Prop :=
  text[column]? = some target ∧ ¬ InLiteral text column

instance (target : Char) (text : Text) (column : Nat) : Decidable (Unquoted target text column) :=
  inferInstanceAs (Decidable (_ ∧ _))

/-- The character stands at the column, outside literals if the text begins inside one or not as
`quoted` says. -/
def UnquotedIn (quoted : Bool) (target : Char) (text : Text) (column : Nat) : Prop :=
  text[column]? = some target ∧ (quoted.toNat + (text.take column).count '\'') % 2 = 0

theorem unquotedIn_false {target : Char} {text : Text} {column : Nat} :
    UnquotedIn false target text column ↔ Unquoted target text column := by
  unfold UnquotedIn Unquoted InLiteral
  rw [Bool.toNat_false, Nat.zero_add, Nat.mod_two_not_eq_one]

theorem unquotedIn_cons_zero {quoted : Bool} {target c : Char} {rest : Text} :
    UnquotedIn quoted target (c :: rest) 0 ↔ c = target ∧ quoted = false := by
  cases quoted <;> simp [UnquotedIn]

theorem unquotedIn_cons_succ {quoted : Bool} {target c : Char} {rest : Text} {n : Nat} :
    UnquotedIn quoted target (c :: rest) (n + 1) ↔
      UnquotedIn (if c = '\'' then !quoted else quoted) target rest n := by
  unfold UnquotedIn
  rw [List.getElem?_cons_succ, List.take_succ_cons]
  by_cases hq : c = '\''
  · rw [if_pos hq, hq, List.count_cons_self]
    cases quoted <;>
      simp only [Bool.toNat_true, Bool.toNat_false, Bool.not_true, Bool.not_false] <;>
      constructor <;> rintro ⟨h1, h2⟩ <;> exact ⟨h1, by omega⟩
  · rw [if_neg hq, List.count_cons_of_ne hq]

/-- One step of the scan: it stops here, or goes on in the rest. -/
theorem unquotedFrom_cons {target : Char} (ht : target ≠ '\'') (quoted : Bool) (column : Nat)
    (c : Char) (rest : Text) :
    unquotedFrom target quoted column (c :: rest) =
      if c = target ∧ quoted = false then some column
      else unquotedFrom target (if c = '\'' then !quoted else quoted) (column + 1) rest := by
  rw [unquotedFrom]
  by_cases hq : c = '\''
  · rw [if_pos hq, if_neg (by rintro ⟨rfl, -⟩; exact ht hq), if_pos hq]
  · rw [if_neg hq, if_neg hq]

theorem unquotedFrom_eq_some_iff {target : Char} (ht : target ≠ '\'') {quoted : Bool}
    {column p : Nat} {text : Text} :
    unquotedFrom target quoted column text = some p ↔
      ∃ n, p = column + n ∧ UnquotedIn quoted target text n ∧
        ∀ m < n, ¬ UnquotedIn quoted target text m := by
  induction text generalizing quoted column with
  | nil => simp [unquotedFrom, UnquotedIn]
  | cons c rest ih =>
    rw [unquotedFrom_cons ht]
    split
    case isTrue h =>
      have here : UnquotedIn quoted target (c :: rest) 0 := unquotedIn_cons_zero.mpr h
      constructor
      · intro e
        cases e
        exact ⟨0, rfl, here, fun m hm => absurd hm (Nat.not_lt_zero m)⟩
      · rintro ⟨n, rfl, -, hm⟩
        cases n with
        | zero => rfl
        | succ n => exact absurd here (hm 0 (Nat.succ_pos n))
    case isFalse h =>
      have elsewhere : ¬ UnquotedIn quoted target (c :: rest) 0 :=
        fun here => h (unquotedIn_cons_zero.mp here)
      rw [ih]
      constructor
      · rintro ⟨n, rfl, hn, hm⟩
        refine ⟨n + 1, by omega, unquotedIn_cons_succ.mpr hn, ?_⟩
        intro m hlt
        cases m with
        | zero => exact elsewhere
        | succ m => rw [unquotedIn_cons_succ]; exact hm m (by omega)
      · rintro ⟨n, rfl, hn, hm⟩
        cases n with
        | zero => exact absurd hn elsewhere
        | succ n =>
          refine ⟨n, by omega, unquotedIn_cons_succ.mp hn, ?_⟩
          intro m hlt
          rw [← unquotedIn_cons_succ (c := c)]
          exact hm (m + 1) (by omega)

/-! ### The least unquoted column -/

variable {target : Char} {text : Text}

theorem firstUnquoted?_eq_some_iff (ht : target ≠ '\'') {p : Nat} :
    firstUnquoted? target text = some p ↔
      Unquoted target text p ∧ ∀ q < p, ¬ Unquoted target text q := by
  unfold firstUnquoted?
  simp only [unquotedFrom_eq_some_iff ht, unquotedIn_false, Nat.zero_add]
  constructor
  · rintro ⟨n, rfl, h⟩
    exact h
  · intro h
    exact ⟨p, rfl, h⟩

theorem firstUnquoted?_eq_none_iff (ht : target ≠ '\'') :
    firstUnquoted? target text = none ↔ ∀ q, ¬ Unquoted target text q := by
  constructor
  · intro h q
    induction q using Nat.strongRecOn with
    | ind q ih =>
      intro hq
      rw [(firstUnquoted?_eq_some_iff ht).mpr ⟨hq, ih⟩] at h
      cases h
  · intro h
    cases he : firstUnquoted? target text with
    | none => rfl
    | some p => exact absurd ((firstUnquoted?_eq_some_iff ht).mp he).1 (h p)

theorem Unquoted.lt_length {column : Nat} (h : Unquoted target text column) :
    column < text.length :=
  (List.getElem?_eq_some_iff.mp h.1).1

theorem unquoted_append_of_lt {a b : Text} {column : Nat} (h : column < a.length) :
    Unquoted target (a ++ b) column ↔ Unquoted target a column := by
  unfold Unquoted InLiteral
  rw [List.getElem?_append_left h, List.take_append_of_le_length (Nat.le_of_lt h)]

theorem unquoted_take_iff {n column : Nat} :
    Unquoted target (text.take n) column ↔ column < n ∧ Unquoted target text column := by
  constructor
  · intro h
    have hlt := h.lt_length
    rw [List.length_take] at hlt
    refine ⟨by omega, ?_⟩
    rw [← List.take_append_drop n text, unquoted_append_of_lt (by rw [List.length_take]; omega)]
    exact h
  · rintro ⟨hn, h⟩
    have hlt := h.lt_length
    rw [← List.take_append_drop n text,
      unquoted_append_of_lt (by rw [List.length_take]; omega)] at h
    exact h

theorem firstUnquoted?_take (ht : target ≠ '\'') (n : Nat) :
    firstUnquoted? target (text.take n) = (firstUnquoted? target text).filter (· < n) := by
  apply Option.ext
  intro p
  rw [Option.filter_eq_some_iff, firstUnquoted?_eq_some_iff ht, firstUnquoted?_eq_some_iff ht,
    decide_eq_true_eq, unquoted_take_iff]
  constructor
  · rintro ⟨⟨hn, hp⟩, hq⟩
    refine ⟨⟨hp, fun q hlt h => hq q hlt ?_⟩, hn⟩
    exact unquoted_take_iff.mpr ⟨by omega, h⟩
  · rintro ⟨⟨hp, hq⟩, hn⟩
    exact ⟨⟨hn, hp⟩, fun q hlt h => hq q hlt (unquoted_take_iff.mp h).2⟩

/-- The first character that is not blank stands unquoted. -/
theorem firstUnquoted?_of_indentation (ht : target ≠ '\'')
    (h : text[indentation text]? = some target) :
    firstUnquoted? target text = some (indentation text) := by
  have blank := blankBetween_indentation text
  have hblank := not_isBlank_of_indentation h
  rw [firstUnquoted?_eq_some_iff ht]
  refine ⟨⟨h, ?_⟩, ?_⟩
  · have hnone : (text.take (indentation text)).count '\'' = 0 := by
      rw [List.count_eq_zero]
      intro hmem
      rw [blankBetween_iff_slice, slice, List.drop_zero] at blank
      exact absurd (blank _ hmem) (by decide)
    rw [InLiteral, hnone]
    decide
  · intro q hq hu
    have := blank q target (Nat.zero_le q) hq hu.1
    rw [hblank] at this
    cases this

/-- Behind a text that closes all its literals, the first character stands unquoted. -/
theorem firstUnquoted?_append_cons (ht : target ≠ '\'') {a b : Text}
    (even : a.count '\'' % 2 = 0) (h : ∀ q, ¬ Unquoted target a q) :
    firstUnquoted? target (a ++ target :: b) = some a.length := by
  rw [firstUnquoted?_eq_some_iff ht]
  refine ⟨⟨?_, ?_⟩, ?_⟩
  · rw [List.getElem?_append_right (Nat.le_refl _), Nat.sub_self]
    rfl
  · rw [InLiteral, List.take_left, even]
    decide
  · intro q hq hu
    exact h q ((unquoted_append_of_lt hq).mp hu)

/-!
## The literal that a column lies in

An editor asks for the quote that opens the literal under the cursor, and the reader of a line asks
whether a semicolon or a colon counts. The first is answered by a scan that remembers the open
quote, the second by scans that remember a single bit. They agree on what is inside a literal, also
where a literal is never closed: there the last quote is open up to the end of the text.
-/

variable {column o : Nat}

/-- The columns before `column` at which the text has a quote. -/
def quotesBefore (text : Text) (column : Nat) : Set Nat := {q | q < column ∧ text[q]? = some '\''}

/-- The columns at which the text has the character and no quote is open. -/
def outsideLiterals (target : Char) (text : Text) : Set Nat :=
  {column | text[column]? = some target ∧ openingQuote? text column = none}

/-! ### The open quote -/

theorem openQuoteAfter_append (opening : Option Nat) (column : Nat) (a b : Text) :
    openQuoteAfter opening column (a ++ b) =
      openQuoteAfter (openQuoteAfter opening column a) (column + a.length) b := by
  induction a generalizing opening column with
  | nil => rfl
  | cons c rest ih =>
    have hlen : column + (c :: rest).length = column + 1 + rest.length := by
      rw [List.length_cons]
      omega
    rw [List.cons_append, openQuoteAfter, openQuoteAfter, hlen]
    split
    · exact ih _ _
    · exact ih _ _

theorem openingQuote?_succ (text : Text) (column : Nat) :
    openingQuote? text (column + 1) =
      if text[column]? = some '\'' then
        if (openingQuote? text column).isSome then none else some column
      else openingQuote? text column := by
  rw [openingQuote?, List.take_add_one, openQuoteAfter_append]
  cases hc : text[column]? with
  | none => rfl
  | some c =>
    have hlt := (List.getElem?_eq_some_iff.mp hc).1
    have hlen : 0 + (text.take column).length = column := by
      rw [List.length_take_of_le (Nat.le_of_lt hlt), Nat.zero_add]
    rw [hlen, Option.toList_some, openQuoteAfter, openQuoteAfter, openQuoteAfter]
    simp only [Option.some.injEq]
    rfl

theorem openingQuote?_eq_none_iff : openingQuote? text column = none ↔ ¬ InLiteral text column := by
  rw [InLiteral, ← openingQuote?_isSome_iff, Option.not_isSome_iff_eq_none]

/-- One more character that is no quote leaves the quotes before it as they are. -/
theorem quotesBefore_succ (h : text[column]? ≠ some '\'') :
    quotesBefore text (column + 1) = quotesBefore text column := by
  ext q
  constructor
  · rintro ⟨hlt, hq⟩
    rcases Nat.lt_or_eq_of_le (Nat.le_of_lt_succ hlt) with hlt | rfl
    · exact ⟨hlt, hq⟩
    · exact absurd hq h
  · rintro ⟨hlt, hq⟩
    exact ⟨Nat.lt_succ_of_lt hlt, hq⟩

theorem isGreatest_of_openingQuote? (h : openingQuote? text column = some o) :
    IsGreatest (quotesBefore text column) o := by
  induction column with
  | zero => cases h
  | succ column ih =>
    rw [openingQuote?_succ] at h
    split at h
    case isTrue hquote =>
      -- the quote at the column is the last one, and it is open if no other was
      split at h
      · cases h
      · cases h
        exact ⟨⟨Nat.lt_succ_self _, hquote⟩, fun q hq => Nat.le_of_lt_succ hq.1⟩
    case isFalse hquote =>
      rw [quotesBefore_succ hquote]
      exact ih h

/-! ### Literals -/

/-- No quote stands at a column in `[start, stop)`. -/
def QuoteFree (text : Text) (start stop : Nat) : Prop :=
  ∀ q, start ≤ q → q < stop → text[q]? ≠ some '\''

instance (text : Text) (start stop : Nat) : Decidable (QuoteFree text start stop) :=
  decidable_of_iff (∀ q, q < stop → start ≤ q → text[q]? ≠ some '\'')
    ⟨fun h q h1 h2 => h q h2 h1, fun h q h2 h1 => h q h1 h2⟩

/-- The quote at the column opens a literal: an even number of quotes stands before it. -/
structure Opens (text : Text) (o : Nat) : Prop where
  quote : text[o]? = some '\''
  even : (text.take o).count '\'' % 2 = 0

/-- The quotes at the two columns enclose a literal. -/
structure IsLiteral (text : Text) (o c : Nat) : Prop extends Opens text o where
  lt : o < c
  closing : text[c]? = some '\''
  body : QuoteFree text (o + 1) c

theorem opens_iff : Opens text o ↔ text[o]? = some '\'' ∧ openingQuote? text o = none := by
  have heven : openingQuote? text o = none ↔ (text.take o).count '\'' % 2 = 0 := by
    rw [openingQuote?_eq_none_iff, InLiteral, Nat.mod_two_not_eq_one]
  rw [heven]
  exact ⟨fun h => ⟨h.quote, h.even⟩, fun h => ⟨h.1, h.2⟩⟩

theorem quoteFree_succ_iff (h : o ≤ column) :
    QuoteFree text o (column + 1) ↔ QuoteFree text o column ∧ text[column]? ≠ some '\'' := by
  constructor
  · intro hfree
    exact ⟨fun q h1 h2 => hfree q h1 (by omega), hfree column h (by omega)⟩
  · intro ⟨hfree, hlast⟩ q h1 h2
    rcases Nat.lt_or_eq_of_le (Nat.le_of_lt_succ h2) with hlt | rfl
    · exact hfree q h1 hlt
    · exact hlast

/-- The open quote opens a literal before the column, and no quote closes it there. -/
theorem openingQuote?_eq_some_iff :
    openingQuote? text column = some o ↔
      Opens text o ∧ o < column ∧ QuoteFree text (o + 1) column := by
  induction column with
  | zero => exact iff_of_false (by simp [openingQuote?, openQuoteAfter]) fun h => by omega
  | succ column ih =>
    rw [openingQuote?_succ]
    by_cases hquote : text[column]? = some '\''
    · rw [if_pos hquote]
      -- the quote at the column closes what is open before it, or else it opens
      have hbefore : o < column → ¬ QuoteFree text (o + 1) (column + 1) := fun hlt hfree =>
        hfree column hlt (Nat.lt_succ_self column) hquote
      cases hopen : openingQuote? text column with
      | some before =>
        refine iff_of_false (by simp) fun h => ?_
        obtain ⟨ho, hlt, hfree⟩ := h
        rcases Nat.lt_or_eq_of_le (Nat.le_of_lt_succ hlt) with hlt | rfl
        · exact hbefore hlt hfree
        · rw [opens_iff, hopen] at ho
          cases ho.2
      | none =>
        simp only [Option.isSome_none, Bool.false_eq_true, if_false, Option.some.injEq]
        constructor
        · intro e
          subst e
          exact ⟨opens_iff.mpr ⟨hquote, hopen⟩, Nat.lt_succ_self _, fun q h1 h2 => by omega⟩
        · intro h
          obtain ⟨-, hlt, hfree⟩ := h
          have hle : ¬ o < column := fun h => hbefore h hfree
          omega
    · rw [if_neg hquote, ih]
      refine and_congr_right fun ho => ?_
      have hne : o ≠ column := fun e => hquote (e ▸ ho.quote)
      constructor
      · intro h
        obtain ⟨hlt, hfree⟩ := h
        exact ⟨by omega, (quoteFree_succ_iff hlt).mpr ⟨hfree, hquote⟩⟩
      · intro h
        obtain ⟨hlt, hfree⟩ := h
        exact ⟨by omega, ((quoteFree_succ_iff (by omega)).mp hfree).1⟩

/-- From behind its opening quote up to its closing one, a literal is open. -/
theorem IsLiteral.openingQuote?_eq (h : IsLiteral text o c) (h1 : o < column) (h2 : column ≤ c) :
    openingQuote? text column = some o :=
  openingQuote?_eq_some_iff.mpr ⟨h.toOpens, h1, fun q hq1 hq2 => h.body q hq1 (by omega)⟩

/-! ### The scan for a character -/

variable {p : Nat}

theorem mem_outsideLiterals_iff : column ∈ outsideLiterals target text ↔
    Unquoted target text column :=
  and_congr_right fun _ => openingQuote?_eq_none_iff

theorem firstUnquoted?_eq_some_iff_isLeast (ht : target ≠ '\'') :
    firstUnquoted? target text = some p ↔ IsLeast (outsideLiterals target text) p := by
  rw [firstUnquoted?_eq_some_iff ht]
  constructor
  · rintro ⟨hp, hleast⟩
    refine ⟨mem_outsideLiterals_iff.mpr hp, fun q hq => Nat.le_of_not_lt fun hlt => ?_⟩
    exact hleast q hlt (mem_outsideLiterals_iff.mp hq)
  · rintro ⟨hp, hleast⟩
    refine ⟨mem_outsideLiterals_iff.mp hp, fun q hlt hq => ?_⟩
    exact Nat.not_lt_of_le (hleast (mem_outsideLiterals_iff.mpr hq)) hlt

theorem firstUnquoted?_isSome_iff (ht : target ≠ '\'') :
    (firstUnquoted? target text).isSome = true ↔ (outsideLiterals target text).Nonempty := by
  constructor
  · intro h
    obtain ⟨p, hp⟩ := Option.isSome_iff_exists.mp h
    exact ⟨p, ((firstUnquoted?_eq_some_iff_isLeast ht).mp hp).1⟩
  · rintro ⟨q, hq⟩
    rw [Option.isSome_iff_ne_none]
    intro hnone
    exact (firstUnquoted?_eq_none_iff ht).mp hnone q (mem_outsideLiterals_iff.mp hq)

/-!
## Text behind a margin

Characters that are put before a text move everything in it to the right. A search that passes over
all of them finds in the whole what it finds in the text, further on by the width of the margin.
-/

open Unicode (isBlank)

variable {α : Type}

/-! ### Pieces -/

theorem slice_margin (margin text : Text) (start stop : Nat) :
    slice (margin ++ text) (start + margin.length) (stop + margin.length) =
      slice text start stop := by
  rw [slice, Nat.add_comm stop, List.take_length_add_append, Nat.add_comm start,
    List.drop_length_add_append, slice]

theorem take_margin (margin text : Text) (column : Nat) :
    (margin ++ text).take (column + margin.length) = margin ++ text.take column := by
  rw [Nat.add_comm, List.take_length_add_append]

theorem not_mem_of_blank {margin : Text} (blank : ∀ c ∈ margin, isBlank c = true) {c : Char}
    (h : isBlank c = false) : c ∉ margin := by
  intro hmem
  rw [blank c hmem] at h
  cases h

theorem trimEnd_margin (margin : Text) {text : Text} (h : text.all isBlank = false) :
    trimEnd (margin ++ text) = margin ++ trimEnd text := by
  have hne : trimStart text.reverse ≠ [] := by
    rw [ne_eq, trimStart_eq_nil_iff, ← List.all_eq_true, List.all_reverse, h]
    simp
  have hdrop : trimStart (text.reverse ++ margin.reverse) =
      trimStart text.reverse ++ margin.reverse := by
    rw [trimStart, List.dropWhile_append, if_neg (by simpa [trimStart] using hne), trimStart]
  rw [trimEnd, List.reverse_append, ← trimStart, hdrop, List.reverse_append, List.reverse_reverse,
    trimStart, trimEnd]

/-! ### The search for a match -/

theorem firstMatchFrom_add (look : Text → Option α) (column k : Nat) (text : Text) :
    firstMatchFrom look (column + k) text =
      (firstMatchFrom look column text).map fun found => (found.1 + k, found.2) := by
  induction text generalizing column with
  | nil => rfl
  | cons c rest ih =>
    rw [firstMatchFrom, firstMatchFrom]
    cases look (c :: rest) with
    | some found => rfl
    | none =>
      simp only
      rw [Nat.add_right_comm, ih]

theorem firstMatchFrom_margin {look : Text → Option α} {margin : Text}
    (h : ∀ c ∈ margin, ∀ rest, look (c :: rest) = none) (column : Nat) (text : Text) :
    firstMatchFrom look column (margin ++ text) =
      firstMatchFrom look (column + margin.length) text := by
  induction margin generalizing column with
  | nil => rfl
  | cons c rest ih =>
    rw [List.cons_append, firstMatchFrom, h c List.mem_cons_self]
    simp only
    rw [ih (fun d hd => h d (List.mem_cons_of_mem c hd)), List.length_cons, Nat.add_right_comm,
      Nat.add_assoc]

/-- Nothing is found at the characters of the margin, so what is found stands behind it. -/
theorem firstMatch?_margin {look : Text → Option α} {margin : Text}
    (h : ∀ c ∈ margin, ∀ rest, look (c :: rest) = none) (text : Text) :
    firstMatch? look (margin ++ text) =
      (firstMatch? look text).map fun found => (found.1 + margin.length, found.2) := by
  rw [firstMatch?, firstMatchFrom_margin h, firstMatchFrom_add, firstMatch?]

/-! ### The search outside literals -/

theorem unquotedFrom_add (target : Char) (quoted : Bool) (column k : Nat) (text : Text) :
    unquotedFrom target quoted (column + k) text =
      (unquotedFrom target quoted column text).map (· + k) := by
  induction text generalizing quoted column with
  | nil => rfl
  | cons c rest ih =>
    simp only [unquotedFrom, Nat.add_right_comm column k 1, ih]
    split
    · rfl
    · split <;> rfl

theorem unquotedFrom_margin {target : Char} {margin : Text} (hquote : '\'' ∉ margin)
    (htarget : target ∉ margin) (quoted : Bool) (column : Nat) (text : Text) :
    unquotedFrom target quoted column (margin ++ text) =
      unquotedFrom target quoted (column + margin.length) text := by
  induction margin generalizing column with
  | nil => rfl
  | cons c rest ih =>
    simp only [List.mem_cons, not_or] at hquote htarget
    rw [List.cons_append, unquotedFrom, if_neg (Ne.symm hquote.1),
      if_neg (fun h => htarget.1 h.1.symm), ih hquote.2 htarget.2, List.length_cons,
      Nat.add_right_comm, Nat.add_assoc]

/-- A margin without quotes opens no literal and closes none. -/
theorem firstUnquoted?_margin {target : Char} {margin : Text} (hquote : '\'' ∉ margin)
    (htarget : target ∉ margin) (text : Text) :
    firstUnquoted? target (margin ++ text) =
      (firstUnquoted? target text).map (· + margin.length) := by
  rw [firstUnquoted?, unquotedFrom_margin hquote htarget, unquotedFrom_add, firstUnquoted?]

end AsmLens.Text
