import AsmLens.Proofs.Text.Blanks
import AsmLens.Span

/-!
# Tilings and words

Two ways in which spans of one line fit together: side by side with nothing but blanks between them, and as
maximal runs of word characters.

Results:
* `Tiled.append`: two stretches side by side are tiled by the spans of both.
* `Tiled.pairwise`, `Tiled.bounds`: the spans are in order, disjoint and within the stretch.
* `Tiled.isBlank_outside`: whatever no span contains is blank.
* `Tiled.pairwise_cons_iff`, `Tiled.disjoint_cons_iff`: when one more span fits before a tiling.
* `wordAt?_eq_some_iff`: the word at a column is the maximal run that contains it.
* `IsWord.covers`: it contains every run through that column.
* `not_wordChar_of_isBlank`: blanks end words.
-/
namespace AsmLens.Span
open Text (BlankBetween)
open Unicode (isBlank)

/-!
## Spans that tile a stretch of a line

A classified line is a row of stretches, each of which is a field, or a field with blanks around it,
or blanks. `Tiled raw lo spans hi` says that the spans stand in `[lo, hi)` in this order, that none
is empty, and that all around and between them is blank.
-/

/-- The spans stand in `[lo, hi)` one after the other, none of them empty, and the rest of the
stretch is blank. -/
def Tiled (raw : Text) : Nat → List Span → Nat → Prop
  | lo, [], hi => lo ≤ hi ∧ BlankBetween raw lo hi
  | lo, s :: rest, hi =>
    lo ≤ s.start ∧ s.start < s.stop ∧ BlankBetween raw lo s.start ∧ Tiled raw s.stop rest hi

theorem tiled_self (raw : Text) (column : Nat) : Tiled raw column [] column :=
  ⟨Nat.le_refl _, Text.blankBetween_of_le raw (Nat.le_refl _)⟩

theorem tiled_singleton (raw : Text) {start stop : Nat} (h : start < stop) :
    Tiled raw start [⟨start, stop⟩] stop :=
  ⟨Nat.le_refl _, h, Text.blankBetween_of_le raw (Nat.le_refl _), tiled_self raw stop⟩

theorem Tiled.append {raw : Text} {lo mid hi : Nat} {l1 l2 : List Span}
    (h1 : Tiled raw lo l1 mid) (h2 : Tiled raw mid l2 hi) : Tiled raw lo (l1 ++ l2) hi := by
  induction l1 generalizing lo with
  | nil =>
    obtain ⟨hle, hb⟩ := h1
    cases l2 with
    | nil => exact ⟨Nat.le_trans hle h2.1, hb.join h2.2⟩
    | cons s rest =>
      obtain ⟨h3, h4, h5, h6⟩ := h2
      exact ⟨Nat.le_trans hle h3, h4, hb.join h5, h6⟩
  | cons s rest ih =>
    obtain ⟨h3, h4, h5, h6⟩ := h1
    exact ⟨h3, h4, h5, ih h6⟩

theorem Tiled.le {raw : Text} {lo hi : Nat} {spans : List Span} (h : Tiled raw lo spans hi) :
    lo ≤ hi := by
  induction spans generalizing lo with
  | nil => exact h.1
  | cons s rest ih =>
    obtain ⟨h1, h2, -, h4⟩ := h
    have := ih h4
    omega

theorem Tiled.bounds {raw : Text} {lo hi : Nat} {spans : List Span} (h : Tiled raw lo spans hi) :
    ∀ s ∈ spans, lo ≤ s.start ∧ s.start < s.stop ∧ s.stop ≤ hi := by
  induction spans generalizing lo with
  | nil => simp
  | cons s rest ih =>
    obtain ⟨h1, h2, -, h4⟩ := h
    intro x hx
    rcases List.mem_cons.mp hx with rfl | hx
    · exact ⟨h1, h2, h4.le⟩
    · obtain ⟨h5, h6, h7⟩ := ih h4 x hx
      exact ⟨by omega, h6, h7⟩

theorem Tiled.pairwise {raw : Text} {lo hi : Nat} {spans : List Span}
    (h : Tiled raw lo spans hi) : spans.Pairwise fun a b => a.stop ≤ b.start := by
  induction spans generalizing lo with
  | nil => exact List.Pairwise.nil
  | cons s rest ih =>
    obtain ⟨-, -, -, h4⟩ := h
    exact List.Pairwise.cons (fun x hx => (h4.bounds x hx).1) (ih h4)

theorem Tiled.isBlank_outside {raw : Text} {lo hi : Nat} {spans : List Span}
    (h : Tiled raw lo spans hi) {column : Nat} {c : Char} (hlo : lo ≤ column) (hhi : column < hi)
    (hc : raw[column]? = some c) (out : ∀ s ∈ spans, s.contains column = false) :
    isBlank c = true := by
  induction spans generalizing lo with
  | nil => exact h.2 column c hlo hhi hc
  | cons s rest ih =>
    obtain ⟨-, -, hb, h4⟩ := h
    by_cases h1 : column < s.start
    · exact hb column c hlo h1 hc
    · have h2 : ¬ (s.start ≤ column ∧ column < s.stop) := by
        rw [← contains_iff, out s List.mem_cons_self]
        simp
      exact ih h4 (by omega) fun x hx => out x (List.mem_cons_of_mem _ hx)

/-- Of two spans in order, a column lies in one at most. -/
theorem not_contains_both {a b : Span} (h : a.stop ≤ b.start) (column : Nat) :
    ¬ (a.contains column = true ∧ b.contains column = true) := by
  rw [contains_iff, contains_iff]
  omega

/-- A span put before a tiling is in order with it exactly when it ends before the tiling begins. -/
theorem Tiled.pairwise_cons_iff {raw : Text} {lo hi : Nat} {s m : Span} {rest : List Span}
    (h : Tiled raw lo (m :: rest) hi) (hm : m.start = lo) :
    ((s :: m :: rest).Pairwise fun a b => a.stop ≤ b.start) ↔ s.stop ≤ lo := by
  constructor
  · intro hp
    rw [← hm]
    exact (List.pairwise_cons.mp hp).1 m List.mem_cons_self
  · intro hle
    refine List.Pairwise.cons ?_ h.pairwise
    intro x hx
    exact Nat.le_trans hle (h.bounds x hx).1

/-- If the span begins no later than the tiling, to share no column with it is to be in order. -/
theorem Tiled.disjoint_cons_iff {raw : Text} {lo hi : Nat} {s m : Span} {rest : List Span}
    (h : Tiled raw lo (m :: rest) hi) (hm : m.start = lo) (hs : s.start ≤ lo) :
    ((s :: m :: rest).Pairwise fun a b =>
        ∀ column, ¬ (a.contains column = true ∧ b.contains column = true)) ↔ s.stop ≤ lo := by
  constructor
  · intro hp
    refine Nat.le_of_not_lt fun hlt => ?_
    have hlt' := (h.bounds m List.mem_cons_self).2.1
    refine (List.pairwise_cons.mp hp).1 m List.mem_cons_self lo ⟨?_, ?_⟩
    · exact contains_iff.mpr ⟨hs, hlt⟩
    · exact contains_iff.mpr ⟨by omega, by omega⟩
  · intro hle
    exact ((h.pairwise_cons_iff hm).mpr hle).imp fun hab column => not_contains_both hab column

end AsmLens.Span

/-!
## Words as maximal runs

The word at a column is found by counting word characters in both directions. What comes out is a
run of word characters that cannot be made longer at either end, and the run through a column is
the only one. So a piece of a line that is all word characters is the word at each of its columns as
soon as neither of its neighbours is one; blanks are never word characters.
-/

namespace AsmLens

namespace Unicode

/-- Blanks stand in no word. -/
theorem not_wordChar_of_isBlank {c : Char} (h : isBlank c = true) : isWordChar c = false := by
  have table : (blankRanges.all fun r => (List.range' r.1 (r.2 - r.1 + 1)).all fun n =>
      !inRanges n alphanumericRanges && n != '_'.toNat) = true := by decide +kernel
  obtain ⟨r, hr, h1, h2⟩ := exists_mem_of_inRanges h
  have := List.all_eq_true.mp (List.all_eq_true.mp table r hr) c.toNat
    (List.mem_range'_1.mpr ⟨h1, by omega⟩)
  rw [Bool.and_eq_true, Bool.not_eq_true', bne_iff_ne] at this
  obtain ⟨hletter, hne⟩ := this
  rw [isWordChar, isAlphanumeric, hletter, Bool.false_or, beq_eq_false_iff_ne]
  rintro rfl
  exact hne rfl

end Unicode

namespace Span
open Unicode (isBlank isWordChar)

/-- The line has a word character at the column. -/
def WordCharAt (raw : Text) (column : Nat) : Prop := raw[column]?.any isWordChar = true

instance (raw : Text) (column : Nat) : Decidable (WordCharAt raw column) :=
  inferInstanceAs (Decidable (_ = _))

theorem wordCharAt_iff {raw : Text} {column : Nat} :
    WordCharAt raw column ↔ ∃ c, raw[column]? = some c ∧ isWordChar c = true := by
  rw [WordCharAt, Option.any_eq_true]

theorem WordCharAt.lt_length {raw : Text} {column : Nat} (h : WordCharAt raw column) :
    column < raw.length := by
  obtain ⟨c, hc, -⟩ := wordCharAt_iff.mp h
  exact (List.getElem?_eq_some_iff.mp hc).1

/-- The span is a run of word characters that neither of its neighbours belongs to. -/
structure IsWord (raw : Text) (span : Span) : Prop where
  lt : span.start < span.stop
  inside : ∀ column, span.start ≤ column → column < span.stop → WordCharAt raw column
  before : ∀ column, column + 1 = span.start → ¬ WordCharAt raw column
  after : ¬ WordCharAt raw span.stop

/-! ### Counting word characters -/

theorem wordCharAt_of_lt_wordLength {text : Text} {k : Nat} (h : k < wordLength text) :
    WordCharAt text k := by
  have hk : k < (text.takeWhile isWordChar).length := h
  have hc := List.all_eq_true.mp List.all_takeWhile _ (List.getElem_mem hk)
  obtain ⟨rest, e⟩ := List.takeWhile_prefix isWordChar (l := text)
  rw [wordCharAt_iff, ← e, List.getElem?_append_left hk]
  exact ⟨_, List.getElem?_eq_getElem hk, hc⟩

theorem not_wordCharAt_wordLength (text : Text) : ¬ WordCharAt text (wordLength text) := by
  induction text with
  | nil => simp [WordCharAt]
  | cons c rest ih =>
    by_cases hc : isWordChar c = true
    · rw [wordLength, List.takeWhile_cons_of_pos hc, List.length_cons, WordCharAt,
        List.getElem?_cons_succ]
      exact ih
    · rw [wordLength, List.takeWhile_cons_of_neg hc]
      simpa [WordCharAt] using hc

theorem wordCharAt_drop {raw : Text} {n k : Nat} :
    WordCharAt (raw.drop n) k ↔ WordCharAt raw (n + k) := by
  rw [WordCharAt, WordCharAt, List.getElem?_drop]

theorem wordCharAt_reverse_take {raw : Text} {n k : Nat} (hn : n ≤ raw.length) (hk : k < n) :
    WordCharAt (raw.take n).reverse k ↔ WordCharAt raw (n - 1 - k) := by
  have hlen : (raw.take n).length = n := List.length_take_of_le hn
  rw [WordCharAt, WordCharAt, List.getElem?_reverse (by omega), hlen,
    List.getElem?_take_of_lt (by omega)]

theorem wordLength_reverse_take_le {raw : Text} {n : Nat} (hn : n ≤ raw.length) :
    wordLength (raw.take n).reverse ≤ n := by
  have h := (List.takeWhile_prefix isWordChar (l := (raw.take n).reverse)).length_le
  rwa [List.length_reverse, List.length_take_of_le hn] at h

/-! ### The word at a column -/

variable {raw : Text} {column : Nat} {span : Span}

theorem exists_wordAt?_iff : (∃ span, wordAt? raw column = some span) ↔ WordCharAt raw column := by
  rw [← Option.isSome_iff_exists, wordAt?_isSome_iff, wordCharAt_iff]

theorem isWord_of_wordAt? (h : wordAt? raw column = some span) : IsWord raw span := by
  unfold wordAt? at h
  split at h
  case isFalse => cases h
  case isTrue hc =>
    cases h
    have hcolumn : column < raw.length := WordCharAt.lt_length hc
    have hback : wordLength (raw.take column).reverse ≤ column :=
      wordLength_reverse_take_le (Nat.le_of_lt hcolumn)
    have hforth : 0 < wordLength (raw.drop column) := by
      refine Nat.pos_of_ne_zero fun h0 => not_wordCharAt_wordLength (raw.drop column) ?_
      rw [h0, wordCharAt_drop]
      exact hc
    refine ⟨by simp only; omega, ?_, ?_, ?_⟩
    · intro k h1 h2
      simp only at h1 h2
      by_cases hk : k < column
      · -- counted backwards from the column
        have hword : WordCharAt (raw.take column).reverse (column - 1 - k) :=
          wordCharAt_of_lt_wordLength (by omega)
        rw [wordCharAt_reverse_take (Nat.le_of_lt hcolumn) (by omega)] at hword
        rwa [show column - 1 - (column - 1 - k) = k by omega] at hword
      · have hword : WordCharAt (raw.drop column) (k - column) :=
          wordCharAt_of_lt_wordLength (by omega)
        rw [wordCharAt_drop] at hword
        rwa [show column + (k - column) = k by omega] at hword
    · intro k hk hword
      simp only at hk
      have hend := not_wordCharAt_wordLength (raw.take column).reverse
      rw [wordCharAt_reverse_take (Nat.le_of_lt hcolumn) (by omega),
        show column - 1 - wordLength (raw.take column).reverse = k by omega] at hend
      exact hend hword
    · rw [← wordCharAt_drop]
      exact not_wordCharAt_wordLength _

/-- A word contains every run of word characters that it has a column in common with. -/
theorem IsWord.covers (h : IsWord raw span) (hc : span.contains column = true) {a b : Nat}
    (ha : a ≤ column) (hb : column < b) (run : ∀ k, a ≤ k → k < b → WordCharAt raw k) :
    span.start ≤ a ∧ b ≤ span.stop := by
  rw [contains_iff] at hc
  constructor
  · refine Nat.le_of_not_lt fun hlt => h.before (span.start - 1) (by omega) ?_
    exact run _ (by omega) (by omega)
  · refine Nat.le_of_not_lt fun hlt => h.after ?_
    exact run _ (by omega) (by omega)

theorem IsWord.unique {other : Span} (h : IsWord raw span) (h' : IsWord raw other)
    (hc : span.contains column = true) (hc' : other.contains column = true) : span = other := by
  obtain ⟨h1, h2⟩ := contains_iff.mp hc
  obtain ⟨h3, h4⟩ := contains_iff.mp hc'
  obtain ⟨h5, h6⟩ := h.covers hc h3 h4 h'.inside
  obtain ⟨h7, h8⟩ := h'.covers hc' h1 h2 h.inside
  cases span
  cases other
  simp only at *
  rw [Nat.le_antisymm h5 h7, Nat.le_antisymm h8 h6]

theorem wordAt?_eq_some_iff :
    wordAt? raw column = some span ↔ IsWord raw span ∧ span.contains column = true := by
  constructor
  · intro h
    exact ⟨isWord_of_wordAt? h, contains_of_wordAt? h⟩
  · rintro ⟨h, hc⟩
    obtain ⟨h1, h2⟩ := contains_iff.mp hc
    obtain ⟨other, hother⟩ := exists_wordAt?_iff.mpr (h.inside column h1 h2)
    rw [hother, h.unique (isWord_of_wordAt? hother) hc (contains_of_wordAt? hother)]

end Span
end AsmLens
