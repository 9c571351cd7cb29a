import AsmLens.Proofs.Query.Bytes
import Mathlib.Data.Set.Lattice
import Mathlib.Order.Interval.Set.OrdConnected
import Mathlib.Order.Minimal

/-!
# Spans of a line as a whole

Every column of a line has its byte, every byte on a boundary its column, and every word character its word.
Both accounts are complete: going from columns to bytes and back loses nothing, and the words that are found
from all columns are all the words there are.

Results:
* `exists_inBytes`: every range of bytes on boundaries is the range of some columns of the line.
* `samePiece_inBytes`: columns and their bytes cover the same piece.
* `extractBytes_eq`, `toOption_extractBytes`: the text of any span, or the fault that there is none.
* `extractBytes_append`: the texts of neighbouring spans.
* `columns_lose_nothing`: all of this for one line.
* `wordAt?_eq_of_contains`: every column of a word leads to it.
* `IsWord.separated`, `pairwise_words`: two words have a column between them, and none in common.
* `mem_words_iff`, `image_columns_words`: the words that are found are the maximal runs.
* `words_are_maximal_runs`: all of this for one line, with the word at each column.
-/
namespace AsmLens.Span
open Text (bytes byteAt slice utf8)

/-!
## Bytes and columns of a line

Spans are found in bytes and kept in columns. One way, the characters before each byte are counted; the
other way, the character at each column is looked up, and the end of the line stands in for a column past
it. The two undo each other on the boundaries of the line, where a range of bytes and its columns have the
same text, and that text is what the range cuts out of the UTF-8 form of the line.

Off the line they do not: all columns past its end have one byte. So a reversed span has a text after all
if both of its columns are cut down to the end of the line, and has none if the end comes earlier.
-/

/-- The bytes from `first` to `last` are the columns of the span: as many characters stand before either end,
and both cover the same piece of the line, in its UTF-8 form too. -/
structure SamePiece (line : Text) (first last : Nat) (span : Span) (piece : Text) : Prop where
  before : ∃ before, bytes line 0 first = pure before ∧ span.start = before.length
  upTo : ∃ upTo, bytes line 0 last = pure upTo ∧ span.stop = upTo.length
  columns : span.extractBytes line = pure piece
  bytes : bytes line first last = pure piece
  encoded : utf8 piece = (utf8 line).extract first last

variable {line : Text} {span : Span} {first last : Nat}

/-! ### From bytes to columns -/

/-- Every range of bytes on boundaries of the line is the range of some columns. -/
theorem exists_inBytes (h : first ≤ last)
    (hfirst : String.Pos.Raw.IsValid (String.ofList line) ⟨first⟩)
    (hlast : String.Pos.Raw.IsValid (String.ofList line) ⟨last⟩) :
    ∃ span : Span, span.Within line ∧ span.inBytes line = ⟨first, last⟩ := by
  obtain ⟨start, stop, hle, hstop, rfl, rfl⟩ := Text.exists_columns h hfirst hlast
  exact ⟨⟨start, stop⟩, ⟨hle, hstop⟩, rfl⟩

/-- The columns of a span on the line and their bytes cover the same piece. -/
theorem samePiece_inBytes (hw : span.Within line) :
    SamePiece line (line.byteAt span.start) (line.byteAt span.stop) span (span.extract line) := by
  have hstart : span.start ≤ line.length := Nat.le_trans hw.1 hw.2
  have hpiece : bytes line (line.byteAt span.start) (line.byteAt span.stop) = pure (span.extract line) :=
    Text.bytes_byteAt hw.1 hw.2
  exact {
    before := ⟨_, Text.bytes_zero hstart, (List.length_take_of_le hstart).symm⟩
    upTo := ⟨_, Text.bytes_zero hw.2, (List.length_take_of_le hw.2).symm⟩
    columns := extractBytes_of_le hw.1 line
    bytes := hpiece
    encoded := (Text.bytes_eq_pure_iff.mp hpiece).2.2.2 }

/-! ### From columns to text -/

/-- A span has a text unless it is reversed and ends before the line does. -/
theorem extractBytes_eq (span : Span) (line : Text) :
    span.extractBytes line =
      if span.stop < span.start ∧ span.stop < line.length then
        throw (.piece (line.byteAt span.start) (line.byteAt span.stop))
      else pure (slice line (min span.start line.length) (min span.stop line.length)) := by
  unfold extractBytes
  rw [← Text.byteAt_min line span.start, ← Text.byteAt_min line span.stop]
  split
  case isTrue h =>
    have hlt : min span.stop line.length < min span.start line.length := by omega
    have hbytes := Text.byteAt_lt_byteAt hlt (Nat.min_le_right span.start line.length)
    rw [bytes, if_neg fun hcut => Nat.not_lt.mpr hcut.1 hbytes]
  case isFalse h =>
    have hle : min span.start line.length ≤ min span.stop line.length := by omega
    rw [Text.bytes_byteAt hle (Nat.min_le_right _ _)]

theorem toOption_extractBytes (span : Span) (line : Text) :
    (span.extractBytes line).toOption = span.extract? line := by
  rw [extractBytes_eq]
  split
  case isTrue h => exact (extract?_eq_none_iff.mpr h).symm
  case isFalse h =>
    rw [extract?, if_pos (by omega), Text.slice_min]
    rfl

/-- The texts of neighbouring spans make up the text of the two together. -/
theorem extractBytes_append {a b c : Nat} (hab : a ≤ b) (hbc : b ≤ c) (line : Text) :
    ∃ left right, extractBytes ⟨a, b⟩ line = pure left ∧ extractBytes ⟨b, c⟩ line = pure right ∧
      extractBytes ⟨a, c⟩ line = pure (left ++ right) := by
  refine ⟨slice line a b, slice line b c, extractBytes_of_le hab line, extractBytes_of_le hbc line, ?_⟩
  rw [Text.slice_append_slice line hab hbc]
  exact extractBytes_of_le (Nat.le_trans hab hbc) line

/-- A range of bytes on boundaries of the line becomes the columns that count the characters before either
end, and the text of these columns is the piece between the bytes. A span has no text exactly if it is
reversed and ends before the line does, and otherwise its text is what stands between its columns, cut down
to the line. So the texts of neighbouring spans make up the text of the two together. -/
theorem columns_lose_nothing (line : Text) :
    (∀ first last, first ≤ last →
        String.Pos.Raw.IsValid (String.ofList line) ⟨first⟩ →
        String.Pos.Raw.IsValid (String.ofList line) ⟨last⟩ →
        ∃ span piece, toColumns line ⟨first, last⟩ = pure span ∧ SamePiece line first last span piece) ∧
      (∀ span : Span, span.extractBytes line =
        if span.stop < span.start ∧ span.stop < line.length then
          throw (.piece (line.byteAt span.start) (line.byteAt span.stop))
        else pure (slice line (min span.start line.length) (min span.stop line.length))) ∧
      (∀ span : Span, (span.extractBytes line).toOption = span.extract? line) ∧
      ∀ a b c, a ≤ b → b ≤ c →
        ∃ left right, extractBytes ⟨a, b⟩ line = pure left ∧ extractBytes ⟨b, c⟩ line = pure right ∧
          extractBytes ⟨a, c⟩ line = pure (left ++ right) := by
  refine ⟨?_, fun span => extractBytes_eq span line, fun span => toOption_extractBytes span line, ?_⟩
  · intro first last h hfirst hlast
    obtain ⟨span, hw, hbytes⟩ := exists_inBytes h hfirst hlast
    refine ⟨span, span.extract line, ?_, ?_⟩
    · rw [← hbytes]
      exact toColumns_inBytes hw
    · have hpiece := samePiece_inBytes hw
      cases hbytes
      exact hpiece
  · intro a b c hab hbc
    exact extractBytes_append hab hbc line

/-- Characters of two bytes before the range and in it, and a span that ends behind the line. -/
theorem columns_lose_nothing_accented :
    let line : Text := "é: põe R1"
    String.Pos.Raw.IsValid (String.ofList line) ⟨4⟩ ∧ String.Pos.Raw.IsValid (String.ofList line) ⟨8⟩ ∧
      SamePiece line 4 8 ⟨3, 6⟩ "põe" ∧
      extractBytes ⟨3, 5⟩ line = pure ("põ" : Text) ∧
      extractBytes ⟨5, 20⟩ line = pure ("e R1" : Text) ∧
      extractBytes ⟨3, 20⟩ line = pure ("põe R1" : Text) := by
  obtain ⟨hrange, -, -, hjoin⟩ := columns_lose_nothing "é: põe R1"
  have hfirst := Text.isBoundary_iff_isValid.mp (show Text.isBoundary "é: põe R1" 4 = true by decide)
  have hlast := Text.isBoundary_iff_isValid.mp (show Text.isBoundary "é: põe R1" 8 = true by decide)
  obtain ⟨span, piece, hspan, hpiece⟩ := hrange 4 8 (by decide) hfirst hlast
  have hcolumns : toColumns "é: põe R1" ⟨4, 8⟩ = pure ⟨3, 6⟩ := rfl
  have hcut : bytes "é: põe R1" 4 8 = pure ("põe" : Text) := rfl
  cases hcolumns.symm.trans hspan
  cases hcut.symm.trans hpiece.bytes
  obtain ⟨left, right, hleft, hright, hboth⟩ := hjoin 3 5 20 (by decide) (by decide)
  have hfront : extractBytes ⟨3, 5⟩ "é: põe R1" = pure ("põ" : Text) := rfl
  have hrest : extractBytes ⟨5, 20⟩ "é: põe R1" = pure ("e R1" : Text) := rfl
  cases hfront.symm.trans hleft
  cases hrest.symm.trans hright
  exact ⟨hfirst, hlast, hpiece, hfront, hrest, hboth⟩

/-!
## The words of a line

An editor asks for the word at one column and never sees the words as a whole. What makes the answers fit
together is that a word does not depend on the column that was asked for: every column of it leads to the
same span. So the spans that come back from all the columns of a line are its maximal runs of word
characters, each word character stands in one of them, and none stands in two.

A run is a set of columns here, any that has word characters only and leaves out no column between two of
its own. The search for a word stops at the first character on either side that belongs to no word, which
is no statement about other runs; that no run goes further is what `IsWord.subset_of_isRun` adds.
-/

open Unicode (isWordChar)

/-- The columns that the span contains. -/
def columns (span : Span) : Set Nat := {column | span.contains column = true}

/-- The words that are found in the line, at whatever column one is asked for. -/
def words (raw : Text) : Set Span := {span | ∃ column, wordAt? raw column = some span}

/-- The columns at which the line has a word character. -/
def wordColumns (raw : Text) : Set Nat := {column | WordCharAt raw column}

/-- Some columns of the line with word characters, and every column between two of them. -/
structure IsRun (raw : Text) (run : Set Nat) : Prop where
  nonempty : run.Nonempty
  connected : run.OrdConnected
  inside : run ⊆ wordColumns raw

variable {raw : Text} {other : Span} {column : Nat} {run : Set Nat}

theorem columns_eq_Ico (span : Span) : span.columns = Set.Ico span.start span.stop := by
  ext column
  simp [columns, contains_iff]

/-! ### Words -/

/-- Every column of a word leads to it. -/
theorem wordAt?_eq_of_contains (h : wordAt? raw column = some span) {k : Nat}
    (hk : span.contains k = true) : wordAt? raw k = some span :=
  wordAt?_eq_some_iff.mpr ⟨isWord_of_wordAt? h, hk⟩

theorem IsWord.contains_start (h : IsWord raw span) : span.contains span.start = true :=
  contains_iff.mpr ⟨Nat.le_refl _, h.lt⟩

theorem mem_words_iff : span ∈ words raw ↔ IsWord raw span := by
  constructor
  · intro h
    obtain ⟨column, h⟩ := h
    exact isWord_of_wordAt? h
  · intro h
    exact ⟨span.start, wordAt?_eq_some_iff.mpr ⟨h, h.contains_start⟩⟩

/-- Of two words, the one that begins first ends before the other begins, with a column between them. -/
theorem IsWord.stop_lt_start (h : IsWord raw span) (h' : IsWord raw other)
    (hlt : span.start < other.start) : span.stop < other.start := by
  refine Nat.lt_of_not_le fun hle => ?_
  -- the column before the other word would be one of this word
  exact h'.before (other.start - 1) (by omega) (h.inside _ (by omega) (by omega))

theorem IsWord.separated (h : IsWord raw span) (h' : IsWord raw other) (hne : span ≠ other) :
    span.stop < other.start ∨ other.stop < span.start := by
  rcases Nat.lt_trichotomy span.start other.start with hlt | heq | hgt
  · exact Or.inl (h.stop_lt_start h' hlt)
  · refine absurd (h.unique h' h.contains_start ?_) hne
    rw [heq]
    exact h'.contains_start
  · exact Or.inr (h'.stop_lt_start h hgt)

/-- No column lies in two words. -/
theorem pairwise_words (raw : Text) :
    (words raw).Pairwise fun a b => ∀ k, ¬ (a.contains k = true ∧ b.contains k = true) := by
  intro span h other h' hne k
  rw [mem_words_iff] at h h'
  rcases h.separated h' hne with hlt | hlt
  · exact not_contains_both (Nat.le_of_lt hlt) k
  · rw [and_comm]
    exact not_contains_both (Nat.le_of_lt hlt) k

theorem iUnion_columns_words (raw : Text) : (⋃ span ∈ words raw, span.columns) = wordColumns raw := by
  ext column
  simp only [Set.mem_iUnion, exists_prop]
  constructor
  · intro h
    obtain ⟨span, hspan, hc⟩ := h
    obtain ⟨hstart, hstop⟩ := contains_iff.mp hc
    exact (mem_words_iff.mp hspan).inside column hstart hstop
  · intro h
    obtain ⟨span, hspan⟩ := exists_wordAt?_iff.mpr h
    exact ⟨span, ⟨column, hspan⟩, contains_of_wordAt? hspan⟩

/-! ### Maximal runs -/

theorem IsWord.isRun (h : IsWord raw span) : IsRun raw span.columns where
  nonempty := ⟨span.start, h.contains_start⟩
  connected := by
    rw [columns_eq_Ico]
    exact Set.ordConnected_Ico
  inside := fun k hk => by
    obtain ⟨hstart, hstop⟩ := contains_iff.mp hk
    exact h.inside k hstart hstop

/-- A run that has a column in common with a word does not go beyond it. -/
theorem IsWord.subset_of_isRun (h : IsWord raw span) (hrun : IsRun raw run)
    (hc : span.contains column = true) (hcolumn : column ∈ run) : run ⊆ span.columns := by
  intro k hk
  have hword : ∀ i, min column k ≤ i → i < max column k + 1 → WordCharAt raw i := by
    intro i hlow hhigh
    refine hrun.inside (hrun.connected.uIcc_subset hcolumn hk ?_)
    exact ⟨hlow, Nat.le_of_lt_succ hhigh⟩
  obtain ⟨hstart, hstop⟩ := h.covers hc (Nat.min_le_left column k)
    (Nat.lt_succ_of_le (Nat.le_max_left column k)) hword
  exact contains_iff.mpr ⟨by omega, by omega⟩

theorem IsWord.maximal (h : IsWord raw span) : Maximal (IsRun raw) span.columns := by
  refine ⟨h.isRun, fun run hrun hle => ?_⟩
  have hstart : span.start ∈ span.columns := h.contains_start
  exact h.subset_of_isRun hrun h.contains_start (hle hstart)

/-- The words that are found are all the maximal runs there are. -/
theorem image_columns_words (raw : Text) : columns '' words raw = {run | Maximal (IsRun raw) run} := by
  ext run
  constructor
  · intro h
    obtain ⟨span, hspan, rfl⟩ := h
    exact (mem_words_iff.mp hspan).maximal
  · intro h
    have hrun : IsRun raw run := h.prop
    obtain ⟨column, hcolumn⟩ := hrun.nonempty
    obtain ⟨span, hspan⟩ := exists_wordAt?_iff.mpr (hrun.inside hcolumn)
    have hword := isWord_of_wordAt? hspan
    have hsubset : run ⊆ span.columns :=
      hword.subset_of_isRun hrun (contains_of_wordAt? hspan) hcolumn
    exact ⟨span, ⟨column, hspan⟩, (h.eq_of_subset hword.isRun hsubset).symm⟩

/-- There is a word at a column exactly where the line has a word character, and looking for it never
leaves the line. The word contains the column, all its characters are word characters and neither of its
neighbours is one, and each of its columns leads to it. No two words of the line have a column in common,
together they have every word character, and they are its maximal runs. -/
theorem words_are_maximal_runs (raw : Text) :
    (∀ column, wordBetween? raw column = pure (wordAt? raw column) ∧
        ((wordAt? raw column).isSome = true ↔
          ∃ c, raw[column]? = some c ∧ isWordChar c = true)) ∧
      (∀ column span, wordAt? raw column = some span →
        span.contains column = true ∧ IsWord raw span ∧
          ∀ k, span.contains k = true → wordAt? raw k = some span) ∧
      ((words raw).Pairwise fun a b => ∀ k, ¬ (a.contains k = true ∧ b.contains k = true)) ∧
      (⋃ span ∈ words raw, span.columns) = wordColumns raw ∧
      columns '' words raw = {run | Maximal (IsRun raw) run} := by
  refine ⟨?_, ?_, pairwise_words raw, iUnion_columns_words raw, image_columns_words raw⟩
  · intro column
    exact ⟨wordBetween?_eq raw column, wordAt?_isSome_iff⟩
  · intro column span h
    refine ⟨contains_of_wordAt? h, isWord_of_wordAt? h, ?_⟩
    intro k hk
    exact wordAt?_eq_of_contains h hk

/-- Asked in the middle, a word that is not ASCII is found from its first column to its last, up to the
blank before it and the comma behind it. -/
theorem words_are_maximal_runs_accented :
    let raw : Text := "; põe_2, R1"
    wordAt? raw 4 = some ⟨2, 7⟩ ∧ wordAt? raw 2 = some ⟨2, 7⟩ ∧ wordAt? raw 6 = some ⟨2, 7⟩ ∧
      ¬ WordCharAt raw 1 ∧ ¬ WordCharAt raw 7 := by
  have hfound : wordAt? "; põe_2, R1" 4 = some ⟨2, 7⟩ := by decide
  obtain ⟨-, hspan, -⟩ := words_are_maximal_runs "; põe_2, R1"
  obtain ⟨-, hword, hall⟩ := hspan 4 ⟨2, 7⟩ hfound
  exact ⟨hfound, hall 2 (by decide), hall 6 (by decide), hword.before 1 rfl, hword.after⟩

end AsmLens.Span
