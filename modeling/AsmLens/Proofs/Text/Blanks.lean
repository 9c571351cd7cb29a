import AsmLens.Text

/-!
# Stretches of blanks

Trimming and the gaps between fields are both about stretches of a text that hold nothing but
blanks. `BlankBetween` says so of the columns `[start, stop)`, so that stretches of slices, prefixes
and suffixes can be put side by side as stretches of the one line they were cut from.

Results:
* `blankBetween_iff_slice`: a stretch is blank exactly when its slice holds blanks only.
* `indentation_eq_iff`: the indentation of a text that is not blank is the one column with blanks
  before it and something else on it; so a prefix that is not blank has the same indentation.
* `blankBetween_trimEnd`: trimming the end cuts off blanks only.
-/
namespace AsmLens.Text
open Unicode (isBlank)

/-- Every character of the text at a column in `[start, stop)` is blank. -/
def BlankBetween (text : Text) (start stop : Nat) : Prop :=
  ∀ column c, start ≤ column → column < stop → text[column]? = some c → isBlank c = true

/-! ## Slices by columns -/

theorem getElem?_slice (text : Text) (start stop k : Nat) :
    (slice text start stop)[k]? = if start + k < stop then text[start + k]? else none := by
  unfold slice
  rw [List.getElem?_drop, List.getElem?_take]

theorem slice_succ (text : Text) (column : Nat) :
    slice text column (column + 1) = text[column]?.toList := by
  rw [slice, List.drop_take, Nat.add_sub_cancel_left, List.take_one, List.head?_drop]

theorem slice_take (text : Text) {start stop n : Nat} (h : stop ≤ n) :
    slice (text.take n) start stop = slice text start stop := by
  unfold slice
  rw [List.take_take, Nat.min_eq_left h]

theorem mem_slice_iff {text : Text} {start stop : Nat} {c : Char} :
    c ∈ slice text start stop ↔
      ∃ column, start ≤ column ∧ column < stop ∧ text[column]? = some c := by
  rw [List.mem_iff_getElem?]
  constructor
  · rintro ⟨k, hk⟩
    rw [getElem?_slice] at hk
    split at hk
    · exact ⟨start + k, by omega, by omega, hk⟩
    · cases hk
  · rintro ⟨column, h1, h2, h3⟩
    refine ⟨column - start, ?_⟩
    rw [getElem?_slice, show start + (column - start) = column by omega, if_pos h2, h3]

/-! ## Blank stretches -/

theorem blankBetween_iff_slice {text : Text} {start stop : Nat} :
    BlankBetween text start stop ↔ ∀ c ∈ slice text start stop, isBlank c = true := by
  constructor
  · intro h c hc
    obtain ⟨column, h1, h2, h3⟩ := mem_slice_iff.mp hc
    exact h column c h1 h2 h3
  · intro h column c h1 h2 h3
    exact h c (mem_slice_iff.mpr ⟨column, h1, h2, h3⟩)

theorem blankBetween_of_le (text : Text) {start stop : Nat} (h : stop ≤ start) :
    BlankBetween text start stop := by
  intro column c h1 h2 _
  omega

theorem BlankBetween.join {text : Text} {a b c : Nat} (h1 : BlankBetween text a b)
    (h2 : BlankBetween text b c) : BlankBetween text a c := by
  intro column ch ha hc hch
  by_cases hb : column < b
  · exact h1 column ch ha hb hch
  · exact h2 column ch (by omega) hc hch

theorem BlankBetween.mono {text : Text} {a b a' b' : Nat} (h : BlankBetween text a b)
    (ha : a ≤ a') (hb : b' ≤ b) : BlankBetween text a' b' := by
  intro column c h1 h2 hc
  exact h column c (by omega) (by omega) hc

theorem BlankBetween.of_drop {text : Text} {n a b : Nat} (h : BlankBetween (text.drop n) a b) :
    BlankBetween text (n + a) (n + b) := by
  intro column c h1 h2 hc
  refine h (column - n) c (by omega) (by omega) ?_
  rw [List.getElem?_drop, show n + (column - n) = column by omega, hc]

theorem BlankBetween.of_take {text : Text} {n a b : Nat} (h : BlankBetween (text.take n) a b)
    (hb : b ≤ n) : BlankBetween text a b := by
  intro column c h1 h2 hc
  refine h column c h1 h2 ?_
  rw [List.getElem?_take_of_lt (by omega), hc]

theorem BlankBetween.of_slice {text : Text} {start stop a b : Nat}
    (h : BlankBetween (slice text start stop) a b) (hb : start + b ≤ stop) :
    BlankBetween text (start + a) (start + b) :=
  h.of_drop.of_take hb

/-- A stretch that holds a character which is not blank ends at or before that character. -/
theorem BlankBetween.stop_le {text : Text} {start stop column : Nat} {c : Char}
    (h : BlankBetween text start stop) (hs : start ≤ column) (hc : text[column]? = some c)
    (hb : isBlank c = false) : stop ≤ column := by
  by_cases hlt : column < stop
  · have := h column c hs hlt hc
    rw [hb] at this; cases this
  · omega

/-! ## Trimming -/

theorem indentation_le_length (text : Text) : indentation text ≤ text.length := by
  have := indentation_add_length_trimStart text
  omega

theorem blankBetween_indentation (text : Text) : BlankBetween text 0 (indentation text) := by
  rw [blankBetween_iff_slice]
  have e : slice text 0 (indentation text) = text.takeWhile isBlank := by
    unfold slice indentation
    rw [List.drop_zero]
    exact (List.prefix_iff_eq_take.mp (List.takeWhile_prefix isBlank)).symm
  rw [e]
  exact List.all_eq_true.mp List.all_takeWhile

theorem not_isBlank_of_indentation {text : Text} {c : Char} (h : text[indentation text]? = some c) :
    isBlank c = false := by
  have e : trimStart text = c :: (trimStart text).tail := by
    have h0 : (trimStart text)[0]? = some c := by
      rw [← drop_indentation, List.getElem?_drop, Nat.add_zero, h]
    cases ht : trimStart text with
    | nil => rw [ht] at h0; cases h0
    | cons d rest => rw [ht] at h0; cases h0; rfl
  exact not_isBlank_head_trimStart e

theorem indentation_eq_iff {text : Text} {n : Nat} {c : Char} (hc : text[n]? = some c)
    (hb : isBlank c = false) : indentation text = n ↔ BlankBetween text 0 n := by
  constructor
  · rintro rfl
    exact blankBetween_indentation text
  · intro h
    have h1 := (blankBetween_indentation text).stop_le (Nat.zero_le n) hc hb
    have hlt : indentation text < text.length := by
      have := (List.getElem?_eq_some_iff.mp hc).1
      omega
    have h2 := h.stop_le (Nat.zero_le _) (List.getElem?_eq_getElem hlt)
      (not_isBlank_of_indentation (List.getElem?_eq_getElem hlt))
    omega

theorem indentation_pos_iff {text : Text} :
    0 < indentation text ↔ text.head?.any isBlank = true := by
  cases text with
  | nil => simp [indentation]
  | cons c rest => cases h : isBlank c <;> simp [indentation, h]

theorem indentation_lt_length_iff {text : Text} :
    indentation text < text.length ↔ text.all isBlank = false := by
  have e := indentation_add_length_trimStart text
  have h : trimStart text = [] ↔ text.all isBlank = true := by
    rw [trimStart_eq_nil_iff, List.all_eq_true]
  constructor
  · intro hlt
    cases ha : text.all isBlank with
    | false => rfl
    | true =>
      rw [h.mpr ha] at e
      simp only [List.length_nil] at e
      omega
  · intro ha
    cases ht : trimStart text with
    | nil => rw [h.mp ht] at ha; cases ha
    | cons c rest =>
      rw [ht] at e
      simp only [List.length_cons] at e
      omega

/-- A prefix that is not blank begins with the same blanks as the whole text. -/
theorem indentation_take {text : Text} {n : Nat} (h : (text.take n).all isBlank = false) :
    indentation (text.take n) = indentation text := by
  have hlt := indentation_lt_length_iff.mpr h
  have hc := List.getElem?_eq_getElem hlt
  have hb := not_isBlank_of_indentation hc
  have hn : indentation (text.take n) < n := by
    rw [List.length_take] at hlt
    omega
  rw [List.getElem?_take_of_lt hn] at hc
  exact ((indentation_eq_iff hc hb).mpr
    ((blankBetween_indentation (text.take n)).of_take (Nat.le_of_lt hn))).symm

theorem blankBetween_trimEnd (text : Text) :
    BlankBetween text (trimEnd text).length text.length := by
  have e : text = trimEnd text ++ (text.reverse.takeWhile isBlank).reverse := by
    rw [trimEnd, ← List.reverse_append, List.takeWhile_append_dropWhile, List.reverse_reverse]
  intro column c h1 _ hc
  rw [e, List.getElem?_append_right h1] at hc
  have hm := List.mem_reverse.mp (List.mem_of_getElem? hc)
  exact List.all_eq_true.mp List.all_takeWhile c hm

/-! ## Trimming what has blanks at its ends -/

theorem trimStart_append_of_blank {a b : Text} (h : ∀ c ∈ a, isBlank c = true) :
    trimStart (a ++ b) = trimStart b := by
  have ha : a.dropWhile isBlank = [] := trimStart_eq_nil_iff.mpr h
  rw [trimStart, List.dropWhile_append, ha, List.isEmpty_nil, if_pos rfl, trimStart]

theorem trimEnd_append_of_blank {a b : Text} (h : ∀ c ∈ b, isBlank c = true) :
    trimEnd (a ++ b) = trimEnd a := by
  have hb : trimStart (b.reverse ++ a.reverse) = trimStart a.reverse :=
    trimStart_append_of_blank fun c hc => h c (List.mem_reverse.mp hc)
  rw [trimEnd, List.reverse_append, ← trimStart, hb, trimStart, trimEnd]

theorem indentation_append_of_blank {a b : Text} (h : ∀ c ∈ a, isBlank c = true) :
    indentation (a ++ b) = a.length + indentation b := by
  have e1 := indentation_add_length_trimStart (a ++ b)
  have e2 := indentation_add_length_trimStart b
  rw [trimStart_append_of_blank h, List.length_append] at e1
  omega

theorem trimEnd_drop (text : Text) (n : Nat) : trimEnd (text.drop n) = (trimEnd text).drop n := by
  induction n generalizing text with
  | zero => rfl
  | succ n ih =>
    cases text with
    | nil => rfl
    | cons c rest =>
      rw [List.drop_succ_cons, ih, ← Nat.add_comm 1, ← List.drop_drop]
      congr 1
      -- only the last character that is left may differ, and that is dropped
      rw [trimEnd, trimEnd, List.reverse_cons, List.dropWhile_append]
      split
      case isTrue h =>
        rw [List.isEmpty_iff.mp h, List.dropWhile_cons]
        split <;> rfl
      case isFalse => rw [List.reverse_append]; rfl

theorem indentation_append {a : Text} (b : Text) (h : a.all isBlank = false) :
    indentation (a ++ b) = indentation a := by
  have htake : (a ++ b).take a.length = a := List.take_left
  have e : indentation ((a ++ b).take a.length) = indentation (a ++ b) := by
    refine indentation_take ?_
    rw [htake, h]
  rw [← e, htake]

theorem indentation_trimEnd {text : Text} (h : text.all isBlank = false) :
    indentation (trimEnd text) = indentation text := by
  have htake := (List.prefix_iff_eq_take.mp <| trimEnd_prefix text).symm
  have hall : (trimEnd text).all isBlank = false := by
    rw [Bool.eq_false_iff]
    intro hblank
    have before : BlankBetween text 0 (trimEnd text).length := by
      rw [blankBetween_iff_slice, slice, List.drop_zero, htake]
      exact List.all_eq_true.mp hblank
    have all := before.join (blankBetween_trimEnd text)
    rw [blankBetween_iff_slice, slice, List.take_length, List.drop_zero,
      ← List.all_eq_true, h] at all
    cases all
  rw [← htake] at hall
  rw [← indentation_take hall, htake]

theorem trim_eq_drop (text : Text) : trim text = (trimEnd text).drop (indentation text) := by
  rw [trim, ← drop_indentation, trimEnd_drop]

/-! ## Trimming what has no blanks -/

theorem trimStart_of_not_blank {text : Text} (h : ∀ c ∈ text, isBlank c = false) :
    trimStart text = text := by
  cases text with
  | nil => rfl
  | cons c rest => rw [trimStart, List.dropWhile_cons, h c List.mem_cons_self, if_neg (by simp)]

theorem trim_of_not_blank {text : Text} (h : ∀ c ∈ text, isBlank c = false) :
    trim text = text := by
  have hreverse : trimStart text.reverse = text.reverse :=
    trimStart_of_not_blank fun c hc => h c (List.mem_reverse.mp hc)
  rw [trim, trimStart_of_not_blank h, trimEnd, ← trimStart, hreverse, List.reverse_reverse]

end AsmLens.Text
