import AsmLens.Line
import AsmLens.Proofs.Text.Blanks
import AsmLens.Proofs.Text.Written

/-!
# Occurrences of keywords

Whether a keyword stands at a column is a plain question about the characters there. Tables and patterns are
two ways to answer it, and here they are compared with the question and with each other.

Results:
* `beginsAnyCase_drop`: what the rest of a text begins with stands at the column.
* `occursAt_congr`: whether a keyword stands at a column depends on the text up to its end alone.
* `longest?_eq_some_iff`: the longest keyword that fits, by what fits alone.
* `begins_iff_mem_words`: what an alternative takes is one of its words.
* `Spells.begins_iff`: a pattern that spells the set takes, at every column, what the set offers there.
* `spells_of_words`: how a pattern is compared with a set; `directive_spells` and `register_spells` are the
  two comparisons.
* `firstMatch?_mnemonicAt?_eq_some_iff`: the first mnemonic of a text, by its occurrences alone.
* `length_le_of_find?_mnemonicNames`: in the order of the pattern, no name that fits is longer than the
  first one that does.
* `find?_mnemonic`: the leftmost match of the pattern is the first mnemonic.
-/
namespace AsmLens
open Unicode (isBlank)

/-!
## Where keywords stand

Inside running text a keyword may be written in any mixture of ASCII case. `OccursAt` says that one stands
at a column, by the characters from there on and nothing else. Readers ask instead for the longest keyword
that the rest of the text begins with; the two agree wherever no two keywords of one length can stand at one
place.
-/

/-- Upper case makes no character a blank and no blank something else. -/
theorem Unicode.isBlank_toUpper (c : Char) : isBlank c.toUpper = isBlank c := by
  have ascii : ∀ n : Fin 128, isBlank (Char.ofNat n.val).toUpper = isBlank (Char.ofNat n.val) := by
    decide
  rcases Text.ascii_or_toUpper c with ⟨n, rfl⟩ | h
  · exact ascii n
  · rw [h]

namespace Keyword
variable {K : Type} [Keyword K] {k j : K} {text other : Text} {column n : Nat}

/-- The keyword stands at the column of the text, in some mixture of ASCII case. -/
def OccursAt (k : K) (text : Text) (column : Nat) : Prop :=
  Text.asciiUpper (Text.slice text column (column + (spelling k).length)) = spelling k

instance : Decidable (OccursAt k text column) := inferInstanceAs (Decidable (_ = _))

theorem length_spelling_pos (k : K) : 0 < (spelling k).length :=
  List.length_pos_iff.mpr (spelling_ne_nil k)

theorem beginsAnyCase_drop :
    beginsAnyCase (text.drop column) k = true ↔ OccursAt k text column := by
  rw [beginsAnyCase, beq_iff_eq, OccursAt, Text.slice, List.drop_take, Nat.add_sub_cancel_left]

theorem OccursAt.stop_le (h : OccursAt k text column) :
    column + (spelling k).length ≤ text.length := by
  have e := congrArg List.length h
  rw [Text.asciiUpper, List.length_map, Text.length_slice] at e
  have := length_spelling_pos k
  omega

theorem occursAt_congr (h : other.take n = text.take n) (hn : column + (spelling k).length ≤ n) :
    OccursAt k other column ↔ OccursAt k text column := by
  rw [OccursAt, OccursAt, ← Text.slice_take other hn, h, Text.slice_take text hn]

theorem parse?_of_asciiUpper {word : Text} (h : Text.asciiUpper word = spelling k) :
    parse? word = some k := by
  rw [parse?, h, ← asciiUpper_spelling k]
  exact parse?_spelling k

/-- What stands at the column begins with the first letter of the keyword. -/
theorem OccursAt.head (h : OccursAt k text column) :
    (spelling k)[0]? = text[column]?.map Char.toUpper := by
  have hpos := length_spelling_pos k
  have e := congrArg (fun written : Text => written[0]?) h
  simp only [Text.asciiUpper, List.getElem?_map, Text.getElem?_slice, Nat.add_zero] at e
  rw [← e, if_pos (by omega)]

/-- Two keywords of one length at one place are one keyword. -/
theorem OccursAt.eq_of_length (h : OccursAt k text column) (h' : OccursAt j text column)
    (hlength : (spelling k).length = (spelling j).length) : k = j := by
  apply spelling_inj
  rw [← h, ← h', hlength]

/-- Where no two keywords of one length fit, the longest one that fits is the only one that is as long as
any that fits. -/
theorem longest?_eq_some_iff {fits : K → Bool}
    (inj : ∀ i j, fits i = true → fits j = true → (spelling i).length = (spelling j).length → i = j) :
    longest? fits = some k ↔
      fits k = true ∧ ∀ j, fits j = true → (spelling j).length ≤ (spelling k).length := by
  constructor
  · intro h
    exact ⟨fits_of_longest? h, fun j hj => le_of_longest? h hj⟩
  · intro ⟨hk, longest⟩
    cases h : longest? fits with
    | none =>
      rw [longest?_eq_none_iff.mp h k] at hk
      cases hk
    | some found =>
      have hfound := fits_of_longest? h
      rw [inj found k hfound hk (Nat.le_antisymm (longest found hfound) (le_of_longest? h hk))]

theorem longest?_beginsAnyCase_eq_some_iff :
    longest? (beginsAnyCase (text.drop column)) = some k ↔
      OccursAt k text column ∧
        ∀ j : K, OccursAt j text column → (spelling j).length ≤ (spelling k).length := by
  rw [longest?_eq_some_iff]
  · simp only [beginsAnyCase_drop]
  · intro i j hi hj hlength
    exact (beginsAnyCase_drop.mp hi).eq_of_length (beginsAnyCase_drop.mp hj) hlength

theorem longest?_beginsAnyCase_eq_none_iff :
    longest? (beginsAnyCase (text.drop column) : K → Bool) = none ↔
      ∀ k : K, ¬ OccursAt k text column := by
  simp only [longest?_eq_none_iff, ← beginsAnyCase_drop, Bool.not_eq_true]

end Keyword
end AsmLens

/-!
## Patterns for keyword sets

A pattern spells out every character of a keyword in both cases, so it has to keep in step with the table of
the set by hand. `Spells` is what that takes: no class tells the cases of a letter apart, every keyword is
covered, and no word of the pattern is anything but a keyword. All of it can be checked on the finitely many
words of the pattern, and `begins_iff` carries it over to every text.
-/

namespace AsmLens.Pattern
open Keyword (OccursAt spelling)

/-! ### The words of an alternative -/

/-- Every word that an alternative takes. -/
def words : List CharClass → List Text
  | [] => [[]]
  | cls :: classes => cls.flatMap fun c => (words classes).map (c :: ·)

variable {classes : List CharClass} {text : Text} {cls : CharClass} {column n : Nat}

theorem begins_iff_mem_words : begins classes text = true ↔ text.take classes.length ∈ words classes := by
  induction classes generalizing text with
  | nil => simp [begins, words]
  | cons cls classes ih =>
    cases text with
    | nil => simp [begins, words]
    | cons c rest => simp [begins, words, ih]

/-- The class holds a letter in both its cases or not at all. -/
def IgnoresCase (cls : CharClass) : Prop := ∀ c : Char, cls.contains c.toUpper = cls.contains c

/-- Only the ASCII characters need to be looked at. -/
theorem ignoresCase_of_ascii
    (h : ∀ n : Fin 128, cls.contains (Char.ofNat n.val).toUpper = cls.contains (Char.ofNat n.val)) :
    IgnoresCase cls := by
  intro c
  rcases Text.ascii_or_toUpper c with ⟨n, rfl⟩ | hc
  · exact h n
  · rw [hc]

theorem begins_asciiUpper (h : ∀ cls ∈ classes, IgnoresCase cls) :
    begins classes (Text.asciiUpper text) = begins classes text := by
  induction classes generalizing text with
  | nil => rfl
  | cons cls classes ih =>
    cases text with
    | nil => rfl
    | cons c rest =>
      have hcls := h cls List.mem_cons_self c
      have hrest : begins classes (Text.asciiUpper rest) = begins classes rest :=
        ih fun cls hc => h cls (List.mem_cons_of_mem _ hc)
      simp only [Text.asciiUpper, List.map_cons, begins] at hrest ⊢
      rw [hcls, hrest]

theorem begins_take : begins classes (text.take classes.length) = begins classes text := by
  rw [Bool.eq_iff_iff, begins_iff_mem_words, begins_iff_mem_words, List.take_take, Nat.min_self]

/-! ### Patterns that spell a keyword set -/

/-- The pattern takes the spellings of the keywords in every mixture of case, and nothing else. -/
structure Spells (pattern : List (List CharClass)) (K : Type) [Keyword K] : Prop where
  ignores_case : ∀ classes ∈ pattern, ∀ cls ∈ classes, IgnoresCase cls
  covers : ∀ k : K, ∃ classes ∈ pattern,
    classes.length = (spelling k).length ∧ begins classes (spelling k) = true
  sound : ∀ classes ∈ pattern, ∀ word ∈ words classes, ∃ k : K, spelling k = Text.asciiUpper word

variable {K : Type} [Keyword K] {pattern : List (List CharClass)}

theorem length_of_mem_words {word : Text} (h : word ∈ words classes) : word.length = classes.length := by
  induction classes generalizing word with
  | nil => simpa [words] using h
  | cons cls classes ih =>
    simp only [words, List.mem_flatMap, List.mem_map] at h
    obtain ⟨c, -, rest, hrest, rfl⟩ := h
    simp [ih hrest]

/-- At every column the pattern takes as many characters as a keyword that stands there has. -/
theorem Spells.begins_iff (h : Spells pattern K) :
    (∃ classes ∈ pattern, classes.length = n ∧ begins classes (text.drop column) = true) ↔
      ∃ k : K, (spelling k).length = n ∧ OccursAt k text column := by
  constructor
  · intro hbegins
    obtain ⟨classes, hmem, rfl, hbegins⟩ := hbegins
    have hword := begins_iff_mem_words.mp hbegins
    obtain ⟨k, hk⟩ := h.sound classes hmem _ hword
    have hlength : (spelling k).length = classes.length := by
      rw [hk, Text.asciiUpper, List.length_map, length_of_mem_words hword]
    refine ⟨k, hlength, ?_⟩
    rw [← Keyword.beginsAnyCase_drop, Keyword.beginsAnyCase, beq_iff_eq, hlength, hk]
  · intro hoccurs
    obtain ⟨k, rfl, hoccurs⟩ := hoccurs
    obtain ⟨classes, hmem, hlength, hbegins⟩ := h.covers k
    refine ⟨classes, hmem, hlength, ?_⟩
    rw [← Keyword.beginsAnyCase_drop, Keyword.beginsAnyCase, beq_iff_eq, ← hlength] at hoccurs
    rwa [← begins_take, ← begins_asciiUpper (h.ignores_case classes hmem), hoccurs]

/-- A pattern is compared with a set on its own words and on the spellings of the set. -/
theorem spells_of_words
    (ascii : ∀ cls ∈ pattern.flatten, ∀ n : Fin 128,
      cls.contains (Char.ofNat n.val).toUpper = cls.contains (Char.ofNat n.val))
    (covered : ∀ k ∈ (Keyword.all : List K), ∃ classes ∈ pattern,
      classes.length = (spelling k).length ∧ begins classes (spelling k) = true)
    (spelled : ∀ word ∈ pattern.flatMap words, (Keyword.parse? word : Option K).isSome = true) :
    Spells pattern K := by
  refine ⟨?_, fun k => covered k (Keyword.mem_all k), ?_⟩
  · intro classes hmem cls hcls
    exact ignoresCase_of_ascii (ascii cls (List.mem_flatten_of_mem hmem hcls))
  · intro classes hmem word hword
    obtain ⟨k, hk⟩ := Option.isSome_iff_exists.mp (spelled word (List.mem_flatMap_of_mem hmem hword))
    exact ⟨k, (Keyword.asciiUpper_of_parse? hk).symm⟩

theorem directive_spells : Spells directive Directive :=
  spells_of_words (by decide +kernel) (by decide) (by decide)

theorem register_spells : Spells register Register :=
  spells_of_words (by decide +kernel) (by decide) (by decide)

end AsmLens.Pattern

/-!
## The first mnemonic of a text

Two accounts of one search. By the table, the longest of the mnemonics is taken that begin at the first
place where any does. By the pattern, the first of its alternatives is taken that fits there, and nothing
in the search compares lengths: that the longest one is found rests on the order in which the pattern
lists its alternatives, and on that alone.
-/

namespace AsmLens

/-! ### By the table -/

namespace Mnemonic

/-- The mnemonic is the longest one at column `k` of the text, and none begins before. -/
structure FirstIn (text : Text) (k : Nat) (m : Mnemonic) : Prop where
  occurs : m.spelling <+: text.drop k
  longest : ∀ other : Mnemonic, other.spelling <+: text.drop k →
    other.spelling.length ≤ m.spelling.length
  leftmost : ∀ j < k, ∀ other : Mnemonic, ¬ other.spelling <+: text.drop j

end Mnemonic

namespace Instruction
variable {text : Text} {k : Nat} {m : Mnemonic}

theorem beginsExactly_iff : Keyword.beginsExactly text m = true ↔ m.spelling <+: text := by
  rw [Keyword.beginsExactly, beq_iff_eq, List.prefix_iff_eq_take, eq_comm]
  rfl

theorem mnemonicAt?_eq_none_iff :
    mnemonicAt? text = none ↔ ∀ m : Mnemonic, ¬ m.spelling <+: text := by
  rw [mnemonicAt?, Keyword.longest?_eq_none_iff]
  simp only [← beginsExactly_iff, Bool.not_eq_true]

theorem mnemonicAt?_eq_some_iff : mnemonicAt? text = some m ↔
    m.spelling <+: text ∧
      ∀ other : Mnemonic, other.spelling <+: text → other.spelling.length ≤ m.spelling.length := by
  rw [mnemonicAt?, Keyword.longest?_eq_some_iff]
  · simp only [beginsExactly_iff, Keyword.spelling]
  · intro i j hi hj hlength
    -- two mnemonics of one length at one place are spelled alike
    rw [beginsExactly_iff, List.prefix_iff_eq_take] at hi hj
    apply Keyword.spelling_inj
    exact hi.trans (hlength ▸ hj.symm)

theorem firstMatch?_mnemonicAt?_eq_some_iff :
    Text.firstMatch? mnemonicAt? text = some (k, m) ↔ m.FirstIn text k := by
  rw [Text.firstMatch?_eq_some_iff, mnemonicAt?_eq_some_iff]
  simp only [mnemonicAt?_eq_none_iff]
  constructor
  · intro ⟨_, ⟨occurs, longest⟩, leftmost⟩
    exact ⟨occurs, longest, leftmost⟩
  · intro ⟨occurs, longest, leftmost⟩
    have hlength := occurs.length_le
    have hpos := List.length_pos_iff.mpr (Keyword.spelling_ne_nil m)
    rw [List.length_drop] at hlength
    exact ⟨Nat.lt_of_sub_pos (Nat.lt_of_lt_of_le hpos hlength), ⟨occurs, longest⟩, leftmost⟩

theorem firstMatch?_mnemonicAt?_eq_none_iff :
    Text.firstMatch? mnemonicAt? text = none ↔ ∀ m : Mnemonic, ¬ m.spelling <:+: text := by
  rw [Text.firstMatch?_eq_none_iff]
  simp only [mnemonicAt?_eq_none_iff]
  constructor
  · intro h m ⟨before, after, e⟩
    rw [List.append_assoc] at e
    subst e
    have hpos : 0 < m.spelling.length := List.length_pos_iff.mpr (Keyword.spelling_ne_nil m)
    refine h before.length ?_ m ?_
    · rw [List.length_append, List.length_append]
      omega
    · rw [List.drop_left]
      exact List.prefix_append _ _
  · intro h k _ m hm
    exact h m (hm.isInfix.trans (List.drop_suffix k text).isInfix)

end Instruction

/-! ### By the pattern -/

namespace Pattern
variable {text word : Text}

theorem begins_literal : begins (literal word) text = true ↔ word <+: text := by
  induction word generalizing text with
  | nil => simp [literal, begins]
  | cons c word ih =>
    cases text with
    | nil => simp [literal, begins]
    | cons d rest =>
      have hrest : begins (word.map fun c => [c]) rest = true ↔ word <+: rest := ih
      simp only [literal, List.map_cons, begins, Bool.and_eq_true, List.contains_eq_mem,
        List.mem_singleton, decide_eq_true_eq, List.cons_prefix_cons]
      rw [hrest, eq_comm]

theorem length_literal (word : Text) : (literal word).length = word.length := List.length_map _

theorem mem_mnemonicNames : word ∈ mnemonicNames ↔ ∃ m : Mnemonic, m.spelling = word := by
  simp [mnemonicNames, List.mem_mergeSort, Mnemonic.mem_all]

instance : Std.TransCmp nameOrder :=
  inferInstanceAs (Std.TransCmp (compareLex (fun a b : Text => compareOn List.length b a) compare))

theorem length_le_of_nameOrder {a b : Text} (h : (nameOrder a b).isLE = true) :
    b.length ≤ a.length := by
  refine Nat.le_of_not_lt fun hlt => ?_
  rw [nameOrder, Nat.compare_eq_gt.mpr hlt] at h
  cases h

theorem nameOrder_total (a b : Text) : ((nameOrder a b).isLE || (nameOrder b a).isLE) = true := by
  have hswap : nameOrder b a = (nameOrder a b).swap := Std.OrientedCmp.eq_swap
  rw [hswap]
  cases nameOrder a b <;> rfl

theorem pairwise_mnemonicNames : mnemonicNames.Pairwise fun a b => b.length ≤ a.length :=
  (List.pairwise_mergeSort (fun _ _ _ => Std.TransCmp.isLE_trans) nameOrder_total _).imp
    length_le_of_nameOrder

/-- In the order of the pattern, no name that fits is longer than the first one that does. -/
theorem length_le_of_find?_mnemonicNames {fits : Text → Bool} {found : Text}
    (h : mnemonicNames.find? fits = some found) {m : Mnemonic} (hm : fits m.spelling = true) :
    m.spelling.length ≤ found.length := by
  obtain ⟨-, earlier, later, hlist, hearlier⟩ := List.find?_eq_some_iff_append.mp h
  have hmem := mem_mnemonicNames.mpr ⟨m, rfl⟩
  have hordered := pairwise_mnemonicNames
  rw [hlist] at hmem hordered
  rcases List.mem_append.mp hmem with hmem | hmem
  · have := hearlier _ hmem
    simp [hm] at this
  · rcases List.mem_cons.mp hmem with heq | hmem
    · exact Nat.le_of_eq (congrArg List.length heq)
    · exact (List.pairwise_cons.mp (List.pairwise_append.mp hordered).2.1).1 _ hmem

theorem firstLength?_mnemonic_eq : firstLength? mnemonic text =
    (mnemonicNames.find? fun name => begins (literal name) text).map List.length := by
  simp [firstLength?, mnemonic, List.find?_map, Function.comp_def, length_literal]

/-- The first alternative that fits takes as much as the longest mnemonic that fits. -/
theorem firstLength?_mnemonic : firstLength? mnemonic text =
    (Instruction.mnemonicAt? text).map fun m => m.spelling.length := by
  rw [firstLength?_mnemonic_eq]
  cases hfind : mnemonicNames.find? fun name => begins (literal name) text with
  | none =>
    have hnone : Instruction.mnemonicAt? text = none := by
      rw [Instruction.mnemonicAt?_eq_none_iff]
      intro m hm
      exact List.find?_eq_none.mp hfind _ (mem_mnemonicNames.mpr ⟨m, rfl⟩) (begins_literal.mpr hm)
    rw [hnone]
    rfl
  | some found =>
    obtain ⟨m, rfl⟩ := mem_mnemonicNames.mp (List.mem_of_find?_eq_some hfind)
    have hfits := List.find?_some hfind
    have hsome : Instruction.mnemonicAt? text = some m :=
      Instruction.mnemonicAt?_eq_some_iff.mpr ⟨begins_literal.mp hfits,
        fun other hother => length_le_of_find?_mnemonicNames hfind (begins_literal.mpr hother)⟩
    rw [hsome]
    rfl

/-- The leftmost match of the pattern is the first mnemonic of the text. -/
theorem find?_mnemonic : find? mnemonic text =
    (Text.firstMatch? Instruction.mnemonicAt? text).map fun found =>
      ⟨found.1, found.1 + found.2.spelling.length⟩ := by
  have hlook : firstLength? mnemonic =
      fun text => (Instruction.mnemonicAt? text).map fun m => m.spelling.length := by
    funext text
    exact firstLength?_mnemonic
  rw [find?, hlook, Text.firstMatch?_map, Option.map_map]
  rfl

end Pattern
end AsmLens
