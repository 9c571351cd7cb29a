import AsmLens.Proofs.Line.Kinds
import AsmLens.Proofs.Vocabulary

/-!
# The mnemonic of a line

What a line does is decided by one look-up: the first place in its code where a mnemonic stands, and the
longest of the mnemonics that begin there. The pattern that is searched for says so by the order of its
alternatives. Mnemonics are not looked for as words, so `ADD` is found in `LADDER`, and it is `ADDC` in
`XADDC`. Two parts of the code do not count. A label without a colon is the first word of a line that begins
in column 0, unless that word is a mnemonic itself; and what follows the first quote may be text.

Results:
* `searchRegion_eq_region`, `region_isPrefix`: the part of the code that is searched, and where it is in the
  line.
* `instruction_is_first_mnemonic`: which lines have an instruction, which one it is and where.
-/
namespace AsmLens
open Unicode (isBlank)

/-! ## What is searched -/

namespace Line

/-- The code of the line, without the blanks at its ends. -/
def code (raw : Text) : Text := Text.trim (raw.take (codeStop raw))

/-- What precedes the first blank. -/
def firstWord (text : Text) : Text := text.takeWhile fun c => !isBlank c

/-- The first word of the line is a label: it begins in column 0, it is not all of the code, and it is no
mnemonic, with or without a condition. -/
def BeginsWithLabel (raw : Text) : Prop :=
  Text.indentation raw = 0 ∧ (∃ c ∈ code raw, isBlank c = true) ∧
    ∀ m : Mnemonic, m.spelling ≠ Mnemonic.stripCondition (firstWord (code raw))

instance (raw : Text) : Decidable (BeginsWithLabel raw) :=
  decidable_of_iff (Text.indentation raw = 0 ∧ (code raw).any isBlank = true ∧
      ∀ m ∈ Mnemonic.all, m.spelling ≠ Mnemonic.stripCondition (firstWord (code raw)))
    (and_congr_right fun _ => and_congr List.any_eq_true
      (forall_congr' fun m => imp_iff_right (Mnemonic.mem_all m)))

/-- Where the part of the line begins that is searched. -/
def regionColumn (raw : Text) : Nat :=
  if BeginsWithLabel raw then (firstWord (code raw)).length else Text.indentation raw

/-- The part of the line that is searched: the code, without a label that it begins with, up to its first
quote of either kind. -/
def region (raw : Text) : Text :=
  (if BeginsWithLabel raw then (code raw).drop (firstWord (code raw)).length else code raw).takeWhile
    fun c => c != '"' && c != '\''

variable {raw : Text} {number : Nat}

theorem isMnemonic_iff {word : Text} : Instruction.isMnemonic word = true ↔
    ∃ m : Mnemonic, m.spelling = Mnemonic.stripCondition word := by
  simp [Instruction.isMnemonic, Mnemonic.mem_all]

theorem firstWord_eq_take {text : Text} {column : Nat} (h : text.findIdx? isBlank = some column) :
    firstWord text = text.take column := by
  rw [firstWord, List.takeWhile_eq_take_findIdx_not,
    ← (List.findIdx?_eq_some_iff_findIdx_eq.mp h).2]
  simp only [Bool.not_not]

/-- Whether code in column 0 begins with a label is decided by the word before its first blank. -/
theorem beginsWithLabel_iff {column : Nat} (h0 : Text.indentation raw = 0)
    (h : (code raw).findIdx? isBlank = some column) :
    BeginsWithLabel raw ↔ ¬ Instruction.isMnemonic ((code raw).take column) = true := by
  obtain ⟨hlt, hblank, -⟩ := List.findIdx?_eq_some_iff_getElem.mp h
  rw [isMnemonic_iff, not_exists, ← firstWord_eq_take h]
  exact ⟨fun label => label.2.2, fun hne => ⟨h0, ⟨_, List.getElem_mem hlt, hblank⟩, hne⟩⟩

section
variable (hcode : (raw.take (codeStop raw)).all isBlank = false)
include hcode

theorem code_eq_drop : code raw = (Text.trimEnd (raw.take (codeStop raw))).drop (Text.indentation raw) := by
  rw [code, Text.trim_eq_drop, Text.indentation_take hcode]

theorem searchStart_eq_regionColumn :
    Instruction.searchStart (Text.trimEnd (raw.take (codeStop raw))) = regionColumn raw := by
  have hindentation : Text.indentation (Text.trimEnd (raw.take (codeStop raw))) =
      Text.indentation raw := by
    rw [Text.indentation_trimEnd hcode, Text.indentation_take hcode]
  rw [Instruction.searchStart, regionColumn, hindentation]
  by_cases h0 : Text.indentation raw = 0
  · have htrim : Text.trimEnd (raw.take (codeStop raw)) = code raw := by
      rw [code_eq_drop hcode, h0, List.drop_zero]
    rw [htrim]
    simp only [h0, ne_eq, not_true_eq_false, if_false]
    cases hfind : (code raw).findIdx? isBlank with
    | none =>
      have hlabel : ¬ BeginsWithLabel raw := by
        intro label
        obtain ⟨c, hc, hblank⟩ := label.2.1
        rw [List.findIdx?_eq_none_iff.mp hfind c hc] at hblank
        cases hblank
      rw [if_neg hlabel]
    | some column =>
      have hlt := (List.findIdx?_eq_some_iff_findIdx_eq.mp hfind).1
      rw [firstWord_eq_take hfind, List.length_take_of_le (Nat.le_of_lt hlt)]
      simp only [beginsWithLabel_iff h0 hfind, ite_not]
  · have hlabel : ¬ BeginsWithLabel raw := fun h => h0 h.1
    simp only [h0, hlabel, ne_eq, not_false_eq_true, if_true, if_false]

theorem searchRegion_eq_region : Instruction.searchRegion (raw.take (codeStop raw)) = region raw := by
  unfold Instruction.searchRegion region
  simp only [searchStart_eq_regionColumn hcode]
  congr 1
  rw [regionColumn]
  split
  case isTrue h => rw [code_eq_drop hcode, h.1, List.drop_zero]
  case isFalse => rw [code_eq_drop hcode]

end

/-- What is searched is the line from its column on, up to some place. -/
theorem region_isPrefix (hcode : (raw.take (codeStop raw)).all isBlank = false) :
    region raw <+: raw.drop (regionColumn raw) := by
  rw [← searchRegion_eq_region hcode, ← searchStart_eq_regionColumn hcode]
  have htrim := (Text.trimEnd_prefix _).trans (List.take_prefix (codeStop raw) raw)
  exact (List.takeWhile_prefix _).trans (Text.drop_prefix_drop htrim _)

/-! ## Lines with an instruction -/

/-- A line that is neither blank nor a comment nor an assignment has code, and what it holds is what its
code gives. -/
theorem content_of_code (hblank : raw.all isBlank = false)
    (hcomment : (ofText raw number).kind ≠ .comment)
    (hassignment : (ofText raw number).kind ≠ .assignment) :
    (raw.take (codeStop raw)).all isBlank = false ∧
      (ofText raw number).content =
        match Instruction.ofCode? (raw.take (codeStop raw)) with
        | some i => .instruction i
        | none => .unrecognised := by
  rw [ne_eq, kind_eq_comment_iff] at hcomment
  rw [ne_eq, kind_eq_assignment_iff, not_exists] at hassignment
  rw [ofText_eq] at hcomment hassignment ⊢
  simp only [contentOf] at hcomment hassignment ⊢
  cases hcode : (raw.take (codeStop raw)).all isBlank with
  | true =>
    simp only [hcode, if_true] at hcomment
    cases hsemicolon : Text.firstUnquoted? ';' raw with
    | some column =>
      rw [hsemicolon] at hcomment
      exact absurd rfl hcomment
    | none =>
      rw [codeStop, hsemicolon, Option.getD_none, List.take_length, hblank] at hcode
      cases hcode
  | false =>
    refine ⟨rfl, ?_⟩
    simp only [hcode, Bool.false_eq_true, if_false] at hassignment ⊢
    cases ha : Assignment.ofCode? (raw.take (codeStop raw)) with
    | some a =>
      rw [ha] at hassignment
      exact absurd rfl (hassignment a)
    | none => rfl

/-- A line that is neither blank nor a comment nor an assignment has an instruction exactly if a mnemonic
occurs in the part of its code that is searched. The instruction is then the leftmost match of the pattern,
and that is the first mnemonic and the longest of those that begin there, with its place in the line.
Without one the pattern has no match and the line no part but a comment. -/
theorem instruction_is_first_mnemonic (raw : Text) (number : Nat) (hblank : raw.all isBlank = false)
    (hcomment : (ofText raw number).kind ≠ .comment)
    (hassignment : (ofText raw number).kind ≠ .assignment) :
    let line := ofText raw number
    region raw <+: raw.drop (regionColumn raw) ∧
      (line.kind = .instruction ∨ line.kind = .label ↔
        ∃ m : Mnemonic, m.spelling <:+: region raw) ∧
      ((∃ m : Mnemonic, m.spelling <:+: region raw) →
        ∃ k m, Mnemonic.FirstIn (region raw) k m ∧
          Pattern.find? Pattern.mnemonic (region raw) = some ⟨k, k + m.spelling.length⟩ ∧
          line.part .instruction = ⟨m.spelling,
            ⟨regionColumn raw + k, regionColumn raw + k + m.spelling.length⟩⟩) ∧
      ((∀ m : Mnemonic, ¬ m.spelling <:+: region raw) →
        Pattern.find? Pattern.mnemonic (region raw) = none ∧ line.kind = .other ∧
          ∀ p, p ≠ .comment → line.part p = Field.absent) := by
  intro line
  obtain ⟨hcode, hcontent⟩ := content_of_code hblank hcomment hassignment
  refine ⟨region_isPrefix hcode, ?_⟩
  rw [Instruction.ofCode?, Instruction.mnemonic?, searchRegion_eq_region hcode,
    searchStart_eq_regionColumn hcode] at hcontent
  have hkind : line.kind = .instruction ∨ line.kind = .label ↔ ∃ i, line.content = .instruction i :=
    kind_instruction_or_label_iff
  rw [hkind]
  cases hfind : Text.firstMatch? Instruction.mnemonicAt? (region raw) with
  | none =>
    have hnone := Instruction.firstMatch?_mnemonicAt?_eq_none_iff.mp hfind
    have hpattern : Pattern.find? Pattern.mnemonic (region raw) = none := by
      rw [Pattern.find?_mnemonic, hfind, Option.map_none]
    have hunrecognised : line.content = .unrecognised := by rw [hcontent, hfind]; rfl
    refine ⟨iff_of_false ?_ (not_exists.mpr hnone), fun h => absurd h (not_exists.mpr hnone),
      fun _ => ⟨hpattern, by rw [kind, hunrecognised], fun p hp => ?_⟩⟩
    · intro h
      obtain ⟨i, hi⟩ := h
      rw [hunrecognised] at hi
      cases hi
    · rw [part_of_none (by rw [instruction?, hunrecognised]) (by rw [assignment?, hunrecognised])]
      cases p with
      | comment => exact absurd rfl hp
      | _ => rfl
  | some found =>
    obtain ⟨k, m⟩ := found
    have hfirst := Instruction.firstMatch?_mnemonicAt?_eq_some_iff.mp hfind
    have hoccurs : ∃ m : Mnemonic, m.spelling <:+: region raw :=
      ⟨m, hfirst.occurs.isInfix.trans (List.drop_suffix k _).isInfix⟩
    rw [hfind] at hcontent
    have hpart := congrFun (part_of_instruction hcontent) .instruction
    have hpattern : Pattern.find? Pattern.mnemonic (region raw) =
        some ⟨k, k + m.spelling.length⟩ := by
      rw [Pattern.find?_mnemonic, hfind, Option.map_some]
    exact ⟨iff_of_true ⟨_, hcontent⟩ hoccurs, fun _ => ⟨k, m, hfirst, hpattern, hpart⟩,
      fun h => absurd hoccurs (not_exists.mpr h)⟩

/-- The first word is a label, and of two mnemonics at one place the longer one counts, which the pattern
lists first; and a line whose only mnemonics are in its first word and in a literal. -/
theorem instruction_is_first_mnemonic_both_ways :
    (∃ k m, Mnemonic.FirstIn " RETN" k m ∧
        Pattern.find? Pattern.mnemonic " RETN" = some ⟨k, k + m.spelling.length⟩ ∧
        (ofText "XADD RETN" 0).part .instruction = ⟨m.spelling, ⟨4 + k, 4 + k + m.spelling.length⟩⟩) ∧
      Pattern.find? Pattern.mnemonic " " = none ∧ (ofText "XADD 'MOV'" 0).kind = .other := by
  have hregion : region "XADD RETN" = " RETN" := by decide
  have hcolumn : regionColumn "XADD RETN" = 4 := by decide
  have hblank : region "XADD 'MOV'" = " " := by decide
  obtain ⟨-, -, hfirst, -⟩ :=
    instruction_is_first_mnemonic "XADD RETN" 0 (by decide) (by decide) (by decide)
  obtain ⟨-, -, -, hother⟩ :=
    instruction_is_first_mnemonic "XADD 'MOV'" 0 (by decide) (by decide) (by decide)
  rw [hregion, hcolumn] at hfirst
  rw [hblank] at hother
  have hshort (m : Mnemonic) : ¬ m.spelling <:+: " " := by
    intro h
    have hlong : ∀ m ∈ Mnemonic.all, 1 < m.spelling.length := by decide
    exact absurd h.length_le (Nat.not_le_of_lt (hlong m (Mnemonic.mem_all m)))
  obtain ⟨hpattern, hkind, -⟩ := hother hshort
  exact ⟨hfirst ⟨.retn, [' '], [], rfl⟩, hpattern, hkind⟩

end Line
end AsmLens
