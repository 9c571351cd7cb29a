import AsmLens.Proofs.Line.Anatomy

/-!
# The parts of a line and their spans

Every part of a line leads back to what was read, and nothing of the line is lost between the parts.

Results:
* `part_on`: every part but the operator is on the line.
* `gaps_within`: the gaps run forwards and end within the line.
* `extract_parts`: the two together, for the parts and gaps of every line.
* `tiled_extents`: the parts of an assignment, a comment or an instruction tile the whole line.
* `tiledFromMnemonic`: mnemonic, data and comment, with the gaps between them, tile the rest of the
  line, whether a label is declared or not.
* `tiled_by_parts`: both, together with the gaps before the mnemonic.
-/
namespace AsmLens
open Text (BlankBetween)

/-!
## Spans lead back to what was read

Every part of a line is shown with a span, and an editor has nothing but the span to find the part
again. A field is `On` a line when its span runs forwards, ends within the line and covers exactly
the text of the field. All parts of all lines are, with one exception that is meant: the operator of
an assignment is shown in upper case, so its span covers it up to ASCII case.
-/

/-- The span runs forwards and ends within the line. -/
def Span.Within (line : Text) (span : Span) : Prop :=
  span.start ≤ span.stop ∧ span.stop ≤ line.length

theorem Span.within_none (line : Text) : Span.none.Within line := ⟨Nat.le_refl _, Nat.zero_le _⟩

namespace Field

/-- The field is the text that its span covers in the line. -/
structure On (line : Text) (field : Field) : Prop where
  within : field.span.Within line
  extract : field.span.extract? line = some field.text

theorem on_absent (line : Text) : absent.On line :=
  ⟨Span.within_none line, congrArg some (Text.slice_self line 0)⟩

theorem Cut.on {line : Text} {start stop : Nat} {field : Field} (h : Cut line start stop field)
    (hs : stop ≤ line.length) : field.On line :=
  ⟨⟨h.bounds.1, Nat.le_trans h.bounds.2 hs⟩, h.extract?_span⟩

end Field

variable {raw : Text} {n : Nat}

theorem Instruction.In.keyword_on {i : Instruction} (h : i.In raw n) (hn : n ≤ raw.length) :
    i.keyword.On raw := by
  have hle := Nat.le_of_lt i.lt_stop
  refine ⟨⟨hle, Nat.le_trans h.stop_le hn⟩, ?_⟩
  rw [Span.extract?_of_le hle]
  exact congrArg some h.written

/-- A declared label is cut from what stands before the colon that declares it. -/
theorem Instruction.In.label_cut {i : Instruction} (h : i.In raw n) (hn : n ≤ raw.length)
    {label : Field} (hl : i.declared = some label) :
    ∃ colon, Text.firstUnquoted? ':' raw = some colon ∧ Text.indentation raw < colon ∧ colon < n ∧
      Field.Cut raw (Text.indentation raw) colon label := by
  rw [h.declared] at hl
  obtain ⟨colon, hc, rfl⟩ := Option.map_eq_some_iff.mp hl
  obtain ⟨hfirst, hlt, hcode⟩ := Line.declaringColon?_eq_some_iff.mp hc
  exact ⟨colon, hfirst, hlt, hcode, Field.cut_trimmed (Nat.le_of_lt hlt) (by omega)⟩

theorem Instruction.In.label_on {i : Instruction} (h : i.In raw n) (hn : n ≤ raw.length) :
    i.label.On raw := by
  have hlt := i.lt_stop
  have hstop := h.stop_le
  unfold Instruction.label
  cases hd : i.declared with
  | none => exact h.before.on (by omega)
  | some label =>
    obtain ⟨colon, -, -, hcode, hcut⟩ := h.label_cut hn hd
    exact hcut.on (by omega)

theorem Instruction.In.codeStop_ge {i : Instruction} (h : i.In raw n) : i.stop ≤ n := by
  unfold Instruction.stop
  split
  · exact h.stop_le
  · exact h.data.bounds.2

namespace Line

theorem part_on (raw : Text) (number : Nat) {p : Part} (hp : p ≠ .operator) :
    ((ofText raw number).part p).On raw := by
  have hn := codeStop_le raw
  have hcomment := (cut_comment raw number).on (Nat.le_refl _)
  have h := anatomy raw number
  generalize hc : (ofText raw number).content = content at h
  cases h with
  | blank | comment | unrecognised =>
    rw [part_of_none (by rw [instruction?, hc]) (by rw [assignment?, hc])]
    cases p with
    | comment => exact hcomment
    | _ => exact Field.on_absent raw
  | @assignment a pieces =>
    have hlt := a.lt_stop
    have hstop := pieces.stop_le
    rw [part_of_assignment hc]
    cases p with
    | variableName => exact pieces.variableName.on (by omega)
    | operator => exact absurd rfl hp
    | value => exact pieces.value.on hn
    | comment => exact hcomment
    | _ => exact Field.on_absent raw
  | instruction pieces =>
    rw [part_of_instruction hc]
    cases p with
    | label => exact pieces.label_on hn
    | instruction => exact pieces.keyword_on hn
    | data => exact pieces.data.on hn
    | comment => exact hcomment
    | _ => exact Field.on_absent raw

theorem operator_within (raw : Text) (number : Nat) :
    ((ofText raw number).part .operator).span.Within raw ∧
      ∃ written, ((ofText raw number).part .operator).span.extract? raw = some written ∧
        Text.asciiUpper written = ((ofText raw number).part .operator).text := by
  have hn := codeStop_le raw
  have h := anatomy raw number
  generalize hc : (ofText raw number).content = content at h
  cases h with
  | blank | comment | unrecognised =>
    rw [part_of_none (by rw [instruction?, hc]) (by rw [assignment?, hc])]
    exact ⟨Span.within_none raw, [], (Field.on_absent raw).extract, rfl⟩
  | @assignment a pieces =>
    rw [part_of_assignment hc]
    exact ⟨⟨Nat.le_of_lt a.lt_stop, Nat.le_trans pieces.stop_le hn⟩, _,
      Span.extract?_of_le (Nat.le_of_lt a.lt_stop) raw, pieces.written⟩
  | instruction pieces =>
    rw [part_of_instruction hc]
    exact ⟨Span.within_none raw, [], (Field.on_absent raw).extract, rfl⟩

theorem beforeLabel_within (raw : Text) (number : Nat) :
    (ofText raw number).gaps.beforeLabel.Within raw := by
  have hraw := raw_ofText raw number
  simp only [gaps]
  split
  · exact Span.within_none raw
  · exact ⟨Nat.zero_le _, by rw [hraw]; exact Text.indentation_le_length raw⟩

/-- The three gaps beside the mnemonic. -/
theorem gaps_within (raw : Text) (number : Nat) :
    (ofText raw number).gaps.labelToInstruction.Within raw ∧
      (ofText raw number).gaps.instructionToData.Within raw ∧
      (ofText raw number).gaps.dataToComment.Within raw := by
  have hn := codeStop_le raw
  have hcomment := cut_comment raw number
  have h := anatomy raw number
  have hnone := Span.within_none raw
  generalize hc : (ofText raw number).content = content at h
  cases h with
  | blank | comment | unrecognised | assignment =>
    rw [gaps_of_none (by rw [instruction?, hc])]
    exact ⟨hnone, hnone, hnone⟩
  | @instruction i pieces =>
    have hlt := i.lt_stop
    have hstop := pieces.stop_le
    have hdata := pieces.data.bounds
    rw [gaps_of_instruction hc]
    refine ⟨?_, ?_, ?_⟩
    · simp only
      split
      · exact hnone
      · exact ⟨pieces.before.bounds.2, by simp only; omega⟩
    · simp only
      split
      · exact hnone
      case isFalse hp =>
        have := pieces.data.start_le (Bool.eq_false_iff.mpr hp)
        exact ⟨this.1, by simp only; omega⟩
    · simp only
      split
      · exact hnone
      case isFalse hp =>
        have hstart := (hcomment.start_le (Bool.eq_false_iff.mpr hp)).1
        have := hcomment.bounds
        have hi := pieces.codeStop_ge
        exact ⟨Nat.le_trans hi hstart, by simp only; omega⟩

/-- Every part of every line is found again by its span, the operator of an assignment up to ASCII
case, and all spans of parts and gaps run forwards and end within the line. -/
theorem extract_parts (raw : Text) (number : Nat) :
    let line := ofText raw number
    (∀ p, p ≠ .operator → (line.part p).span.extract? raw = some (line.part p).text) ∧
      (∃ written, (line.part .operator).span.extract? raw = some written ∧
        Text.asciiUpper written = (line.part .operator).text) ∧
      (∀ p, (line.part p).span.Within raw) ∧
      line.gaps.beforeLabel.Within raw ∧ line.gaps.labelToInstruction.Within raw ∧
      line.gaps.instructionToData.Within raw ∧ line.gaps.dataToComment.Within raw := by
  obtain ⟨hwithin, hwritten⟩ := operator_within raw number
  refine ⟨fun p hp => (part_on raw number hp).extract, hwritten, ?_,
    beforeLabel_within raw number, gaps_within raw number⟩
  intro p
  by_cases hp : p = .operator
  · rw [hp]; exact hwithin
  · exact (part_on raw number hp).within

/-- A label of accented letters, and a comment behind one more. -/
theorem extract_parts_accented :
    Part.label ≠ .operator ∧ Part.comment ≠ .operator ∧
      ((ofText " ÉTIQ: MOV R1, 5 ; põe cinco" 0).part .label).span.extract?
        " ÉTIQ: MOV R1, 5 ; põe cinco" = some "ÉTIQ" ∧
      ((ofText " ÉTIQ: MOV R1, 5 ; põe cinco" 0).part .comment).span.extract?
        " ÉTIQ: MOV R1, 5 ; põe cinco" = some "; põe cinco" := by
  have h := (extract_parts " ÉTIQ: MOV R1, 5 ; põe cinco" 0).1
  refine ⟨by decide, by decide, ?_, ?_⟩
  · rw [h .label (by decide)]; decide
  · rw [h .comment (by decide)]; decide

end Line

/-!
## Reading a line loses nothing

The parts of a line stand side by side, in the order in which they are listed here, and all that is
in none of them is blank. On a line whose label is declared by a colon this holds from the mnemonic
on: the label is then cut from the code a second time, and it may reach over the mnemonic.
-/

open Unicode (isBlank)

/-- The span runs forwards and covers nothing but blanks. -/
def Span.Blank (line : Text) (span : Span) : Prop :=
  span.start ≤ span.stop ∧ BlankBetween line span.start span.stop

namespace Line

/-- The spans of the parts that the line has, in the order in which the parts of a line stand. -/
def extents (line : Line) : List Span :=
  [Part.label, .instruction, .data, .variableName, .operator, .value, .comment].flatMap fun p =>
    (line.part p).extent

/-- Where the last of mnemonic and data ends. -/
def codeEnd (line : Line) : Nat :=
  if (line.part .data).isAbsent then (line.part .instruction).span.stop
  else (line.part .data).span.stop

/-- Where the last of mnemonic, data and comment ends. -/
def lastEnd (line : Line) : Nat :=
  if (line.part .comment).isAbsent then line.codeEnd else (line.part .comment).span.stop

/-- From the mnemonic on the line consists of the mnemonic, the data and the comment, with the gaps
between them and blanks at the end. -/
structure TiledFromMnemonic (line : Line) : Prop where
  mnemonic : (line.part .instruction).span.start < (line.part .instruction).span.stop
  data : (line.part .data).isAbsent = false →
    line.gaps.instructionToData =
        ⟨(line.part .instruction).span.stop, (line.part .data).span.start⟩ ∧
      line.gaps.instructionToData.Blank line.raw ∧
      (line.part .data).span.start < (line.part .data).span.stop
  comment : (line.part .comment).isAbsent = false →
    line.gaps.dataToComment = ⟨line.codeEnd, (line.part .comment).span.start⟩ ∧
      line.gaps.dataToComment.Blank line.raw ∧
      (line.part .comment).span.start < (line.part .comment).span.stop
  rest : BlankBetween line.raw line.lastEnd line.raw.length

/-- Up to the mnemonic the line consists of the label, if there is one, with the gaps around it. -/
structure TiledToMnemonic (line : Line) : Prop where
  beforeLabel :
    line.gaps.beforeLabel =
        ⟨0, (line.part (if (line.part .label).isAbsent then .instruction else .label)).span.start⟩ ∧
      line.gaps.beforeLabel.Blank line.raw
  labelToInstruction : (line.part .label).isAbsent = false →
    line.gaps.labelToInstruction =
        ⟨(line.part .label).span.stop, (line.part .instruction).span.start⟩ ∧
      line.gaps.labelToInstruction.Blank line.raw

end Line

/-! ### Pieces side by side -/

theorem Field.extent_keyword (i : Instruction) : i.keyword.extent = [i.span] := by
  have h := Keyword.spelling_ne_nil i.mnemonic
  have ha : i.keyword.isAbsent = false := List.isEmpty_eq_false_iff.mpr h
  rw [extent, ha]
  rfl

theorem Field.extent_operator (a : Assignment) : a.operator.extent = [a.operator.span] := by
  have h := Keyword.spelling_ne_nil a.directive
  have ha : a.operator.isAbsent = false := List.isEmpty_eq_false_iff.mpr h
  rw [extent, ha]
  rfl

theorem Field.extent_absent : absent.extent = [] := rfl

theorem Assignment.In.tiled {a : Assignment} (h : a.In raw n) (hn : n ≤ raw.length) :
    Span.Tiled raw 0 (a.variableName.extent ++ (a.operator.extent ++ a.value.extent)) n := by
  have hlt := a.lt_stop
  have hstop := h.stop_le
  rw [Field.extent_operator]
  exact (h.variableName.tiled (by omega)).append
    ((Span.tiled_singleton raw hlt).append (h.value.tiled hn))

theorem Instruction.In.tiled_from_mnemonic {i : Instruction} (h : i.In raw n)
    (hn : n ≤ raw.length) :
    Span.Tiled raw i.column (i.keyword.extent ++ i.data.extent) n := by
  rw [Field.extent_keyword]
  exact (Span.tiled_singleton raw i.lt_stop).append (h.data.tiled hn)

/-- The code is tiled with what precedes the mnemonic in the place of the label. -/
theorem Instruction.In.tiled {i : Instruction} (h : i.In raw n) (hn : n ≤ raw.length) :
    Span.Tiled raw 0 (i.before.extent ++ (i.keyword.extent ++ i.data.extent)) n := by
  have hlt := i.lt_stop
  have hstop := h.stop_le
  have hindent : Span.Tiled raw 0 [] (Text.indentation raw) :=
    ⟨Nat.zero_le _, Text.blankBetween_indentation raw⟩
  exact hindent.append ((h.before.tiled (by omega)).append (h.tiled_from_mnemonic hn))

/-- The code begins with what precedes the mnemonic, or with the mnemonic. -/
theorem Instruction.In.code_begins {i : Instruction} (h : i.In raw n) (hn : n ≤ raw.length) :
    (i.before.isAbsent = true ∧ i.column = Text.indentation raw) ∨
      (i.before.isAbsent = false ∧ i.before.span.start = Text.indentation raw) := by
  have hlt := i.lt_stop
  have hstop := h.stop_le
  by_cases hb : Text.indentation raw < i.column
  · right
    have hc := List.getElem?_eq_getElem (show Text.indentation raw < raw.length by omega)
    exact h.before.start_eq (by omega) hb hc (Text.not_isBlank_of_indentation hc)
  · left
    have hle := h.indentation_le
    refine ⟨?_, by omega⟩
    cases ha : i.before.isAbsent with
    | true => rfl
    | false =>
      have := h.before.start_le ha
      have := h.before.bounds
      omega

/-- The code ends with the data, or with the mnemonic. -/
theorem Instruction.In.blank_after_stop {i : Instruction} (h : i.In raw n) (hn : n ≤ raw.length) :
    BlankBetween raw i.stop n := by
  unfold Instruction.stop
  split
  case isTrue ha => exact h.data.blank_of_isAbsent hn ha
  case isFalse hp => exact h.data.blank_after (Bool.eq_false_iff.mpr hp)

namespace Line

theorem tiled_extents (raw : Text) (number : Nat)
    (hk : (ofText raw number).kind = .assignment ∨ (ofText raw number).kind = .comment ∨
      (ofText raw number).kind = .instruction) :
    Span.Tiled raw 0 (ofText raw number).extents raw.length := by
  have hn := codeStop_le raw
  have hcomment := (cut_comment raw number).tiled (Nat.le_refl _)
  have h := anatomy raw number
  rw [kind] at hk
  generalize hc : (ofText raw number).content = content at h
  rw [hc] at hk
  cases h with
  | blank => simp at hk
  | unrecognised => simp at hk
  | comment blank =>
    have e : (ofText raw number).extents = (ofText raw number).comment.extent := by
      rw [extents, part_of_none (by rw [instruction?, hc]) (by rw [assignment?, hc])]
      simp [Field.extent_absent]
    have hblank : Span.Tiled raw 0 [] (codeStop raw) := ⟨Nat.zero_le _, blank⟩
    rw [e]
    exact hblank.append hcomment
  | @assignment a pieces =>
    have e : (ofText raw number).extents =
        (a.variableName.extent ++ (a.operator.extent ++ a.value.extent)) ++
          (ofText raw number).comment.extent := by
      rw [extents, part_of_assignment hc]
      simp [Field.extent_absent]
    rw [e]
    exact (pieces.tiled hn).append hcomment
  | @instruction i pieces =>
    have hd : i.declared = none := by
      cases hd : i.declared with
      | none => rfl
      | some label => simp [hd] at hk
    have e : (ofText raw number).extents =
        (i.before.extent ++ (i.keyword.extent ++ i.data.extent)) ++
          (ofText raw number).comment.extent := by
      rw [extents, part_of_instruction hc]
      simp [Field.extent_absent, Instruction.label, hd]
    rw [e]
    exact (pieces.tiled hn).append hcomment

/-! ### Gaps beside the mnemonic -/

variable {number : Nat} {i : Instruction}

theorem tiledToMnemonic (hc : (ofText raw number).content = .instruction i)
    (hd : i.declared = none) : (ofText raw number).TiledToMnemonic := by
  have hn := codeStop_le raw
  have pieces := in_of_content hc
  have hlt := i.lt_stop
  have hstop := pieces.stop_le
  have hlabel : i.label = i.before := by rw [Instruction.label, hd, Option.getD_none]
  refine ⟨?_, ?_⟩
  · rw [gaps_of_instruction hc, part_of_instruction hc, raw_ofText]
    simp only [hlabel]
    refine ⟨congrArg (Span.mk 0) ?_, Nat.zero_le _, Text.blankBetween_indentation raw⟩
    rcases pieces.code_begins hn with ⟨ha, hs⟩ | ⟨ha, hs⟩
    · rw [if_pos ha]; exact hs.symm
    · rw [if_neg (Bool.eq_false_iff.mp ha)]; exact hs.symm
  · rw [gaps_of_instruction hc, part_of_instruction hc, raw_ofText]
    simp only [hlabel]
    intro hp
    rw [if_neg (Bool.eq_false_iff.mp hp)]
    exact ⟨rfl, pieces.before.bounds.2, pieces.before.blank_after hp⟩

theorem tiledFromMnemonic (hc : (ofText raw number).content = .instruction i) :
    (ofText raw number).TiledFromMnemonic := by
  have hcomment := cut_comment raw number
  have pieces := in_of_content hc
  have hend : (ofText raw number).codeEnd = i.stop := by
    rw [codeEnd, part_of_instruction hc, Instruction.stop]
    rfl
  have hstop := pieces.codeStop_ge
  have hblank := pieces.blank_after_stop (codeStop_le raw)
  refine ⟨?_, ?_, ?_, ?_⟩
  · rw [part_of_instruction hc]
    exact i.lt_stop
  · rw [gaps_of_instruction hc, part_of_instruction hc, raw_ofText]
    intro hp
    obtain ⟨h1, h2⟩ := pieces.data.start_le hp
    simp only at hp ⊢
    rw [if_neg (Bool.eq_false_iff.mp hp)]
    exact ⟨rfl, ⟨h1, pieces.data.blank_before⟩, h2⟩
  · rw [hend, gaps_of_instruction hc, part_of_instruction hc, raw_ofText]
    intro hp
    obtain ⟨h1, h2⟩ := hcomment.start_le hp
    simp only at hp ⊢
    rw [if_neg (Bool.eq_false_iff.mp hp)]
    exact ⟨rfl, ⟨Nat.le_trans hstop h1, hblank.join hcomment.blank_before⟩, h2⟩
  · rw [lastEnd, hend, part_of_instruction hc, raw_ofText]
    simp only
    split
    case isTrue ha => exact hblank.join (hcomment.blank_of_isAbsent (Nat.le_refl _) ha)
    case isFalse hp => exact hcomment.blank_after (Bool.eq_false_iff.mpr hp)

/-- Reading a line loses nothing: the parts stand in order, side by side, and the rest is blank. -/
theorem tiled_by_parts (raw : Text) (number : Nat) :
    let line := ofText raw number
    (line.kind = .assignment ∨ line.kind = .comment ∨ line.kind = .instruction →
      (line.extents.Pairwise fun a b => a.stop ≤ b.start) ∧
        (∀ s ∈ line.extents, s.start < s.stop ∧ s.stop ≤ raw.length) ∧
        ∀ column c, raw[column]? = some c → (∀ s ∈ line.extents, s.contains column = false) →
          isBlank c = true) ∧
      (line.kind = .instruction ∨ line.kind = .label → line.TiledFromMnemonic) ∧
      (line.kind = .instruction → line.TiledToMnemonic) := by
  refine ⟨?_, ?_, ?_⟩
  · intro hk
    have h := tiled_extents raw number hk
    refine ⟨h.pairwise, fun s hs => (h.bounds s hs).2, ?_⟩
    intro column c hc out
    exact h.isBlank_outside (Nat.zero_le _) (List.getElem?_eq_some_iff.mp hc).1 hc out
  · intro hk
    obtain ⟨i, hc⟩ := exists_instruction_of_kind hk
    exact tiledFromMnemonic hc
  · intro hk
    obtain ⟨i, hc, hd⟩ := kind_eq_instruction_iff.mp hk
    exact tiledToMnemonic hc hd

/-- An assignment, an instruction behind a word, and a label that reaches over the mnemonic. -/
theorem tiled_by_parts_of_each_kind :
    ((ofText "  Msg str 'a; b', 0 ; c " 0).kind = .assignment ∧
        (ofText "  Msg str 'a; b', 0 ; c " 0).extents.Pairwise fun a b => a.stop ≤ b.start) ∧
      ((ofText "LOOP  MOV R1, 5 ; x" 0).kind = .instruction ∧
        (ofText "LOOP  MOV R1, 5 ; x" 0).TiledToMnemonic) ∧
      ((ofText "  MOV R1: R2 ;" 0).kind = .label ∧
        (ofText "  MOV R1: R2 ;" 0).TiledFromMnemonic) := by
  have ha : (ofText "  Msg str 'a; b', 0 ; c " 0).kind = .assignment := by decide
  have hi : (ofText "LOOP  MOV R1, 5 ; x" 0).kind = .instruction := by decide
  have hl : (ofText "  MOV R1: R2 ;" 0).kind = .label := by decide
  exact ⟨⟨ha, ((tiled_by_parts _ 0).1 (Or.inl ha)).1⟩, ⟨hi, (tiled_by_parts _ 0).2.2 hi⟩,
    hl, (tiled_by_parts _ 0).2.1 (Or.inr hl)⟩

end Line
end AsmLens
