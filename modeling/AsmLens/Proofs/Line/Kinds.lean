import AsmLens.Proofs.Line.Tiling

/-!
# Kinds of lines, and the labels that colons declare

What a line is called settles which parts it has. The one part that is not cut by its place in the row is the
label that a colon declares, so it has sections of its own: where it ends, and which lines have one.

Results:
* `label_stop_le_iff`: a declared label ends before the mnemonic exactly when its colon stands
  before the mnemonic.
* `label_in_order_iff`: exactly then the parts of the line are in order, and exactly then no column
  lies in two of them.
* `label_over_mnemonic`: a line on which they are not.
* `part_marked`: a part without a text has the span of what is absent, and no other part has it.
* `ofText_of_blank`: a blank text has nothing.
* `Mnemonic.isJump_iff`: the jumps by their spelling.
* `wellFormed_ofText`: every line is well-formed.
* `declaringColon?_isSome_iff`: when the first colon is one that declares a label.
* `declares_label_iff`: which lines with a mnemonic declare a label.
* `not_declared_behind_colon`: a line that has a colon in the right place and declares none.
-/
namespace AsmLens
open Text (firstUnquoted?)

/-!
## The label that a colon declares

The mnemonic is searched for in one region of the code, and the colon in all of it. So the first
unquoted colon may stand behind the mnemonic, as in `MOV R1: R2`, and then the label is the code up
to the colon, mnemonic and all.
-/

variable {raw : Text} {n : Nat}

/-- What a colon declares begins where the code does. -/
theorem Instruction.In.label_start {i : Instruction} (h : i.In raw n) (hn : n ≤ raw.length)
    {label : Field} (hl : i.declared = some label) :
    label.isAbsent = false ∧ label.span.start = Text.indentation raw := by
  obtain ⟨colon, -, hlt, hcode, hcut⟩ := h.label_cut hn hl
  have hc := List.getElem?_eq_getElem (show Text.indentation raw < raw.length by omega)
  exact hcut.start_eq (by omega) hlt hc (Text.not_isBlank_of_indentation hc)

theorem Instruction.In.label_stop_le_iff {i : Instruction} (h : i.In raw n) (hn : n ≤ raw.length)
    {label : Field} (hl : i.declared = some label) :
    ∃ colon, firstUnquoted? ':' raw = some colon ∧
      (label.span.stop ≤ i.column ↔ colon < i.column) := by
  obtain ⟨colon, hfirst, -, -, hcut⟩ := h.label_cut hn hl
  refine ⟨colon, hfirst, ?_⟩
  constructor
  · intro hle
    -- all from the end of the label up to the colon is blank, and the mnemonic is not
    obtain ⟨c, hc, hb, hne⟩ := Instruction.letter_at_column h.written
    have hblank := hcut.blank_after (h.label_start hn hl).1
    have := hblank.stop_le hle hc hb
    have hcolon := ((Text.firstUnquoted?_eq_some_iff (by decide)).mp hfirst).1.1
    rcases Nat.lt_or_eq_of_le this with hlt | rfl
    · exact hlt
    · rw [hcolon] at hc
      cases hc
      exact absurd rfl hne
  · intro hlt
    exact Nat.le_trans hcut.bounds.2 (Nat.le_of_lt hlt)

namespace Line

/-- On a line with a declared label, all parts but the label tile the line from the mnemonic on. -/
theorem extents_of_label {number : Nat} {i : Instruction} {label : Field}
    (hc : (ofText raw number).content = .instruction i) (hl : i.declared = some label) :
    ∃ rest, (ofText raw number).extents = label.extent ++ i.span :: rest ∧
      Span.Tiled raw i.column (i.span :: rest) raw.length := by
  have hcomment := (cut_comment raw number).tiled (Nat.le_refl _)
  have pieces := in_of_content hc
  have tiled := (pieces.tiled_from_mnemonic (codeStop_le raw)).append hcomment
  rw [Field.extent_keyword, List.append_assoc] at tiled
  refine ⟨i.data.extent ++ (ofText raw number).comment.extent, ?_, tiled⟩
  rw [extents, part_of_instruction hc]
  simp [Field.extent_absent, Field.extent_keyword, Instruction.label, hl]

/-- On a line with a declared label, the label ends before the mnemonic exactly when the first
unquoted colon of the line stands before the mnemonic. Exactly then the parts of the line stand in
order, and exactly then no column lies in two of them. -/
theorem label_in_order_iff (raw : Text) (number : Nat)
    (hk : (ofText raw number).kind = .label) :
    let line := ofText raw number
    ∃ colon, firstUnquoted? ':' raw = some colon ∧
      ((line.part .label).span.stop ≤ (line.part .instruction).span.start ↔
        colon < (line.part .instruction).span.start) ∧
      ((line.extents.Pairwise fun a b => a.stop ≤ b.start) ↔
        colon < (line.part .instruction).span.start) ∧
      ((line.extents.Pairwise fun a b =>
          ∀ column, ¬ (a.contains column = true ∧ b.contains column = true)) ↔
        colon < (line.part .instruction).span.start) := by
  have hn := codeStop_le raw
  obtain ⟨i, label, hc, hl⟩ := kind_eq_label_iff.mp hk
  obtain ⟨rest, hextents, tiled⟩ := extents_of_label hc hl
  have pieces := in_of_content hc
  obtain ⟨colon, hfirst, hiff⟩ := pieces.label_stop_le_iff hn hl
  obtain ⟨hpresent, hstart⟩ := pieces.label_start hn hl
  have hlabel : (ofText raw number).part .label = label := by
    rw [part_of_instruction hc]
    simp only [Instruction.label, hl, Option.getD_some]
  have hkeyword : ((ofText raw number).part .instruction).span.start = i.column := by
    rw [part_of_instruction hc]
    rfl
  have hcons : (ofText raw number).extents = label.span :: i.span :: rest := by
    rw [hextents, Field.extent, hpresent]
    rfl
  have hle : label.span.start ≤ i.column := by
    rw [hstart]
    exact pieces.indentation_le
  simp only [hlabel, hkeyword, hcons]
  exact ⟨colon, hfirst, hiff, (tiled.pairwise_cons_iff rfl).trans hiff,
    (tiled.disjoint_cons_iff rfl hle).trans hiff⟩

/-- A colon behind the mnemonic that follows it, and one before. -/
theorem label_in_order_iff_both_ways :
    ((ofText "LOOP: MOV R1, ':' ; x" 0).kind = .label ∧
        ((ofText "LOOP: MOV R1, ':' ; x" 0).extents.Pairwise fun a b => a.stop ≤ b.start)) ∧
      ((ofText "   MOV R1: R2" 0).kind = .label ∧
        ¬ ((ofText "   MOV R1: R2" 0).extents.Pairwise fun a b => a.stop ≤ b.start)) := by
  have h1 : (ofText "LOOP: MOV R1, ':' ; x" 0).kind = .label := by decide
  have h2 : (ofText "   MOV R1: R2" 0).kind = .label := by decide
  obtain ⟨colon, hc, -, ho, -⟩ := label_in_order_iff _ 0 h1
  obtain ⟨colon', hc', -, ho', -⟩ := label_in_order_iff _ 0 h2
  have e : firstUnquoted? ':' "LOOP: MOV R1, ':' ; x" = some 4 := by decide
  have e' : firstUnquoted? ':' "   MOV R1: R2" = some 9 := by decide
  rw [e] at hc; cases hc
  rw [e'] at hc'; cases hc'
  exact ⟨⟨h1, ho.mpr (by decide)⟩, h2, fun h => absurd (ho'.mp h) (by decide)⟩

/-- The label of `MOV R1: R2` is `MOV R1`, which ends behind the start of the mnemonic. -/
theorem label_over_mnemonic :
    (ofText "   MOV R1: R2" 0).kind = .label ∧
      ¬ ((ofText "   MOV R1: R2" 0).part .label).span.stop ≤
        ((ofText "   MOV R1: R2" 0).part .instruction).span.start := by
  decide

end Line

/-!
## Kinds and parts

Whoever reads a line that has been taken apart trusts its kind: an index looks for names on labels
and assignments only, an outline expects a directive on an assignment, a listing prints a part if it
has a text and shows its span. `WellFormed` states what they rely on, and it holds of every text.
-/

open Unicode (isBlank)

/-! ### Absent fields -/

namespace Field
variable {raw : Text} {start stop : Nat} {field : Field}

/-- The field has no text exactly when its span is that of what is absent. -/
def Marked (field : Field) : Prop := field.text = [] ↔ field.span = Span.none

theorem marked_absent : absent.Marked := iff_of_true rfl rfl

theorem marked_of_lt (text : field.text ≠ []) (span : field.span.start < field.span.stop) :
    field.Marked := by
  refine iff_of_false text fun h => ?_
  rw [h] at span
  exact Nat.lt_irrefl 0 span

theorem Cut.marked (h : Cut raw start stop field) (hs : stop ≤ raw.length) : field.Marked := by
  cases h with
  | absent => exact marked_absent
  | present h1 h2 h3 =>
    exact marked_of_lt (List.isEmpty_eq_false_iff.mp (isAbsent_slice h2 (Nat.le_trans h3 hs))) h2

end Field

theorem Instruction.keyword_isAbsent (i : Instruction) : i.keyword.isAbsent = false :=
  List.isEmpty_eq_false_iff.mpr (Keyword.spelling_ne_nil i.mnemonic)

theorem Assignment.operator_isAbsent (a : Assignment) : a.operator.isAbsent = false :=
  List.isEmpty_eq_false_iff.mpr (Keyword.spelling_ne_nil a.directive)

theorem Instruction.In.label_marked {raw : Text} {n : Nat} {i : Instruction} (h : i.In raw n)
    (hn : n ≤ raw.length) : i.label.Marked := by
  have hlt := i.lt_stop
  have hstop := h.stop_le
  unfold Instruction.label
  cases hd : i.declared with
  | none => exact h.before.marked (by omega)
  | some label =>
    obtain ⟨colon, -, -, hcode, hcut⟩ := h.label_cut hn hd
    exact hcut.marked (by omega)

/-! ### Jumps -/

theorem Mnemonic.isJump_iff {m : Mnemonic} :
    m.isJump = true ↔ m.spelling = "CALL" ∨ m.spelling = "JMP" ∨ m.spelling = "BR" := by
  have spelled : ∀ k : Mnemonic, m = k ↔ m.spelling = k.spelling := fun k =>
    ⟨fun h => h ▸ rfl, Keyword.spelling_inj m k⟩
  rw [isJump, Bool.or_eq_true, Bool.or_eq_true, decide_eq_true_eq, decide_eq_true_eq,
    decide_eq_true_eq, or_assoc, spelled call, spelled jmp, spelled br]
  rfl

theorem Keyword.parse?_nil {K : Type} [Keyword K] : (parse? [] : Option K) = none := by
  cases h : (parse? [] : Option K) with
  | none => rfl
  | some k => exact absurd (asciiUpper_of_parse? h).symm (spelling_ne_nil k)

namespace Line

/-- The kind of the line says which parts it has, and its parts say of which kind it is. -/
structure WellFormed (line : Line) : Prop where
  marked : ∀ p, (line.part p).Marked
  operator : (line.part .operator).isAbsent = false ↔ line.kind = .assignment
  directive : line.kind = .assignment →
    ∃ d : Directive, (line.part .operator).text = d.spelling ∧ line.directive? = some d
  no_directive : line.kind ≠ .assignment → line.directive? = none
  instruction : (line.part .instruction).isAbsent = false ↔
    line.kind = .instruction ∨ line.kind = .label
  mnemonic : line.kind = .instruction ∨ line.kind = .label →
    ∃ m : Mnemonic, (line.part .instruction).text = m.spelling
  label_or_data : (line.part .label).isAbsent = false ∨ (line.part .data).isAbsent = false →
    line.kind = .instruction ∨ line.kind = .label
  label : line.kind = .label → (line.part .label).isAbsent = false
  variable_or_value :
    (line.part .variableName).isAbsent = false ∨ (line.part .value).isAbsent = false →
      line.kind = .assignment
  comment : line.kind = .comment →
    (line.part .comment).isAbsent = false ∧ ∀ p, p ≠ .comment → line.part p = Field.absent
  blank : line.raw.all isBlank = true →
    line.kind = .other ∧ (∀ p, (line.part p).span = Span.none) ∧
      line.gaps = ⟨Span.none, Span.none, Span.none, Span.none⟩
  jump : line.isJump = true ↔
    (line.part .instruction).text = "CALL" ∨ (line.part .instruction).text = "JMP" ∨
      (line.part .instruction).text = "BR"

/-! ### Parts that only one kind of content has -/

section
variable {line : Line} {p : Part}

theorem exists_assignment (hp : p = .variableName ∨ p = .operator ∨ p = .value)
    (h : (line.part p).isAbsent = false) : ∃ a, line.content = .assignment a := by
  cases hc : line.content with
  | assignment a => exact ⟨a, rfl⟩
  | _ => rcases hp with rfl | rfl | rfl <;> (simp only [part, assignment?, hc] at h; cases h)

theorem exists_instruction (hp : p = .label ∨ p = .instruction ∨ p = .data)
    (h : (line.part p).isAbsent = false) : ∃ i, line.content = .instruction i := by
  cases hc : line.content with
  | instruction i => exact ⟨i, rfl⟩
  | _ => rcases hp with rfl | rfl | rfl <;> (simp only [part, instruction?, hc] at h; cases h)

theorem kind_instruction_or_label_iff :
    line.kind = .instruction ∨ line.kind = .label ↔ ∃ i, line.content = .instruction i := by
  refine ⟨exists_instruction_of_kind, ?_⟩
  rintro ⟨i, hc⟩
  rw [kind_eq_instruction_iff, kind_eq_label_iff]
  cases hd : i.declared with
  | none => exact Or.inl ⟨i, hc, hd⟩
  | some label => exact Or.inr ⟨i, label, hc, hd⟩

theorem kind_eq_comment_iff : line.kind = .comment ↔ line.content = .comment := by
  unfold kind
  cases line.content with
  | instruction i => cases h : i.declared <;> simp [h]
  | _ => simp

theorem operator_isAbsent_iff :
    (line.part .operator).isAbsent = false ↔ line.kind = .assignment := by
  rw [kind_eq_assignment_iff]
  refine ⟨exists_assignment (Or.inr (Or.inl rfl)), ?_⟩
  rintro ⟨a, hc⟩
  rw [part_of_assignment hc]
  exact a.operator_isAbsent

theorem instruction_isAbsent_iff :
    (line.part .instruction).isAbsent = false ↔ line.kind = .instruction ∨ line.kind = .label := by
  rw [kind_instruction_or_label_iff]
  refine ⟨exists_instruction (Or.inr (Or.inl rfl)), ?_⟩
  rintro ⟨i, hc⟩
  rw [part_of_instruction hc]
  exact i.keyword_isAbsent

theorem directive?_eq_none (h : line.kind ≠ .assignment) : line.directive? = none := by
  have habsent : (line.part .operator).isAbsent = true :=
    (Bool.not_eq_false _).mp fun hp => h (operator_isAbsent_iff.mp hp)
  rw [directive?, List.isEmpty_iff.mp habsent]
  exact Keyword.parse?_nil

theorem isJump_iff : line.isJump = true ↔
    (line.part .instruction).text = "CALL" ∨ (line.part .instruction).text = "JMP" ∨
      (line.part .instruction).text = "BR" := by
  cases hc : line.content with
  | instruction i =>
    rw [isJump, instruction?, hc, part_of_instruction hc]
    exact Mnemonic.isJump_iff
  | _ =>
    simp only [isJump, part, instruction?, hc]
    exact iff_of_false (by decide) (by decide)

end

/-! ### What reading a text gives -/

variable {raw : Text} {number : Nat}

theorem part_marked (raw : Text) (number : Nat) (p : Part) :
    ((ofText raw number).part p).Marked := by
  have hn := codeStop_le raw
  have hcomment := (cut_comment raw number).marked (Nat.le_refl _)
  have h := anatomy raw number
  generalize hc : (ofText raw number).content = content at h
  cases h with
  | blank | comment | unrecognised =>
    rw [part_of_none (by rw [instruction?, hc]) (by rw [assignment?, hc])]
    cases p with
    | comment => exact hcomment
    | _ => exact Field.marked_absent
  | @assignment a pieces =>
    have hlt := a.lt_stop
    have hstop := pieces.stop_le
    rw [part_of_assignment hc]
    cases p with
    | variableName => exact pieces.variableName.marked (by omega)
    | operator =>
      exact Field.marked_of_lt (List.isEmpty_eq_false_iff.mp a.operator_isAbsent) hlt
    | value => exact pieces.value.marked hn
    | comment => exact hcomment
    | _ => exact Field.marked_absent
  | @instruction i pieces =>
    rw [part_of_instruction hc]
    cases p with
    | label => exact pieces.label_marked hn
    | instruction =>
      exact Field.marked_of_lt (List.isEmpty_eq_false_iff.mp i.keyword_isAbsent) i.lt_stop
    | data => exact pieces.data.marked hn
    | comment => exact hcomment
    | _ => exact Field.marked_absent

theorem label_isAbsent (hk : (ofText raw number).kind = .label) :
    ((ofText raw number).part .label).isAbsent = false := by
  obtain ⟨i, label, hc, hl⟩ := kind_eq_label_iff.mp hk
  rw [part_of_instruction hc]
  simp only [Instruction.label, hl, Option.getD_some]
  exact ((in_of_content hc).label_start (codeStop_le raw) hl).1

theorem part_of_comment (hk : (ofText raw number).kind = .comment) :
    ((ofText raw number).part .comment).isAbsent = false ∧
      ∀ p, p ≠ .comment → (ofText raw number).part p = Field.absent := by
  have hc := kind_eq_comment_iff.mp hk
  constructor
  · have h := anatomy raw number
    rw [hc] at h
    cases h with
    | comment blank commented =>
      have hsemicolon := ((Text.firstUnquoted?_eq_some_iff (by decide)).mp commented).1
      exact ((cut_comment raw number).start_eq (Nat.le_refl _) hsemicolon.lt_length hsemicolon.1
        (by decide)).1
  · intro p hp
    rw [part_of_none (by rw [instruction?, hc]) (by rw [assignment?, hc])]
    cases p with
    | comment => exact absurd rfl hp
    | _ => rfl

/-- A blank text has no semicolon, so there is nothing on the line. -/
theorem ofText_of_blank (number : Nat) (h : raw.all isBlank = true) :
    ofText raw number = ⟨raw, number, .blank, Field.absent⟩ := by
  have hnone : Text.firstUnquoted? ';' raw = none := by
    rw [Text.firstUnquoted?_eq_none_iff (by decide)]
    intro q hq
    have hblank := List.all_eq_true.mp h ';' (List.mem_of_getElem? hq.1)
    exact absurd hblank (by decide)
  rw [ofText, hnone]
  simp only [contentOf, h]
  rfl

theorem blank_line (h : raw.all isBlank = true) :
    (ofText raw number).kind = .other ∧ (∀ p, ((ofText raw number).part p).span = Span.none) ∧
      (ofText raw number).gaps = ⟨Span.none, Span.none, Span.none, Span.none⟩ := by
  rw [ofText_of_blank number h]
  refine ⟨rfl, fun p => ?_, rfl⟩
  cases p <;> rfl

/-- Kind and parts of every line agree, whatever its text is. -/
theorem wellFormed_ofText (raw : Text) (number : Nat) : (ofText raw number).WellFormed where
  marked := part_marked raw number
  operator := operator_isAbsent_iff
  directive hk := by
    obtain ⟨a, hc⟩ := kind_eq_assignment_iff.mp hk
    refine ⟨a.directive, ?_, directive?_of_assignment hc⟩
    rw [part_of_assignment hc]
    rfl
  no_directive := directive?_eq_none
  instruction := instruction_isAbsent_iff
  mnemonic hk := by
    obtain ⟨i, hc⟩ := exists_instruction_of_kind hk
    refine ⟨i.mnemonic, ?_⟩
    rw [part_of_instruction hc]
    rfl
  label_or_data h := by
    rw [kind_instruction_or_label_iff]
    rcases h with h | h
    · exact exists_instruction (Or.inl rfl) h
    · exact exists_instruction (Or.inr (Or.inr rfl)) h
  label := label_isAbsent
  variable_or_value h := by
    rw [kind_eq_assignment_iff]
    rcases h with h | h
    · exact exists_assignment (Or.inl rfl) h
    · exact exists_assignment (Or.inr (Or.inr rfl)) h
  comment := part_of_comment
  blank h := by
    rw [raw_ofText] at h
    exact blank_line h
  jump := isJump_iff

/-- An assignment, a declared label with a jump, a comment and a blank text. -/
theorem wellFormed_of_each_kind :
    ((ofText "Nº equ 5" 0).kind = .assignment ∧
        ∃ d : Directive, ((ofText "Nº equ 5" 0).part .operator).text = d.spelling ∧
          (ofText "Nº equ 5" 0).directive? = some d) ∧
      ((ofText "A: CALL B" 0).kind = .label ∧
        ((ofText "A: CALL B" 0).part .label).isAbsent = false ∧ (ofText "A: CALL B" 0).isJump = true) ∧
      ((ofText " ; CALL B" 0).kind = .comment ∧
        ((ofText " ; CALL B" 0).part .comment).isAbsent = false ∧
        (ofText " ; CALL B" 0).isJump = false) ∧
      ((ofText " \u3000" 0).kind = .other ∧ (ofText " \u3000" 0).gaps.beforeLabel = Span.none) := by
  have ha : (ofText "Nº equ 5" 0).kind = .assignment := by decide
  have hl : (ofText "A: CALL B" 0).kind = .label := by decide
  have hc : (ofText " ; CALL B" 0).kind = .comment := by decide
  have assignment := wellFormed_ofText "Nº equ 5" 0
  have label := wellFormed_ofText "A: CALL B" 0
  have comment := wellFormed_ofText " ; CALL B" 0
  obtain ⟨hother, -, hgaps⟩ := (wellFormed_ofText " \u3000" 0).blank (by decide)
  refine ⟨⟨ha, assignment.directive ha⟩, ⟨hl, label.label hl, label.jump.mpr (Or.inl (by decide))⟩,
    ⟨hc, (comment.comment hc).1, ?_⟩, hother, congrArg Gaps.beforeLabel hgaps⟩
  rw [← Bool.not_eq_true, comment.jump]
  decide

end Line
end AsmLens

/-!
## Lines that declare a label

A line with a mnemonic declares a label if it has a colon in the right place: outside literals, behind
the indentation and before the comment. The reader looks at one colon only, the first outside literals.
If that one stands in the right place, the rule is met. If it stands too far to the right, so do all
others. But it may be the first character of the code, as in `:A: MOV R1`, and then a colon behind it
is never looked at.
-/

namespace AsmLens.Line
open Text (Unquoted firstUnquoted?)

variable {raw : Text} {n : Nat}

/-- Where the comment begins, the code ends. -/
theorem lt_codeStop_iff (number : Nat) {column : Nat} (h : column < raw.length) :
    column < codeStop raw ↔
      (((ofText raw number).part .comment).isAbsent = false →
        column < ((ofText raw number).part .comment).span.start) := by
  have hcut := cut_comment raw number
  cases hfirst : firstUnquoted? ';' raw with
  | none =>
    have hstop : codeStop raw = raw.length := by rw [codeStop, hfirst, Option.getD_none]
    have habsent : (ofText raw number).part .comment = Field.absent := by rw [part, ofText, hfirst]
    simp [hstop, habsent, h, Field.isAbsent, Field.absent]
  | some semicolon =>
    have hstop : codeStop raw = semicolon := by rw [codeStop, hfirst, Option.getD_some]
    have hsemicolon := ((Text.firstUnquoted?_eq_some_iff (by decide)).mp hfirst).1
    rw [hstop] at hcut ⊢
    obtain ⟨hpresent, hstart⟩ :=
      hcut.start_eq (Nat.le_refl _) hsemicolon.lt_length hsemicolon.1 (by decide)
    rw [part, hstart]
    simp [hpresent]

/-- The colon that is searched for is the first one, so one that the code begins with hides all
others. -/
theorem declaringColon?_isSome_iff :
    (declaringColon? raw n).isSome = true ↔
      (∃ colon, Unquoted ':' raw colon ∧ Text.indentation raw < colon ∧ colon < n) ∧
        raw[Text.indentation raw]? ≠ some ':' := by
  rw [Option.isSome_iff_exists]
  simp only [declaringColon?_eq_some_iff]
  constructor
  · intro h
    obtain ⟨colon, hfirst, hlt, hcode⟩ := h
    have hunquoted := ((Text.firstUnquoted?_eq_some_iff (by decide)).mp hfirst).1
    refine ⟨⟨colon, hunquoted, hlt, hcode⟩, fun hcolon => ?_⟩
    rw [Text.firstUnquoted?_of_indentation (by decide) hcolon] at hfirst
    cases hfirst
    omega
  · intro h
    obtain ⟨⟨colon, hunquoted, hlt, hcode⟩, hne⟩ := h
    cases hfirst : firstUnquoted? ':' raw with
    | none => exact absurd hunquoted ((Text.firstUnquoted?_eq_none_iff (by decide)).mp hfirst colon)
    | some first =>
      obtain ⟨hcolon, hleast⟩ := (Text.firstUnquoted?_eq_some_iff (by decide)).mp hfirst
      have hle : first ≤ colon := Nat.le_of_not_lt fun h => hleast colon h hunquoted
      have hbehind := (Text.blankBetween_indentation raw).stop_le (Nat.zero_le _) hcolon.1 (by decide)
      have hother : first ≠ Text.indentation raw := fun e => hne (e ▸ hcolon.1)
      exact ⟨first, rfl, by omega, by omega⟩

/-- A line with a mnemonic declares a label exactly when some colon stands outside literals behind the
indentation and before the comment, and the code does not begin with a colon. -/
theorem declares_label_iff (raw : Text) (number : Nat)
    (h : ((ofText raw number).part .instruction).isAbsent = false) :
    let line := ofText raw number
    line.kind = .label ↔
      (∃ colon, Unquoted ':' raw colon ∧ Text.indentation raw < colon ∧
        ((line.part .comment).isAbsent = false → colon < (line.part .comment).span.start)) ∧
      raw[Text.indentation raw]? ≠ some ':' := by
  intro line
  obtain ⟨i, hc⟩ := exists_instruction (Or.inr (Or.inl rfl)) h
  have hdeclared := (in_of_content hc).declared
  have hkind : line.kind = .label ↔ (declaringColon? raw (codeStop raw)).isSome = true := by
    have hsome := congrArg Option.isSome hdeclared
    rw [Option.isSome_map] at hsome
    rw [← hsome, kind, hc]
    cases hl : i.declared <;> simp [hl]
  rw [hkind, declaringColon?_isSome_iff]
  apply and_congr_left'
  apply exists_congr
  intro colon
  apply and_congr_right
  intro hcolon
  rw [lt_codeStop_iff number hcolon.lt_length]

/-- Both lines have a colon in a literal and one in the comment; the first has a third one. -/
theorem declares_label_iff_both_ways :
    let declaring := ofText "  A: MOV R1, ':' ; c:" 0
    let plain := ofText "  MOV R1, ':' ; c:" 0
    ((declaring.part .instruction).isAbsent = false ∧ declaring.kind = .label) ∧
      (plain.part .instruction).isAbsent = false ∧
      ¬ ∃ colon, Unquoted ':' plain.raw colon ∧ Text.indentation plain.raw < colon ∧
        ((plain.part .comment).isAbsent = false → colon < (plain.part .comment).span.start) := by
  intro declaring plain
  have hdeclaring : (declaring.part .instruction).isAbsent = false := by decide
  have hplain : (plain.part .instruction).isAbsent = false := by decide
  have rule := declares_label_iff "  A: MOV R1, ':' ; c:" 0 hdeclaring
  have rule' := declares_label_iff "  MOV R1, ':' ; c:" 0 hplain
  refine ⟨⟨hdeclaring, rule.mpr ⟨⟨3, by decide, by decide, by decide⟩, by decide⟩⟩, hplain, ?_⟩
  intro hcolon
  have hkind : plain.kind = .label := rule'.mpr ⟨hcolon, by decide⟩
  exact absurd hkind (by decide)

/-- The code of this line begins with a colon, so the one behind `A` declares no label. -/
theorem not_declared_behind_colon :
    let line := ofText " :A: MOV R1" 0
    (line.part .instruction).isAbsent = false ∧
      ¬ (line.kind = .label ↔ ∃ colon, Unquoted ':' line.raw colon ∧
        Text.indentation line.raw < colon ∧
        ((line.part .comment).isAbsent = false → colon < (line.part .comment).span.start)) := by
  intro line
  refine ⟨by decide, fun h => ?_⟩
  have hkind : line.kind = .label := h.mpr ⟨3, by decide, by decide, by decide⟩
  exact absurd hkind (by decide)

end AsmLens.Line
