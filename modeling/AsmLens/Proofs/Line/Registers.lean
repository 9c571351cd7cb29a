import AsmLens.Proofs.Line.InBytes
import AsmLens.Proofs.Line.Names
import AsmLens.Proofs.Vocabulary

/-!
# The registers of an operand

The registers of an operand are what a greedy reader finds: where registers stand it takes the longest and
goes on behind it, and anywhere else, newlines included, it goes on at the next character. `Scans` is that
reader, by the table of registers and by nothing else; it has one outcome. The lexer, whose rules are a
pattern and any single character but a newline, and which counts in bytes, has the same outcome.

Results:
* `scans_iff`: the greedy reader has one outcome from every column.
* `Scans.occurrence`, `Scans.pairwise`, `Scans.covers`: what it reports are registers that stand in the text,
  in order and apart, and no register that stands in the text begins outside of them.
* `Operand.registers_eq`: the outcome of the lexer.
* `registers_by_greedy_scan`: all of it, also for the registers in the data of a line.
-/
namespace AsmLens
open Keyword (OccursAt)

namespace Register

/-! ## The greedy reader -/

/-- The register at column `p` of the text, as it is written there, in a line in which the text begins at
`base`. -/
def written (text : Text) (base p : Nat) (r : Register) : Field :=
  ⟨Text.slice text p (p + (Keyword.spelling r).length),
    ⟨base + p, base + p + (Keyword.spelling r).length⟩⟩

/-- What a greedy reader reports from column `p` of the text on. -/
inductive Scans (text : Text) (base : Nat) : Nat → List Field → Prop where
  | done {p : Nat} : text.length ≤ p → Scans text base p []
  | take {p : Nat} {r : Register} {fields : List Field} : OccursAt r text p →
      (∀ j : Register, OccursAt j text p → (Keyword.spelling j).length ≤ (Keyword.spelling r).length) →
      Scans text base (p + (Keyword.spelling r).length) fields →
      Scans text base p (written text base p r :: fields)
  | skip {p : Nat} {fields : List Field} : p < text.length → (∀ r : Register, ¬ OccursAt r text p) →
      Scans text base (p + 1) fields → Scans text base p fields

variable {text : Text} {base p q column skip : Nat} {r : Register} {field : Field} {fields : List Field}

/-! ## Its outcome -/

theorem scanFrom_skip (column skip : Nat) (text : Text) :
    scanFrom column skip text = scanFrom (column + skip) 0 (text.drop skip) := by
  induction text generalizing column skip with
  | nil => simp [scanFrom]
  | cons c rest ih =>
    cases skip with
    | zero => rfl
    | succ skip =>
      rw [scanFrom, ih, List.drop_succ_cons, Nat.add_assoc, Nat.add_comm 1]

theorem scanFrom_of_at? (h : at? text = some r) (column : Nat) :
    scanFrom column 0 text =
      ⟨text.take (Keyword.spelling r).length, ⟨column, column + (Keyword.spelling r).length⟩⟩ ::
        scanFrom (column + (Keyword.spelling r).length) 0 (text.drop (Keyword.spelling r).length) := by
  have hpos := Keyword.length_spelling_pos r
  cases text with
  | nil =>
    have hle := length_spelling_le h
    exact absurd hle (Nat.not_le_of_lt hpos)
  | cons c rest =>
    obtain ⟨n, hn⟩ := Nat.exists_eq_succ_of_ne_zero (Nat.ne_of_gt hpos)
    have hwidth : r.spelling.length = n + 1 := hn
    simp only [scanFrom, h, hwidth, hn, Nat.add_sub_cancel, List.drop_succ_cons]
    rw [scanFrom_skip, Nat.add_assoc, Nat.add_comm 1]

theorem at?_eq_some_iff : at? (text.drop p) = some r ↔ OccursAt r text p ∧
    ∀ j : Register, OccursAt j text p → (Keyword.spelling j).length ≤ (Keyword.spelling r).length :=
  Keyword.longest?_beginsAnyCase_eq_some_iff

theorem at?_eq_none_iff : at? (text.drop p) = none ↔ ∀ r : Register, ¬ OccursAt r text p :=
  Keyword.longest?_beginsAnyCase_eq_none_iff

/-- Reading on from a column at which a register stands. -/
theorem scanFrom_take (h : at? (text.drop p) = some r) :
    scanFrom (base + p) 0 (text.drop p) = written text base p r ::
      scanFrom (base + (p + (Keyword.spelling r).length)) 0
        (text.drop (p + (Keyword.spelling r).length)) := by
  rw [scanFrom_of_at? h, List.drop_drop, Nat.add_assoc, written, Text.slice, List.drop_take,
    Nat.add_sub_cancel_left, Nat.add_assoc]

/-- Reading on from a column at which none stands. -/
theorem scanFrom_next (hp : p < text.length) (h : at? (text.drop p) = none) :
    scanFrom (base + p) 0 (text.drop p) = scanFrom (base + (p + 1)) 0 (text.drop (p + 1)) := by
  rw [List.drop_eq_getElem_cons hp] at h ⊢
  simp only [scanFrom, h, Nat.add_assoc]

theorem Scans.eq_scanFrom (h : Scans text base p fields) :
    fields = scanFrom (base + p) 0 (text.drop p) := by
  induction h with
  | done hp => rw [List.drop_eq_nil_iff.mpr hp, scanFrom]
  | take hr longest _ ih => rw [scanFrom_take (at?_eq_some_iff.mpr ⟨hr, longest⟩), ih]
  | skip hp hnone _ ih => rw [scanFrom_next hp (at?_eq_none_iff.mpr hnone), ih]

theorem scans_scanFrom (text : Text) (base p : Nat) :
    Scans text base p (scanFrom (base + p) 0 (text.drop p)) := by
  by_cases hp : text.length ≤ p
  · rw [List.drop_eq_nil_iff.mpr hp]
    exact .done hp
  · cases h : at? (text.drop p) with
    | none =>
      rw [scanFrom_next (Nat.lt_of_not_le hp) h]
      exact .skip (Nat.lt_of_not_le hp) (at?_eq_none_iff.mp h) (scans_scanFrom text base (p + 1))
    | some r =>
      have hr := at?_eq_some_iff.mp h
      have hpos := Keyword.length_spelling_pos r
      rw [scanFrom_take h]
      exact .take hr.1 hr.2 (scans_scanFrom text base (p + (Keyword.spelling r).length))
termination_by text.length - p

/-- From every column the greedy reader has one outcome. -/
theorem scans_iff : Scans text base p fields ↔ fields = scanFrom (base + p) 0 (text.drop p) := by
  refine ⟨Scans.eq_scanFrom, ?_⟩
  intro h
  rw [h]
  exact scans_scanFrom text base p

/-! ## What it reports -/

/-- Every report is of a register that stands in the text. -/
theorem Scans.occurrence (h : Scans text base p fields) (hf : field ∈ fields) :
    ∃ q r, p ≤ q ∧ OccursAt r text q ∧ field = written text base q r := by
  induction h with
  | done => cases hf
  | @take p r fields hr _ _ ih =>
    rcases List.mem_cons.mp hf with rfl | hf
    · exact ⟨p, r, Nat.le_refl p, hr, rfl⟩
    · obtain ⟨q, j, hq, hj⟩ := ih hf
      exact ⟨q, j, by omega, hj⟩
  | skip _ _ _ ih =>
    obtain ⟨q, j, hq, hj⟩ := ih hf
    exact ⟨q, j, by omega, hj⟩

/-- The reports ascend, and no two of them share a column. -/
theorem Scans.pairwise (h : Scans text base p fields) :
    fields.Pairwise fun a b => a.span.start < b.span.start ∧ a.span.stop ≤ b.span.start := by
  induction h with
  | done => exact List.Pairwise.nil
  | @take p r fields _ _ hrest ih =>
    rw [List.pairwise_cons]
    refine ⟨?_, ih⟩
    intro field hf
    obtain ⟨q, j, hq, -, rfl⟩ := hrest.occurrence hf
    have hpos := Keyword.length_spelling_pos r
    simp only [written]
    omega
  | skip _ _ _ ih => exact ih

/-- No register of the text begins outside the reports. -/
theorem Scans.covers (h : Scans text base p fields) (hq : p ≤ q) (hr : OccursAt r text q) :
    ∃ field ∈ fields, field.span.contains (base + q) = true := by
  have hpos := Keyword.length_spelling_pos r
  have hstop := hr.stop_le
  induction h with
  | done hp => omega
  | @take p j fields _ _ _ ih =>
    by_cases hlt : q < p + (Keyword.spelling j).length
    · refine ⟨written text base p j, List.mem_cons_self, ?_⟩
      simp only [written, Span.contains_iff]
      omega
    · obtain ⟨field, hf, hcontains⟩ := ih (Nat.le_of_not_lt hlt)
      exact ⟨field, List.mem_cons_of_mem _ hf, hcontains⟩
  | @skip p _ _ hnone _ ih =>
    have hne : q ≠ p := fun e => hnone r (e ▸ hr)
    exact ih (by omega)

theorem parse?_written (h : OccursAt r text p) :
    (Keyword.parse? (written text base p r).text : Option Register) = some r :=
  Keyword.parse?_of_asciiUpper h

end Register

/-! ## The lexer -/

namespace Operand
open Register (at?)
variable {text : Text} {r : Register} {n : Nat}

theorem mem_lengths_iff :
    n ∈ (Pattern.register.filter fun classes => Pattern.begins classes text).map List.length ↔
      ∃ r : Register, (Keyword.spelling r).length = n ∧ OccursAt r text 0 := by
  rw [← Pattern.register_spells.begins_iff]
  simp only [List.mem_map, List.mem_filter, List.drop_zero]
  constructor
  · intro h
    obtain ⟨classes, hc, hn⟩ := h
    exact ⟨classes, hc.1, hn, hc.2⟩
  · intro h
    obtain ⟨classes, hmem, hn, hbegins⟩ := h
    exact ⟨classes, ⟨hmem, hbegins⟩, hn⟩

/-- The first rule takes the longest register that the text begins with. -/
theorem registerLength?_eq (text : Text) :
    registerLength? text = (at? text).map fun r => (Keyword.spelling r).length := by
  rw [registerLength?]
  cases h : at? text with
  | none =>
    have hnone := Register.at?_eq_none_iff.mp (show at? (text.drop 0) = none from h)
    rw [Option.map_none, List.max?_eq_none_iff, List.eq_nil_iff_forall_not_mem]
    intro n hn
    obtain ⟨r, -, hr⟩ := mem_lengths_iff.mp hn
    exact hnone r hr
  | some r =>
    have hr := Register.at?_eq_some_iff.mp (show at? (text.drop 0) = some r from h)
    rw [Option.map_some, List.max?_eq_some_iff]
    refine ⟨mem_lengths_iff.mpr ⟨r, rfl, hr.1⟩, ?_⟩
    intro n hn
    obtain ⟨j, rfl, hj⟩ := mem_lengths_iff.mp hn
    exact hr.2 j hj

/-- What the first rule has taken is the register. -/
theorem ofWritten_take (h : at? text = some r) :
    ofWritten (text.take (Keyword.spelling r).length) = .register r := by
  have hr := (Register.at?_eq_some_iff.mp (show at? (text.drop 0) = some r from h)).1
  have hparse := Keyword.parse?_of_asciiUpper hr
  rw [Nat.zero_add, Text.slice, List.drop_zero] at hparse
  rw [ofWritten, hparse]

theorem next_of_at? (h : at? text = some r) :
    next text = (.register r, (Keyword.spelling r).length) := by
  have hpos := Keyword.length_spelling_pos r
  rw [next, registerLength?_eq, h, Option.map_some]
  cases text with
  | nil => simp only [otherLength?, ofWritten_take h]
  | cons c rest =>
    by_cases hc : c = '\n'
    · simp only [otherLength?, hc, if_true]
      rw [← hc, ofWritten_take h]
    · simp only [otherLength?, hc, if_false]
      rw [if_pos (Nat.succ_le_of_lt hpos), ofWritten_take h]

/-- Where no register stands, the lexer takes one character, which it reports as no register. -/
theorem next_of_none (h : at? text = none) :
    (next text).2 = 1 ∧ ∀ bytes, registerBytes? ((next text).1, bytes) = none := by
  rw [next, registerLength?_eq, h, Option.map_none]
  cases text with
  | nil => exact ⟨rfl, fun _ => rfl⟩
  | cons c rest =>
    by_cases hc : c = '\n'
    · simp [otherLength?, hc, registerBytes?]
    · simp [otherLength?, hc, registerBytes?]

/-- The tokens that are registers are those that the table of registers offers. -/
theorem filterMap_tokensFrom (byte skip : Nat) (text : Text) :
    (tokensFrom byte skip text).filterMap registerBytes? = Register.tokensFrom byte skip text := by
  induction text generalizing byte skip with
  | nil => rfl
  | cons c rest ih =>
    cases skip with
    | succ skip => exact ih _ skip
    | zero =>
      cases h : at? (c :: rest) with
      | none =>
        obtain ⟨hwidth, hnone⟩ := next_of_none h
        simp only [tokensFrom, Register.tokensFrom, h, List.filterMap_cons, hnone, hwidth, ih]
      | some r =>
        simp only [tokensFrom, Register.tokensFrom, h, next_of_at? h, List.filterMap_cons,
          registerBytes?, ih, Keyword.spelling]

/-- The lexer finds the registers that reading by the table finds. -/
theorem registers_eq (text : Text) (base : Span) :
    registers text base = pure (Register.scan text base.start) := by
  rw [registers, filterMap_tokensFrom]
  exact Register.scanBytes_eq text base.start

end Operand

/-! ## Operands of lines -/

/-- A slice of a slice is a slice of the whole. -/
theorem Text.slice_slice (text : Text) {start stop first last : Nat} (h : start + last ≤ stop) :
    slice (slice text start stop) first last = slice text (start + first) (start + last) := by
  rw [slice, slice, List.take_drop, List.take_take, Nat.min_eq_left h, List.drop_drop, slice]

namespace Line
open Register (Scans written)

/-- A register in the data of a line lies inside the data, and its span leads back to its text. -/
theorem register_within_data (raw : Text) (number : Nat) {field : Field}
    (h : field ∈ (ofText raw number).registers) :
    ((ofText raw number).part .data).span.start ≤ field.span.start ∧
      field.span.stop ≤ ((ofText raw number).part .data).span.stop ∧
      field.span.extract? raw = some field.text := by
  have hon := part_on raw number (p := .data) (by decide)
  have hscan := Register.scans_scanFrom ((ofText raw number).part .data).text
    ((ofText raw number).part .data).span.start 0
  obtain ⟨q, r, -, hr, rfl⟩ := hscan.occurrence h
  have hstop := hr.stop_le
  have hlength := hon.length_text
  have hwithin := hon.within.1
  refine ⟨?_, ?_, ?_⟩
  · simp [Register.written]
  · simp only [Register.written]
    omega
  · rw [Span.extract?_of_le (Nat.le_add_right _ _), written, Span.extract, ← hon.slice_eq,
      Text.slice_slice raw (by omega), Nat.add_assoc]

/-- The lexer of operands is the greedy reader: for every text and base span it reports what the reader
reports, and nothing else can be its outcome. So every report is a register that stands in the text, with
the columns at which it is written there, counted from the start of the base span; the reports are not
empty, ascend and share no column; and every register that stands in the text begins inside of one. The
registers of a line are those of its data, inside the span of the data, and are written in the line where
their spans say.

Columns have no upper limit here. The base is meant to be the span of the text in a line, and then every sum
of columns is again a column of that line or its end. -/
theorem registers_by_greedy_scan (text : Text) (base : Span) (raw : Text) (number : Nat) :
    (∃ fields, Operand.registers text base = pure fields ∧
      (∀ other, Scans text base.start 0 other ↔ other = fields) ∧
      (∀ field ∈ fields, field.span.start < field.span.stop ∧
        ∃ p r, OccursAt r text p ∧ field = written text base.start p r ∧
          (Keyword.parse? field.text : Option Register) = some r) ∧
      (fields.Pairwise fun a b => a.span.start < b.span.start ∧ a.span.stop ≤ b.span.start) ∧
      ∀ p, ∀ r : Register, OccursAt r text p →
        ∃ field ∈ fields, field.span.contains (base.start + p) = true) ∧
    let line := ofText raw number
    let data := line.part .data
    Operand.registers data.text data.span = pure line.registers ∧
      ∀ field ∈ line.registers, data.span.start ≤ field.span.start ∧
        field.span.stop ≤ data.span.stop ∧ field.span.extract? raw = some field.text := by
  have hscan := Register.scans_scanFrom text base.start 0
  refine ⟨⟨Register.scan text base.start, Operand.registers_eq text base, ?_, ?_, hscan.pairwise, ?_⟩,
    Operand.registers_eq _ _, fun field hf => register_within_data raw number hf⟩
  · intro other
    rw [Register.scans_iff]
    rfl
  · intro field hf
    obtain ⟨p, r, -, hr, rfl⟩ := hscan.occurrence hf
    refine ⟨?_, p, r, hr, rfl, Register.parse?_written hr⟩
    have hpos := Keyword.length_spelling_pos r
    simp only [written]
    omega
  · intro p r hr
    exact hscan.covers (Nat.zero_le p) hr

/-- `RR10` holds `R1` behind its first letter, and the newline before `spc` is passed over. The register in
the data of the line stands behind a character that takes two bytes. -/
theorem registers_by_greedy_scan_in_words :
    let text : Text := "RR10\nspc"
    let raw : Text := "L: MOV 'ã', r12"
    let first : Field := ⟨"R1", ⟨5, 7⟩⟩
    let second : Field := ⟨"sp", ⟨9, 11⟩⟩
    let found : Field := ⟨"r12", ⟨12, 15⟩⟩
    Operand.registers text ⟨4, 12⟩ = pure [first, second] ∧
      (first.span.start < first.span.stop ∧
        ∃ p r, OccursAt r text p ∧ first = written text 4 p r ∧
          (Keyword.parse? first.text : Option Register) = some r) ∧
      (OccursAt Register.r1 text 1 ∧ ∃ field ∈ [first, second], field.span.contains 5 = true) ∧
      found ∈ (ofText raw 0).registers ∧
      ((ofText raw 0).part .data).span = ⟨7, 15⟩ ∧ found.span.extract? raw = some found.text := by
  intro text raw first second found
  obtain ⟨hlexer, -, hdata⟩ := registers_by_greedy_scan text ⟨4, 12⟩ raw 0
  obtain ⟨fields, hfields, -, heach, -, hcovers⟩ := hlexer
  have hscan : Operand.registers text ⟨4, 12⟩ = pure [first, second] := by
    rw [Operand.registers_eq]
    exact congrArg pure (by decide)
  rw [hscan] at hfields
  cases hfields
  have hmem : found ∈ (ofText raw 0).registers := by decide
  have hoccurs : OccursAt Register.r1 text 1 := by decide
  exact ⟨hscan, heach first List.mem_cons_self, ⟨hoccurs, hcovers 1 .r1 hoccurs⟩, hmem, by decide,
    (hdata found hmem).2.2⟩

end Line
end AsmLens
