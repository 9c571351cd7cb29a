import AsmLens.Proofs.Document.Range

/-!
# Names that are empty

A colon declares a label only if it is not the first character of the code, so a label always has a
name. A directive makes an assignment wherever it stands, also where nothing but blanks precedes it, and
such an assignment is entered like any other: under the empty name, selected at columns 0 to 0. Several of
them supersede one another.

Results:
* `defines_nil_iff`: the lines that define the empty name.
* `names_real_iff`: the names of a document are real exactly when no assignment lacks its name.
* `not_namesReal_of_nameless`: a document that publishes the empty name.
-/
namespace AsmLens
open Text (BlankBetween)

namespace Line
variable {raw : Text} {number : Nat} {kind : NameKind}

/-- The line assigns to nothing: only blanks precede its directive. -/
def IsNameless (line : Line) : Prop :=
  line.kind = .assignment ∧ BlankBetween line.raw 0 (line.part .operator).span.start

instance (line : Line) : Decidable line.IsNameless :=
  decidable_of_iff (line.kind = .assignment ∧
      (Text.slice line.raw 0 (line.part .operator).span.start).all Unicode.isBlank = true)
    (and_congr_right fun _ => List.all_eq_true.trans Text.blankBetween_iff_slice.symm)

theorem variableName_eq_nil_iff (hk : (ofText raw number).kind = .assignment) :
    ((ofText raw number).part .variableName).text = [] ↔
      BlankBetween raw 0 ((ofText raw number).part .operator).span.start := by
  obtain ⟨a, hc⟩ := kind_eq_assignment_iff.mp hk
  have hcode := ofCode?_of_content hc
  have hstop := (Assignment.in_of_ofCode? (codeStop_le raw) hcode).stop_le
  have hlt := a.lt_stop
  rw [part_of_assignment hc]
  show a.variableName.text = [] ↔ BlankBetween raw 0 a.column
  rw [(Assignment.fields_of_ofCode? hcode).2.1, Field.trimmed_take raw (by omega),
    Field.text_trimmed, Field.trim_eq_nil_iff, Text.blankBetween_iff_slice]

/-- The empty name is that of a variable, and its line assigns to nothing. -/
theorem defines_nil_iff : (ofText raw number).Defines kind [] ↔
    kind = .variableName ∧ (ofText raw number).IsNameless := by
  cases kind with
  | label =>
    refine iff_of_false (fun h => ?_) fun h => by cases h.1
    have hpresent := label_isAbsent h.1
    rw [Field.isAbsent, h.2] at hpresent
    cases hpresent
  | variableName =>
    rw [IsNameless, raw_ofText]
    refine ⟨fun h => ⟨rfl, h.1, (variableName_eq_nil_iff h.1).mp h.2⟩, fun h => ?_⟩
    exact ⟨h.2.1, (variableName_eq_nil_iff h.2.1).mpr h.2.2⟩

end Line

namespace DocumentSymbol

/-- The name can be seen in its place: it is not empty, and it is selected within its line. -/
structure IsReal (symbol : DocumentSymbol) : Prop where
  named : symbol.name ≠ []
  selected : symbol.selection.start < symbol.selection.stop
  inside : symbol.lineSpan.start ≤ symbol.selection.start ∧
    symbol.selection.stop ≤ symbol.lineSpan.stop

variable {raw : Text} {number : Nat} {kind : NameKind} {name : Text}

/-- As much is selected as there is of the name. -/
theorem selected_ofName_iff (h : (Line.ofText raw number).Defines kind name) :
    let symbol := ofName kind name (Line.ofText raw number)
    symbol.selection.start < symbol.selection.stop ↔ symbol.name ≠ [] := by
  intro symbol
  have hlength := (Line.on_nameField raw number kind).length_text
  rw [h.text_nameField] at hlength
  have hselection : symbol.selection = ((Line.ofText raw number).nameField kind).span :=
    selection_ofName ..
  have hname : symbol.name = name := name_ofName ..
  rw [hselection, hname, ← List.length_pos_iff, hlength]
  omega

end DocumentSymbol

namespace Document

/-- All names that the document publishes, in its lists and in its outline, are real. -/
structure NamesReal (document : Document) : Prop where
  listed : ∀ kind, ∀ name ∈ (document.definitions kind).keys, name ≠ []
  outlined : ∀ symbol ∈ document.outline, symbol.IsReal

section
variable {texts : List NumberedText} {flag : Option CancelFlag} {kind : NameKind} {name : Text}
  {symbol : DocumentSymbol}

theorem mem_keys_build_iff : name ∈ ((build texts flag).1.definitions kind).keys ↔
    ∃ line ∈ (build texts flag).1.lines, line.Defines kind name := by
  rw [Std.TreeMap.mem_keys, ← (indexes_lines texts flag).1.isSome_defining?_iff,
    ← getElem?_definitions, Std.TreeMap.isSome_getElem?_iff_mem]

theorem nil_mem_keys_build_iff : [] ∈ ((build texts flag).1.definitions kind).keys ↔
    kind = .variableName ∧ ∃ line ∈ (build texts flag).1.lines, line.IsNameless := by
  have hread := (indexes_lines texts flag).2
  rw [mem_keys_build_iff]
  constructor
  · intro ⟨line, hl, hd⟩
    obtain ⟨raw, number, rfl⟩ := hread line hl
    obtain ⟨hkind, hnameless⟩ := Line.defines_nil_iff.mp hd
    exact ⟨hkind, _, hl, hnameless⟩
  · intro ⟨hkind, line, hl, hnameless⟩
    obtain ⟨raw, number, rfl⟩ := hread line hl
    exact ⟨_, hl, Line.defines_nil_iff.mpr ⟨hkind, hnameless⟩⟩

/-- What every symbol has, with or without a name. -/
theorem outlined_build (hs : symbol ∈ (build texts flag).1.outline) :
    symbol.name ∈ ((build texts flag).1.definitions symbol.nameKind).keys ∧
      (symbol.lineSpan.start ≤ symbol.selection.start ∧
        symbol.selection.stop ≤ symbol.lineSpan.stop) ∧
      (symbol.selection.start < symbol.selection.stop ↔ symbol.name ≠ []) := by
  obtain ⟨h, hread⟩ := indexes_lines texts flag
  obtain ⟨kind, name, line, hd, rfl⟩ := mem_outline_iff.mp hs
  obtain ⟨hl, hdef⟩ := h.mem_and_defines hd
  obtain ⟨raw, number, rfl⟩ := hread line hl
  have hinside := (DocumentSymbol.describes_ofName hdef).inside
  refine ⟨?_, ⟨hinside.1, hinside.2.2⟩, DocumentSymbol.selected_ofName_iff hdef⟩
  rw [DocumentSymbol.nameKind_ofName, DocumentSymbol.name_ofName, mem_keys_build_iff]
  exact ⟨_, hl, hdef⟩

theorem namesReal_build_iff :
    (build texts flag).1.NamesReal ↔ ∀ line ∈ (build texts flag).1.lines, ¬ line.IsNameless := by
  constructor
  · intro h line hl hnameless
    exact h.listed .variableName [] (nil_mem_keys_build_iff.mpr ⟨rfl, line, hl, hnameless⟩) rfl
  · intro h
    have hlisted : ∀ kind, ∀ name ∈ ((build texts flag).1.definitions kind).keys, name ≠ [] := by
      intro kind name hname e
      rw [e, nil_mem_keys_build_iff] at hname
      obtain ⟨-, line, hl, hnameless⟩ := hname
      exact h line hl hnameless
    refine ⟨hlisted, fun symbol hs => ?_⟩
    obtain ⟨hkey, hinside, hselected⟩ := outlined_build hs
    have hname := hlisted _ _ hkey
    exact ⟨hname, hselected.mpr hname, hinside⟩

end

/-- The names of a document are real exactly when each of its assignments has something else than blanks
before its directive. A label always has a name. A symbol lies within its line in any case, and
its selection is empty exactly when its name is, which then is that of a variable. -/
theorem names_real_iff (text : Text) (flag : Option CancelFlag) :
    let document := ofText text flag
    (document.NamesReal ↔ ∀ line ∈ document.lines, ¬ line.IsNameless) ∧
      (∀ name ∈ document.labelLines.keys, name ≠ []) ∧
      ([] ∈ document.variableLines.keys ↔ ∃ line ∈ document.lines, line.IsNameless) ∧
      ∀ symbol ∈ document.outline,
        (symbol.lineSpan.start ≤ symbol.selection.start ∧
          symbol.selection.stop ≤ symbol.lineSpan.stop) ∧
        (symbol.selection.start < symbol.selection.stop ↔ symbol.name ≠ []) ∧
        (symbol.name = [] → symbol.kind ≠ .function) := by
  intro document
  have hlabels : ∀ name ∈ document.labelLines.keys, name ≠ [] := by
    intro name hname e
    rw [e] at hname
    cases (nil_mem_keys_build_iff.mp hname).1
  refine ⟨namesReal_build_iff, hlabels, ?_, fun symbol hs => ?_⟩
  · refine nil_mem_keys_build_iff.trans ?_
    simp only [true_and]
    rfl
  · obtain ⟨hkey, hinside, hselected⟩ := outlined_build hs
    refine ⟨hinside, hselected, fun e hfunction => ?_⟩
    rw [DocumentSymbol.nameKind, if_pos hfunction] at hkey
    exact hlabels _ hkey e

/-- An assignment whose name is one letter, and one without a name on the second line. -/
theorem names_real_iff_both_ways :
    (ofText "A EQU 5\nA: NOP" none).NamesReal ∧
      [] ∈ (ofText "A: NOP\n\tword 'A'" none).variableLines.keys ∧
      ¬ (ofText "A: NOP\n\tword 'A'" none).NamesReal := by
  obtain ⟨hreal, -⟩ := names_real_iff "A EQU 5\nA: NOP" none
  obtain ⟨hnot, -, hnil, -⟩ := names_real_iff "A: NOP\n\tword 'A'" none
  have hnamed : ∀ line ∈ (ofText "A EQU 5\nA: NOP" none).lines, ¬ line.IsNameless := by
    rw [lines_ofText]
    decide
  have hnameless : ∃ line ∈ (ofText "A: NOP\n\tword 'A'" none).lines, line.IsNameless := by
    rw [lines_ofText]
    decide
  refine ⟨hreal.mpr hnamed, hnil.mpr hnameless, fun h => ?_⟩
  obtain ⟨line, hl, hn⟩ := hnameless
  exact hnot.mp h line hl hn

/-- An assignment without a name: the empty name is listed, and its symbol selects nothing. -/
theorem not_namesReal_of_nameless :
    let document := ofText " EQU 5" none
    [] ∈ document.variableLines.keys ∧
      (∃ symbol ∈ document.outline, symbol.name = [] ∧ symbol.selection = ⟨0, 0⟩) ∧
      ¬ document.NamesReal := by
  intro document
  have hline : Line.ofText " EQU 5" 0 ∈ document.lines := by
    rw [lines_ofText]
    exact List.mem_singleton_self _
  have hkey : [] ∈ document.variableLines.keys :=
    nil_mem_keys_build_iff.mpr ⟨rfl, _, hline, by decide⟩
  have hdefining : document.defining? .variableName [] = some (Line.ofText " EQU 5" 0) := rfl
  refine ⟨hkey, ⟨_, mem_outline_iff.mpr ⟨.variableName, [], _, hdefining, rfl⟩, rfl, by decide⟩, ?_⟩
  exact fun h => h.listed .variableName [] hkey rfl

end Document
end AsmLens
