import AsmLens.Proofs.Document.Indexing
import AsmLens.Query
import Mathlib.Data.List.Nodup

/-!
# The outline and the definitions of a document

The outline lists what a document defines, and a definition is looked up by the word at a column. The two
agree wherever a name is a word.

Results:
* `line?_eq_some_iff`: a number is found exactly where it stands.
* `mem_outline_iff`: the symbols are the definitions of the document.
* `outlinedNames_perm`: each name of each kind is listed once.
* `outline_numbers_increasing`: the symbols stand on different lines, in order.
* `outline_lists_definitions`: all of it, and what a symbol says of its line.
* `exists_symbol_of_definitionAt?`: what is found is in the outline, under the word that was asked.
* `definitionAt?_of_not_run_on`: at a name that does not run on, that name is looked up.
* `definitionAt?_ne_of_run_on`: at one that does, it is never found.
* `definitions_agree_with_outline`: the three together, for labels and variables.
-/
namespace AsmLens

/-!
## What the outline lists

The outline is put together from two lists of names and sorted by place. That nothing is lost or
listed twice holds of every document. That it reads like the document, line after line, takes lines
whose numbers ascend: then a number is a line, and since a line defines one name at most, no two
symbols share a line and the column never decides.
-/

/-! ### Symbols of definitions -/

namespace Line

/-- A line that assigns to a variable has a directive. -/
theorem exists_directive {line : Line} {name : Text} (h : line.Defines .variableName name) :
    ∃ d, line.directive? = some d := by
  obtain ⟨a, hc⟩ := kind_eq_assignment_iff.mp h.1
  exact ⟨a.directive, directive?_of_assignment hc⟩

end Line

namespace DocumentSymbol

/-- The symbol for a name of the kind and the line that defines it. -/
def ofName : NameKind → Text → Line → DocumentSymbol
  | .label => ofLabel
  | .variableName => ofVariable

/-- What kind of name the symbol stands for. -/
def nameKind (symbol : DocumentSymbol) : NameKind :=
  if symbol.kind = .function then .label else .variableName

theorem nameKind_ofName (kind : NameKind) (name : Text) (line : Line) :
    (ofName kind name line).nameKind = kind := by
  cases kind with
  | label => rfl
  | variableName =>
    rw [ofName, nameKind, ofVariable]
    cases line.directive? with
    | none => rfl
    | some d => cases d <;> rfl

theorem name_ofName (kind : NameKind) (name : Text) (line : Line) :
    (ofName kind name line).name = name := by cases kind <;> rfl

theorem number_ofName (kind : NameKind) (name : Text) (line : Line) :
    (ofName kind name line).number = line.number := by cases kind <;> rfl

theorem lineSpan_ofName (kind : NameKind) (name : Text) (line : Line) :
    (ofName kind name line).lineSpan = line.span := by cases kind <;> rfl

theorem selection_ofName (kind : NameKind) (name : Text) (line : Line) :
    (ofName kind name line).selection = (line.nameField kind).span := by cases kind <;> rfl

/-- What a symbol says of the line that defines its name. -/
structure Describes (symbol : DocumentSymbol) (line : Line) : Prop where
  number : symbol.number = line.number
  lineSpan : symbol.lineSpan = line.span
  named : symbol.selection.extract? line.raw = some symbol.name
  inside : symbol.lineSpan.start ≤ symbol.selection.start ∧
    symbol.selection.start ≤ symbol.selection.stop ∧
    symbol.selection.stop ≤ symbol.lineSpan.stop
  label_or_variable :
    (line.Defines .label symbol.name ∧ symbol.kind = .function ∧ symbol.directive = none) ∨
      (line.Defines .variableName symbol.name ∧
        ∃ d, line.directive? = some d ∧ symbol.directive = some d ∧
          symbol.kind = match d with
            | .equ => .constant
            | .word => .variableName
            | .str | .tab => .array)

theorem describes_ofName {raw : Text} {number : Nat} {kind : NameKind} {name : Text}
    (h : (Line.ofText raw number).Defines kind name) :
    (ofName kind name (Line.ofText raw number)).Describes (Line.ofText raw number) := by
  have hon := Line.on_nameField raw number kind
  refine ⟨number_ofName .., lineSpan_ofName .., ?_, ?_, ?_⟩
  · rw [selection_ofName, name_ofName, Line.raw_ofText, ← h.text_nameField]
    exact hon.extract
  · rw [selection_ofName, lineSpan_ofName, Line.span, Line.raw_ofText]
    exact ⟨Nat.zero_le _, hon.within⟩
  · rw [name_ofName]
    cases kind with
    | label => exact Or.inl ⟨h, rfl, rfl⟩
    | variableName =>
      obtain ⟨d, hd⟩ := Line.exists_directive h
      refine Or.inr ⟨h, d, hd, hd, ?_⟩
      simp only [ofName, ofVariable, hd]
      cases d <;> rfl

end DocumentSymbol

namespace Document
variable {document : Document} {kind other : NameKind} {name text : Text} {line l : Line}

/-! ### Lines by number -/

/-- The numbers of the lines ascend. -/
def Ascending (document : Document) : Prop :=
  document.lines.Pairwise fun a b => a.number < b.number

theorem Ascending.eq_of_number (h : document.Ascending) (hl : line ∈ document.lines)
    (hl' : l ∈ document.lines) (e : line.number = l.number) : line = l := by
  have hnodup : (document.lines.map Line.number).Nodup :=
    List.pairwise_map.mpr (List.Pairwise.imp Nat.ne_of_lt h)
  exact List.inj_on_of_nodup_map hnodup hl hl' e

theorem Ascending.line?_eq_some_iff (h : document.Ascending) {number : Nat} :
    document.line? number = some line ↔ line ∈ document.lines ∧ line.number = number := by
  constructor
  · intro hl
    exact ⟨List.mem_of_find?_eq_some hl, by simpa using List.find?_some hl⟩
  · rintro ⟨hl, rfl⟩
    have hsome : (document.line? line.number).isSome = true :=
      List.find?_isSome.mpr ⟨line, hl, beq_self_eq_true line.number⟩
    obtain ⟨found, hfound⟩ := Option.isSome_iff_exists.mp hsome
    rw [hfound, h.eq_of_number (List.mem_of_find?_eq_some hfound) hl
      (by simpa using List.find?_some hfound)]

/-- Texts with ascending numbers give a document with ascending numbers, cancelled or not. -/
theorem ascending_build {texts : List NumberedText} (flag : Option CancelFlag)
    (h : texts.Pairwise fun a b => a.number < b.number) : (build texts flag).1.Ascending := by
  obtain ⟨n, hn⟩ := exists_take_of_build texts flag
  rw [hn, Ascending, (indexes_build _).lines_eq, List.pairwise_map]
  refine (h.sublist (List.take_sublist n texts)).imp fun hlt => ?_
  rw [NumberedText.classify, NumberedText.classify, Line.number_ofText, Line.number_ofText]
  exact hlt

/-! ### The symbols are the definitions -/

theorem Indexes.mem_and_defines (h : document.Indexes document.lines)
    (hd : document.defining? kind name = some line) :
    line ∈ document.lines ∧ line.Defines kind name := by
  obtain ⟨p, hlast⟩ := h.defining?_eq_some_iff.mp hd
  exact ⟨List.mem_of_getElem? hlast.here, hlast.defines⟩

/-- The symbols for the names of the kind, by name. -/
def symbolsOf (document : Document) (kind : NameKind) : List DocumentSymbol :=
  (document.definitions kind).toList.map fun (name, line) => DocumentSymbol.ofName kind name line

theorem outline_perm (document : Document) :
    document.outline.Perm (document.symbolsOf .variableName ++ document.symbolsOf .label) :=
  List.mergeSort_perm _ _

theorem mem_symbolsOf_iff {symbol : DocumentSymbol} :
    symbol ∈ document.symbolsOf kind ↔ ∃ name line, document.defining? kind name = some line ∧
      symbol = DocumentSymbol.ofName kind name line := by
  simp only [symbolsOf, List.mem_map, Prod.exists, mem_definitions_iff, eq_comm (a := symbol)]

theorem mem_outline_iff {symbol : DocumentSymbol} :
    symbol ∈ document.outline ↔ ∃ kind name line, document.defining? kind name = some line ∧
      symbol = DocumentSymbol.ofName kind name line := by
  rw [(outline_perm document).mem_iff, List.mem_append, mem_symbolsOf_iff, mem_symbolsOf_iff]
  constructor
  · rintro (h | h)
    · exact ⟨.variableName, h⟩
    · exact ⟨.label, h⟩
  · rintro ⟨kind, h⟩
    cases kind with
    | label => exact Or.inr h
    | variableName => exact Or.inl h

/-- The names of the kind that the outline lists. -/
def outlinedNames (document : Document) (kind : NameKind) : List Text :=
  (document.outline.filter fun symbol => symbol.nameKind == kind).map DocumentSymbol.name

theorem map_name_symbolsOf (document : Document) (kind : NameKind) :
    (document.symbolsOf kind).map DocumentSymbol.name =
      (document.definitions kind).toList.map Prod.fst := by
  rw [symbolsOf, List.map_map]
  exact List.map_congr_left fun definition _ => DocumentSymbol.name_ofName ..

theorem filter_symbolsOf (document : Document) (kind other : NameKind) :
    ((document.symbolsOf kind).filter fun symbol => symbol.nameKind == other) =
      if kind = other then document.symbolsOf kind else [] := by
  have hkind : ∀ symbol ∈ document.symbolsOf kind, symbol.nameKind = kind := by
    intro symbol hs
    obtain ⟨name, line, -, rfl⟩ := mem_symbolsOf_iff.mp hs
    exact DocumentSymbol.nameKind_ofName ..
  split
  case isTrue h =>
    rw [List.filter_eq_self]
    intro symbol hs
    rw [hkind symbol hs, h, beq_self_eq_true]
  case isFalse h =>
    rw [List.filter_eq_nil_iff]
    intro symbol hs
    rw [hkind symbol hs, beq_iff_eq]
    exact h

theorem outlinedNames_perm (document : Document) (kind : NameKind) :
    (document.outlinedNames kind).Perm ((document.definitions kind).toList.map Prod.fst) := by
  have h := ((outline_perm document).filter fun symbol => symbol.nameKind == kind).map
    DocumentSymbol.name
  rw [List.filter_append, filter_symbolsOf, filter_symbolsOf] at h
  rw [outlinedNames, ← map_name_symbolsOf]
  cases kind with
  | label => simpa using h
  | variableName => simpa using h

theorem definitions_nodup (document : Document) (kind : NameKind) :
    ((document.definitions kind).toList.map Prod.fst).Nodup := by
  rw [Std.TreeMap.map_fst_toList_eq_keys]
  exact Std.TreeMap.nodup_keys

theorem outlinedNames_nodup (document : Document) (kind : NameKind) :
    (document.outlinedNames kind).Nodup :=
  (outlinedNames_perm document kind).nodup_iff.mpr (definitions_nodup document kind)

theorem mem_outlinedNames_iff (h : document.Indexes document.lines) :
    name ∈ document.outlinedNames kind ↔ ∃ line ∈ document.lines, line.Defines kind name := by
  rw [(outlinedNames_perm document kind).mem_iff, ← h.isSome_defining?_iff,
    Option.isSome_iff_exists, List.mem_map]
  constructor
  · rintro ⟨⟨name, line⟩, hmem, rfl⟩
    exact ⟨line, (mem_definitions_iff document).mp hmem⟩
  · rintro ⟨line, hd⟩
    exact ⟨(name, line), (mem_definitions_iff document).mpr hd, rfl⟩

/-! ### One symbol a line -/

/-- Two definitions on one line are one definition. -/
theorem Indexes.unique_on_line (h : document.Indexes document.lines) (ascending : document.Ascending)
    (hd : document.defining? kind name = some line) (hd' : document.defining? other text = some l)
    (e : line.number = l.number) : kind = other ∧ name = text := by
  obtain ⟨hl, hdef⟩ := h.mem_and_defines hd
  obtain ⟨hl', hdef'⟩ := h.mem_and_defines hd'
  rw [← ascending.eq_of_number hl hl' e] at hdef'
  exact hdef.unique hdef'

theorem outline_numbers_ne (h : document.Indexes document.lines) (ascending : document.Ascending) :
    document.outline.Pairwise fun a b => a.number ≠ b.number := by
  have hwithin : ∀ kind, (document.symbolsOf kind).Pairwise fun a b => a.number ≠ b.number := by
    intro kind
    have hnodup := definitions_nodup document kind
    rw [← map_name_symbolsOf, List.Nodup, List.pairwise_map] at hnodup
    refine hnodup.imp_of_mem fun {a b} ha hb hne e => hne ?_
    obtain ⟨name, line, hd, rfl⟩ := mem_symbolsOf_iff.mp ha
    obtain ⟨text, l, hd', rfl⟩ := mem_symbolsOf_iff.mp hb
    rw [DocumentSymbol.number_ofName, DocumentSymbol.number_ofName] at e
    rw [DocumentSymbol.name_ofName, DocumentSymbol.name_ofName]
    exact (h.unique_on_line ascending hd hd' e).2
  rw [(outline_perm document).pairwise_iff fun hne => hne.symm, List.pairwise_append]
  refine ⟨hwithin _, hwithin _, ?_⟩
  intro a ha b hb e
  obtain ⟨name, line, hd, rfl⟩ := mem_symbolsOf_iff.mp ha
  obtain ⟨text, l, hd', rfl⟩ := mem_symbolsOf_iff.mp hb
  rw [DocumentSymbol.number_ofName, DocumentSymbol.number_ofName] at e
  cases (h.unique_on_line ascending hd hd' e).1

theorem outline_numbers_increasing (h : document.Indexes document.lines)
    (ascending : document.Ascending) :
    document.outline.Pairwise fun a b => a.number < b.number := by
  refine ((pairwise_outline document).and (outline_numbers_ne h ascending)).imp ?_
  rintro a b ⟨hle, hne⟩
  rcases DocumentSymbol.precedes_iff.mp hle with hlt | ⟨e, -⟩
  · exact hlt
  · exact absurd e hne

/-- The outline of a document with ascending numbers lists every label and every variable that its
lines define, each once and by line, and every symbol describes the line that its number leads
to. -/
theorem outline_lists_definitions (texts : List NumberedText) (flag : Option CancelFlag)
    (ascending : (build texts flag).1.Ascending) :
    let document := (build texts flag).1
    (∀ kind, (document.outlinedNames kind).Nodup ∧
        ∀ name, name ∈ document.outlinedNames kind ↔
          ∃ line ∈ document.lines, line.Defines kind name) ∧
      document.outline.length = document.labelLines.size + document.variableLines.size ∧
      (document.outline.Pairwise fun a b => a.number < b.number) ∧
      ∀ symbol ∈ document.outline, ∃ line,
        document.line? symbol.number = some line ∧ symbol.Describes line := by
  obtain ⟨h, hread⟩ := indexes_lines texts flag
  refine ⟨fun kind => ⟨outlinedNames_nodup _ kind, fun name => mem_outlinedNames_iff h⟩, ?_,
    outline_numbers_increasing h ascending, ?_⟩
  · rw [length_outline, Nat.add_comm]
  · intro symbol hs
    obtain ⟨kind, name, line, hd, rfl⟩ := mem_outline_iff.mp hs
    obtain ⟨hl, hdef⟩ := h.mem_and_defines hd
    refine ⟨line, ascending.line?_eq_some_iff.mpr ⟨hl, (DocumentSymbol.number_ofName ..).symm⟩, ?_⟩
    obtain ⟨raw, number, rfl⟩ := hread line hl
    exact DocumentSymbol.describes_ofName hdef

/-- A label that is declared twice and a variable of the same name, on lines with gaps between their
numbers: the label and the variable are listed once each. -/
theorem outline_lists_definitions_shared :
    let document := (build
      [⟨"Main: CALL Sub", 3⟩, ⟨"Main EQU 2", 8⟩, ⟨"  Buf tab 16", 9⟩, ⟨"Main: RET", 12⟩] none).1
    document.Ascending ∧
      ("Main" : Text) ∈ document.outlinedNames .label ∧ (document.outlinedNames .label).Nodup ∧
      ("Main" : Text) ∈ document.outlinedNames .variableName ∧
      document.outline.Pairwise fun a b => a.number < b.number := by
  intro document
  have ascending : document.Ascending := ascending_build none (by decide)
  obtain ⟨names, -, increasing, -⟩ := outline_lists_definitions _ _ ascending
  have hlines : document.lines = _ := (indexes_build _).lines_eq
  refine ⟨ascending, ?_, (names .label).1, ?_, increasing⟩
  · refine ((names .label).2 _).mpr ⟨Line.ofText "Main: RET" 12, ?_, by decide, by decide⟩
    rw [hlines]
    simp [NumberedText.classify]
  · refine ((names .variableName).2 _).mpr ⟨Line.ofText "Main EQU 2" 8, ?_, by decide, by decide⟩
    rw [hlines]
    simp [NumberedText.classify]

end Document

/-!
## Definitions and the outline agree

The outline takes a name from the field that the line was read into; a definition is looked up by the
word at a column, which is cut from the raw text again. The two meet because a name of word
characters is the word at its columns, unless more word characters follow it, as a directive may
follow its variable. In that case the word is another name, and no other name is defined on that
line.
-/

open AsmLens.Span (IsWord WordCharAt wordAt?)
open Unicode (isWordChar)

/-- Where the name of the symbol stands. -/
def DocumentSymbol.location (symbol : DocumentSymbol) : Location :=
  ⟨symbol.number, symbol.selection⟩

theorem DocumentSymbol.location_ofName (kind : NameKind) (name : Text) (line : Line) :
    (ofName kind name line).location = ⟨line.number, (line.nameField kind).span⟩ := by
  cases kind <;> rfl

namespace Document
variable {document : Document} {kind : NameKind} {name : Text} {line : Line} {number column : Nat}
  {location : Location} {word : Span}

/-! ### Looking up a name -/

theorem locate?_of_label (h : document.labelLine? name = some line) :
    document.locate? name = some ⟨line.number, (line.part .label).span⟩ := by
  rw [locate?, h]

theorem locate?_of_variable (h : document.variableLine? name = some line) :
    document.locate? name =
      some (((document.labelLine? name).map fun l => ⟨l.number, (l.part .label).span⟩).getD
        ⟨line.number, (line.part .variableName).span⟩) := by
  rw [locate?]
  cases document.labelLine? name with
  | none => rw [h]; rfl
  | some l => rfl

theorem exists_defining?_of_locate? (h : document.locate? name = some location) :
    ∃ kind line, document.defining? kind name = some line ∧
      location = ⟨line.number, (line.nameField kind).span⟩ := by
  rw [locate?] at h
  split at h
  case h_1 line hl =>
    cases h
    exact ⟨.label, line, hl, rfl⟩
  case h_2 =>
    obtain ⟨line, hl, rfl⟩ := Option.map_eq_some_iff.mp h
    exact ⟨.variableName, line, hl, rfl⟩

theorem definitionAt?_eq_some_iff :
    document.definitionAt? number column = some location ↔
      ∃ line word, document.line? number = some line ∧ wordAt? line.raw column = some word ∧
        document.locate? (word.extract line.raw) = some location := by
  simp only [definitionAt?, Option.bind_eq_bind, Option.bind_eq_some_iff]
  constructor
  · rintro ⟨line, hl, word, hw, h⟩
    exact ⟨line, word, hl, hw, h⟩
  · rintro ⟨line, word, hl, hw, h⟩
    exact ⟨line, hl, word, hw, h⟩

theorem exists_symbol_of_definitionAt?
    (h : document.definitionAt? number column = some location) :
    ∃ line word, document.line? number = some line ∧ wordAt? line.raw column = some word ∧
      ∃ symbol ∈ document.outline, symbol.name = word.extract line.raw ∧
        symbol.location = location := by
  obtain ⟨line, word, hl, hw, hloc⟩ := definitionAt?_eq_some_iff.mp h
  obtain ⟨kind, defining, hd, rfl⟩ := exists_defining?_of_locate? hloc
  exact ⟨line, word, hl, hw, _, mem_outline_iff.mpr ⟨kind, _, defining, hd, rfl⟩,
    DocumentSymbol.name_ofName .., DocumentSymbol.location_ofName ..⟩

/-! ### Looking up the name at its own definition -/

section
variable {raw : Text} {n : Nat}

theorem definitionAt?_of_not_run_on (hl : document.line? number = some (Line.ofText raw n))
    (hdef : (Line.ofText raw n).Defines kind name) (hw : ∀ c ∈ name, isWordChar c = true)
    (hc : ((Line.ofText raw n).nameField kind).span.contains column = true)
    (after : ¬ WordCharAt raw ((Line.ofText raw n).nameField kind).span.stop) :
    document.definitionAt? number column = document.locate? name := by
  have hon := Line.on_nameField raw n kind
  have hne : name ≠ [] := by
    obtain ⟨h1, h2⟩ := Span.contains_iff.mp hc
    rw [← hdef.text_nameField, ne_eq, ← List.length_eq_zero_iff, hon.length_text]
    omega
  have hword : wordAt? raw column = some ((Line.ofText raw n).nameField kind).span :=
    Span.wordAt?_eq_some_iff.mpr ⟨Line.isWord_of_name hdef hw hne after, hc⟩
  have hname : ((Line.ofText raw n).nameField kind).span.extract raw = name :=
    hon.slice_eq.trans hdef.text_nameField
  simp only [definitionAt?, hl, Line.raw_ofText, hword, Option.bind_eq_bind, Option.bind_some,
    hname]

theorem definitionAt?_ne_of_run_on (h : document.Indexes document.lines)
    (ascending : document.Ascending) (hd : document.defining? kind name = some (Line.ofText raw n))
    (hw : ∀ c ∈ name, isWordChar c = true)
    (hc : ((Line.ofText raw n).nameField kind).span.contains column = true)
    (after : WordCharAt raw ((Line.ofText raw n).nameField kind).span.stop) :
    document.definitionAt? n column ≠
      some ⟨n, ((Line.ofText raw n).nameField kind).span⟩ := by
  intro hfound
  obtain ⟨hmem, hdef⟩ := h.mem_and_defines hd
  have hnumber := Line.number_ofText raw n
  obtain ⟨line, word, hl, hword, hloc⟩ := definitionAt?_eq_some_iff.mp hfound
  rw [ascending.line?_eq_some_iff.mpr ⟨hmem, hnumber⟩] at hl
  cases hl
  rw [Line.raw_ofText] at hword hloc
  -- a definition that is found on this line is the one that the line makes
  obtain ⟨other, defining, hd', hplace⟩ := exists_defining?_of_locate? hloc
  have e : defining.number = (Line.ofText raw n).number := by
    rw [hnumber]
    exact (congrArg Location.number hplace).symm
  have hname := (h.unique_on_line ascending hd' hd e).2
  obtain ⟨hisWord, hcontains⟩ := Span.wordAt?_eq_some_iff.mp hword
  exact Line.extract_word_ne_name hdef hw after hisWord hcontains hc hname

end

/-- What is found for a position of a document with ascending numbers is a symbol of its outline.
The other way round, at a label of word characters that label is found; at such a variable the
label of the same name is found, or else the variable, unless word characters follow it, and then
the variable is not found. -/
theorem definitions_agree_with_outline (texts : List NumberedText) (flag : Option CancelFlag)
    (ascending : (build texts flag).1.Ascending) :
    let document := (build texts flag).1
    (∀ number column location, document.definitionAt? number column = some location →
        ∃ line word, document.line? number = some line ∧ wordAt? line.raw column = some word ∧
          ∃ symbol ∈ document.outline, symbol.name = word.extract line.raw ∧
            symbol.location = location) ∧
      ∀ symbol ∈ document.outline, (∀ c ∈ symbol.name, isWordChar c = true) →
        ∀ column, symbol.selection.contains column = true →
          (symbol.kind = .function →
            document.definitionAt? symbol.number column = some symbol.location) ∧
          (symbol.kind ≠ .function → ∃ line, document.line? symbol.number = some line ∧
            (¬ WordCharAt line.raw symbol.selection.stop →
              document.definitionAt? symbol.number column =
                some (((document.labelLine? symbol.name).map fun l =>
                  ⟨l.number, (l.part .label).span⟩).getD symbol.location)) ∧
            (WordCharAt line.raw symbol.selection.stop →
              document.definitionAt? symbol.number column ≠ some symbol.location)) := by
  obtain ⟨h, hread⟩ := indexes_lines texts flag
  refine ⟨fun number column location => exists_symbol_of_definitionAt?, ?_⟩
  intro symbol hs hw column hc
  obtain ⟨kind, name, line, hd, rfl⟩ := mem_outline_iff.mp hs
  obtain ⟨hmem, hdef⟩ := h.mem_and_defines hd
  obtain ⟨raw, n, rfl⟩ := hread line hmem
  have hl := ascending.line?_eq_some_iff.mpr ⟨hmem, Line.number_ofText raw n⟩
  rw [DocumentSymbol.name_ofName] at hw
  rw [DocumentSymbol.selection_ofName] at hc
  rw [DocumentSymbol.number_ofName, DocumentSymbol.location_ofName, DocumentSymbol.name_ofName,
    DocumentSymbol.selection_ofName, Line.number_ofText]
  cases kind with
  | label =>
    refine ⟨fun _ => ?_, fun hk => absurd rfl hk⟩
    rw [definitionAt?_of_not_run_on hl hdef hw hc (Line.not_wordCharAt_label_stop hdef.1),
      locate?_of_label hd, Line.number_ofText]
    rfl
  | variableName =>
    refine ⟨fun hk => ?_, fun _ => ⟨_, hl, ?_, ?_⟩⟩
    · have := DocumentSymbol.nameKind_ofName .variableName name (Line.ofText raw n)
      rw [DocumentSymbol.nameKind, if_pos hk] at this
      cases this
    · intro after
      rw [Line.raw_ofText] at after
      rw [definitionAt?_of_not_run_on hl hdef hw hc after, locate?_of_variable hd,
        Line.number_ofText]
      rfl
    · intro after
      rw [Line.raw_ofText] at after
      exact definitionAt?_ne_of_run_on h ascending hd hw hc after

/-- A label and a variable of one name, and a variable that runs into its directive: the label is
found at its own name and at that of the variable, and the other variable is not found. -/
theorem definitions_agree_with_outline_shared_or_run_on :
    let texts : List NumberedText :=
      [⟨"Top: CMP R1, LIMIT", 1⟩, ⟨"  Top EQU 5", 4⟩, ⟨"LIMITequ 5", 6⟩]
    let document := (build texts none).1
    document.Ascending ∧
      document.definitionAt? 1 2 = some ⟨1, 0, 3⟩ ∧
      document.definitionAt? 4 2 = some ⟨1, 0, 3⟩ ∧
      document.definitionAt? 6 4 ≠ some ⟨6, 0, 5⟩ := by
  intro texts document
  have ascending : document.Ascending := ascending_build none (by decide)
  have published : document.Publishes _ := (indexes_build _).publishes
  have defining : ∀ kind name line, (∃ p, LastAt (texts.map NumberedText.classify) kind name p line) →
      document.defining? kind name = some line ∧ document.line? line.number = some line := by
    intro kind name line ⟨p, hlast⟩
    refine ⟨(published.last_iff ..).mpr ⟨p, hlast⟩, ascending.line?_eq_some_iff.mpr ⟨?_, rfl⟩⟩
    rw [published.lines_eq]
    exact List.mem_of_getElem? hlast.here
  obtain ⟨label, -⟩ := defining .label "Top" (Line.ofText "Top: CMP R1, LIMIT" 1) ⟨0, by decide⟩
  obtain ⟨shared, hshared⟩ :=
    defining .variableName "Top" (Line.ofText "  Top EQU 5" 4) ⟨1, by decide⟩
  obtain ⟨runOn, hrunOn⟩ :=
    defining .variableName "LIMIT" (Line.ofText "LIMITequ 5" 6) ⟨2, by decide⟩
  have hTop : ∀ c ∈ ("Top" : Text), isWordChar c = true := List.all_eq_true.mp (by decide)
  have hLimit : ∀ c ∈ ("LIMIT" : Text), isWordChar c = true := List.all_eq_true.mp (by decide)
  obtain ⟨-, back⟩ := definitions_agree_with_outline _ _ ascending
  refine ⟨ascending, ?_, ?_, ?_⟩
  · exact (back _ (mem_outline_iff.mpr ⟨_, _, _, label, rfl⟩) hTop 2 (by decide)).1 rfl
  · obtain ⟨line, hl, found, -⟩ :=
      (back _ (mem_outline_iff.mpr ⟨_, _, _, shared, rfl⟩) hTop 2 (by decide)).2 (by decide)
    cases hshared.symm.trans hl
    have hlabel : document.labelLine? "Top" = _ := label
    refine (found (by decide)).trans ?_
    rw [DocumentSymbol.name_ofName, hlabel]
    rfl
  · obtain ⟨line, hl, -, lost⟩ :=
      (back _ (mem_outline_iff.mpr ⟨_, _, _, runOn, rfl⟩) hLimit 4 (by decide)).2 (by decide)
    cases hrunOn.symm.trans hl
    exact lost (by decide)

end Document
end AsmLens
