import AsmLens.Proofs.Manual.Rows
import Mathlib.Data.List.Dedup

/-!
# Looking up what the manual says

The manual is filled row by row, and a name that comes up again leads to the newer entry. So a name leads
to the last row that has it. Nothing is asked of the rows: a register's alias may be the name of another
register or the alias of several, and which of them it leads to is settled by the rows' order alone.

Results:
* `name_of_getElem?_instructions`: an instruction is found under its own name only.
* `map_registerPositions`: a name's position is one of the registers' list, and the register there is the
  one that the name leads to.
* `describes_of_parse`: what the manual of two tables says, from the rows of the tables.
-/
namespace AsmLens.Manual
open NameTable

/-- The row is about a register of this name, or with this alias. -/
def IsCalled (row name : Text) : Prop :=
  rowName row = name ∨ ∃ field, (fields row)[2]? = some field ∧
    ∃ part ∈ field.splitOn ',', Text.trim part ≠ [] ∧ Text.upperCase (Text.trim part) = name

theorem InstructionEntry.Describes.rowName_iff {entry : InstructionEntry} {row name : Text}
    (h : entry.Describes row) : rowName row = name ↔ name ∈ [entry.name] := by
  rw [List.mem_singleton, h.name, eq_comm]

theorem RegisterEntry.Describes.isCalled_iff {entry : RegisterEntry} {row name : Text}
    (h : entry.Describes row) : IsCalled row name ↔ name ∈ entry.names := by
  obtain ⟨field, hfield, haliases⟩ := h.aliases
  unfold names
  rw [List.mem_append, List.mem_singleton, List.mem_map, haliases, h.name]
  constructor
  · rintro (hname | ⟨field', hfield', part, hpart, hne, hname⟩)
    · exact Or.inr hname.symm
    · rw [hfield] at hfield'
      cases hfield'
      refine Or.inl ⟨Text.trim part, List.mem_filter.mpr ⟨List.mem_map_of_mem hpart, ?_⟩, hname⟩
      exact decide_eq_true hne
  · rintro (⟨_, hfound, hname⟩ | hname)
    · obtain ⟨hmem, hne⟩ := List.mem_filter.mp hfound
      obtain ⟨part, hpart, rfl⟩ := List.mem_map.mp hmem
      exact Or.inr ⟨field, hfield, part, hpart, of_decide_eq_true hne, hname⟩
    · exact Or.inl hname.symm

/-! ## The manual as tables of names -/

section Tables
variable {instructions : List InstructionEntry} {registers : List RegisterEntry} {name : Text}

theorem instructions_ofEntries (instructions : List InstructionEntry) (registers : List RegisterEntry) :
    (ofEntries instructions registers).instructions =
      enterAll (fun entry => [entry.name]) id ∅ instructions :=
  rfl

theorem registerNames_ofEntries (instructions : List InstructionEntry)
    (registers : List RegisterEntry) :
    (ofEntries instructions registers).registerNames =
      enterAll RegisterEntry.names id ∅ registers :=
  rfl

/-- An instruction is found under its own name only. -/
theorem name_of_getElem?_instructions {entry : InstructionEntry}
    (h : (ofEntries instructions registers).instructions[name]? = some entry) : entry.name = name := by
  rw [instructions_ofEntries, getElem?_enterAll_empty] at h
  obtain ⟨_, hlast, rfl⟩ := h
  exact (List.mem_singleton.mp hlast.holds).symm

theorem mem_instructionList_iff {entry : InstructionEntry} :
    entry ∈ (ofEntries instructions registers).instructionList ↔
      (ofEntries instructions registers).instructions[entry.name]? = some entry := by
  rw [instructionList, List.mem_map]
  constructor
  · intro ⟨⟨name, _⟩, hmem, he⟩
    cases he
    have h := Std.TreeMap.mem_toList_iff_getElem?_eq_some.mp hmem
    rw [name_of_getElem?_instructions h]
    exact h
  · intro h
    exact ⟨(entry.name, entry), Std.TreeMap.mem_toList_iff_getElem?_eq_some.mpr h, rfl⟩

/-- The list goes through the names of the table. -/
theorem map_name_instructionList (instructions : List InstructionEntry)
    (registers : List RegisterEntry) :
    (ofEntries instructions registers).instructionList.map InstructionEntry.name =
      (ofEntries instructions registers).instructions.toList.map Prod.fst := by
  rw [instructionList, List.map_map]
  refine List.map_congr_left ?_
  intro ⟨name, entry⟩ hmem
  exact name_of_getElem?_instructions (Std.TreeMap.mem_toList_iff_getElem?_eq_some.mp hmem)

/-- The names under which a register is entered together with its position. -/
def placedNames (placed : RegisterEntry × Nat) : List Text := placed.1.names

theorem registerPositions_ofEntries (instructions : List InstructionEntry)
    (registers : List RegisterEntry) :
    (ofEntries instructions registers).registerPositions =
      enterAll placedNames Prod.snd ∅ registers.zipIdx :=
  rfl

/-- It makes no difference to the registers that their positions are entered beside them. -/
theorem enterAll_zipIdx (registers : List RegisterEntry) :
    enterAll RegisterEntry.names id ∅ registers = enterAll placedNames Prod.fst ∅ registers.zipIdx := by
  conv => lhs; rw [← List.zipIdx_map_fst 0 registers]
  exact List.foldl_map

/-- The position that a name leads to is one of the registers' list, and the register there is the one
that the name leads to. -/
theorem map_registerPositions (instructions : List InstructionEntry) (registers : List RegisterEntry)
    (name : Text) :
    ((ofEntries instructions registers).registerPositions[name]?).map (registers[·]?) =
      ((ofEntries instructions registers).registerNames[name]?).map some := by
  have hentry : (enterAll placedNames Prod.fst ∅ registers.zipIdx)[name]? =
      ((enterAll placedNames id ∅ registers.zipIdx)[name]?).map Prod.fst := getElem?_enterAll_value
  rw [registerPositions_ofEntries, registerNames_ofEntries, enterAll_zipIdx, hentry,
    getElem?_enterAll_value, Option.map_map, Option.map_map]
  cases h : (enterAll placedNames id ∅ registers.zipIdx)[name]? with
  | none => rfl
  | some placed =>
    obtain ⟨_, hlast, rfl⟩ := getElem?_enterAll_empty.mp h
    have hplaced := List.mem_zipIdx_iff_getElem?.mp hlast.mem
    exact congrArg some hplaced

end Tables

/-! ## The manual of two tables -/

/-- The manual says what the rows of its tables say. -/
structure Describes (manual : Manual) (instructions registers : List Text) : Prop where
  instruction_iff : ∀ q, (manual.instruction? q).isSome = true ↔
    ∃ row ∈ instructions, rowName row = Text.upperCase q
  instruction_last : ∀ q entry, manual.instruction? q = some entry →
    ∃ row, LastWith (rowName · = Text.upperCase q) instructions row ∧ entry.Describes row
  /-- So there is one entry for a name. -/
  listed_increasing : (manual.instructionList.map InstructionEntry.name).Pairwise (· < ·)
  listed_iff : ∀ name, name ∈ manual.instructionList.map InstructionEntry.name ↔
    ∃ row ∈ instructions, rowName row = name
  listed_last : ∀ entry ∈ manual.instructionList,
    ∃ row, LastWith (rowName · = entry.name) instructions row ∧ entry.Describes row
  registers_inOrder : List.Forall₂ (fun row entry => entry.Describes row) registers manual.registers
  register_iff : ∀ q, (manual.register? q).isSome = true ↔
    ∃ row ∈ registers, IsCalled row (Text.upperCase q)
  register_last : ∀ q entry, manual.register? q = some entry →
    ∃ row, LastWith (IsCalled · (Text.upperCase q)) registers row ∧ entry.Describes row
  /-- Looking up the position of a register gives the same register and is never out of range. -/
  register_position : ∀ q,
    (manual.registerPositions[Text.upperCase q]?).map (manual.registers[·]?) =
      (manual.register? q).map some

section Describing
variable {instructions registers : List Text} {is : List InstructionEntry} {rs : List RegisterEntry}
  {name : Text}

theorem isSome_instructions_iff
    (his : List.Forall₂ (fun row entry => entry.Describes row) instructions is) :
    ((ofEntries is rs).instructions[name]?).isSome = true ↔
      ∃ row ∈ instructions, rowName row = name := by
  rw [instructions_ofEntries]
  exact isSome_enterAll_iff his fun _ _ h => h.rowName_iff

theorem mem_keys_iff (his : List.Forall₂ (fun row entry => entry.Describes row) instructions is) :
    name ∈ (ofEntries is rs).instructions.keys ↔ ∃ row ∈ instructions, rowName row = name := by
  rw [Std.TreeMap.mem_keys, Std.TreeMap.mem_iff_isSome_getElem?, isSome_instructions_iff his]

/-- There are as many instructions as distinct names. -/
theorem size_instructions
    (his : List.Forall₂ (fun row entry => entry.Describes row) instructions is) :
    (ofEntries is rs).instructions.size = (instructions.map rowName).dedup.length := by
  rw [← Std.TreeMap.length_keys]
  refine List.Perm.length_eq ?_
  rw [List.perm_ext_iff_of_nodup Std.TreeMap.nodup_keys (List.nodup_dedup _)]
  intro name
  rw [mem_keys_iff his, List.mem_dedup, List.mem_map]

theorem exists_lastWith_instruction {entry : InstructionEntry}
    (his : List.Forall₂ (fun row entry => entry.Describes row) instructions is)
    (h : (ofEntries is rs).instructions[name]? = some entry) :
    ∃ row, LastWith (rowName · = name) instructions row ∧ entry.Describes row := by
  rw [instructions_ofEntries] at h
  exact exists_lastWith_of_enterAll his (fun _ _ h => h.rowName_iff) h

theorem describes_ofEntries
    (his : List.Forall₂ (fun row entry => entry.Describes row) instructions is)
    (hrs : List.Forall₂ (fun row entry => entry.Describes row) registers rs) :
    (ofEntries is rs).Describes instructions registers where
  instruction_iff _ := isSome_instructions_iff his
  instruction_last _ _ h := exists_lastWith_instruction his h
  listed_increasing := by
    rw [map_name_instructionList]
    exact keys_increasing _
  listed_iff name := by
    rw [map_name_instructionList, Std.TreeMap.map_fst_toList_eq_keys, mem_keys_iff his]
  listed_last _ hmem := exists_lastWith_instruction his (mem_instructionList_iff.mp hmem)
  registers_inOrder := hrs
  register_iff _ := isSome_enterAll_iff hrs fun _ _ h => h.isCalled_iff
  register_last _ _ h := exists_lastWith_of_enterAll hrs (fun _ _ h => h.isCalled_iff) h
  register_position q := map_registerPositions is rs (Text.upperCase q)

end Describing

theorem parse_eq_ok_iff {instructions registers : Text} {manual : Manual} :
    parse instructions registers = .ok manual ↔
      ∃ is rs, entries .instructions InstructionEntry.ofRow instructions = .ok is ∧
        entries .registers RegisterEntry.ofRow registers = .ok rs ∧ manual = ofEntries is rs := by
  unfold parse
  cases entries .instructions InstructionEntry.ofRow instructions with
  | error found => simp [bind, Except.bind]
  | ok is =>
    cases entries .registers RegisterEntry.ofRow registers with
    | error found => simp [bind, Except.bind]
    | ok rs => simp [bind, Except.bind, pure, Except.pure, eq_comm]

/-- A manual that has been read says what the rows of its tables say. -/
theorem describes_of_parse {instructions registers : Text} {manual : Manual}
    (h : parse instructions registers = .ok manual) :
    manual.Describes (rows instructions) (rows registers) := by
  obtain ⟨is, rs, his, hrs, rfl⟩ := parse_eq_ok_iff.mp h
  refine describes_ofEntries ?_ ?_
  · exact (entries_eq_ok_iff.mp his).imp fun _ _ => InstructionEntry.describes_of_ofRow
  · exact (entries_eq_ok_iff.mp hrs).imp fun _ _ => RegisterEntry.describes_of_ofRow

/-- Either register has the other's name as an alias, and both names lead to the one that comes last. -/
theorem describes_of_parse_crossed :
    let instructions : Text := "mov;A;first;zc\n\nMOV;B;second;e; true "
    let registers : Text := "R7;General;x,sp\nSP;Stack;y, ,r7\n"
    let stack : RegisterEntry := ⟨"SP", "Stack", ["y".toList, "r7".toList]⟩
    let manual := ofEntries [⟨"MOV", "A", "first", "ZC", false⟩, ⟨"MOV", "B", "second", "E", true⟩]
      [⟨"R7", "General", ["x".toList, "sp".toList]⟩, stack]
    parse instructions registers = .ok manual ∧
      manual.Describes ["mov;A;first;zc".toList, "MOV;B;second;e; true ".toList]
        ["R7;General;x,sp".toList, "SP;Stack;y, ,r7".toList] ∧
      manual.register? "r7" = some stack ∧ manual.register? "Sp" = some stack := by
  intro instructions registers stack manual
  have hparse : parse instructions registers = .ok manual := by
    refine parse_eq_ok_iff.mpr ⟨_, _, ?_, ?_, rfl⟩
    · decide +kernel
    · decide +kernel
  exact ⟨hparse, describes_of_parse hparse, by decide +kernel, by decide +kernel⟩

end AsmLens.Manual
