import AsmLens.Manual
import AsmLens.Proofs.Text.NameTable

/-!
# Rows of the manual's tables

A row is a line that is not empty. It is malformed if it has too few fields, and then it gives no entry;
otherwise every field of its entry comes from one field of the row. A table is read until a row is
malformed, so what comes out is the entries of all rows in order, or the first malformed row with its
number among all lines, the empty ones included.

Both tables are read alike. What they differ in is `needed`, the number of fields without which a row
gives no entry, and `ReadBy` says that this number is the only reason to refuse a row.

Results:
* `InstructionEntry.describes_of_ofRow`, `RegisterEntry.describes_of_ofRow`: what the fields of a row
  become.
* `entriesFrom_eq_ok_iff`: the entries are those of the rows, in order.
* `entriesFrom_eq_error_iff`, `firstMalformed_of_entries`: the failure is about the first malformed line.
* `entriesFrom_fails_iff`: there is a failure whenever some line is malformed.
-/
namespace AsmLens.Manual

/-- The fields of a row. -/
def fields (row : Text) : List Text := row.splitOn ';'

/-- The first field of a row in upper case, which is a name in either table. -/
def rowName (row : Text) : Text := Text.upperCase ((fields row).headD [])

/-- The rows among the lines. -/
def rowsOf (lines : List Text) : List Text := lines.filter fun line => !line.isEmpty

/-- The rows of a table: its lines without the empty ones. -/
def rows (text : Text) : List Text := rowsOf (Text.splitLines text)

namespace Table

/-- How many fields a row of the table needs. -/
def needed : Table → Nat
  | instructions => 4
  | registers => 3

/-- The line is a row with too few fields. -/
def Malformed (table : Table) (line : Text) : Prop :=
  line ≠ [] ∧ (fields line).length < table.needed

instance (table : Table) (line : Text) : Decidable (table.Malformed line) :=
  inferInstanceAs (Decidable (_ ∧ _))

/-- The function refuses exactly those rows that lack fields, and says how many they have. -/
def ReadBy {Entry : Type} (table : Table) (ofRow : Text → Except TooFewFields Entry) : Prop :=
  ∀ row cause, ofRow row = .error cause ↔
    (fields row).length < table.needed ∧ cause = ⟨table.needed, (fields row).length⟩

end Table

/-! ## The entry of a row -/

namespace InstructionEntry

/-- The entry is what the fields of the row say of an instruction. -/
structure Describes (entry : InstructionEntry) (row : Text) : Prop where
  name : entry.name = rowName row
  format : (fields row)[1]? = some entry.format
  description : (fields row)[2]? = some entry.description
  flags : ∃ mask, (fields row)[3]? = some mask ∧ entry.flags.Sublist "ZCNOE".toList ∧
    ∀ flag, flag ∈ entry.flags ↔ flag ∈ "ZCNOE".toList ∧ flag ∈ Text.upperCase mask
  pseudo : entry.pseudo = true ↔
    ∃ field, (fields row)[4]? = some field ∧ Text.trim field = "true".toList

theorem readBy_ofRow : Table.instructions.ReadBy ofRow := by
  intro row cause
  unfold ofRow fields
  split
  case h_1 h =>
    rw [h]
    simp only [Table.needed, List.length_cons, reduceCtorEq, false_iff, not_and]
    omega
  case h_2 h =>
    have hfew : (row.splitOn ';').length < 4 := by
      rcases hf : row.splitOn ';' with _ | ⟨a, _ | ⟨b, _ | ⟨c, _ | ⟨d, rest⟩⟩⟩⟩
      · simp
      · simp
      · simp
      · simp
      · exact absurd hf (h a b c d rest)
    simp [Table.needed, hfew, eq_comm]

theorem describes_of_ofRow {row : Text} {entry : InstructionEntry} (h : ofRow row = .ok entry) :
    entry.Describes row := by
  unfold ofRow at h
  split at h
  case h_1 name format description flags rest hfields =>
    cases h
    have hrow : fields row = name :: format :: description :: flags :: rest := hfields
    refine ⟨?_, ?_, ?_, ⟨flags, ?_, List.filter_sublist, ?_⟩, ?_⟩
    · rw [rowName, hrow]
      rfl
    · rw [hrow]
      rfl
    · rw [hrow]
      rfl
    · rw [hrow]
      rfl
    · intro flag
      rw [List.mem_filter, List.contains_iff_mem]
      rfl
    · rw [hrow]
      cases rest <;> simp
  case h_2 => cases h

end InstructionEntry

namespace RegisterEntry

/-- The entry is what the fields of the row say of a register. -/
structure Describes (entry : RegisterEntry) (row : Text) : Prop where
  name : entry.name = rowName row
  description : (fields row)[1]? = some entry.description
  aliases : ∃ field, (fields row)[2]? = some field ∧
    entry.aliases = ((field.splitOn ',').map Text.trim).filter (· ≠ [])

theorem readBy_ofRow : Table.registers.ReadBy ofRow := by
  intro row cause
  unfold ofRow fields
  split
  case h_1 h =>
    rw [h]
    simp only [Table.needed, List.length_cons, reduceCtorEq, false_iff, not_and]
    omega
  case h_2 h =>
    have hfew : (row.splitOn ';').length < 3 := by
      rcases hf : row.splitOn ';' with _ | ⟨a, _ | ⟨b, _ | ⟨c, rest⟩⟩⟩
      · simp
      · simp
      · simp
      · exact absurd hf (h a b c rest)
    simp [Table.needed, hfew, eq_comm]

theorem describes_of_ofRow {row : Text} {entry : RegisterEntry} (h : ofRow row = .ok entry) :
    entry.Describes row := by
  unfold ofRow at h
  split at h
  case h_1 name description field rest hfields =>
    cases h
    have hrow : fields row = name :: description :: field :: rest := hfields
    refine ⟨?_, ?_, field, ?_, ?_⟩
    · rw [rowName, hrow]
      rfl
    · rw [hrow]
      rfl
    · rw [hrow]
      rfl
    · show aliasesOf field = _
      unfold aliasesOf
      refine List.filter_congr ?_
      intro part _
      cases part <;> simp
  case h_2 => cases h

end RegisterEntry

/-! ## Reading a table -/

section Reading
variable {Entry : Type} {table : Table} {ofRow : Text → Except TooFewFields Entry}
  {start : Nat} {line : Text} {lines : List Text} {entries : List Entry} {found : MalformedRow}

theorem Table.ReadBy.not_malformed (h : table.ReadBy ofRow) {entry : Entry}
    (hok : ofRow line = .ok entry) : ¬ table.Malformed line := by
  intro ⟨_, hfew⟩
  rw [(h line _).mpr ⟨hfew, rfl⟩] at hok
  cases hok

theorem not_malformed_of_isEmpty (h : line.isEmpty = true) : ¬ table.Malformed line := by
  intro ⟨hne, _⟩
  exact hne (List.isEmpty_iff.mp h)

theorem map_cons_eq_ok_iff {read : Except MalformedRow (List Entry)} {entry : Entry} :
    read.map (entry :: ·) = .ok entries ↔ ∃ others, read = .ok others ∧ entry :: others = entries := by
  cases read <;> simp [Except.map]

/-- Reading succeeds if all rows give entries, and these are the result. -/
theorem entriesFrom_eq_ok_iff : entriesFrom table ofRow start lines = .ok entries ↔
    List.Forall₂ (fun row entry => ofRow row = .ok entry) (rowsOf lines) entries := by
  induction lines generalizing start entries with
  | nil =>
    rw [entriesFrom, rowsOf, List.filter_nil, List.forall₂_nil_left_iff]
    simp [eq_comm]
  | cons content rest ih =>
    unfold entriesFrom rowsOf
    split
    case isTrue hempty =>
      rw [List.filter_cons_of_neg (by simp [hempty])]
      exact ih
    case isFalse hempty =>
      rw [List.filter_cons_of_pos (by simp [hempty]), List.forall₂_cons_left_iff]
      split
      case h_1 entry hok =>
        rw [hok, map_cons_eq_ok_iff]
        constructor
        · intro ⟨others, hothers, he⟩
          exact ⟨entry, others, rfl, ih.mp hothers, he.symm⟩
        · intro ⟨_, others, hentry, hothers, he⟩
          cases hentry
          exact ⟨others, ih.mpr hothers, he.symm⟩
      case h_2 cause herror =>
        rw [herror]
        constructor
        · intro h
          cases h
        · intro ⟨_, _, h, _⟩
          cases h

/-- What is found is a malformed line with its number, and no line before it is malformed. -/
def FirstMalformedFrom (table : Table) (start : Nat) (lines : List Text) (found : MalformedRow) :
    Prop :=
  ∃ before content after, lines = before ++ content :: after ∧
    (∀ line ∈ before, ¬ table.Malformed line) ∧ table.Malformed content ∧
    found = ⟨table, start + before.length, content, ⟨table.needed, (fields content).length⟩⟩

theorem firstMalformedFrom_cons_of_malformed (h : table.Malformed line) :
    FirstMalformedFrom table start (line :: lines) found ↔
      found = ⟨table, start, line, ⟨table.needed, (fields line).length⟩⟩ := by
  constructor
  · intro ⟨before, content, after, hlines, hbefore, _, hfound⟩
    cases before with
    | nil =>
      cases hlines
      exact hfound
    | cons first others =>
      cases hlines
      exact absurd h (hbefore line List.mem_cons_self)
  · intro hfound
    exact ⟨[], line, lines, rfl, by simp, h, hfound⟩

theorem firstMalformedFrom_cons_of_not (h : ¬ table.Malformed line) :
    FirstMalformedFrom table start (line :: lines) found ↔
      FirstMalformedFrom table (start + 1) lines found := by
  have hshift (n : Nat) : start + (n + 1) = start + 1 + n := by omega
  constructor
  · intro ⟨before, content, after, hlines, hbefore, hcontent, hfound⟩
    cases before with
    | nil =>
      cases hlines
      exact absurd hcontent h
    | cons first others =>
      cases hlines
      rw [List.length_cons, hshift] at hfound
      exact ⟨others, content, after, rfl, (List.forall_mem_cons.mp hbefore).2, hcontent, hfound⟩
  · intro ⟨before, content, after, hlines, hbefore, hcontent, hfound⟩
    refine ⟨line :: before, content, after, ?_, List.forall_mem_cons.mpr ⟨h, hbefore⟩, hcontent, ?_⟩
    · rw [hlines]
      rfl
    · rw [List.length_cons, hshift]
      exact hfound

/-- Reading fails if a line is malformed, and the failure is about the first such line. -/
theorem entriesFrom_eq_error_iff (h : table.ReadBy ofRow) :
    entriesFrom table ofRow start lines = .error found ↔
      FirstMalformedFrom table start lines found := by
  induction lines generalizing start with
  | nil =>
    constructor
    · intro h'
      cases h'
    · intro ⟨before, content, after, hlines, _⟩
      simp at hlines
  | cons content rest ih =>
    unfold entriesFrom
    split
    case isTrue hempty =>
      rw [firstMalformedFrom_cons_of_not (not_malformed_of_isEmpty hempty)]
      exact ih
    case isFalse hempty =>
      split
      case h_1 entry hok =>
        rw [firstMalformedFrom_cons_of_not (h.not_malformed hok), ← ih]
        cases entriesFrom table ofRow (start + 1) rest <;> simp [Except.map]
      case h_2 cause herror =>
        obtain ⟨hfew, rfl⟩ := (h content cause).mp herror
        have hmalformed : table.Malformed content := ⟨by simpa using hempty, hfew⟩
        rw [firstMalformedFrom_cons_of_malformed hmalformed, Except.error.injEq, eq_comm]

theorem entriesFrom_fails_iff (h : table.ReadBy ofRow) :
    (∃ found, entriesFrom table ofRow start lines = .error found) ↔
      ∃ line ∈ lines, table.Malformed line := by
  constructor
  · intro ⟨found, hfound⟩
    obtain ⟨before, content, after, rfl, _, hcontent, _⟩ := (entriesFrom_eq_error_iff h).mp hfound
    exact ⟨content, by simp, hcontent⟩
  · intro ⟨line, hmem, hmalformed⟩
    cases hread : entriesFrom table ofRow start lines with
    | error found => exact ⟨found, rfl⟩
    | ok entries =>
      -- a row that gave an entry has all its fields
      have hrow : line ∈ rowsOf lines := by
        simpa [rowsOf, hmem] using hmalformed.1
      obtain ⟨entry, _, hok⟩ := exists_mem_of_forall₂ (entriesFrom_eq_ok_iff.mp hread) hrow
      exact absurd hmalformed (h.not_malformed hok)

end Reading

/-! ## Reading the text of a table -/

section Text
variable {Entry : Type} {table : Table} {ofRow : Text → Except TooFewFields Entry} {text : Text}
  {found : MalformedRow}

theorem entries_eq_ok_iff {es : List Entry} : entries table ofRow text = .ok es ↔
    List.Forall₂ (fun row entry => ofRow row = .ok entry) (rows text) es :=
  entriesFrom_eq_ok_iff

theorem entries_fails_iff (h : table.ReadBy ofRow) :
    (∃ found, entries table ofRow text = .error found) ↔
      ∃ line ∈ Text.splitLines text, table.Malformed line :=
  entriesFrom_fails_iff h

/-- What is found is the first malformed line of the text. -/
structure FirstMalformed (table : Table) (text : Text) (found : MalformedRow) : Prop where
  table_eq : found.table = table
  here : (Text.splitLines text)[found.row]? = some found.content
  malformed : table.Malformed found.content
  first : ∀ row line, row < found.row → (Text.splitLines text)[row]? = some line →
    ¬ table.Malformed line
  cause_eq : found.cause = ⟨table.needed, (fields found.content).length⟩

theorem firstMalformed_of_entries (h : table.ReadBy ofRow)
    (hread : entries table ofRow text = .error found) : FirstMalformed table text found := by
  obtain ⟨before, content, after, hlines, hbefore, hcontent, rfl⟩ :=
    (entriesFrom_eq_error_iff h).mp hread
  have hrow : 0 + before.length = before.length := Nat.zero_add _
  refine ⟨rfl, ?_, hcontent, ?_, rfl⟩
  · show (Text.splitLines text)[0 + before.length]? = some content
    rw [hlines, hrow, List.getElem?_append_right (Nat.le_refl _), Nat.sub_self]
    rfl
  · intro row line hlt hline
    rw [hlines, List.getElem?_append_left (hrow ▸ hlt)] at hline
    exact hbefore line (List.mem_of_getElem? hline)

end Text
end AsmLens.Manual
