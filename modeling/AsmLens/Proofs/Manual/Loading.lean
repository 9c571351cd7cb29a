import AsmLens.Proofs.Manual.Lookup
import AsmLens.Source.Tree

/-!
# What is reported when the manual is read

The manual is read in steps, each of which may end the reading: the two files, the rows of the first table,
the rows of the second. Whatever comes first in this order is reported and the rest is not looked at, so
of several things that are wrong only one comes to light. A step that fails leaves a report of its own or
none, and the sizes are reported at the very end; so at most one event is logged, and it says the same as
the result.

Results:
* `run_readRows`, `run_readTables`, `run_readDirectory`: the reading with its reports comes to the same
  as the plain one.
* `parse_fails_iff`, `parse_eq_error_iff`: when reading the tables fails, and which table is to blame.
* `reading_reported`: all outcomes of reading two tables, and a directory with two tables.
-/
namespace AsmLens.Manual

/-! ## Running the reading -/

section Run
variable {ε α β σ : Type} {state state' : σ}

theorem run_bind_of_ok {x : ExceptT ε (StateM σ) α} {f : α → ExceptT ε (StateM σ) β} {a : α}
    (h : x.run.run state = (.ok a, state')) :
    (x >>= f).run.run state = (f a).run.run state' := by
  simp only [ExceptT.run_bind, StateT.run_bind, h]
  rfl

theorem run_bind_of_error {x : ExceptT ε (StateM σ) α} {f : α → ExceptT ε (StateM σ) β} {e : ε}
    (h : x.run.run state = (.error e, state')) :
    (x >>= f).run.run state = (.error e, state') := by
  simp only [ExceptT.run_bind, StateT.run_bind, h]
  rfl

/-- The events of reading rows: none, or that of the malformed one. -/
def rowEvents : Except MalformedRow α → List Event
  | .ok _ => []
  | .error found => [found.event]

/-- Rows are read as without reports, and the malformed one is reported. -/
theorem run_readRows {Entry : Type} (table : Table) (ofRow : Text → Except TooFewFields Entry)
    (start : Nat) (lines : List Text) (log : List Event) :
    (readRows table ofRow start lines).run.run log =
      (entriesFrom table ofRow start lines, log ++ rowEvents (entriesFrom table ofRow start lines)) := by
  induction lines generalizing start with
  | nil =>
    show (_, log) = _
    rw [entriesFrom, rowEvents, List.append_nil]
  | cons content rest ih =>
    by_cases hempty : content.isEmpty = true
    · rw [readRows, entriesFrom, if_pos hempty, if_pos hempty]
      exact ih (start + 1)
    · rw [readRows, entriesFrom, if_neg hempty, if_neg hempty]
      cases ofRow content with
      | error cause => rfl
      | ok entry =>
        have hrest := ih (start + 1)
        cases hread : entriesFrom table ofRow (start + 1) rest with
        | ok entries =>
          rw [hread] at hrest
          exact run_bind_of_ok hrest
        | error found =>
          rw [hread] at hrest
          exact run_bind_of_error hrest

theorem run_readRows_splitLines {Entry : Type} (table : Table)
    (ofRow : Text → Except TooFewFields Entry) (text : Text) (log : List Event) :
    (readRows table ofRow 0 (Text.splitLines text)).run.run log =
      (entries table ofRow text, log ++ rowEvents (entries table ofRow text)) :=
  run_readRows table ofRow 0 (Text.splitLines text) log

theorem run_readTables (instructions registers : Text) (log : List Event) :
    (readTables instructions registers).run.run log =
      (parse instructions registers, log ++ [parseEvent (parse instructions registers)]) := by
  unfold readTables parse
  have his := run_readRows_splitLines .instructions InstructionEntry.ofRow instructions log
  have hrs := run_readRows_splitLines .registers RegisterEntry.ofRow registers log
  cases hi : entries .instructions InstructionEntry.ofRow instructions with
  | error found =>
    rw [hi] at his
    exact run_bind_of_error his
  | ok is =>
    rw [hi, rowEvents, List.append_nil] at his
    rw [run_bind_of_ok his]
    cases hr : entries .registers RegisterEntry.ofRow registers with
    | error found =>
      rw [hr] at hrs
      exact run_bind_of_error hrs
    | ok rs =>
      rw [hr, rowEvents, List.append_nil] at hrs
      rw [run_bind_of_ok hrs]
      rfl

theorem run_readTable (sources : Text → Source) (directory : Text) (table : Table)
    (log : List Event) :
    (readTable sources directory table).run.run log =
      (((sources (tablePath directory table)).read (tablePath directory table)).mapError
        LoadError.unreadable, log) := by
  simp only [readTable]
  cases (sources (tablePath directory table)).read (tablePath directory table) with
  | ok text => rfl
  | error failure => rfl

theorem run_adapt {ε' : Type} (f : ε → ε') (x : Reporting ε α) (log : List Event) :
    (x.adapt f : Reporting ε' α).run.run log =
      ((x.run.run log).1.mapError f, (x.run.run log).2) :=
  rfl

theorem run_readDirectory (sources : Text → Source) (directory : Text) (log : List Event) :
    (readDirectory sources directory).run.run log =
      ((load sources directory).1, log ++ (load sources directory).2) := by
  have hi := run_readTable sources directory .instructions log
  have hr := run_readTable sources directory .registers log
  simp only [readDirectory, load]
  cases hreadi : (sources (tablePath directory .instructions)).read
      (tablePath directory .instructions) with
  | error failure =>
    rw [hreadi] at hi
    rw [run_bind_of_error hi, List.append_nil]
  | ok instructions =>
    rw [hreadi] at hi
    rw [run_bind_of_ok hi]
    cases hreadr : (sources (tablePath directory .registers)).read
        (tablePath directory .registers) with
    | error failure =>
      rw [hreadr] at hr
      rw [run_bind_of_error hr, List.append_nil]
    | ok registers =>
      rw [hreadr] at hr
      rw [run_bind_of_ok hr, run_adapt, run_readTables]

end Run
/-! ## The tables -/

section Tables
variable {instructions registers : Text} {found : MalformedRow} {manual : Manual}

theorem parse_eq_error_iff : parse instructions registers = .error found ↔
    entries .instructions InstructionEntry.ofRow instructions = .error found ∨
      (∃ is, entries .instructions InstructionEntry.ofRow instructions = .ok is) ∧
        entries .registers RegisterEntry.ofRow registers = .error found := by
  unfold parse
  cases entries .instructions InstructionEntry.ofRow instructions with
  | error found => simp [bind, Except.bind]
  | ok is =>
    cases entries .registers RegisterEntry.ofRow registers with
    | error found => simp [bind, Except.bind]
    | ok rs => simp [bind, Except.bind, pure, Except.pure]

/-- A malformed line of the first table is reported whatever the second one is like. -/
theorem firstMalformed_instructions (h : parse instructions registers = .error found)
    (hbad : ∃ line ∈ Text.splitLines instructions, Table.instructions.Malformed line) :
    FirstMalformed .instructions instructions found := by
  rcases parse_eq_error_iff.mp h with hi | ⟨⟨is, hi⟩, _⟩
  · exact firstMalformed_of_entries InstructionEntry.readBy_ofRow hi
  · obtain ⟨other, hother⟩ := (entries_fails_iff InstructionEntry.readBy_ofRow).mpr hbad
    rw [hi] at hother
    cases hother

theorem firstMalformed_registers (h : parse instructions registers = .error found)
    (hgood : ∀ line ∈ Text.splitLines instructions, ¬ Table.instructions.Malformed line) :
    FirstMalformed .registers registers found := by
  rcases parse_eq_error_iff.mp h with hi | ⟨_, hr⟩
  · obtain ⟨line, hmem, hbad⟩ :=
      (entries_fails_iff InstructionEntry.readBy_ofRow).mp ⟨found, hi⟩
    exact absurd hbad (hgood line hmem)
  · exact firstMalformed_of_entries RegisterEntry.readBy_ofRow hr

theorem parse_fails_iff : (∃ found, parse instructions registers = .error found) ↔
    (∃ line ∈ Text.splitLines instructions, Table.instructions.Malformed line) ∨
      ∃ line ∈ Text.splitLines registers, Table.registers.Malformed line := by
  rw [← entries_fails_iff InstructionEntry.readBy_ofRow,
    ← entries_fails_iff RegisterEntry.readBy_ofRow]
  simp only [parse_eq_error_iff]
  constructor
  · rintro ⟨found, hi | ⟨_, hr⟩⟩
    · exact Or.inl ⟨found, hi⟩
    · exact Or.inr ⟨found, hr⟩
  · intro h
    cases hi : entries .instructions InstructionEntry.ofRow instructions with
    | error found => exact ⟨found, Or.inl rfl⟩
    | ok is =>
      rcases h with ⟨found, h⟩ | ⟨found, hr⟩
      · rw [hi] at h
        cases h
      · exact ⟨found, Or.inr ⟨⟨is, rfl⟩, hr⟩⟩

/-- What the reports say of a manual that has been read. -/
theorem parseEvent_of_ok (h : parse instructions registers = .ok manual) :
    parseEvent (.ok manual) =
      .manualRead ((rows instructions).map rowName).dedup.length (rows registers).length := by
  obtain ⟨is, rs, his, hrs, rfl⟩ := parse_eq_ok_iff.mp h
  have hdescribed := (entries_eq_ok_iff.mp his).imp fun _ _ => InstructionEntry.describes_of_ofRow
  have hlength := (entries_eq_ok_iff.mp hrs).length_eq
  rw [parseEvent, size_instructions hdescribed]
  exact congrArg _ hlength.symm

end Tables

/-- What may come of reading two tables, and what is logged with it. -/
structure TablesReported (instructions registers : Text) (result : Except MalformedRow Manual)
    (logged : List Event) : Prop where
  fails_iff : (∃ found, result = .error found) ↔
    (∃ line ∈ Text.splitLines instructions, Table.instructions.Malformed line) ∨
      ∃ line ∈ Text.splitLines registers, Table.registers.Malformed line
  instructions_first : ∀ found, result = .error found →
    (∃ line ∈ Text.splitLines instructions, Table.instructions.Malformed line) →
    FirstMalformed .instructions instructions found
  registers_else : ∀ found, result = .error found →
    (∀ line ∈ Text.splitLines instructions, ¬ Table.instructions.Malformed line) →
    FirstMalformed .registers registers found
  failure_logged : ∀ found, result = .error found →
    ∃ event, logged = [event] ∧ event.level = .error ∧
      event = .malformedRow found.table.fileName found.row found.content
  success_logged : ∀ manual, result = .ok manual →
    logged = [.manualRead ((rows instructions).map rowName).dedup.length (rows registers).length]

theorem tablesReported (instructions registers : Text) :
    TablesReported instructions registers (parse instructions registers)
      [parseEvent (parse instructions registers)] where
  fails_iff := parse_fails_iff
  instructions_first _ h hbad := firstMalformed_instructions h hbad
  registers_else _ h hgood := firstMalformed_registers h hgood
  failure_logged found h := by
    rw [h]
    exact ⟨found.event, rfl, rfl, rfl⟩
  success_logged manual h := by
    rw [← parseEvent_of_ok h, h]

/-! ## The directory -/

/-- What may come of reading a directory with two tables, and what is logged with it. -/
structure DirectoryReported (sources : Text → Source) (directory : Text)
    (result : Except LoadError Manual) (logged : List Event) : Prop where
  instructions_path : tablePath directory .instructions = pathIn directory "instructions.csv"
  registers_path : tablePath directory .registers = pathIn directory "registers.csv"
  instructions_unreadable :
    (∀ text, sources (tablePath directory .instructions) ≠ Source.ofText text) →
    ∃ cause, (sources (tablePath directory .instructions)).text = .error cause ∧
      result = .error (.unreadable ⟨tablePath directory .instructions, cause⟩) ∧ logged = []
  registers_unreadable : ∀ instructions,
    sources (tablePath directory .instructions) = Source.ofText instructions →
    (∀ text, sources (tablePath directory .registers) ≠ Source.ofText text) →
    ∃ cause, (sources (tablePath directory .registers)).text = .error cause ∧
      result = .error (.unreadable ⟨tablePath directory .registers, cause⟩) ∧ logged = []
  readable : ∀ instructions registers,
    sources (tablePath directory .instructions) = Source.ofText instructions →
    sources (tablePath directory .registers) = Source.ofText registers →
    result = (parse instructions registers).mapError LoadError.malformed ∧
      TablesReported instructions registers (parse instructions registers) logged

theorem directoryReported (sources : Text → Source) (directory : Text) :
    DirectoryReported sources directory (load sources directory).1 (load sources directory).2 where
  instructions_path := rfl
  registers_path := rfl
  instructions_unreadable h := by
    obtain ⟨cause, hcause⟩ := Source.exists_cause h
    refine ⟨cause, hcause, ?_, ?_⟩
    · simp only [load, Source.read, hcause]
    · simp only [load, Source.read, hcause]
  registers_unreadable instructions hi h := by
    obtain ⟨cause, hcause⟩ := Source.exists_cause h
    refine ⟨cause, hcause, ?_, ?_⟩
    · simp only [load, Source.read, hi, Source.text_ofText, hcause]
    · simp only [load, Source.read, hi, Source.text_ofText, hcause]
  readable instructions registers hi hr := by
    simp only [load, Source.read, hi, hr, Source.text_ofText]
    exact ⟨trivial, tablesReported instructions registers⟩

/-- Reading two tables, and a directory, logs what the result says and adds nothing else to the log. -/
theorem reading_reported :
    (∀ instructions registers log,
      ∃ logged, (readTables instructions registers).run.run log =
          (parse instructions registers, log ++ logged) ∧
        TablesReported instructions registers (parse instructions registers) logged) ∧
      ∀ sources directory log,
        ∃ logged, (readDirectory sources directory).run.run log =
            ((load sources directory).1, log ++ logged) ∧ logged = (load sources directory).2 ∧
          DirectoryReported sources directory (load sources directory).1 logged := by
  refine ⟨?_, ?_⟩
  · intro instructions registers log
    exact ⟨_, run_readTables instructions registers log, tablesReported instructions registers⟩
  · intro sources directory log
    exact ⟨_, run_readDirectory sources directory log, rfl, directoryReported sources directory⟩

/-- Both tables are malformed and only the first bad line of the first table is reported; but where the
second table is missing, that is reported and no line is. -/
theorem reading_reported_both_malformed :
    let instructions : Text := "ADD;A;first;\n\n \nSUB"
    let found : MalformedRow := ⟨.instructions, 2, " ", ⟨4, 1⟩⟩
    let sources := (Source.Tree.ofEntries [("m/instructions.csv", Source.ofText instructions)]).find
    (parse instructions "R0" = .error found ∧ FirstMalformed .instructions instructions found ∧
        (readTables instructions "R0").run.run [] =
          (.error found, [.malformedRow "instructions.csv" 2 " "])) ∧
      ∃ cause, (readDirectory sources "m").run.run [] =
          (.error (.unreadable ⟨"m/registers.csv", cause⟩), []) ∧
        cause.message = "No such file or directory (os error 2)" := by
  intro instructions found sources
  have hparse : parse instructions "R0" = .error found :=
    parse_eq_error_iff.mpr (Or.inl (by decide +kernel))
  have hbad : ∃ line ∈ Text.splitLines instructions, Table.instructions.Malformed line := by
    decide +kernel
  have hfirst : sources (tablePath "m" .instructions) = Source.ofText instructions := rfl
  have hsecond : sources (tablePath "m" .registers) = .missing := rfl
  have hmissing (text : Text) : sources (tablePath "m" .registers) ≠ Source.ofText text := by
    rw [hsecond]
    intro h
    cases h
  obtain ⟨tables, directories⟩ := reading_reported
  refine ⟨⟨hparse, ?_, ?_⟩, ?_⟩
  · obtain ⟨_, _, reported⟩ := tables instructions "R0" []
    exact reported.instructions_first found hparse hbad
  · obtain ⟨_, hrun, reported⟩ := tables instructions "R0" []
    obtain ⟨_, hlogged, _, hevent⟩ := reported.failure_logged found hparse
    rw [hrun, hparse, hlogged, hevent]
    rfl
  · obtain ⟨_, hrun, _, reported⟩ := directories sources "m" []
    obtain ⟨cause, hcause, hresult, hlogged⟩ :=
      reported.registers_unreadable instructions hfirst hmissing
    rw [hsecond] at hcause
    refine ⟨cause, ?_, ?_⟩
    · rw [hrun, hresult, hlogged]
      rfl
    · cases hcause
      decide

end AsmLens.Manual
