import AsmLens.Proofs.Line.Names
import AsmLens.Proofs.Text.NameTable
import Mathlib.Data.List.Induction

/-!
# What a document knows of its lines

A document keeps its lines in a growing array and lets every name lead to a position in it. The
plain account of the same thing has no positions: the definition of a name is the last line that
defines it. `Indexes` ties the two together, for labels and variables alike, and every line that is
put behind the others keeps it.

A build that is cancelled is a build of fewer texts: those that were classified before the flag was
seen. So whatever holds of every build without a flag holds of every document that there is.

Results:
* `Indexes.push`, `Indexes.buildFrom`: one more line, and a whole run, keep the positions right.
* `defining?_eq_some_iff`, `definitions_increasing`: looking up a name, and listing all of them.
* `exists_take_of_build`: every document is built from the first so many texts, without a flag.
* `build_publishes`: the document of the texts, cancelled or not.
-/
namespace AsmLens

/-! ## The last definition of a name -/

/-- The line stands at the position and defines the name, and no later line does. -/
structure LastAt (lines : List Line) (kind : NameKind) (name : Text) (position : Nat)
    (line : Line) : Prop where
  here : lines[position]? = some line
  defines : line.Defines kind name
  last : ∀ later l, position < later → lines[later]? = some l → ¬ l.Defines kind name

section LastAt
variable {lines : List Line} {kind : NameKind} {name : Text} {p q : Nat} {line l : Line}

theorem LastAt.lt_length (h : LastAt lines kind name p line) : p < lines.length :=
  (List.getElem?_eq_some_iff.mp h.here).1

theorem lastAt_iff_drop : LastAt lines kind name p line ↔
    lines[p]? = some line ∧ line.Defines kind name ∧
      ∀ l ∈ lines.drop (p + 1), ¬ l.Defines kind name := by
  constructor
  · intro h
    refine ⟨h.here, h.defines, ?_⟩
    intro l hl
    obtain ⟨k, hk⟩ := List.mem_iff_getElem?.mp hl
    rw [List.getElem?_drop] at hk
    exact h.last _ l (by omega) hk
  · rintro ⟨here, defines, last⟩
    refine ⟨here, defines, ?_⟩
    intro later l hlater hl
    obtain ⟨k, rfl⟩ := Nat.exists_eq_add_of_lt hlater
    refine last l (List.mem_iff_getElem?.mpr ⟨k, ?_⟩)
    rw [List.getElem?_drop, ← hl]
    congr 1
    omega

instance : Decidable (LastAt lines kind name p line) := decidable_of_iff _ lastAt_iff_drop.symm

/-- One more line takes over the name that it defines and leaves all others alone. -/
theorem lastAt_concat_iff (line : Line) :
    LastAt (lines ++ [line]) kind name p l ↔
      (line.Defines kind name ∧ p = lines.length ∧ l = line) ∨
        (¬ line.Defines kind name ∧ LastAt lines kind name p l) := by
  have hnew : (lines ++ [line])[lines.length]? = some line := List.getElem?_concat_length
  constructor
  · intro h
    have hp := h.lt_length
    rw [List.length_append, List.length_singleton] at hp
    rcases Nat.lt_or_eq_of_le (Nat.le_of_lt_succ hp) with hlt | rfl
    · refine Or.inr ⟨h.last _ _ hlt hnew, ?_, h.defines, ?_⟩
      · rw [← List.getElem?_append_left hlt]
        exact h.here
      · intro later l' hlater hl'
        refine h.last later l' hlater ?_
        rw [List.getElem?_append_left (List.getElem?_eq_some_iff.mp hl').1]
        exact hl'
    · have e := h.here
      rw [hnew] at e
      cases e
      exact Or.inl ⟨h.defines, rfl, rfl⟩
  · rintro (⟨hd, rfl, rfl⟩ | ⟨hd, h⟩)
    · refine ⟨hnew, hd, ?_⟩
      intro later l' hlater hl'
      have := (List.getElem?_eq_some_iff.mp hl').1
      rw [List.length_append, List.length_singleton] at this
      omega
    · refine ⟨?_, h.defines, ?_⟩
      · rw [List.getElem?_append_left h.lt_length]
        exact h.here
      · intro later l' hlater hl'
        by_cases hlt : later < lines.length
        · rw [List.getElem?_append_left hlt] at hl'
          exact h.last later l' hlater hl'
        · have := (List.getElem?_eq_some_iff.mp hl').1
          rw [List.length_append, List.length_singleton] at this
          obtain rfl : later = lines.length := by omega
          rw [hnew] at hl'
          cases hl'
          exact hd

theorem exists_lastAt_iff :
    (∃ p l, LastAt lines kind name p l) ↔ ∃ l ∈ lines, l.Defines kind name := by
  constructor
  · rintro ⟨p, l, h⟩
    exact ⟨l, List.mem_of_getElem? h.here, h.defines⟩
  · rintro ⟨l, hmem, hd⟩
    -- the last line either takes the name over or leaves it where it was
    induction lines using List.reverseRecOn with
    | nil => cases hmem
    | append_singleton lines line ih =>
      by_cases hline : line.Defines kind name
      · exact ⟨lines.length, line, (lastAt_concat_iff line).mpr (Or.inl ⟨hline, rfl, rfl⟩)⟩
      · rcases List.mem_append.mp hmem with hmem | hmem
        · obtain ⟨p, l', h⟩ := ih hmem
          exact ⟨p, l', (lastAt_concat_iff line).mpr (Or.inr ⟨hline, h⟩)⟩
        · rw [List.mem_singleton.mp hmem] at hd
          exact absurd hd hline

end LastAt

namespace Document

/-! ## Positions stay right -/

/-- The document holds the lines, and the names lead to where they are defined last. -/
structure Indexes (document : Document) (lines : List Line) : Prop where
  lines_eq : document.lines = lines
  leads : ∀ kind name position, (document.positions kind)[name]? = some position ↔
    ∃ line, LastAt lines kind name position line

section Runs
variable {document : Document} {lines : List Line}

theorem indexes_empty : empty.Indexes [] := by
  refine ⟨rfl, ?_⟩
  intro kind name position
  have hnone : (empty.positions kind)[name]? = none := by
    cases kind <;> exact Std.TreeMap.getElem?_emptyc
  rw [hnone]
  constructor
  · intro h; cases h
  · rintro ⟨line, h⟩
    cases h.here

theorem Indexes.size_eq (h : document.Indexes lines) : document.rows.size = lines.length := by
  rw [← h.lines_eq, Document.lines, Array.length_toList]

theorem Indexes.push (h : document.Indexes lines) (line : Line) :
    (document.push line).1.Indexes (lines ++ [line]) := by
  refine ⟨?_, ?_⟩
  · rw [Document.lines, rows_push, Array.toList_push, ← h.lines_eq]
    rfl
  · intro kind name position
    rw [getElem?_positions_push]
    simp only [lastAt_concat_iff]
    by_cases hd : line.Defines kind name
    · rw [if_pos (Line.definition?_eq_some_iff.mpr hd), h.size_eq]
      simp [hd, eq_comm]
    · rw [if_neg fun hd' => hd (Line.definition?_eq_some_iff.mp hd'), h.leads]
      simp [hd]

theorem Indexes.buildFrom (h : document.Indexes lines) (texts : List NumberedText) :
    (buildFrom none document texts).1.Indexes (lines ++ texts.map NumberedText.classify) := by
  induction texts generalizing document lines with
  | nil => simpa [Document.buildFrom] using h
  | cons text rest ih =>
    have := ih (h.push text.classify)
    rw [List.append_assoc, List.singleton_append] at this
    exact this

theorem indexes_build (texts : List NumberedText) :
    (build texts none).1.Indexes (texts.map NumberedText.classify) :=
  indexes_empty.buildFrom texts

/-! ## Looking up and listing -/

theorem Indexes.defining?_eq_some_iff (h : document.Indexes lines) {kind : NameKind} {name : Text}
    {line : Line} :
    document.defining? kind name = some line ↔ ∃ p, LastAt lines kind name p line := by
  have hrow : ∀ p : Nat, document.rows[p]? = lines[p]? := fun p => by
    rw [← h.lines_eq, Document.lines, Array.getElem?_toList]
  constructor
  · intro hd
    obtain ⟨p, hp, hl⟩ := Option.bind_eq_some_iff.mp hd
    obtain ⟨l, hlast⟩ := (h.leads kind name p).mp hp
    rw [hrow, hlast.here] at hl
    cases hl
    exact ⟨p, hlast⟩
  · rintro ⟨p, hlast⟩
    refine Option.bind_eq_some_iff.mpr ⟨p, (h.leads kind name p).mpr ⟨line, hlast⟩, ?_⟩
    rw [hrow]
    exact hlast.here

theorem Indexes.isSome_defining?_iff (h : document.Indexes lines) {kind : NameKind} {name : Text} :
    (document.defining? kind name).isSome = true ↔ ∃ l ∈ lines, l.Defines kind name := by
  rw [Option.isSome_iff_exists, ← exists_lastAt_iff]
  simp only [h.defining?_eq_some_iff]
  exact exists_comm

end Runs

theorem definitions_increasing (document : Document) (kind : NameKind) :
    ((document.definitions kind).toList.map Prod.fst).Pairwise (· < ·) :=
  NameTable.keys_increasing (document.definitions kind)

theorem mem_definitions_iff (document : Document) {kind : NameKind} {name : Text} {line : Line} :
    (name, line) ∈ (document.definitions kind).toList ↔
      document.defining? kind name = some line := by
  rw [Std.TreeMap.mem_toList_iff_getElem?_eq_some, getElem?_definitions]

/-! ## Cancelled builds -/

theorem size_push_add (document : Document) (line : Line) (n : Nat) :
    (document.push line).1.rows.size + n = document.rows.size + (n + 1) := by
  rw [rows_push, Array.size_push, Nat.add_assoc, Nat.add_comm 1]

/-- A flag that is never seen raised makes no difference. -/
theorem buildFrom_of_lowered {flag : Option CancelFlag} {document : Document}
    {texts : List NumberedText}
    (h : ∀ n < texts.length, isCancelled flag (document.rows.size + n) = false) :
    buildFrom flag document texts = buildFrom none document texts := by
  induction texts generalizing document with
  | nil => rfl
  | cons text rest ih =>
    have hnow : isCancelled flag document.rows.size = false := h 0 (Nat.succ_pos _)
    have hrest : buildFrom flag (document.push text.classify).1 rest =
        buildFrom none (document.push text.classify).1 rest := ih fun n hn => by
      rw [size_push_add]
      exact h (n + 1) (Nat.succ_lt_succ hn)
    simp only [buildFrom, hnow, hrest]
    rfl

/-- A flag that is first seen raised with the text at `n` in hand leaves the texts before it. -/
theorem buildFrom_of_raised {flag : Option CancelFlag} {document : Document}
    {texts : List NumberedText} {n : Nat} (hn : n < texts.length)
    (raised : isCancelled flag (document.rows.size + n) = true)
    (h : ∀ m < n, isCancelled flag (document.rows.size + m) = false) :
    (buildFrom flag document texts).1 = (buildFrom none document (texts.take n)).1 := by
  induction texts generalizing document n with
  | nil => cases hn
  | cons text rest ih =>
    cases n with
    | zero =>
      rw [Nat.add_zero] at raised
      simp only [buildFrom, raised, if_true, List.take_zero]
    | succ n =>
      have hnow : isCancelled flag document.rows.size = false := h 0 (Nat.succ_pos _)
      have hrest : (buildFrom flag (document.push text.classify).1 rest).1 =
          (buildFrom none (document.push text.classify).1 (rest.take n)).1 :=
        ih (Nat.lt_of_succ_lt_succ hn) (by rw [size_push_add]; exact raised)
          (fun m hm => by rw [size_push_add]; exact h (m + 1) (Nat.succ_lt_succ hm))
      simp only [buildFrom, hnow, List.take_succ_cons, Bool.false_eq_true, if_false, hrest]
      rfl

theorem exists_take_of_buildFrom (flag : Option CancelFlag) (document : Document)
    (texts : List NumberedText) :
    ∃ n, (buildFrom flag document texts).1 = (buildFrom none document (texts.take n)).1 := by
  induction texts generalizing document with
  | nil => exact ⟨0, rfl⟩
  | cons text rest ih =>
    by_cases raised : isCancelled flag document.rows.size = true
    · refine ⟨0, ?_⟩
      simp only [buildFrom, raised, if_true, List.take_zero]
    · obtain ⟨n, hn⟩ := ih (document.push text.classify).1
      refine ⟨n + 1, ?_⟩
      simp only [buildFrom, raised, List.take_succ_cons, Bool.false_eq_true, if_false, hn]
      rfl

theorem exists_take_of_build (texts : List NumberedText) (flag : Option CancelFlag) :
    ∃ n, (build texts flag).1 = (build (texts.take n) none).1 :=
  exists_take_of_buildFrom flag empty texts

/-- Every document, cancelled or not, indexes its own lines, and these are classified texts. -/
theorem indexes_lines (texts : List NumberedText) (flag : Option CancelFlag) :
    (build texts flag).1.Indexes (build texts flag).1.lines ∧
      ∀ line ∈ (build texts flag).1.lines, ∃ raw number, line = Line.ofText raw number := by
  obtain ⟨n, hn⟩ := exists_take_of_build texts flag
  have h := indexes_build (texts.take n)
  rw [hn, h.lines_eq]
  refine ⟨h, ?_⟩
  intro line hline
  obtain ⟨t, -, rfl⟩ := List.mem_map.mp hline
  exact ⟨t.text, t.number, rfl⟩

/-! ## What a document publishes -/

/-- The document shows the lines, and for every name of either kind the last line that defines it,
both when it is asked for the name and in the ascending list of all names. -/
structure Publishes (document : Document) (lines : List Line) : Prop where
  lines_eq : document.lines = lines
  isSome_iff : ∀ kind name, (document.defining? kind name).isSome = true ↔
    ∃ line ∈ lines, line.Defines kind name
  last_iff : ∀ kind name line, document.defining? kind name = some line ↔
    ∃ position, LastAt lines kind name position line
  increasing : ∀ kind, ((document.definitions kind).toList.map Prod.fst).Pairwise (· < ·)
  listed_iff : ∀ kind name line, (name, line) ∈ (document.definitions kind).toList ↔
    document.defining? kind name = some line

theorem Indexes.publishes {document : Document} {lines : List Line}
    (h : document.Indexes lines) : document.Publishes lines where
  lines_eq := h.lines_eq
  isSome_iff _ _ := h.isSome_defining?_iff
  last_iff _ _ _ := h.defining?_eq_some_iff
  increasing := definitions_increasing document
  listed_iff _ _ _ := mem_definitions_iff document

/-- Without a flag, or with one that is never raised, the document of the texts publishes all of
them. If the flag is raised while the text at `n` is fetched, the document is that of the texts
before it. -/
theorem build_publishes (texts : List NumberedText) (flag : Option CancelFlag) :
    ((∀ n < texts.length, isCancelled flag n = false) →
        (build texts flag).1.Publishes (texts.map NumberedText.classify)) ∧
      ∀ n < texts.length, isCancelled flag n = true → (∀ m < n, isCancelled flag m = false) →
        (build texts flag).1 = (build (texts.take n) none).1 ∧
          (build texts flag).1.Publishes ((texts.take n).map NumberedText.classify) := by
  have hstart : ∀ n, empty.rows.size + n = n := Nat.zero_add
  constructor
  · intro h
    rw [build, buildFrom_of_lowered fun n hn => by rw [hstart]; exact h n hn]
    exact (indexes_build texts).publishes
  · intro n hn raised h
    have e : (build texts flag).1 = (build (texts.take n) none).1 :=
      buildFrom_of_raised hn (by rw [hstart]; exact raised)
        (fun m hm => by rw [hstart]; exact h m hm)
    rw [e]
    exact ⟨rfl, (indexes_build _).publishes⟩

/-- A label that is declared twice beside a variable of the same name. The flag that is raised when
the last line is fetched costs that line, and the label leads to the second declaration. -/
theorem build_publishes_redefined :
    let texts : List NumberedText := [⟨"A: NOP", 0⟩, ⟨"A EQU 1", 1⟩, ⟨"A: INC R1", 2⟩, ⟨"B: RET", 3⟩]
    let raised : CancelFlag := fun n => 3 ≤ n
    ((∀ n < texts.length, isCancelled none n = false) ∧
        ((build texts none).1.defining? .label "B").isSome = true) ∧
      (isCancelled raised 3 = true ∧ (∀ m < 3, isCancelled raised m = false)) ∧
        (build texts raised).1.labelLine? "A" = some (Line.ofText "A: INC R1" 2) ∧
        ((build texts raised).1.defining? .label "B").isSome = false := by
  intro texts raised
  have hnone : ∀ n < texts.length, isCancelled none n = false := fun _ _ => rfl
  have hraised : isCancelled raised 3 = true := rfl
  have hbefore : ∀ m < 3, isCancelled raised m = false := by decide
  have whole := (build_publishes texts none).1 hnone
  obtain ⟨-, cut⟩ := (build_publishes texts raised).2 3 (by decide) hraised hbefore
  refine ⟨⟨hnone, ?_⟩, ⟨hraised, hbefore⟩, ?_, ?_⟩
  · rw [whole.isSome_iff]
    decide
  · rw [labelLine?, cut.last_iff]
    exact ⟨2, by decide⟩
  · rw [Bool.eq_false_iff, ne_eq, cut.isSome_iff]
    decide

end Document
end AsmLens
