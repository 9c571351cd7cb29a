import AsmLens.Proofs.Document.Range
import Mathlib.Data.Finset.Card

/-!
# What a build reports

A build reports every definition that it overwrites, when it overwrites it. The document itself shows only
the last definition of a name, so a report that names the wrong line, or that is missing, leaves no trace in
it. `redefinitions` says what has to be reported, by the lines alone: for each line, in order, that defines
a name, the last of the lines before it that defines the name too. A build whose flag is raised reports
that as well, once and at the end.

Results:
* `Indexes.push_reports`: what one more line reports.
* `Indexes.buildFrom_reports`: what a run reports, wherever its flag stops it.
* `length_redefinitions`: there are as many reports as definitions that do not count.
* `build_reports`: the log of a build.
-/
namespace AsmLens

/-! ## What has to be reported -/

/-- The report of the definition that the line overwrites behind the lines. -/
def Line.redefines? (lines : List Line) (line : Line) : Option Event := do
  let (kind, name) ← line.definition?
  let previous ← lastDefining? lines kind name
  return .redefined kind name line.number previous.number

/-- The reports of all the lines, position by position. -/
def redefinitions (lines : List Line) : List Event :=
  (List.range lines.length).filterMap fun position => do
    let line ← lines[position]?
    line.redefines? (lines.take position)

/-- The name of the kind that the line defines. -/
def Line.definedName? (line : Line) (kind : NameKind) : Option Text :=
  line.definition?.bind fun definition => if definition.1 = kind then some definition.2 else none

/-- The names of the kind that the lines define, as often as they define them. -/
def definedNames (lines : List Line) (kind : NameKind) : List Text :=
  lines.filterMap fun line => line.definedName? kind

/-- Whether the event reports a definition of a name of the kind. -/
def Event.isRedefinition (kind : NameKind) : Event → Bool
  | .redefined other .. => other = kind
  | _ => false

section Redefinitions
variable {lines : List Line} {line : Line} {kind : NameKind} {name : Text} {event : Event}

theorem Line.definedName?_eq_some_iff : line.definedName? kind = some name ↔ line.Defines kind name := by
  rw [← definition?_eq_some_iff, definedName?]
  cases line.definition? with
  | none => simp
  | some definition =>
    obtain ⟨other, text⟩ := definition
    by_cases hkind : other = kind <;> simp [hkind]

theorem Line.redefines?_eq_some_iff : line.redefines? lines = some event ↔
    ∃ kind name previous, line.Defines kind name ∧ lastDefining? lines kind name = some previous ∧
      event = .redefined kind name line.number previous.number := by
  simp only [← definition?_eq_some_iff, redefines?, Option.bind_eq_bind, Option.bind_eq_some_iff,
    Prod.exists, pure, Option.some.injEq]
  constructor
  · intro h
    obtain ⟨kind, name, hd, previous, hp, rfl⟩ := h
    exact ⟨kind, name, previous, hd, hp, rfl⟩
  · intro h
    obtain ⟨kind, name, previous, hd, hp, rfl⟩ := h
    exact ⟨kind, name, hd, previous, hp, rfl⟩

theorem Line.redefines?_of_defines (h : line.Defines kind name) :
    line.redefines? lines = (lastDefining? lines kind name).map fun previous =>
      .redefined kind name line.number previous.number := by
  simp only [redefines?, definition?_eq_some_iff.mpr h, Option.bind_eq_bind, Option.bind_some]
  cases lastDefining? lines kind name <;> rfl

theorem redefinitions_concat (lines : List Line) (line : Line) :
    redefinitions (lines ++ [line]) = redefinitions lines ++ (line.redefines? lines).toList := by
  have hbefore : ∀ position ∈ List.range lines.length,
      ((lines ++ [line])[position]?.bind fun l => l.redefines? ((lines ++ [line]).take position)) =
        lines[position]?.bind fun l => l.redefines? (lines.take position) := by
    intro position hposition
    have hlt := List.mem_range.mp hposition
    rw [List.getElem?_append_left hlt, List.take_append_of_le_length (Nat.le_of_lt hlt)]
  simp only [redefinitions, Option.bind_eq_bind, List.length_append, List.length_singleton,
    List.range_succ, List.filterMap_append, List.filterMap_congr hbefore]
  cases h : line.redefines? lines <;> simp [h]

theorem mem_redefinitions (h : event ∈ redefinitions lines) :
    ∃ kind name number previous, event = .redefined kind name number previous := by
  obtain ⟨position, -, hevent⟩ := List.mem_filterMap.mp h
  obtain ⟨line, -, hline⟩ := Option.bind_eq_some_iff.mp hevent
  obtain ⟨kind, name, previous, -, -, rfl⟩ := Line.redefines?_eq_some_iff.mp hline
  exact ⟨kind, name, _, _, rfl⟩

theorem definedNames_concat (lines : List Line) (line : Line) (kind : NameKind) :
    definedNames (lines ++ [line]) kind =
      definedNames lines kind ++ (line.definedName? kind).toList := by
  rw [definedNames, List.filterMap_append, definedNames]
  cases h : line.definedName? kind <;> simp [h]

theorem isSome_lastDefining?_iff :
    (lastDefining? lines kind name).isSome = true ↔ name ∈ definedNames lines kind := by
  simp [lastDefining?, definedNames, Line.definedName?_eq_some_iff]

/-- A line that defines no name of the kind reports none; a report about another kind is not counted. -/
theorem filter_redefines?_of_not_defined (h : line.definedName? kind = none) :
    (line.redefines? lines).toList.filter (Event.isRedefinition kind) = [] := by
  rw [List.filter_eq_nil_iff]
  intro event hevent
  obtain ⟨other, name, previous, hd, -, rfl⟩ :=
    Line.redefines?_eq_some_iff.mp (Option.mem_toList.mp hevent)
  have hne : other ≠ kind := by
    intro e
    rw [e, ← Line.definedName?_eq_some_iff, h] at hd
    cases hd
  simp [Event.isRedefinition, hne]

/-- A line that defines a name reports it if it is defined already. -/
theorem length_filter_redefines? (h : line.definedName? kind = some name) :
    ((line.redefines? lines).toList.filter (Event.isRedefinition kind)).length =
      if name ∈ definedNames lines kind then 1 else 0 := by
  rw [Line.redefines?_of_defines (Line.definedName?_eq_some_iff.mp h)]
  simp only [← isSome_lastDefining?_iff]
  cases lastDefining? lines kind name <;> simp [Event.isRedefinition]

/-- The reports about a kind make up the difference between how often names of the kind are defined and
how many such names there are. -/
theorem length_redefinitions (lines : List Line) (kind : NameKind) :
    ((redefinitions lines).filter (Event.isRedefinition kind)).length +
      (definedNames lines kind).toFinset.card = (definedNames lines kind).length := by
  induction lines using List.reverseRecOn with
  | nil => rfl
  | append_singleton lines line ih =>
    rw [redefinitions_concat, definedNames_concat, List.filter_append, List.length_append,
      List.length_append, List.toFinset_append]
    cases hname : line.definedName? kind with
    | none => simpa [filter_redefines?_of_not_defined hname] using ih
    | some name =>
      rw [length_filter_redefines? hname, Option.toList_some, Finset.union_comm]
      by_cases hold : name ∈ definedNames lines kind
      · -- one more report, and no new name
        simp [hold]
        omega
      · -- a new name, and no report
        simp [hold]
        omega

end Redefinitions

/-! ## What a build reports -/

namespace Document

/-- Of the texts that follow so many classified ones, `n` are classified: the flag is lowered when each of
them is fetched, and raised when the next one is, if there is a next one. -/
structure StopsAfter (flag : Option CancelFlag) (classified : Nat) (texts : List NumberedText)
    (n : Nat) : Prop where
  le : n ≤ texts.length
  lowered : ∀ m < n, isCancelled flag (classified + m) = false
  raised : n < texts.length → isCancelled flag (classified + n) = true

variable {document : Document} {lines : List Line} {flag : Option CancelFlag}

theorem stopsAfter_zero {classified : Nat} {texts : List NumberedText}
    (h : isCancelled flag classified = true) : StopsAfter flag classified texts 0 where
  le := Nat.zero_le _
  lowered m hm := absurd hm (Nat.not_lt_zero m)
  raised _ := h

theorem StopsAfter.cons {classified n : Nat} {text : NumberedText} {rest : List NumberedText}
    (now : isCancelled flag classified = false) (h : StopsAfter flag (classified + 1) rest n) :
    StopsAfter flag classified (text :: rest) (n + 1) where
  le := Nat.succ_le_succ h.le
  lowered m hm := by
    cases m with
    | zero => exact now
    | succ m =>
      rw [Nat.add_comm m, ← Nat.add_assoc]
      exact h.lowered m (Nat.lt_of_succ_lt_succ hm)
  raised hn := by
    rw [Nat.add_comm n, ← Nat.add_assoc]
    exact h.raised (Nat.lt_of_succ_lt_succ hn)

/-- A flag stops a run at one place. -/
theorem StopsAfter.unique {classified m n : Nat} {texts : List NumberedText}
    (h : StopsAfter flag classified texts m) (h' : StopsAfter flag classified texts n) : m = n := by
  have no_later : ∀ {m n}, StopsAfter flag classified texts m → StopsAfter flag classified texts n →
      ¬ m < n := by
    intro m n h h' hlt
    have hraised := h.raised (Nat.lt_of_lt_of_le hlt h'.le)
    rw [h'.lowered m hlt] at hraised
    cases hraised
  have hle := no_later h h'
  have hge := no_later h' h
  omega

/-- When a line takes a name over, the name still leads to its last definition, and the line stands in its
place behind the others already. -/
theorem Indexes.superseding?_eq (h : document.Indexes lines) (line : Line) (kind : NameKind)
    (name : Text) :
    superseding? { document with rows := document.rows.push line } kind name document.rows.size =
      (lastDefining? lines kind name).map fun previous =>
        .redefined kind name line.number previous.number := by
  have hpositions : positions { document with rows := document.rows.push line } kind =
      document.positions kind := by cases kind <;> rfl
  simp only [superseding?, hpositions, Array.getElem?_push_size, Option.bind_eq_bind,
    Option.bind_some]
  cases hp : (document.positions kind)[name]? with
  | none =>
    have hnone : lastDefining? lines kind name = none := by
      rw [← h.defining?_eq, defining?, hp, Option.bind_eq_bind, Option.bind_none]
    rw [hnone, Option.bind_none, Option.map_none]
  | some position =>
    obtain ⟨previous, hlast⟩ := (h.leads kind name position).mp hp
    have hlt : position < document.rows.size := h.size_eq ▸ hlast.lt_length
    have hrow : document.rows[position]? = some previous := by
      rw [← Array.getElem?_toList, ← hlast.here, ← h.lines_eq, Document.lines]
    rw [lastDefining?_eq_some_iff.mpr ⟨position, hlast⟩, Option.bind_some,
      Array.getElem?_push_lt hlt, ← Array.getElem?_eq_getElem hlt, hrow]
    rfl

theorem Indexes.push_reports (h : document.Indexes lines) (line : Line) :
    (document.push line).2 = (line.redefines? lines).toList := by
  unfold Document.push
  cases hd : line.definition? with
  | none => simp [Line.redefines?, hd]
  | some definition =>
    obtain ⟨kind, name⟩ := definition
    rw [Line.redefines?_of_defines (Line.definition?_eq_some_iff.mp hd)]
    exact congrArg Option.toList (h.superseding?_eq line kind name)

/-- A run reports the redefinitions among its lines and, at its end, if the flag stops it, how many lines
there are. The reports of the earlier lines are those of earlier runs. -/
theorem Indexes.buildFrom_reports (h : document.Indexes lines) (flag : Option CancelFlag)
    (texts : List NumberedText) :
    ∃ n, StopsAfter flag lines.length texts n ∧
      (Document.buildFrom flag document texts).1.lines =
        lines ++ (texts.take n).map NumberedText.classify ∧
      redefinitions lines ++ (Document.buildFrom flag document texts).2 =
        redefinitions (lines ++ (texts.take n).map NumberedText.classify) ++
          if n < texts.length then [.cancelled (lines.length + n)] else [] := by
  induction texts generalizing document lines with
  | nil =>
    refine ⟨0, ⟨Nat.le_refl _, fun m hm => absurd hm (Nat.not_lt_zero m), ?_⟩, ?_, ?_⟩
    · intro hlt
      exact absurd hlt (Nat.lt_irrefl 0)
    · simpa [Document.buildFrom] using h.lines_eq
    · simp [Document.buildFrom]
  | cons text rest ih =>
    rw [Document.buildFrom, h.size_eq]
    cases hnow : isCancelled flag lines.length with
    | true =>
      refine ⟨0, stopsAfter_zero hnow, ?_, ?_⟩
      · simpa using h.lines_eq
      · simp
    | false =>
      obtain ⟨n, hstops, hlines, hreports⟩ := ih (h.push text.classify)
      rw [List.length_append, List.length_singleton] at hstops hreports
      refine ⟨n + 1, hstops.cons hnow, ?_, ?_⟩
      · simpa [List.append_assoc] using hlines
      · rw [redefinitions_concat, ← h.push_reports, List.append_assoc, List.append_assoc] at hreports
        have hlength : lines.length + (n + 1) = lines.length + 1 + n := by omega
        simp only [Bool.false_eq_true, if_false, List.take_succ_cons, List.map_cons, List.length_cons,
          Nat.add_lt_add_iff_right, hlength]
        exact hreports

/-- For every sequence of texts and every flag: the run classifies the texts before the first one that is
fetched with the flag raised, and its log holds, for each of these in order that defines a name which an
earlier one of the same kind defines, the name and the numbers of the two lines; then, if the flag has
stopped the run, how many lines were classified; and nothing else. All of it is for debugging. So about each
kind there are as many reports as definitions less the number of different names. -/
theorem build_reports (texts : List NumberedText) (flag : Option CancelFlag) :
    let document := (build texts flag).1
    let events := (build texts flag).2
    (∃ n, StopsAfter flag 0 texts n ∧
      document.lines = (texts.take n).map NumberedText.classify ∧
      events = redefinitions document.lines ++ if n < texts.length then [.cancelled n] else []) ∧
      (∀ event ∈ events, event.level = .debug) ∧
      ∀ kind, (events.filter (Event.isRedefinition kind)).length +
        (definedNames document.lines kind).toFinset.card = (definedNames document.lines kind).length := by
  intro document events
  obtain ⟨n, hstops, hlines, hreports⟩ := indexes_empty.buildFrom_reports flag texts
  have hevents : events = redefinitions document.lines ++
      if n < texts.length then [.cancelled n] else [] := by
    have hnil : redefinitions [] = [] := rfl
    rw [hnil, List.nil_append, List.length_nil, Nat.zero_add, ← hlines] at hreports
    exact hreports
  refine ⟨⟨n, hstops, hlines, hevents⟩, ?_, ?_⟩
  · intro event hevent
    rw [hevents] at hevent
    rcases List.mem_append.mp hevent with h | h
    · obtain ⟨kind, name, number, previous, rfl⟩ := mem_redefinitions h
      rfl
    · split at h
      · rw [List.mem_singleton.mp h]
        rfl
      · cases h
  · intro kind
    rw [hevents, List.filter_append]
    have hcancelled : (if n < texts.length then [Event.cancelled n] else []).filter
        (Event.isRedefinition kind) = [] := by
      split <;> rfl
    rw [hcancelled, List.append_nil]
    exact length_redefinitions document.lines kind

/-- A label that is declared three times around a variable of the same name, and a flag that is raised
after five lines. The variable overwrites nothing, and the second report names the second line. -/
theorem build_reports_interleaved :
    let texts : List NumberedText := [⟨"A: NOP", 1⟩, ⟨"A EQU 1", 3⟩, ⟨"A: RET", 4⟩, ⟨"; A: NOP", 6⟩,
      ⟨"A: NOP", 9⟩, ⟨"A EQU 2", 10⟩]
    let raised : CancelFlag := fun classified => 5 ≤ classified
    let events := (build texts (some raised)).2
    events = [.redefined .label "A" 4 1, .redefined .label "A" 9 4, .cancelled 5] ∧
      Event.level (.redefined .label "A" 9 4) = .debug ∧
      (events.filter (Event.isRedefinition .label)).length + 1 = 3 := by
  intro texts raised events
  obtain ⟨hrun, hlevel, hcount⟩ := build_reports texts (some raised)
  obtain ⟨n, hstops, hlines, hevents⟩ := hrun
  have hfive : StopsAfter (some raised) 0 texts 5 := ⟨by decide, by decide, by decide⟩
  have hn := hstops.unique hfive
  subst hn
  have hlog : events = [.redefined .label "A" 4 1, .redefined .label "A" 9 4, .cancelled 5] := by
    refine hevents.trans ?_
    rw [hlines]
    rfl
  refine ⟨hlog, hlevel _ ?_, ?_⟩
  · rw [show (build texts (some raised)).2 = _ from hlog]
    simp
  · have := hcount .label
    rw [hlines] at this
    exact this

end Document
end AsmLens
