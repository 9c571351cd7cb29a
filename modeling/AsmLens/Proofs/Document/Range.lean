import AsmLens.Proofs.Document.Outline

/-!
# Parts of a text

The document of a range of a text's lines is part of the document of the text, and the document of two texts
one behind the other is put together from theirs.

Results:
* `numberedRange_eq_filter`: what is skipped and what is cut off lies outside of the range.
* `bisectFrom_eq_some_iff`, `bisect?_eq_line?`: halving finds the line with the number.
* `ofTextRange_publishes`: the document of a range, beside the document of the whole text.
* `splitLines_append`, `lines_ofText_append`: the lines of the two texts.
* `lastDefining?_eq_some_iff`, `Indexes.defining?_eq`: the definition of a name, met from behind.
* `ofText_append`: the document of the two texts.
-/
namespace AsmLens.Document

/-!
## Documents of a range of lines

The lines of a range are got by skipping what precedes it and stopping at the first line behind it. As
the numbers of a text's lines ascend, nothing else is in the range, so this is the same as keeping those
lines whose numbers are in it. A line is found by its number through halving, which the ascending
numbers allow as well.
-/

/-! ### The lines of a text -/

theorem getElem?_numbered (text : Text) (n : Nat) :
    (numbered text)[n]? = (Text.splitLines text)[n]?.map fun line => ⟨line, n⟩ := by
  unfold numbered
  rw [List.getElem?_map, List.getElem?_zipIdx]
  cases (Text.splitLines text)[n]? <;> simp

theorem number_of_getElem?_numbered {text : Text} {n : Nat} {t : NumberedText}
    (h : (numbered text)[n]? = some t) : t.number = n := by
  rw [getElem?_numbered] at h
  obtain ⟨line, -, rfl⟩ := Option.map_eq_some_iff.mp h
  rfl

theorem numbered_ascending (text : Text) :
    (numbered text).Pairwise fun a b => a.number < b.number := by
  rw [List.pairwise_iff_getElem]
  intro m n hm hn hlt
  rw [number_of_getElem?_numbered (List.getElem?_eq_getElem hm),
    number_of_getElem?_numbered (List.getElem?_eq_getElem hn)]
  exact hlt

theorem number_lt_of_mem_take {text : Text} {first : Nat} {t : NumberedText}
    (h : t ∈ (numbered text).take first) : t.number < first := by
  obtain ⟨n, hn⟩ := List.mem_iff_getElem?.mp h
  have hlt : n < first := by
    have := (List.getElem?_eq_some_iff.mp hn).1
    rw [List.length_take] at this
    omega
  rw [List.getElem?_take_of_lt hlt] at hn
  rw [number_of_getElem?_numbered hn]
  exact hlt

theorem le_number_of_mem_drop {text : Text} {first : Nat} {t : NumberedText}
    (h : t ∈ (numbered text).drop first) : first ≤ t.number := by
  obtain ⟨n, hn⟩ := List.mem_iff_getElem?.mp h
  rw [List.getElem?_drop] at hn
  rw [number_of_getElem?_numbered hn]
  exact Nat.le_add_right first n

/-- Where the test holds of whatever precedes something that it holds of, stopping at the first failure
is leaving out all failures. -/
theorem takeWhile_eq_filter {α : Type} {test : α → Bool} {items : List α}
    (h : items.Pairwise fun a b => test b = true → test a = true) :
    items.takeWhile test = items.filter test := by
  induction items with
  | nil => rfl
  | cons a rest ih =>
    obtain ⟨hhead, hrest⟩ := List.pairwise_cons.mp h
    by_cases ha : test a = true
    · rw [List.takeWhile_cons_of_pos ha, List.filter_cons_of_pos ha, ih hrest]
    · rw [List.takeWhile_cons_of_neg ha, List.filter_cons_of_neg ha, eq_comm,
        List.filter_eq_nil_iff]
      intro b hb hpass
      exact ha (hhead b hb hpass)

/-- Skipping to the range and stopping behind it keeps the lines whose numbers are in it. -/
theorem numberedRange_eq_filter (text : Text) (first last : Nat) :
    numberedRange text first last =
      (numbered text).filter fun t => first ≤ t.number && t.number ≤ last := by
  have hskipped : ((numbered text).take first).filter
      (fun t => first ≤ t.number && t.number ≤ last) = [] := by
    rw [List.filter_eq_nil_iff]
    intro t ht
    have := number_lt_of_mem_take ht
    simp only [Bool.and_eq_true, decide_eq_true_eq, not_and]
    omega
  have hclosed : ((numbered text).drop first).Pairwise fun a b =>
      (first ≤ b.number && b.number ≤ last) = true →
        (first ≤ a.number && a.number ≤ last) = true := by
    refine ((numbered_ascending text).sublist (List.drop_sublist _ _)).imp_of_mem ?_
    intro a b ha _ hlt
    have := le_number_of_mem_drop ha
    simp only [Bool.and_eq_true, decide_eq_true_eq]
    omega
  unfold numberedRange
  rw [takeWhile_eq_filter hclosed]
  conv => rhs; rw [← List.take_append_drop first (numbered text), List.filter_append, hskipped]
  rfl

/-! ### Finding a line by its number -/

section Bisection
variable {document : Document} {number start stop p q : Nat} {line l : Line}

theorem getElem?_rows (document : Document) (p : Nat) : document.rows[p]? = document.lines[p]? :=
  (Array.getElem?_toList).symm

theorem Ascending.number_lt (h : document.Ascending) (hp : document.rows[p]? = some line)
    (hq : document.rows[q]? = some l) (hlt : p < q) : line.number < l.number := by
  rw [getElem?_rows] at hp hq
  obtain ⟨hp', rfl⟩ := List.getElem?_eq_some_iff.mp hp
  obtain ⟨hq', rfl⟩ := List.getElem?_eq_some_iff.mp hq
  exact List.pairwise_iff_getElem.mp h p q hp' hq' hlt

/-- Of two lines, the one with the smaller number comes first. -/
theorem Ascending.lt_of_number (h : document.Ascending) (hp : document.rows[p]? = some line)
    (hq : document.rows[q]? = some l) (hlt : line.number < l.number) : p < q := by
  rcases Nat.lt_trichotomy p q with hpq | rfl | hpq
  · exact hpq
  · rw [hp] at hq
    cases hq
    omega
  · have := h.number_lt hq hp hpq
    omega

/-- The search by halves never leaves out the half that has the line. -/
theorem bisectFrom_eq_some_iff (h : document.Ascending) (hstop : stop ≤ document.rows.size) :
    bisectFrom document.rows number start stop = some line ↔
      ∃ p, start ≤ p ∧ p < stop ∧ document.rows[p]? = some line ∧ line.number = number := by
  fun_induction bisectFrom document.rows number start stop with
  | case1 start stop hlt middle l hl hnumber =>
    constructor
    · intro h'
      cases h'
      exact ⟨middle, by omega, by omega, hl, hnumber⟩
    · intro ⟨p, _, _, hp, hn⟩
      rcases Nat.lt_trichotomy p middle with hpm | rfl | hpm
      · have := h.number_lt hp hl hpm
        omega
      · rw [← hl, hp]
      · have := h.number_lt hl hp hpm
        omega
  | case2 start stop hlt middle l hl hne hless ih =>
    rw [ih hstop]
    constructor
    · intro ⟨p, h1, h2, hp, hn⟩
      exact ⟨p, by omega, h2, hp, hn⟩
    · intro ⟨p, h1, h2, hp, hn⟩
      have hpm : middle < p := h.lt_of_number hl hp (by omega)
      exact ⟨p, by omega, h2, hp, hn⟩
  | case3 start stop hlt middle l hl hne hless ih =>
    rw [ih (by omega)]
    constructor
    · intro ⟨p, h1, h2, hp, hn⟩
      exact ⟨p, h1, by omega, hp, hn⟩
    · intro ⟨p, h1, h2, hp, hn⟩
      have hpm : p < middle := h.lt_of_number hp hl (by omega)
      exact ⟨p, h1, hpm, hp, hn⟩
  | case4 start stop hlt middle hl =>
    have := Array.getElem?_eq_none_iff.mp hl
    omega
  | case5 start stop hlt =>
    constructor
    · intro h'
      cases h'
    · intro ⟨p, h1, h2, _, _⟩
      omega

/-- Where the numbers ascend, halving finds what is found from the beginning. -/
theorem bisect?_eq_line? (h : document.Ascending) (number : Nat) :
    document.bisect? number = document.line? number := by
  apply Option.ext
  intro line
  unfold bisect?
  rw [bisectFrom_eq_some_iff h (Nat.le_refl _), h.line?_eq_some_iff]
  constructor
  · intro ⟨p, _, _, hp, hn⟩
    rw [getElem?_rows] at hp
    exact ⟨List.mem_of_getElem? hp, hn⟩
  · intro ⟨hl, hn⟩
    obtain ⟨p, hp⟩ := List.mem_iff_getElem?.mp hl
    rw [← getElem?_rows] at hp
    exact ⟨p, Nat.zero_le p, (Array.getElem?_eq_some_iff.mp hp).1, hp, hn⟩

end Bisection

/-! ### The document of a range -/

theorem lines_ofText (text : Text) : (ofText text none).lines = (numbered text).map NumberedText.classify :=
  (indexes_build (numbered text)).lines_eq

/-- The lines of the range are those lines of the whole text whose numbers are in it. -/
theorem map_classify_numberedRange (text : Text) (first last : Nat) :
    (numberedRange text first last).map NumberedText.classify =
      (ofText text none).lines.filter fun line => first ≤ line.number && line.number ≤ last := by
  rw [numberedRange_eq_filter, lines_ofText, List.filter_map]
  congr 1
  refine List.filter_congr ?_
  intro t _
  show _ = (decide (first ≤ t.classify.number) && decide (t.classify.number ≤ last))
  rw [NumberedText.classify, Line.number_ofText]

theorem ascending_ofTextRange (text : Text) (first last : Nat) (flag : Option CancelFlag) :
    (ofTextRange text first last flag).Ascending := by
  refine ascending_build flag ?_
  rw [numberedRange_eq_filter]
  exact (numbered_ascending text).sublist List.filter_sublist

/-- The document of a range publishes those lines of the whole text whose numbers are in the range,
and only what they define. A number leads to its line if it is in the range and to nothing otherwise,
also when it is found by halves. A flag that is never raised changes neither document. -/
theorem ofTextRange_publishes (text : Text) (first last : Nat) :
    let whole := ofText text none
    let part := ofTextRange text first last none
    part.Publishes (whole.lines.filter fun line => first ≤ line.number && line.number ≤ last) ∧
      (∀ number line, part.line? number = some line ↔
        line ∈ whole.lines ∧ line.number = number ∧ first ≤ number ∧ number ≤ last) ∧
      (∀ number, part.bisect? number = part.line? number) ∧
      ∀ flag, (∀ n, isCancelled flag n = false) →
        ofText text flag = whole ∧ ofTextRange text first last flag = part := by
  intro whole part
  have hpart : part.Publishes (whole.lines.filter fun line =>
      first ≤ line.number && line.number ≤ last) := by
    rw [← map_classify_numberedRange]
    exact (indexes_build _).publishes
  have ascending : part.Ascending := ascending_ofTextRange text first last none
  refine ⟨hpart, ?_, bisect?_eq_line? ascending, ?_⟩
  · intro number line
    rw [ascending.line?_eq_some_iff, hpart.lines_eq, List.mem_filter, Bool.and_eq_true,
      decide_eq_true_eq, decide_eq_true_eq]
    constructor
    · intro ⟨⟨hl, hrange⟩, hn⟩
      exact ⟨hl, hn, hn ▸ hrange⟩
    · intro ⟨hl, hn, hrange⟩
      exact ⟨⟨hl, hn ▸ hrange⟩, hn⟩
  · intro flag lowered
    refine ⟨?_, ?_⟩
    · exact congrArg Prod.fst (buildFrom_of_lowered fun n _ => lowered _)
    · exact congrArg Prod.fst (buildFrom_of_lowered fun n _ => lowered _)

/-- A label that is declared on three lines: the range ends before the last of them and leaves the first
one out, and a flag stays lowered. -/
theorem ofTextRange_publishes_between :
    let text : Text := "A: NOP\nB EQU 1\r\nA: INC R1\nA: RET"
    let lowered : CancelFlag := fun _ => false
    let part := ofTextRange text 1 2 none
    (∀ n, isCancelled (some lowered) n = false) ∧ ofTextRange text 1 2 (some lowered) = part ∧
      part.labelLine? "A" = some (Line.ofText "A: INC R1" 2) ∧
      part.line? 2 = some (Line.ofText "A: INC R1" 2) ∧ part.line? 3 = none ∧
      part.bisect? 1 = some (Line.ofText "B EQU 1" 1) := by
  intro text lowered part
  have hflag : ∀ n, isCancelled (some lowered) n = false := fun _ => rfl
  obtain ⟨publishes, hline, hbisect, hlowered⟩ := ofTextRange_publishes text 1 2
  have hlines : (ofText text none).lines = [Line.ofText "A: NOP" 0, Line.ofText "B EQU 1" 1,
      Line.ofText "A: INC R1" 2, Line.ofText "A: RET" 3] := lines_ofText text
  have hkept : part.lines = [Line.ofText "B EQU 1" 1, Line.ofText "A: INC R1" 2] := by
    rw [publishes.lines_eq, hlines]
    rfl
  refine ⟨hflag, (hlowered _ hflag).2, ?_, ?_, ?_, ?_⟩
  · rw [labelLine?, publishes.last_iff, ← publishes.lines_eq, hkept]
    exact ⟨1, by decide⟩
  · rw [hline, hlines]
    exact ⟨by simp, by decide⟩
  · rw [Option.eq_none_iff_forall_not_mem]
    intro line h
    have := (hline 3 line).mp h
    omega
  · rw [hbisect, hline, hlines]
    exact ⟨by simp, by decide⟩

end AsmLens.Document

/-!
## Documents of two texts

Where a text ends with a newline, what follows it begins a line of its own. Nothing that is known of a
document reaches over such a seam: a carriage return belongs to the newline behind it, a line is read by
itself, and a number counts the lines before it. So the document of two texts is that of the first and,
with its numbers increased, that of the second, whose definitions come later and therefore count.

The definition of a name is the first one that is met from behind, which says the same as `LastAt` without
a position and goes through an appended list at once.
-/

namespace AsmLens

theorem Text.splitLines_append {text : Text} (ended : text = [] ∨ text.getLast? = some '\n')
    (rest : Text) : splitLines (text ++ rest) = splitLines text ++ splitLines rest := by
  rcases ended with rfl | ended
  · rfl
  · obtain ⟨start, rfl⟩ := List.getLast?_eq_some_iff.mp ended
    rw [List.append_assoc, List.singleton_append, splitLines_append_newline]

/-! ### Lines with other numbers -/

namespace Line

/-- The line as it is when so many lines are put before it. -/
def renumbered (shift : Nat) (line : Line) : Line := { line with number := line.number + shift }

theorem ofText_add (raw : Text) (number shift : Nat) :
    ofText raw (number + shift) = (ofText raw number).renumbered shift := by
  unfold ofText
  split <;> rfl

end Line

/-! ### The definition met from behind -/

/-- The first of the lines, from behind, that defines the name. -/
def lastDefining? (lines : List Line) (kind : NameKind) (name : Text) : Option Line :=
  lines.reverse.find? fun line => line.Defines kind name

section LastDefining
variable {lines : List Line} {kind : NameKind} {name : Text} {line l : Line}

theorem lastDefining?_concat (lines : List Line) (line : Line) (kind : NameKind) (name : Text) :
    lastDefining? (lines ++ [line]) kind name =
      if line.Defines kind name then some line else lastDefining? lines kind name := by
  by_cases h : line.Defines kind name <;> simp [lastDefining?, h]

theorem lastDefining?_append (lines later : List Line) (kind : NameKind) (name : Text) :
    lastDefining? (lines ++ later) kind name =
      (lastDefining? later kind name).or (lastDefining? lines kind name) := by
  simp [lastDefining?]

theorem lastDefining?_renumbered (lines : List Line) (shift : Nat) (kind : NameKind) (name : Text) :
    lastDefining? (lines.map (Line.renumbered shift)) kind name =
      (lastDefining? lines kind name).map (Line.renumbered shift) := by
  rw [lastDefining?, ← List.map_reverse, List.find?_map]
  rfl

theorem lastDefining?_eq_some_iff :
    lastDefining? lines kind name = some l ↔ ∃ p, LastAt lines kind name p l := by
  induction lines using List.reverseRecOn with
  | nil =>
    refine iff_of_false (fun h => ?_) fun ⟨p, h⟩ => absurd h.lt_length (Nat.not_lt_zero p)
    cases h
  | append_singleton lines line ih =>
    rw [lastDefining?_concat]
    simp only [lastAt_concat_iff]
    by_cases hd : line.Defines kind name
    · simp [hd, eq_comm]
    · simp [hd, ih]

namespace Document

theorem Indexes.defining?_eq {document : Document} (h : document.Indexes lines) (kind : NameKind)
    (name : Text) : document.defining? kind name = lastDefining? lines kind name := by
  apply Option.ext
  intro l
  rw [h.defining?_eq_some_iff, lastDefining?_eq_some_iff]

end Document

end LastDefining

/-! ### The document of two texts -/

namespace Document

theorem lines_ofText_eq_map (text : Text) : (ofText text none).lines =
    (Text.splitLines text).zipIdx.map fun (raw, number) => Line.ofText raw number := by
  rw [lines_ofText, numbered, List.map_map]
  rfl

theorem defining?_ofText (text : Text) (kind : NameKind) (name : Text) :
    (ofText text none).defining? kind name = lastDefining? (ofText text none).lines kind name := by
  rw [lines_ofText]
  exact (indexes_build (numbered text)).defining?_eq kind name

theorem lines_ofText_append {text : Text} (ended : text = [] ∨ text.getLast? = some '\n')
    (rest : Text) : (ofText (text ++ rest) none).lines = (ofText text none).lines ++
      (ofText rest none).lines.map (Line.renumbered (ofText text none).lines.length) := by
  have hlength : (ofText text none).lines.length = (Text.splitLines text).length := by
    simp [lines_ofText_eq_map]
  rw [hlength]
  simp only [lines_ofText_eq_map, Text.splitLines_append ended, List.zipIdx_append,
    List.map_append, List.map_map, Nat.zero_add]
  congr 1
  rw [List.zipIdx_eq_map_add, List.map_map]
  refine List.map_congr_left fun placed _ => ?_
  simp only [Function.comp_apply, Nat.add_comm _ placed.2]
  exact Line.ofText_add placed.1 placed.2 _

/-- The document of two texts, the first of which is empty or ends with a newline. Its lines are those
of the first and, with their numbers increased, those of the second. A name leads to the line of the
second that it leads to there and, if the second does not define it, to that of the first. -/
theorem ofText_append {text : Text} (ended : text = [] ∨ text.getLast? = some '\n') (rest : Text) :
    let first := ofText text none
    let second := ofText rest none
    let whole := ofText (text ++ rest) none
    let moved := Line.renumbered first.lines.length
    whole.lines = first.lines ++ second.lines.map moved ∧
      ∀ kind name, whole.defining? kind name =
        ((second.defining? kind name).map moved).or (first.defining? kind name) := by
  intro first second whole moved
  have hlines : whole.lines = first.lines ++ second.lines.map moved :=
    lines_ofText_append ended rest
  refine ⟨hlines, fun kind name => ?_⟩
  calc whole.defining? kind name
    _ = lastDefining? (first.lines ++ second.lines.map moved) kind name := by
      rw [← hlines]
      exact defining?_ofText (text ++ rest) kind name
    _ = ((lastDefining? second.lines kind name).map moved).or
          (lastDefining? first.lines kind name) := by
      rw [lastDefining?_append, lastDefining?_renumbered]
    _ = ((second.defining? kind name).map moved).or (first.defining? kind name) := by
      rw [defining?_ofText, defining?_ofText]

/-- A label that both texts declare, and a variable that only the first one has. There is a carriage
return at the seam. -/
theorem ofText_append_redefined :
    let text : Text := "A: NOP\nB EQU 1\r\n"
    let rest : Text := "A: INC R1\nC: RET"
    let whole := ofText (text ++ rest) none
    text.getLast? = some '\n' ∧
      whole.lines = (ofText text none).lines ++
        [Line.ofText "A: INC R1" 2, Line.ofText "C: RET" 3] ∧
      whole.labelLine? "A" = some (Line.ofText "A: INC R1" 2) ∧
      whole.variableLine? "B" = some (Line.ofText "B EQU 1" 1) := by
  intro text rest whole
  have ended : text.getLast? = some '\n' := by decide
  obtain ⟨hlines, hnames⟩ := ofText_append (Or.inr ended) rest
  refine ⟨ended, hlines.trans rfl, ?_, ?_⟩
  · rw [labelLine?, hnames, defining?_ofText, defining?_ofText]
    rfl
  · rw [variableLine?, hnames, defining?_ofText, defining?_ofText]
    rfl

end Document
end AsmLens
