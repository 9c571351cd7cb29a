import AsmLens.Output
import AsmLens.Proofs.Document.Indexing
import AsmLens.Proofs.Text.Written
import Mathlib.Data.List.Forall2

/-!
# The listing of a document can be read back

A listing shows everything about a line but the raw text: its number, its kind and its parts, each with its
span. A part that a line does not have is left out. That loses nothing, because the parts stand in a fixed
order under their names, and what is absent has no span of its own. The texts of the parts may hold anything,
also what looks like other parts; the quotes around them keep it apart.

Results:
* `ofPart_append_inj`: a part that is listed, and what follows it.
* `flatMap_ofPart_inj`: which parts are listed, and what they hold.
* `ofLineWith_eq_iff`: the line of a listing that shows a line.
* `ofDocumentWith_eq_iff`: a whole listing.
* `listings_tell_documents`: the listings of the documents of two texts.
-/
namespace AsmLens

/-- The lines agree in everything that a listing shows. -/
structure Line.ShowsAs (line other : Line) : Prop where
  number : line.number = other.number
  kind : line.kind = other.kind
  part : ∀ p, line.part p = other.part p

theorem Field.eq_of_text_of_span {field other : Field} (text : field.text = other.text)
    (span : field.span = other.span) : field = other := by
  cases field
  cases other
  exact congrArg₂ Field.mk text span

theorem Field.Marked.eq_absent {field : Field} (h : field.Marked) (absent : field.isAbsent = true) :
    field = Field.absent := by
  have htext : field.text = [] := List.isEmpty_iff.mp absent
  exact Field.eq_of_text_of_span htext (h.mp htext)

theorem Span.display_append_inj {span other : Span} {r s : Text} {c d : Char}
    (hc : Text.isDigitOf 10 c = false) (hd : Text.isDigitOf 10 d = false)
    (h : span.display ++ c :: r = other.display ++ d :: s) : span = other ∧ c :: r = d :: s := by
  have h : Text.decimal span.start ++ '.' :: '.' :: (Text.decimal span.stop ++ c :: r) =
      Text.decimal other.start ++ '.' :: '.' :: (Text.decimal other.stop ++ d :: s) := by
    simpa [Span.display, Text.decimal] using h
  obtain ⟨hstart, hrest⟩ := Text.decimal_append_inj (by decide) (by decide) h
  simp only [List.cons.injEq, true_and] at hrest
  obtain ⟨hstop, hbehind⟩ := Text.decimal_append_inj hc hd hrest
  cases span
  cases other
  exact ⟨congrArg₂ Span.mk hstart hstop, hbehind⟩

namespace Listing
variable {write : Char → Text} {line other : Line} {p q : Part} {r s : Text}

/-! ## Parts -/

theorem ofPart_of_absent (h : (line.part p).isAbsent = true) : ofPart write line p = [] := by
  simp [ofPart, h]

theorem ofPart_of_present (h : (line.part p).isAbsent = false) :
    ofPart write line p = ' ' :: (partName p ++ '[' :: ((line.part p).span.display ++
      ']' :: '=' :: Text.Quoted.encodeWith write (line.part p).text)) := by
  simp [ofPart, h]

/-- The name of a part ends before its span. -/
theorem partName_append_inj (h : partName p ++ '[' :: r = partName q ++ '[' :: s) : p = q ∧ r = s := by
  have letters : ∀ p, (partName p).all (· != '[') = true := by
    intro p
    cases p <;> decide
  have distinct : partName p = partName q → p = q := by
    cases p <;> cases q <;> decide
  obtain ⟨hname, hrest⟩ := Text.append_inj_of_all (letters p) (letters q) (by simp) (by simp) h
  exact ⟨distinct hname, by simpa using hrest⟩

theorem ofPart_append_inj (hwrite : ∀ c, Text.Quoted.Escapes c (write c))
    (h : (line.part p).isAbsent = false) (h' : (other.part p).isAbsent = false)
    (e : ofPart write line p ++ r = ofPart write other p ++ s) :
    line.part p = other.part p ∧ r = s := by
  rw [ofPart_of_present h, ofPart_of_present h'] at e
  simp only [List.cons_append, List.append_assoc, List.cons.injEq, true_and] at e
  obtain ⟨-, e⟩ := partName_append_inj e
  obtain ⟨hspan, e⟩ := Span.display_append_inj (by decide) (by decide) e
  simp only [List.cons.injEq, true_and] at e
  obtain ⟨htext, hrest⟩ := Text.Quoted.encodeWith_append_inj hwrite e
  exact ⟨Field.eq_of_text_of_span htext hspan, hrest⟩

/-- What is listed of some parts begins with the name of one of them. -/
theorem flatMap_ofPart_begins (write : Char → Text) (line : Line) (ps : List Part) :
    ps.flatMap (ofPart write line) = [] ∨
      ∃ q ∈ ps, ∃ r, ps.flatMap (ofPart write line) = ' ' :: (partName q ++ '[' :: r) := by
  induction ps with
  | nil => exact Or.inl rfl
  | cons p ps ih =>
    rw [List.flatMap_cons]
    cases h : (line.part p).isAbsent with
    | true =>
      rw [ofPart_of_absent h, List.nil_append]
      rcases ih with hnil | hbegins
      · exact Or.inl hnil
      · obtain ⟨q, hq, r, hr⟩ := hbegins
        exact Or.inr ⟨q, List.mem_cons_of_mem _ hq, r, hr⟩
    | false =>
      rw [ofPart_of_present h, List.cons_append, List.append_assoc, List.cons_append]
      exact Or.inr ⟨p, List.mem_cons_self, _, rfl⟩

/-- Where one line has a part and the other does not, the listings differ: that of the other goes on with
another part, or ends. -/
theorem flatMap_ofPart_ne {ps : List Part} (hp : p ∉ ps) (h : (other.part p).isAbsent = false) :
    ps.flatMap (ofPart write line) ≠ ofPart write other p ++ r := by
  intro e
  rw [ofPart_of_present h] at e
  rcases flatMap_ofPart_begins write line ps with hnil | hbegins
  · rw [hnil] at e
    cases e
  · obtain ⟨q, hq, s, hs⟩ := hbegins
    rw [hs] at e
    simp only [List.cons_append, List.append_assoc, List.cons.injEq, true_and] at e
    obtain ⟨rfl, -⟩ := partName_append_inj e
    exact hp hq

theorem flatMap_ofPart_inj (hwrite : ∀ c, Text.Quoted.Escapes c (write c))
    (hline : ∀ p, (line.part p).Marked) (hother : ∀ p, (other.part p).Marked)
    {ps : List Part} (nodup : ps.Nodup)
    (e : ps.flatMap (ofPart write line) = ps.flatMap (ofPart write other)) :
    ∀ p ∈ ps, line.part p = other.part p := by
  induction ps with
  | nil =>
    intro p hp
    cases hp
  | cons p ps ih =>
    obtain ⟨hp, nodup⟩ := List.nodup_cons.mp nodup
    rw [List.flatMap_cons, List.flatMap_cons] at e
    have hhead : line.part p = other.part p ∧
        ps.flatMap (ofPart write line) = ps.flatMap (ofPart write other) := by
      cases h : (line.part p).isAbsent with
      | true =>
        rw [ofPart_of_absent h, List.nil_append] at e
        cases h' : (other.part p).isAbsent with
        | true =>
          rw [ofPart_of_absent h', List.nil_append] at e
          exact ⟨((hline p).eq_absent h).trans ((hother p).eq_absent h').symm, e⟩
        | false => exact absurd e (flatMap_ofPart_ne hp h')
      | false =>
        cases h' : (other.part p).isAbsent with
        | true =>
          rw [ofPart_of_absent h', List.nil_append] at e
          exact absurd e.symm (flatMap_ofPart_ne hp h)
        | false => exact ofPart_append_inj hwrite h h' e
    intro q hq
    rcases List.mem_cons.mp hq with rfl | hq
    · exact hhead.1
    · exact ih nodup hhead.2 q hq

/-! ## Lines -/

theorem mem_parts (p : Part) : p ∈ parts := by cases p <;> decide

theorem length_padRight_name (kind : LineKind) : (Text.padRight 11 kind.name).length = 11 := by
  cases kind <;> rfl

theorem padRight_name_inj {kind kind' : LineKind}
    (h : Text.padRight 11 kind.name = Text.padRight 11 kind'.name) : kind = kind' := by
  revert h
  cases kind <;> cases kind' <;> decide

/-- The line of a listing tells the number, the kind and all parts. -/
theorem ofLineWith_eq_iff (hwrite : ∀ c, Text.Quoted.Escapes c (write c))
    (hline : ∀ p, (line.part p).Marked) (hother : ∀ p, (other.part p).Marked) :
    ofLineWith write line = ofLineWith write other ↔ line.ShowsAs other := by
  constructor
  · intro h
    have h : Text.padLeft 5 (Text.decimal line.number) ++
        ' ' :: (Text.padRight 11 line.kind.name ++ parts.flatMap (ofPart write line)) =
          Text.padLeft 5 (Text.decimal other.number) ++
            ' ' :: (Text.padRight 11 other.kind.name ++ parts.flatMap (ofPart write other)) := by
      simpa [ofLineWith] using h
    obtain ⟨hnumber, hrest⟩ := Text.padLeft_decimal_append_inj (by decide) (by decide) h
    simp only [List.cons.injEq, true_and] at hrest
    obtain ⟨hkind, hparts⟩ :=
      List.append_inj hrest (by rw [length_padRight_name, length_padRight_name])
    refine ⟨hnumber, padRight_name_inj hkind, ?_⟩
    intro p
    exact flatMap_ofPart_inj hwrite hline hother (by decide) hparts p (mem_parts p)
  · intro h
    have hpart : ofPart write line = ofPart write other := by
      funext p
      simp only [ofPart, h.part p]
    rw [ofLineWith, ofLineWith, h.number, h.kind, hpart]

theorem newline_not_mem_display (span : Span) : '\n' ∉ span.display := by
  have start := Text.newline_not_mem_decimal span.start
  have stop := Text.newline_not_mem_decimal span.stop
  unfold Text.decimal at start stop
  simp [Span.display, start, stop]

theorem newline_not_mem_ofPart (hwrite : ∀ c, Text.Quoted.Escapes c (write c)) (line : Line)
    (part : Part) : '\n' ∉ ofPart write line part := by
  have name : '\n' ∉ partName part := by cases part <;> decide
  simp only [ofPart]
  split
  · exact List.not_mem_nil
  · simp [name, newline_not_mem_display, Text.Quoted.newline_not_mem_encodeWith hwrite]

/-- A listed line stays one line, whatever its parts hold. -/
theorem newline_not_mem_ofLineWith (hwrite : ∀ c, Text.Quoted.Escapes c (write c)) (line : Line) :
    '\n' ∉ ofLineWith write line := by
  have name : '\n' ∉ line.kind.name := by cases line.kind <;> decide
  have blanks (n : Nat) : '\n' ∉ List.replicate n ' ' := by simp [List.mem_replicate]
  simp [ofLineWith, Text.padLeft, Text.padRight, name, blanks, Text.newline_not_mem_decimal,
    newline_not_mem_ofPart hwrite]

/-! ## Documents -/

/-- Every line of a listing ends with a newline, which no line of a listing holds. -/
theorem unlines_inj {xs ys : List Text} (hx : ∀ x ∈ xs, '\n' ∉ x) (hy : ∀ y ∈ ys, '\n' ∉ y)
    (h : unlines xs = unlines ys) : xs = ys := by
  induction xs generalizing ys with
  | nil =>
    cases ys with
    | nil => rfl
    | cons y ys => simp [unlines] at h
  | cons x xs ih =>
    cases ys with
    | nil => simp [unlines] at h
    | cons y ys =>
      have passes : ∀ {text : Text}, '\n' ∉ text → text.all (· != '\n') = true := by
        intro text htext
        rw [List.all_eq_true]
        intro c hc
        rw [bne_iff_ne]
        intro e
        exact htext (e ▸ hc)
      have h : x ++ '\n' :: unlines xs = y ++ '\n' :: unlines ys := by simpa [unlines] using h
      obtain ⟨rfl, hrest⟩ := Text.append_inj_of_all (passes (hx x List.mem_cons_self))
        (passes (hy y List.mem_cons_self)) (by decide) (by decide) h
      have htail := ih (fun z hz => hx z (List.mem_cons_of_mem _ hz))
        (fun z hz => hy z (List.mem_cons_of_mem _ hz)) (List.cons.inj hrest).2
      rw [htail]

theorem map_ofLineWith_eq_iff (hwrite : ∀ c, Text.Quoted.Escapes c (write c)) {lines others : List Line}
    (hlines : ∀ line ∈ lines, ∀ p, (line.part p).Marked)
    (hothers : ∀ line ∈ others, ∀ p, (line.part p).Marked) :
    lines.map (ofLineWith write) = others.map (ofLineWith write) ↔
      List.Forall₂ Line.ShowsAs lines others := by
  induction lines generalizing others with
  | nil => cases others <;> simp
  | cons line lines ih =>
    cases others with
    | nil => simp
    | cons other others =>
      have hrest := ih (fun l hl => hlines l (List.mem_cons_of_mem _ hl))
        (fun l hl => hothers l (List.mem_cons_of_mem _ hl))
      rw [List.map_cons, List.map_cons, List.cons.injEq, List.forall₂_cons, hrest,
        ofLineWith_eq_iff hwrite (hlines line List.mem_cons_self) (hothers other List.mem_cons_self)]

theorem ofDocumentWith_eq_iff (hwrite : ∀ c, Text.Quoted.Escapes c (write c)) {document other : Document}
    (hlines : ∀ line ∈ document.lines, ∀ p, (line.part p).Marked)
    (hothers : ∀ line ∈ other.lines, ∀ p, (line.part p).Marked) :
    ofDocumentWith write document = ofDocumentWith write other ↔
      List.Forall₂ Line.ShowsAs document.lines other.lines := by
  rw [← map_ofLineWith_eq_iff hwrite hlines hothers]
  have whole : ∀ lines : List Line, ∀ x ∈ lines.map (ofLineWith write), '\n' ∉ x := by
    intro lines x hx
    obtain ⟨line, -, rfl⟩ := List.mem_map.mp hx
    exact newline_not_mem_ofLineWith hwrite line
  exact ⟨unlines_inj (whole _) (whole _), congrArg unlines⟩

/-- The listings of two documents are equal exactly if the documents have equally many lines, and these
agree, line by line, in the number, the kind, and the text and the span of every part. That holds of the
listing as it is written, and of every other whose quoted texts have each character as itself or as one of
its escapes. -/
theorem listings_tell_documents (text other : Text) (flag otherFlag : Option CancelFlag) :
    let document := Document.ofText text flag
    let second := Document.ofText other otherFlag
    (ofDocument document = ofDocument second ↔
      List.Forall₂ Line.ShowsAs document.lines second.lines) ∧
    ∀ write : Char → Text, (∀ c, Text.Quoted.Escapes c (write c)) →
      (ofDocumentWith write document = ofDocumentWith write second ↔
        List.Forall₂ Line.ShowsAs document.lines second.lines) := by
  have marked : ∀ text flag, ∀ line ∈ (Document.ofText text flag).lines, ∀ p,
      (line.part p).Marked := by
    intro text flag line hline p
    obtain ⟨raw, number, rfl⟩ := (Document.indexes_lines (Document.numbered text) flag).2 line hline
    exact Line.part_marked raw number p
  have told : ∀ write : Char → Text, (∀ c, Text.Quoted.Escapes c (write c)) →
      (ofDocumentWith write (Document.ofText text flag) =
        ofDocumentWith write (Document.ofText other otherFlag) ↔
          List.Forall₂ Line.ShowsAs (Document.ofText text flag).lines
            (Document.ofText other otherFlag).lines) := fun write hwrite =>
    ofDocumentWith_eq_iff hwrite (marked text flag) (marked other otherFlag)
  exact ⟨told Text.Quoted.escape Text.Quoted.escapes_escape, told⟩

/-- The raw text is not shown: blanks at the end of a line are lost, whether characters are escaped where
they must be or all of them are. -/
theorem listings_tell_documents_of_trailing_blanks :
    let document := Document.ofText "Top: NOP ; \"]=\"  " none
    let second := Document.ofText "Top: NOP ; \"]=\"" none
    ofDocument document = ofDocument second ∧
      List.Forall₂ Line.ShowsAs document.lines second.lines ∧
      (∀ c, Text.Quoted.Escapes c (Text.bracedCodePoint c)) ∧
      ofDocumentWith Text.bracedCodePoint document = ofDocumentWith Text.bracedCodePoint second := by
  intro document second
  obtain ⟨told, toldWith⟩ :=
    listings_tell_documents "Top: NOP ; \"]=\"  " "Top: NOP ; \"]=\"" none none
  have same : ofDocument document = ofDocument second := by decide
  have shown := told.mp same
  have braced : ∀ c, Text.Quoted.Escapes c (Text.bracedCodePoint c) := fun _ => .braced
  exact ⟨same, shown, braced, (toldWith Text.bracedCodePoint braced).mpr shown⟩

end Listing
end AsmLens
