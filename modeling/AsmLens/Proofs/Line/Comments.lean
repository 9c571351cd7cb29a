import AsmLens.Proofs.Line.Anatomy

/-!
# Comments and literals on a line

Where the code of a line ends and what that says about the code: a comment changes nothing else, and whether a
semicolon or a colon counts is settled by the quote that is open there.

Results:
* `content_comment`: the content of a line with a comment is the content of the line without.
* `part_comment`: the comment is what is put behind the code, without the blanks at its end.
* `commented_line`: all that a line shows, with a comment and without.
* `part_comment_of_isLeast`, `comment_isAbsent_iff`: the comment is the line from the least semicolon
  on at which no quote is open.
* `exists_isLeast_of_label`: a declared label ends at the least such colon.
* `scans_agree`: both, with what the open quote is.
-/
namespace AsmLens.Line
open Text (Unquoted firstUnquoted?)
open Unicode (isBlank)

/-!
## Comments say nothing about the code

What a line holds apart from its comment is read off the code alone, and a semicolon that is put
behind a code with closed literals ends that code, whatever follows it: mnemonics, directives,
colons, quotes or more semicolons.
-/

/-! ### What depends on the content alone -/

theorem part_congr {a b : Line} (h : a.content = b.content) {p : Part} (hp : p ≠ .comment) :
    a.part p = b.part p := by
  cases p with
  | comment => exact absurd rfl hp
  | _ => simp only [part, instruction?, assignment?, h]

theorem kind_congr {a b : Line} (h : a.content = b.content) : a.kind = b.kind := by
  rw [kind, kind, h]

theorem isJump_congr {a b : Line} (h : a.content = b.content) : a.isJump = b.isJump := by
  rw [isJump, isJump, instruction?, instruction?, h]

/-- Of the gaps, the one before the comment alone depends on more than the content and the
indentation. -/
theorem gaps_congr {a b : Line} (h : a.content = b.content)
    (hi : Text.indentation a.raw = Text.indentation b.raw) :
    a.gaps = { b.gaps with dataToComment := a.gaps.dataToComment } := by
  simp only [gaps, h, hi]

/-! ### A comment put behind the code -/

variable {code : Text}

theorem codeStop_of_none (h : ∀ q, ¬ Unquoted ';' code q) : codeStop code = code.length := by
  rw [codeStop, (Text.firstUnquoted?_eq_none_iff (by decide)).mpr h]
  rfl

theorem codeStop_comment (comment : Text) (even : code.count '\'' % 2 = 0)
    (h : ∀ q, ¬ Unquoted ';' code q) :
    codeStop (code ++ ';' :: comment) = code.length := by
  rw [codeStop, Text.firstUnquoted?_append_cons (by decide) even h]
  rfl

theorem contentOf_of_not_blank (hb : code.all isBlank = false) (a b : Bool) :
    contentOf code a = contentOf code b := by
  rw [contentOf, contentOf, hb]
  rfl

theorem content_comment (comment : Text) (hb : code.all isBlank = false)
    (even : code.count '\'' % 2 = 0) (h : ∀ q, ¬ Unquoted ';' code q) (number : Nat) :
    (ofText (code ++ ';' :: comment) number).content = (ofText code number).content := by
  rw [ofText_eq, ofText_eq]
  simp only
  rw [codeStop_comment comment even h, codeStop_of_none h, List.take_left, List.take_length]
  exact contentOf_of_not_blank hb _ _

theorem trimEnd_comment_ne_nil (comment : Text) :
    (Text.trimEnd (';' :: comment)).isEmpty = false := by
  rw [List.isEmpty_eq_false_iff, ne_eq, Text.trimEnd_eq_nil_iff]
  intro hb
  exact absurd (hb ';' List.mem_cons_self) (by decide)

theorem trimmed_comment (code comment : Text) :
    Field.trimmed (code ++ ';' :: comment) code.length (code ++ ';' :: comment).length =
      ⟨Text.trimEnd (';' :: comment),
        ⟨code.length, code.length + (Text.trimEnd (';' :: comment)).length⟩⟩ := by
  have hslice : Text.slice (code ++ ';' :: comment) code.length (code ++ ';' :: comment).length =
      ';' :: comment := by
    rw [Text.slice, List.take_length, List.drop_left]
  have hindent : Text.indentation (';' :: comment) = 0 := rfl
  have htrim : Text.trim (';' :: comment) = Text.trimEnd (';' :: comment) := rfl
  simp only [Field.trimmed, hslice, hindent, htrim, trimEnd_comment_ne_nil, Bool.false_eq_true,
    if_false, Nat.add_zero]

theorem part_comment (comment : Text) (even : code.count '\'' % 2 = 0)
    (h : ∀ q, ¬ Unquoted ';' code q) (number : Nat) :
    (ofText (code ++ ';' :: comment) number).part .comment =
      ⟨Text.trimEnd (';' :: comment),
        ⟨code.length, code.length + (Text.trimEnd (';' :: comment)).length⟩⟩ := by
  rw [part, ofText_eq]
  simp only
  rw [codeStop_comment comment even h, trimmed_comment]

/-- Behind a code that is not blank, closes its literals and has no semicolon outside them, a
comment changes nothing but the comment and the gap before it, whatever it says. -/
theorem commented_line (code comment : Text) (number : Nat) (hb : code.all isBlank = false)
    (even : code.count '\'' % 2 = 0) (h : ∀ column, ¬ Unquoted ';' code column) :
    let bare := ofText code number
    let line := ofText (code ++ ';' :: comment) number
    line.kind = bare.kind ∧ line.isJump = bare.isJump ∧
      line.gaps.beforeLabel = bare.gaps.beforeLabel ∧
      line.gaps.labelToInstruction = bare.gaps.labelToInstruction ∧
      line.gaps.instructionToData = bare.gaps.instructionToData ∧
      (∀ p, p ≠ .comment → line.part p = bare.part p) ∧
      line.part .comment =
        ⟨Text.trimEnd (';' :: comment),
          ⟨code.length, code.length + (Text.trimEnd (';' :: comment)).length⟩⟩ ∧
      (line.kind = .instruction ∨ line.kind = .label →
        line.gaps.dataToComment.stop = code.length) := by
  have hcontent := content_comment comment hb even h number
  have hindent : Text.indentation (ofText (code ++ ';' :: comment) number).raw =
      Text.indentation (ofText code number).raw := by
    have htake : (code ++ ';' :: comment).take code.length = code := List.take_left
    have hsame : Text.indentation ((code ++ ';' :: comment).take code.length) =
        Text.indentation (code ++ ';' :: comment) := by
      refine Text.indentation_take ?_
      rw [htake]
      exact hb
    rw [raw_ofText, raw_ofText, ← hsame, htake]
  have hgaps := gaps_congr hcontent hindent
  have hcomment := part_comment comment even h number
  refine ⟨kind_congr hcontent, isJump_congr hcontent, ?_, ?_, ?_,
    fun p hp => part_congr hcontent hp, hcomment, ?_⟩
  · rw [hgaps]
  · rw [hgaps]
  · rw [hgaps]
  · intro hk
    obtain ⟨i, hi⟩ := exists_instruction_of_kind hk
    rw [part] at hcomment
    rw [gaps_of_instruction hi]
    simp only [hcomment, Field.isAbsent, trimEnd_comment_ne_nil, Bool.false_eq_true, if_false]

/-- A comment that holds a directive, a mnemonic, a colon, a quote and a letter that is not ASCII,
behind a code with a semicolon in a literal. -/
theorem commented_line_about_code :
    let code : Text := "Sep: MOV R1, ';'"
    let line := ofText (code ++ ';' :: " X EQU 'é: CALL; ".toList) 0
    (code.all isBlank = false ∧ code.count '\'' % 2 = 0 ∧ ∀ column, ¬ Unquoted ';' code column) ∧
      line.kind = (ofText code 0).kind ∧ line.part .label = (ofText code 0).part .label ∧
      line.part .comment = ⟨"; X EQU 'é: CALL;", ⟨16, 33⟩⟩ ∧ line.gaps.dataToComment.stop = 16 := by
  have hb : ("Sep: MOV R1, ';'" : Text).all isBlank = false := by decide
  have even : ("Sep: MOV R1, ';'" : Text).count '\'' % 2 = 0 := by decide
  have h : ∀ column, ¬ Unquoted ';' "Sep: MOV R1, ';'" column :=
    (Text.firstUnquoted?_eq_none_iff (by decide)).mp (by decide)
  obtain ⟨hk, -, -, -, -, hp, hc, hg⟩ :=
    commented_line "Sep: MOV R1, ';'" " X EQU 'é: CALL; " 0 hb even h
  exact ⟨⟨hb, even, h⟩, hk, hp .label (by decide), hc.trans (by decide), hg (Or.inr (by decide))⟩

/-!
## Quotes on a line

Three scans look at the quotes of a line: the one for the semicolon that begins the comment, the one
for the colon that declares a label, and the one that an editor asks for the quote that is open at a
column. The editor's scan is the plain account of the other two: a character counts where no quote
is open. It does not matter that the colon is searched for in the whole line and the comment is cut
off first, since what is open at a column depends on what precedes it.
-/

open Text (outsideLiterals quotesBefore)

variable {raw : Text} {p : Nat}

/-! ### The comment -/

theorem part_comment_of_isLeast (number : Nat) (h : IsLeast (outsideLiterals ';' raw) p) :
    (ofText raw number).part .comment =
      ⟨Text.trimEnd (raw.drop p), ⟨p, p + (Text.trimEnd (raw.drop p)).length⟩⟩ := by
  have hfirst := (Text.firstUnquoted?_eq_some_iff_isLeast (by decide)).mpr h
  have hstop : codeStop raw = p := by rw [codeStop, hfirst, Option.getD_some]
  obtain ⟨hlt, hsemicolon⟩ := List.getElem?_eq_some_iff.mp h.1.1
  have hdrop : raw.drop p = ';' :: raw.drop (p + 1) := by
    rw [List.drop_eq_getElem_cons hlt, hsemicolon]
  have hraw : raw.take p ++ ';' :: raw.drop (p + 1) = raw := by
    rw [← hdrop, List.take_append_drop]
  have hcomment := trimmed_comment (raw.take p) (raw.drop (p + 1))
  rw [hraw, List.length_take_of_le (Nat.le_of_lt hlt), ← hdrop] at hcomment
  rw [part, ofText_eq]
  simp only
  rw [hstop, hcomment]

theorem comment_isAbsent_iff (raw : Text) (number : Nat) :
    ((ofText raw number).part .comment).isAbsent = false ↔ (outsideLiterals ';' raw).Nonempty := by
  rw [← Text.firstUnquoted?_isSome_iff (by decide)]
  cases hfirst : firstUnquoted? ';' raw with
  | none =>
    have habsent : (ofText raw number).part .comment = Field.absent := by
      rw [part, ofText, hfirst]
    rw [habsent]
    exact iff_of_false (by decide) (by decide)
  | some p =>
    have hleast := (Text.firstUnquoted?_eq_some_iff_isLeast (by decide)).mp hfirst
    obtain ⟨hlt, hsemicolon⟩ := List.getElem?_eq_some_iff.mp hleast.1.1
    rw [part_comment_of_isLeast number hleast, Field.isAbsent, List.drop_eq_getElem_cons hlt,
      hsemicolon, trimEnd_comment_ne_nil]
    exact iff_of_true rfl rfl

/-! ### The label -/

theorem exists_isLeast_of_label {number : Nat} (hk : (ofText raw number).kind = .label) :
    ∃ colon, IsLeast (outsideLiterals ':' raw) colon ∧ Text.indentation raw < colon ∧
      colon < codeStop raw ∧
      ((ofText raw number).part .label).text =
        Text.trim (Text.slice raw (Text.indentation raw) colon) := by
  obtain ⟨i, label, hc, hl⟩ := kind_eq_label_iff.mp hk
  have hdeclared := (in_of_content hc).declared
  rw [hl] at hdeclared
  obtain ⟨colon, hcolon, rfl⟩ := Option.map_eq_some_iff.mp hdeclared.symm
  obtain ⟨hfirst, hlt, hcode⟩ := declaringColon?_eq_some_iff.mp hcolon
  refine ⟨colon, (Text.firstUnquoted?_eq_some_iff_isLeast (by decide)).mp hfirst, hlt, hcode, ?_⟩
  rw [part_of_instruction hc]
  simp only [Instruction.label, hl, Option.getD_some]
  exact Field.text_trimmed raw _ _

/-! ### All scans of a line -/

/-- A quote is open at a column exactly when an odd number of quotes precedes it, and it is the last
of them. The line has a comment exactly when it has a semicolon at which no quote is open; the
comment is the line from the least such column on, without the blanks at its end. A declared label
is what stands between the indentation and the least colon at which no quote is open, without the
blanks at either end, and that colon stands behind the indentation and before the comment. -/
theorem scans_agree (raw : Text) (number : Nat) :
    let line := ofText raw number
    (∀ column, (line.openingQuote? column).isSome = true ↔
        (raw.take column).count '\'' % 2 = 1) ∧
      (∀ column o, line.openingQuote? column = some o →
        IsGreatest {q | q < column ∧ raw[q]? = some '\''} o) ∧
      ((line.part .comment).isAbsent = false ↔
        ∃ column, raw[column]? = some ';' ∧ line.openingQuote? column = none) ∧
      (∀ p, IsLeast {column | raw[column]? = some ';' ∧ line.openingQuote? column = none} p →
        line.part .comment =
          ⟨Text.trimEnd (raw.drop p), ⟨p, p + (Text.trimEnd (raw.drop p)).length⟩⟩) ∧
      (line.kind = .label →
        ∃ colon, IsLeast {column | raw[column]? = some ':' ∧ line.openingQuote? column = none} colon ∧
          Text.indentation raw < colon ∧
          ((line.part .comment).isAbsent = false → colon < (line.part .comment).span.start) ∧
          (line.part .label).text = Text.trim (Text.slice raw (Text.indentation raw) colon)) := by
  intro line
  have hopen : ∀ column, line.openingQuote? column = Text.openingQuote? raw column := fun column => by
    rw [openingQuote?, raw_ofText]
  simp only [hopen]
  refine ⟨fun column => Text.openingQuote?_isSome_iff,
    fun column o h => Text.isGreatest_of_openingQuote? h, comment_isAbsent_iff raw number,
    fun p h => part_comment_of_isLeast number h, fun hk => ?_⟩
  obtain ⟨colon, hleast, hlt, hcode, htext⟩ := exists_isLeast_of_label hk
  refine ⟨colon, hleast, hlt, fun hp => ?_, htext⟩
  exact Nat.lt_of_lt_of_le hcode ((cut_comment raw number).start_le hp).1

/-- A label that holds a literal with a colon and a semicolon, and a comment with a quote that is
never closed. -/
theorem scans_agree_across_literals :
    let raw : Text := "  Ü MOV 'a:;' R2: ; don't: x "
    let line := ofText raw 0
    IsGreatest {q | q < 12 ∧ raw[q]? = some '\''} 8 ∧
      line.part .comment = ⟨"; don't: x", ⟨18, 28⟩⟩ ∧
      ∃ colon, IsLeast {column | raw[column]? = some ':' ∧ line.openingQuote? column = none} colon ∧
        (line.part .label).text = Text.trim (Text.slice raw 2 colon) ∧ colon < 18 := by
  have h := scans_agree "  Ü MOV 'a:;' R2: ; don't: x " 0
  obtain ⟨-, hquote, -, hcomment, hlabel⟩ := h
  have hfirst : firstUnquoted? ';' "  Ü MOV 'a:;' R2: ; don't: x " = some 18 := by decide
  have hleast := (Text.firstUnquoted?_eq_some_iff_isLeast (by decide)).mp hfirst
  obtain ⟨colon, hcolon, -, hbefore, htext⟩ := hlabel (by decide)
  refine ⟨hquote 12 8 (by decide), ?_, colon, hcolon, htext, hbefore (by decide)⟩
  exact (hcomment 18 hleast).trans (by decide)

end AsmLens.Line
