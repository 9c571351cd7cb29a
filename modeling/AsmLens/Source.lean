import AsmLens.Text

/-!
# Where text is read from

A path leads to a file, or the system says why nothing can be read there. What the system says is passed
on as it is. Only a file whose bytes are UTF-8 can be read as text.

* `text_ofText`: a file that holds a text reads as that text.
* `text_eq_ok_iff`: nothing else reads as that text.
-/
namespace AsmLens

/-- An error of the system. It is not looked into, only shown: in a few words or in full. -/
structure SystemError where
  message : Text
  detail : Text
  deriving DecidableEq, Repr

/-- Why no text could be read. -/
inductive ReadError where
  | system (error : SystemError)
  | notUtf8
  deriving DecidableEq, Repr

/-- The wording of the reason. -/
def ReadError.message : ReadError → Text
  | system error => error.message
  | notUtf8 => "stream did not contain valid UTF-8"

/-- The reason in full. -/
def ReadError.detail : ReadError → Text
  | system error => error.detail
  | notUtf8 =>
    "Error \x7b kind: InvalidData, message: \"stream did not contain valid UTF-8\" \x7d"

/-- The report that a path could not be read. -/
structure ReadFailure where
  path : Text
  cause : ReadError
  deriving DecidableEq, Repr

/-- The wording of the report. -/
def ReadFailure.message (failure : ReadFailure) : Text :=
  "failed to read " ++ failure.path ++ ": " ++ failure.cause.message

/-- What a path leads to. -/
inductive Source where
  /-- A file with these bytes. -/
  | file (bytes : ByteArray)
  /-- Nothing that can be read, for this reason. -/
  | failing (error : SystemError)

namespace Source

/-- The file that holds the text. -/
def ofText (text : Text) : Source := .file (String.ofList text).toUTF8

/-- The text of the source. -/
def text : Source → Except ReadError Text
  | file bytes =>
    match String.fromUTF8? bytes with
    | some string => .ok string.toList
    | none => .error .notUtf8
  | failing error => .error (.system error)

/-- The text of the source that the path leads to. -/
def read (source : Source) (path : Text) : Except ReadFailure Text :=
  match source.text with
  | .ok text => .ok text
  | .error cause => .error ⟨path, cause⟩

theorem text_ofText (t : Text) : (ofText t).text = .ok t := by
  have read : String.fromUTF8? (String.ofList t).toUTF8 = some (String.ofList t) := by
    unfold String.fromUTF8?
    split
    · rfl
    · exact absurd (String.ofList t).isValidUTF8 (by assumption)
  simp only [ofText, text, read, String.toList_ofList]

theorem toUTF8_of_fromUTF8? {bytes : ByteArray} {string : String}
    (h : String.fromUTF8? bytes = some string) : string.toUTF8 = bytes := by
  unfold String.fromUTF8? at h
  split at h
  · cases h
    rfl
  · cases h

theorem text_eq_ok_iff {source : Source} {t : Text} : source.text = .ok t ↔ source = ofText t := by
  constructor
  · intro h
    cases source with
    | file bytes =>
      cases hread : String.fromUTF8? bytes with
      | none =>
        rw [text, hread] at h
        cases h
      | some string =>
        rw [text, hread] at h
        cases h
        rw [ofText, String.ofList_toList, toUTF8_of_fromUTF8? hread]
    | failing error => cases h
  · intro h
    rw [h, text_ofText]

/-- What holds no text says why. -/
theorem exists_cause {source : Source} (h : ∀ t, source ≠ ofText t) :
    ∃ cause, source.text = .error cause := by
  cases hread : source.text with
  | error cause => exact ⟨cause, rfl⟩
  | ok t => exact absurd (text_eq_ok_iff.mp hread) (h t)

end Source
end AsmLens
