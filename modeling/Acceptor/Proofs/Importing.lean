import Acceptor.CommandLine.Execution
import Acceptor.Page.Visit
import Acceptor.Proofs.Spec.Language
import Acceptor.Proofs.Workbench.Change

/-!
# Importing a specification

A text can be refused by its reader only. An automaton can be refused as well, for a text that is no
literal, for repeated or missing states, for unknown ones and for conflicting transitions, but never
the one that has been read from a text: the description that it is built from is coherent
(`Spec.build_of_listingOf`). The refusals of an import are therefore a busy workbench and the
reader's, and these are what the front ends report. What a command does once its specification is
imported is not spoken about here.
-/

namespace Acceptor

/-- The refusals of importing a text: a run is on its way, or the text cannot be read. -/
inductive ImportRefusal (text : String) : WorkbenchError → Prop where
  | busy : ImportRefusal text (.busy .importSpec)
  | unreadable {error} (refused : Spec.parse text = .error (.reading error)) :
      ImportRefusal text (.spec (.reading error))

/-- Front ends report all refusals of an import. -/
theorem ImportRefusal.isReported {text : String} {refusal : WorkbenchError}
    (importRefusal : ImportRefusal text refusal) : refusal.isReported = true := by
  cases importRefusal <;> rfl

namespace Workbench

variable {bench : Workbench} {text : String}

/-- An idle workbench passes on the refusal of the reader. -/
theorem importSpec_of_unreadable {error : Spec.ReadError} (idle : bench.busy = false)
    (unread : Spec.parse text = .error (.reading error)) :
    bench.importSpec (some text) = .error (.spec (.reading error)) := by
  rw [importSpec, requireIdle_eq_ok_iff.mpr idle, Spec.parseInput, unread]
  rfl

/-- A workbench refuses to import a text for one of these reasons. -/
theorem importRefusal_of_importSpec {refusal : WorkbenchError}
    (refused : bench.importSpec (some text) = .error refusal) : ImportRefusal text refusal := by
  cases busy : bench.busy with
  | true =>
    rw [importSpec, requireIdle_of_busy busy] at refused
    obtain rfl := Except.error.inj refused
    exact .busy
  | false =>
    rcases Spec.parse_ok_or_reading text with ⟨model, read⟩ | ⟨error, unread⟩
    · have imported : bench.importSpec (some text) = .ok (model, bench.commit model) :=
        importSpec_eq_ok_iff.mpr ⟨busy, read, rfl⟩
      rw [imported] at refused
      cases refused
    · rw [importSpec_of_unreadable busy unread] at refused
      obtain rfl := Except.error.inj refused
      exact .unreadable unread

end Workbench

namespace CommandLine

/-- The workbench that a command starts with. -/
def newBench : Workbench :=
  ⟨Automaton.empty, [], Workbench.standardLimit, [], none⟩

/-- A request on a text that cannot be read ends with a complaint about it and prints nothing. -/
theorem conclude_of_unreadable {text : String} {error : Spec.ReadError}
    (unread : Spec.parse text = .error (.reading error)) (request : Request) :
    conclude request (.ok text) = .finished ⟨1, [], some error.message⟩ := by
  have failed : execute request (.ok text) = .error (.workbench (.spec (.reading error))) := by
    change (newBench.importSpec (some text)).mapError Failure.workbench >>= _ = _
    rw [Workbench.importSpec_of_unreadable rfl unread]
    rfl
  rw [conclude, failed]
  rfl

/-- A command line whose specification cannot be read ends with a complaint about it and prints
nothing. -/
theorem run_of_unreadable {surroundings : Surroundings} {args : List String} {request : Request}
    {text : String} {error : Spec.ReadError} (requested : requestOf args = .ok request)
    (read : surroundings.read request.spec = .ok text)
    (unread : Spec.parse text = .error (.reading error)) :
    run surroundings args = .finished ⟨1, [], some error.message⟩ := by
  unfold run
  simp only [requested, read, conclude_of_unreadable unread]

end CommandLine

namespace Page

variable {session : Session} {refusal : WorkbenchError}

/-- A report passes on the refusal of an import, with the text that it was about. -/
theorem Session.importRefusal_of_report {text : String}
    (refused : (session.report ((session.bench.importSpec (some text)).map (·.2))).2 =
      some refusal) : ImportRefusal text refusal := by
  cases imported : session.bench.importSpec (some text) with
  | ok answer =>
    rw [imported] at refused
    cases refused
  | error error =>
    rw [imported] at refused
    obtain rfl := Option.some.inj refused
    exact Workbench.importRefusal_of_importSpec imported

/-- A report leaves the text area as it is. -/
@[simp]
theorem Session.report_specText (session : Session) (result : Except WorkbenchError Workbench) :
    (session.report result).1.specText = session.specText := by
  cases result <;> rfl

/-- What the import buttons of a page are refused is an import of the text that stands in the text
area from then on. -/
theorem Session.importRefusal_of_callback {toolkit : Toolkit} {entry : Entry} {due : Bool}
    (refused : (session.callback toolkit entry due).refusal = some refusal) :
    ImportRefusal (session.callback toolkit entry due).session.specText refusal := by
  unfold callback at refused ⊢
  split_ifs at refused ⊢ with builds loads
  · rw [buildFromSpec, report_specText]
    exact importRefusal_of_report refused
  · rw [loadDefault, report_specText]
    exact importRefusal_of_report refused

end Page

/-- A text is imported or refused in a way that the front ends handle. -/
structure Handled (text : String) : Prop where
  /-- A text is read as an automaton or refused by the reader, -/
  outcome : (∃ model, Spec.parse text = .ok model) ∨
    ∃ error, Spec.parse text = .error (.reading error)
  /-- because the automaton that is described in it can be built. -/
  builds : ∀ described, Spec.listingOf (Spec.tokens text) = .ok described →
    described.build = .ok described.automaton
  /-- A workbench refuses it for being busy or for the reader's reason. -/
  workbench : ∀ (bench : Workbench) refusal, bench.importSpec (some text) = .error refusal →
    refusal.isReported = true ∧ ImportRefusal text refusal
  /-- A command line complains about a text that it has been given and that is refused, -/
  commandLine : ∀ surroundings args request error,
    CommandLine.requestOf args = .ok request → surroundings.read request.spec = .ok text →
      Spec.parse text = .error error →
        CommandLine.run surroundings args = .finished ⟨1, [], some error.message⟩
  /-- and a page shows the refusal of the text in its text area, whenever its toolkit makes the
  callback. -/
  page : ∀ (session : Page.Session) toolkit entry,
    ∀ called ∈ [(session.stages toolkit entry).early, (session.stages toolkit entry).late],
      ∀ refusal, called.session.specText = text → called.refusal = some refusal →
        refusal.isReported = true ∧ ImportRefusal text refusal

/-- Every text is handled: no refusal comes from building its automaton, so the ones that front ends
report are all there are. -/
theorem handled (text : String) : Handled text where
  outcome := Spec.parse_ok_or_reading text
  builds := fun described read => (Spec.build_of_listingOf read).2.2
  workbench := by
    intro bench refusal refused
    have importRefusal := Workbench.importRefusal_of_importSpec refused
    exact ⟨importRefusal.isReported, importRefusal⟩
  commandLine := by
    intro surroundings args request error requested read refused
    rcases Spec.parse_ok_or_reading text with ⟨model, parsed⟩ | ⟨reading, unread⟩
    · rw [parsed] at refused
      cases refused
    · rw [unread] at refused
      obtain rfl := Except.error.inj refused
      exact CommandLine.run_of_unreadable requested read unread
  page := by
    rintro session toolkit entry called member refusal rfl refused
    have importRefusal : ImportRefusal called.session.specText refusal := by
      rcases List.mem_pair.mp member with rfl | rfl
      · exact Page.Session.importRefusal_of_callback refused
      · exact Page.Session.importRefusal_of_callback refused
    exact ⟨importRefusal.isReported, importRefusal⟩

end Acceptor
