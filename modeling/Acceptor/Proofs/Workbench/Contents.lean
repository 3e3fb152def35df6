import Acceptor.Proofs.Automaton.Editing
import Acceptor.Proofs.Spec.RoundTrip
import Acceptor.Proofs.Workbench.History

/-!
# The automata on a workbench

Whatever is put on a workbench has been read, is the empty automaton or comes from an edit, and all
three preserve being valid and being orderly. A workbench that starts from an orderly automaton
therefore has orderly ones only, on it and in its history, and what it exports can be imported
again without any effect.
-/

namespace Acceptor

/-- What is read is valid and canonical. -/
theorem Spec.orderly_of_parse {text : String} {model : Automaton}
    (read : parse text = .ok model) : model.Orderly := by
  refine ⟨?_, canonical_of_parse read⟩
  obtain ⟨described, listed, rfl⟩ := parse_eq_ok_iff_listingOf.mp read
  exact (build_of_listingOf listed).1.valid

theorem Spec.orderly_of_parseInput {text : Option String} {model : Automaton}
    (read : parseInput text = .ok model) : model.Orderly := by
  cases text with
  | none => cases read
  | some text => exact orderly_of_parse read

/-- Operations make valid automata of valid ones. -/
theorem Made.valid {model next : Automaton} (made : Made model next) (valid : model.Valid) :
    next.Valid := by
  cases made with
  | read parsed => exact (Spec.orderly_of_parseInput parsed).toValid
  | empty => exact Automaton.orderly_empty.toValid
  | stateAdded accepting => exact valid.addState accepting
  | transitionAdded added => exact valid.addTransition added
  | acceptingSet set => exact valid.of_sameShape (Automaton.sameShape_of_setAccepting set)

/-- Operations make orderly automata of orderly ones. -/
theorem Made.orderly {model next : Automaton} (made : Made model next) (orderly : model.Orderly) :
    next.Orderly := by
  cases made with
  | read parsed => exact Spec.orderly_of_parseInput parsed
  | empty => exact Automaton.orderly_empty
  | stateAdded accepting => exact orderly.addState accepting
  | transitionAdded added => exact orderly.addTransition added
  | acceptingSet set => exact orderly.setAccepting set

namespace Workbench

variable {Failure : Type} {bench : Workbench}

/-- The timeline of a new workbench is the automaton it was given, the empty one without any. -/
theorem timeline_of_create {model : Option Automaton} {limit : Option Int}
    (created : create model limit = .ok bench) :
    bench.timeline = [model.getD Automaton.empty] := by
  obtain ⟨most, -, rfl⟩ := map_eq_ok_iff.mp created
  rfl

/-- A property that operations preserve holds of all automata on a workbench, if it holds of the
empty automaton and of the one the workbench started with. -/
theorem forall_mem_timeline {property : Automaton → Prop}
    (preserved : ∀ model next, Made model next → property model → property next)
    {model : Option Automaton} {limit : Option Int} (created : create model limit = .ok bench)
    (empty : property Automaton.empty) (given : ∀ first ∈ model, property first)
    (commands : List (Command Failure)) :
    ∀ shown ∈ (bench.performAll commands).timeline, property shown := by
  refine timeline_induction property preserved commands fun shown member => ?_
  rw [timeline_of_create created, List.mem_singleton] at member
  subst member
  cases model with
  | none => exact empty
  | some first => exact given first rfl

/-- An orderly automaton is written as a text that specifies it. -/
theorem exists_exported (orderly : bench.model.Orderly) :
    ∃ text, bench.exportSpec = .ok text ∧ Spec.parse text = .ok bench.model := by
  obtain ⟨text, written, spells⟩ := Spec.write_spells orderly.toValid
  refine ⟨text, mapError_eq_ok_iff.mpr written, ?_⟩
  exact Spec.parse_of_spells orderly.toCanonical orderly.toValid spells

/-- In every state of a workbench that started from the empty automaton or from one that was read,
all automata on it are orderly. The specification that it exports can be imported again, which gives
the automaton on the workbench and changes nothing. -/
theorem reimport_of_performAll {model : Option Automaton} {limit : Option Int} {start : Workbench}
    (given : ∀ first ∈ model, first = Automaton.empty ∨ ∃ text, Spec.parse text = .ok first)
    (created : create model limit = .ok start) (commands : List (Command Failure))
    (reached : start.performAll commands = bench) :
    (∀ shown ∈ bench.model :: bench.history, shown.Canonical ∧ shown.Valid) ∧
      ∃ text, bench.exportSpec = .ok text ∧
        (bench.busy = false → bench.importSpec (some text) = .ok (bench.model, bench)) := by
  have orderly : ∀ shown ∈ bench.timeline, shown.Orderly := by
    subst reached
    refine forall_mem_timeline (fun _ _ made => made.orderly) created Automaton.orderly_empty
      (fun first member => ?_) commands
    rcases given first member with rfl | ⟨text, read⟩
    · exact Automaton.orderly_empty
    · exact Spec.orderly_of_parse read
  refine ⟨fun shown member => ?_, ?_⟩
  · exact ⟨(orderly shown member).toCanonical, (orderly shown member).toValid⟩
  · obtain ⟨text, exported, read⟩ := exists_exported (orderly bench.model List.mem_cons_self)
    refine ⟨text, exported, fun idle => importSpec_eq_ok_iff.mpr ⟨idle, read, ?_⟩⟩
    exact (commit_of_same (.refl bench.model)).symm

/-- Edits of an automaton with two states, of which one is refused for its symbol and one for a run
that is on its way. -/
def revised : List (Command Unit) :=
  [.addState true, .addTransition 3 1 "it's #1", .addTransition 3 1 "", .startRun (some "é"),
    .reset, .onRun 0 .close, .acceptStart]

/-- After edits of an automaton that was read, its specification is imported without effect. -/
theorem reimport_of_revised :
    ∃ start, create (some (Spec.signed 1 2)) none = .ok start ∧
      (start.performAll revised).timeline.length = 3 ∧
      (start.performAll revised).model.states.length = 3 ∧
      ∃ text, (start.performAll revised).exportSpec = .ok text ∧
        (start.performAll revised).importSpec (some text) =
          .ok ((start.performAll revised).model, start.performAll revised) := by
  have accepted : Automaton.ofParts (Spec.signed 1 2).states (Spec.signed 1 2).alphabet
      (Spec.signed 1 2).transitions (Spec.signed 1 2).initial = .ok (Spec.signed 1 2) := rfl
  have valid := Automaton.valid_of_ofParts accepted
  obtain ⟨text, -, spells⟩ := Spec.write_spells valid
  have read := Spec.parse_of_spells (by decide) valid spells
  have created : create (some (Spec.signed 1 2)) none =
      .ok ⟨Spec.signed 1 2, [], standardLimit, [], none⟩ := rfl
  have given : ∀ first ∈ some (Spec.signed 1 2),
      first = Automaton.empty ∨ ∃ text, Spec.parse text = .ok first := by
    rintro first ⟨⟩
    exact .inr ⟨text, read⟩
  obtain ⟨-, exported, written, imports⟩ := reimport_of_performAll given created revised rfl
  exact ⟨_, created, rfl, rfl, exported, written, imports rfl⟩

end Workbench

end Acceptor
