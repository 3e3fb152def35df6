import Acceptor.Proofs.Run.EdgeNumbers
import Acceptor.Proofs.Spec.RowOrder
import Acceptor.Proofs.Workbench.Contents
import Acceptor.Proofs.Workbench.Task

/-!
# Workbenches that cannot be told apart

Two idle workbenches are alike if their timelines are the same automaton by automaton, where the
order of transitions does not count. Whatever is done to both, they answer alike and stay alike: a
task preserves it (`Alike.attemptTask`), and so does a sequence of tasks (`Alike.carryOutAll`). The
order shows in two places only, in the numbers of the edges of a shown run and in the order of the
rows of an exported specification. Nothing else can give away that an import was not committed
because the automaton on the workbench was the same (`indistinct_of_alike`).
-/

namespace Acceptor

/-- Runs on automata that are the same, seen under different numbers of the edges. -/
structure Playback.Alike (rename : EdgeId → EdgeId) (left right : Playback) : Prop where
  model : left.model.Same right.model
  symbols : left.symbols = right.symbols
  picture : left.picture.Renumbered rename right.picture
  coming : right.coming = left.coming.map (Frame.renumber rename)
  verdict : left.verdict = right.verdict
  finished : left.finished = right.finished
  cancelled : left.cancelled = right.cancelled
  notices : left.notices = right.notices

/-- Answers that are equal but for the numbers of the edges. -/
inductive Answer.Alike {Failure : Type} : Answer Failure → Answer Failure → Prop
  | reply (reply : Reply Failure) : Alike (.reply reply) (.reply reply)
  | watched {rename : EdgeId → EdgeId} {left right : Playback} (frames : List Frame)
      (ended : left.Alike rename right) :
      Alike (.watched frames left) (.watched (frames.map (Frame.renumber rename)) right)

theorem Playback.alike_completed {left right : Automaton} (same : left.Same right)
    (valid : left.Valid) (symbols : List Symbol) (emptyAccepts : Bool) :
    (completed left symbols emptyAccepts).Alike (Automaton.renumbering left right)
      (completed right symbols emptyAccepts) where
  model := same
  symbols := rfl
  picture := Automaton.renumbered_projection same
  coming := rfl
  verdict := congrArg some (same.check_eq valid emptyAccepts symbols)
  finished := rfl
  cancelled := rfl
  notices := congrArg (fun verdict => [some verdict]) (same.check_eq valid emptyAccepts symbols)

namespace Workbench

/-- Idle workbenches with the same limit and with timelines of valid automata that are the same in
every place. -/
structure Alike (left right : Workbench) : Prop where
  idle : left.busy = false
  idle' : right.busy = false
  limit : left.limit = right.limit
  valid : ∀ model ∈ left.timeline, model.Valid
  timeline : List.Forall₂ Automaton.Same left.timeline right.timeline

variable {Failure : Type} {left right : Workbench}

namespace Alike

theorem validModel (alike : left.Alike right) : left.model.Valid :=
  alike.valid left.model List.mem_cons_self

theorem model (alike : left.Alike right) : left.model.Same right.model :=
  (List.forall₂_cons.mp alike.timeline).1

theorem history (alike : left.Alike right) :
    List.Forall₂ Automaton.Same left.history right.history :=
  (List.forall₂_cons.mp alike.timeline).2

/-- The same automata are committed to both workbenches or to none. -/
theorem commit (alike : left.Alike right) {model model' : Automaton} (same : model.Same model')
    (valid : model.Valid) : (left.commit model).Alike (right.commit model') := by
  by_cases unchanged : model.Same left.model
  · have unchanged' := (same.congr alike.model).mp unchanged
    rw [commit_of_same unchanged, commit_of_same unchanged']
    exact alike
  · have changed' := mt (same.congr alike.model).mpr unchanged
    refine ⟨?_, ?_, ?_, ?_, ?_⟩
    · rw [busy, Workbench.commit, if_neg unchanged]
      exact alike.idle
    · rw [busy, Workbench.commit, if_neg changed']
      exact alike.idle'
    · rw [commit_limit, commit_limit, alike.limit]
    · rw [timeline_commit unchanged]
      intro shown member
      rcases List.mem_cons.mp member with rfl | earlier
      · exact valid
      · exact alike.valid shown (List.mem_of_mem_take earlier)
    · rw [timeline_commit unchanged, timeline_commit changed', ← alike.limit]
      exact .cons same (List.forall₂_take _ alike.timeline)

/-- Results of one kind, with workbenches that are alike after them. -/
def Beside {α : Type} (related : α → α → Prop) (first second : α × Workbench) : Prop :=
  related first.1 second.1 ∧ first.2.Alike second.2

/-- Workbenches that are alike are idle, so neither refuses to begin an operation. -/
theorem guarded {α : Type} {related : α → α → Prop} {next next' : Unit → Except WorkbenchError α}
    (alike : left.Alike right) (operation : Operation)
    (onward : Matching related (next ()) (next' ())) :
    Matching related (left.requireIdle operation >>= next)
      (right.requireIdle operation >>= next') := by
  rw [requireIdle_eq_ok_iff.mpr alike.idle, requireIdle_eq_ok_iff.mpr alike.idle']
  exact onward

theorem importSpec (alike : left.Alike right) (text : Option String) :
    Matching (Beside Eq) (left.importSpec text) (right.importSpec text) := by
  unfold Workbench.importSpec
  refine alike.guarded _ (.bind_same fun model read => .ok ⟨rfl, ?_⟩)
  exact alike.commit (.refl model) (Spec.orderly_of_parseInput (mapError_eq_ok_iff.mp read)).toValid

theorem reset (alike : left.Alike right) : Matching (Beside Eq) left.reset right.reset := by
  unfold Workbench.reset
  refine alike.guarded _ (.ok ⟨rfl, ?_⟩)
  exact alike.commit (.refl _) Automaton.orderly_empty.toValid

theorem addState (alike : left.Alike right) (accepting : Bool) :
    Matching (Beside Eq) (left.addState accepting) (right.addState accepting) := by
  obtain ⟨same, sameId⟩ := alike.model.addState accepting
  unfold Workbench.addState
  exact alike.guarded _ (.ok ⟨sameId, alike.commit same (alike.validModel.addState accepting)⟩)

theorem addTransition (alike : left.Alike right) (source target : StateId) (symbol : Symbol) :
    Matching Alike (left.addTransition source target symbol)
      (right.addTransition source target symbol) := by
  have edited := alike.model.addTransition alike.validModel source target symbol
  unfold Workbench.addTransition
  refine alike.guarded _ ?_
  refine (edited.mapError WorkbenchError.automaton).bind fun model model' added same => ?_
  exact .ok (alike.commit same (alike.validModel.addTransition (mapError_eq_ok_iff.mp added)))

theorem setAccepting (alike : left.Alike right) (id : StateId) (accepting : Bool) :
    Matching Alike (left.setAccepting id accepting) (right.setAccepting id accepting) := by
  have edited := alike.model.setAccepting id accepting
  unfold Workbench.setAccepting
  refine alike.guarded _ ?_
  refine (edited.mapError WorkbenchError.automaton).bind fun model model' set same => ?_
  have shape := Automaton.sameShape_of_setAccepting (mapError_eq_ok_iff.mp set)
  exact .ok (alike.commit same (alike.validModel.of_sameShape shape))

theorem undo (alike : left.Alike right) : Matching (Beside Eq) left.undo right.undo := by
  unfold Workbench.undo
  refine alike.guarded _ ?_
  have earlier := alike.history
  cases history : left.history with
  | nil =>
    rw [history] at earlier
    rw [List.forall₂_nil_left_iff.mp earlier]
    exact .ok ⟨rfl, alike⟩
  | cons model rest =>
    rw [history] at earlier
    obtain ⟨model', rest', same, others, history'⟩ := List.forall₂_cons_left_iff.mp earlier
    rw [history']
    have valid : ∀ shown ∈ model :: rest, shown.Valid := by
      rw [← history]
      exact fun shown member => alike.valid shown (List.mem_cons_of_mem _ member)
    exact .ok ⟨rfl, alike.idle, alike.idle', alike.limit, valid, .cons same others⟩

/-- What is asked of alike workbenches is answered equally. -/
theorem attempt (alike : left.Alike right) {command : Command Failure}
    (direct : command.isDirect = true) :
    Matching (Beside Eq) (left.attempt command) (right.attempt command) := by
  cases command with
  | importSpec text =>
    exact (alike.importSpec text).map fun _ _ both => ⟨congrArg Reply.model both.1, both.2⟩
  | loadDefault =>
    exact (alike.importSpec _).map fun _ _ both => ⟨congrArg Reply.model both.1, both.2⟩
  | reset => exact alike.reset.map fun _ _ both => ⟨congrArg Reply.model both.1, both.2⟩
  | addState accepting =>
    exact (alike.addState accepting).map fun _ _ both => ⟨congrArg Reply.id both.1, both.2⟩
  | addTransition source target symbol =>
    exact (alike.addTransition source target symbol).map fun _ _ after => ⟨rfl, after⟩
  | setAccepting id accepting =>
    exact (alike.setAccepting id accepting).map fun _ _ after => ⟨rfl, after⟩
  | acceptStart =>
    unfold Workbench.attempt Workbench.acceptStart
    rw [alike.model.initial]
    exact (alike.setAccepting _ true).map fun _ _ after => ⟨rfl, after⟩
  | undo => exact alike.undo.map fun _ _ both => ⟨congrArg Reply.flag both.1, both.2⟩
  | check text =>
    exact .ok ⟨congrArg Reply.verdict (alike.model.check_eq alike.validModel _ _), alike⟩
  | reimport | exportSpec | startRun text | onRun number command => cases direct

/-- A run that is shown completely changes nothing that counts for being alike. -/
theorem watch (alike : left.Alike right) (text : Option String) :
    ∃ frames run run' after after', left.watch text = .ok ((frames, run), after) ∧
      right.watch text =
        .ok ((frames.map (Frame.renumber (Automaton.renumbering left.model right.model)), run'),
          after') ∧
      run.Alike (Automaton.renumbering left.model right.model) run' ∧ after.Alike after' := by
  have valid := alike.validModel
  have shown := watch_of_idle alike.idle valid text
  have shown' := watch_of_idle alike.idle' (valid.of_same alike.model) text
  rw [Automaton.frames_of_same alike.model valid] at shown'
  exact ⟨_, _, _, _, _, shown, shown', Playback.alike_completed alike.model valid _ _,
    alike.idle, alike.idle', alike.limit, alike.valid, alike.timeline⟩

/-- A task is refused by both workbenches, or answered alike by both. -/
theorem attemptTask (alike : left.Alike right) (task : Task Failure) :
    Matching (Beside Answer.Alike) (left.attemptTask task) (right.attemptTask task) := by
  cases task with
  | follow command direct =>
    refine (alike.attempt direct).map ?_
    rintro ⟨reply, after⟩ ⟨_, after'⟩ ⟨rfl, alike'⟩
    exact ⟨.reply reply, alike'⟩
  | watch text =>
    obtain ⟨frames, run, run', after, after', shown, shown', ended, alike'⟩ := alike.watch text
    simp only [Workbench.attemptTask, shown, shown']
    exact .ok ⟨.watched frames ended, alike'⟩

theorem carryOut (alike : left.Alike right) (task : Task Failure) :
    Matching Answer.Alike (left.carryOut task).1 (right.carryOut task).1 ∧
      (left.carryOut task).2.Alike (right.carryOut task).2 := by
  have matching := alike.attemptTask task
  unfold Workbench.carryOut
  generalize left.attemptTask task = first at matching
  generalize right.attemptTask task = second at matching
  cases matching with
  | ok both => exact ⟨.ok both.1, both.2⟩
  | error error => exact ⟨.error error, alike⟩

/-- Sequences of tasks have matching outcomes. -/
theorem carryOutAll (alike : left.Alike right) (tasks : List (Task Failure)) :
    List.Forall₂ (Matching Answer.Alike) (left.carryOutAll tasks).1 (right.carryOutAll tasks).1 ∧
      (left.carryOutAll tasks).2.Alike (right.carryOutAll tasks).2 := by
  induction tasks generalizing left right with
  | nil => exact ⟨.nil, alike⟩
  | cons task rest inductionHypothesis =>
    obtain ⟨here, after⟩ := alike.carryOut task
    obtain ⟨later, last⟩ := inductionHypothesis after
    exact ⟨.cons here later, last⟩

/-- The exported specifications differ in the order of the rows. -/
theorem exportSpec (alike : left.Alike right) :
    ∃ rows rows' text text',
      left.model.transitions.mapM (Spec.writeTransition left.model) = .ok rows ∧
      right.model.transitions.mapM (Spec.writeTransition right.model) = .ok rows' ∧
      left.exportSpec = .ok text ∧ right.exportSpec = .ok text' ∧
      Spec.Rearranged rows rows' text text' := by
  obtain ⟨rows, rows', text, text', written, written', exported, exported', rearranged⟩ :=
    Spec.write_of_same alike.validModel alike.model
  exact ⟨rows, rows', text, text', written, written', mapError_eq_ok_iff.mpr exported,
    mapError_eq_ok_iff.mpr exported', rearranged⟩

end Alike

/-- Tasks do not tell two workbenches apart: their outcomes match, the workbenches are alike after
them, and the specifications exported then are the same lines with the rows in another order. -/
structure Indistinct (left right : Workbench) (tasks : List (Task Failure)) : Prop where
  outcomes : List.Forall₂ (Matching Answer.Alike) (left.carryOutAll tasks).1
    (right.carryOutAll tasks).1
  after : (left.carryOutAll tasks).2.Alike (right.carryOutAll tasks).2
  exported : ∃ rows rows' text text',
    (left.carryOutAll tasks).2.model.transitions.mapM
        (Spec.writeTransition (left.carryOutAll tasks).2.model) = .ok rows ∧
      (right.carryOutAll tasks).2.model.transitions.mapM
        (Spec.writeTransition (right.carryOutAll tasks).2.model) = .ok rows' ∧
      (left.carryOutAll tasks).2.exportSpec = .ok text ∧
      (right.carryOutAll tasks).2.exportSpec = .ok text' ∧ Spec.Rearranged rows rows' text text'

theorem Alike.indistinct (alike : left.Alike right) (tasks : List (Task Failure)) :
    Indistinct left right tasks where
  outcomes := (alike.carryOutAll tasks).1
  after := (alike.carryOutAll tasks).2
  exported := (alike.carryOutAll tasks).2.exportSpec

/-- A workbench is like the one on which an automaton that is the same takes the place of its
own. -/
theorem Alike.replace (alike : left.Alike right) {model : Automaton}
    (same : model.Same left.model) : left.Alike { left with model := model } where
  idle := alike.idle
  idle' := alike.idle
  limit := rfl
  valid := alike.valid
  timeline := .cons same.symm (List.forall₂_same.mpr fun earlier _ => .refl earlier)

/-- Workbenches that are alike cannot be told apart by any tasks. In particular, when an automaton
is imported that is the same as the one on the workbench, nothing is committed, and it cannot be
told that the imported one did not take its place. -/
theorem indistinct_of_alike (alike : left.Alike right) (tasks : List (Task Failure)) :
    Indistinct left right tasks ∧
      ∀ text model after, left.importSpec text = .ok (model, after) → model.Same left.model →
        after = left ∧ Indistinct after { left with model := model } tasks := by
  refine ⟨alike.indistinct tasks, fun text model after imported same => ?_⟩
  obtain ⟨-, -, rfl⟩ := importSpec_eq_ok_iff.mp imported
  rw [commit_of_same same]
  exact ⟨rfl, (alike.replace same).indistinct tasks⟩

/-- A workbench with two automata on it that have the same two states. -/
def evenOdd (transitions earlier : List Transition) : Workbench :=
  let linked (transitions : List Transition) : Automaton :=
    ⟨[⟨1, "Even", true⟩, ⟨2, "Odd", false⟩], ["a", "b"], transitions, 1⟩
  ⟨linked transitions, [linked earlier], 1, [], none⟩

/-- A conflict, a run, an automaton that pushes the oldest one out, and two steps back. -/
def errands : List (Task Unit) :=
  [.follow (.addTransition 1 2 "b") rfl, .watch (some "baa"), .follow (.addState false) rfl,
    .follow .undo rfl, .follow .undo rfl, .watch (some "a")]

/-- Two orders of the transitions number the edges differently, and no errands tell them apart. Nor
do they tell whether the import of the one has replaced the other. -/
theorem indistinct_of_orders :
    let left := evenOdd [⟨1, "a", 2⟩, ⟨2, "a", 1⟩, ⟨1, "b", 1⟩] [⟨1, "a", 2⟩, ⟨2, "a", 1⟩]
    let right := evenOdd [⟨1, "b", 1⟩, ⟨2, "a", 1⟩, ⟨1, "a", 2⟩] [⟨2, "a", 1⟩, ⟨1, "a", 2⟩]
    left.Alike right ∧ left.model.edgeNumber (1, 2) ≠ right.model.edgeNumber (1, 2) ∧
      Indistinct left right errands ∧
      ∃ text, left.importSpec (some text) = .ok (right.model, left) ∧
        Indistinct left { left with model := right.model } errands := by
  intro left right
  have accepted : Automaton.ofParts left.model.states left.model.alphabet left.model.transitions
      left.model.initial = .ok left.model := rfl
  have acceptedEarlier : Automaton.ofParts left.model.states left.model.alphabet
      [⟨1, "a", 2⟩, ⟨2, "a", 1⟩] left.model.initial =
        .ok { left.model with transitions := [⟨1, "a", 2⟩, ⟨2, "a", 1⟩] } := rfl
  have same : left.model.Same right.model := by decide
  have alike : left.Alike right := by
    refine ⟨rfl, rfl, rfl, ?_, .cons same (.cons ?_ .nil)⟩
    · refine List.forall_mem_cons.mpr ⟨Automaton.valid_of_ofParts accepted, ?_⟩
      refine List.forall_mem_cons.mpr ⟨Automaton.valid_of_ofParts acceptedEarlier, ?_⟩
      exact fun _ nothing => absurd nothing List.not_mem_nil
    · decide
  have valid := alike.validModel.of_same same
  obtain ⟨text, -, spells⟩ := Spec.write_spells valid
  have read := Spec.parse_of_spells (by decide) valid spells
  have imported : left.importSpec (some text) = .ok (right.model, left.commit right.model) :=
    importSpec_eq_ok_iff.mpr ⟨rfl, read, rfl⟩
  obtain ⟨indistinct, unnoticed⟩ := indistinct_of_alike alike errands
  obtain ⟨unchanged, indistinct'⟩ := unnoticed _ _ _ imported same.symm
  rw [unchanged] at imported indistinct'
  exact ⟨alike, by decide, indistinct, text, imported, indistinct'⟩

end Workbench

end Acceptor
