import Acceptor.Proofs.Importing
import Acceptor.Proofs.Run.Driving
import Acceptor.Proofs.Run.Naming
import Acceptor.Proofs.Workbench.Contents
import Acceptor.Proofs.Workbench.Lock

/-!
# Checked and animated inputs

One command checks inputs in a loop, another one shows a single run frame by frame and is told its
verdict at the end. They agree, because the run comes to the verdict of the check and nothing is
refused on the way: all states that are shown are known, so that every line can be written. What a
command prints depends on the text of its specification and on the values it was given, and not on
where the text comes from (`Asks.run_eq`).

Nothing is said about an option for a delay that was given without a number.
-/

namespace Acceptor

namespace Automaton

variable {model : Automaton} {done steps : List Transition}

/-- The frames of transitions stand at their ends. -/
theorem state_of_mem_story {frame : Frame} (member : frame ∈ model.story done steps) :
    ∃ step ∈ steps, frame.state = step.source ∨ frame.state = step.target := by
  induction steps generalizing done with
  | nil => cases member
  | cons step rest inductionHypothesis =>
    rw [story, List.mem_cons, List.mem_cons] at member
    rcases member with rfl | rfl | later
    · exact ⟨step, List.mem_cons_self, .inl rfl⟩
    · exact ⟨step, List.mem_cons_self, .inr rfl⟩
    · obtain ⟨other, there, stands⟩ := inductionHypothesis later
      exact ⟨other, List.mem_cons_of_mem _ there, stands⟩

/-- The frames of a run stand at states of its automaton. -/
theorem state_of_mem_frames (valid : model.Valid) {emptyAccepts : Bool} {symbols : List Symbol}
    {frame : Frame} (member : frame ∈ model.frames model.projection emptyAccepts symbols) :
    frame.state ∈ model.ids := by
  obtain ⟨left, concluded⟩ := model.exists_concluded_check emptyAccepts symbols
  have within := Verdict.within_check valid emptyAccepts symbols
  rw [frames_eq valid concluded] at member
  rcases List.mem_append.mp member with earlier | last
  · rcases List.mem_cons.mp earlier with rfl | told
    · exact valid.initialKnown
    · obtain ⟨step, taken, source | target⟩ := state_of_mem_story told
      · exact source ▸ (within.steps step taken).1
      · exact target ▸ (within.steps step taken).2
  · obtain rfl := List.mem_singleton.mp last
    exact within.state

end Automaton

namespace CommandLine

variable {bench : Workbench} {text : String} {model : Automaton}

/-- A command line asks for something about a text. -/
structure Asks (surroundings : Surroundings) (args : List String) (request : Request)
    (text : String) : Prop where
  requested : requestOf args = .ok request
  read : surroundings.read request.spec = .ok text

/-- A command line ends as its request does on the text that it is about. -/
theorem Asks.run_eq {surroundings : Surroundings} {args : List String} {request : Request}
    (asks : Asks surroundings args request text) :
    run surroundings args = conclude request (.ok text) := by
  rw [run]
  simp only [asks.requested, asks.read]

/-- What is put on a new workbench is there afterwards, also if it is the empty automaton, which has
no transitions that could stand in another order. -/
theorem commit_newBench (model : Automaton) : (newBench.commit model).model = model := by
  unfold Workbench.commit
  split
  · next same =>
    obtain ⟨states, alphabet, transitions, initial⟩ := same
    cases model
    simp_all [newBench, Automaton.empty, Automaton.withStart]
  · rfl

/-- Two inputs are checked with the text on standard input. -/
example (text : String) (folder : Folder) :
    Asks ⟨text, folder⟩ ["check", "-", "A", "CA"] (.check .standardInput ["A", "CA"])
      (Text.unifyLineEnds text) :=
  ⟨by decide, rfl⟩

/-- A request on a text that specifies an automaton is carried out on a workbench that holds the
automaton. -/
theorem execute_of_parse (read : Spec.parse text = .ok model) (request : Request) :
    execute request (.ok text) = carryOut (newBench.commit model) request := by
  have imported : newBench.importSpec (some text) = .ok (model, newBench.commit model) :=
    Workbench.importSpec_eq_ok_iff.mpr ⟨rfl, read, rfl⟩
  change (newBench.importSpec (some text)).mapError Failure.workbench >>= _ = _
  rw [imported]
  rfl

/-- Every input of a valid automaton has its line. -/
theorem exists_checkLine (valid : bench.model.Valid) (input : String) :
    ∃ line, checkLine bench input =
      .ok (line, (bench.check (some input)).accepted) := by
  have within : (bench.check (some input)).Within bench.model :=
    Verdict.within_check valid _ _
  unfold checkLine
  cases accepted : (bench.check (some input)).accepted with
  | true =>
    simp only [accepted, if_true, Automaton.label_of_known within.state]
    exact ⟨_, rfl⟩
  | false =>
    obtain ⟨sentence, described⟩ := within.exists_describe
    simp only [accepted, described]
    exact ⟨_, rfl⟩

/-- Every event of a run on a valid automaton has its output. -/
theorem exists_eventOutput {event : DriveEvent}
    (known : ∀ frame, event.frame? = some frame → frame.state ∈ model.ids) :
    ∃ output, eventOutput model event = .ok output := by
  cases event with
  | wait delay => exact ⟨_, rfl⟩
  | frame frame =>
    rw [eventOutput, frameLine, Automaton.label_of_known (known frame rfl)]
    exact ⟨_, rfl⟩

/-- Checking inputs reports a line for each, and whether all of them are accepted. -/
theorem exists_reportCheck (valid : bench.model.Valid) :
    ∃ lineOf : String → String, ∀ inputs, reportCheck bench inputs =
      .ok ⟨exitCodeFor (inputs.all fun input => (bench.check (some input)).accepted),
        inputs.map fun input => .line (lineOf input), none⟩ := by
  choose lineOf lines using exists_checkLine valid
  refine ⟨lineOf, fun inputs => bind_eq_ok_iff.mpr ⟨inputs.map fun input =>
    (lineOf input, (bench.check (some input)).accepted), ?_, ?_⟩⟩
  · rw [mapM_eq_ok_iff, List.map_map]
    exact List.map_congr_left fun input _ => lines input
  · simp [List.all_map, List.map_map, Function.comp_def, pure, Except.pure]

/-- A receiver that only takes frames is handed all of them, up to the one with the verdict. -/
theorem drive_plainReceiver (valid : model.Valid) (symbols : List Symbol) (emptyAccepts : Bool)
    (delay : Delay) :
    let driven := (Playback.start model symbols emptyAccepts).drive plainReceiver delay
    (∀ frame ∈ driven.frames, frame.state ∈ model.ids) ∧
      driven.result = .ok (some (model.check emptyAccepts symbols)) := by
  intro driven
  have handed : HandedOver (model.frames model.projection emptyAccepts symbols) []
      (model.check emptyAccepts symbols) (Playback.start model symbols emptyAccepts) plainReceiver
      delay driven :=
    Playback.handedOver_of_afterSteps valid symbols emptyAccepts [] plainReceiver delay
  refine ⟨fun frame member => ?_, ?_⟩
  · exact Automaton.state_of_mem_frames valid (handed.onward.subset member)
  · obtain ⟨earlier, last, frames, -, ends⟩ := handed.upToEnd rfl
    have terminal : last.terminal = true := by
      simpa [Frame.Ends, plainReceiver, Reaction.takes] using ends
    rw [handed.returned fun _ _ => rfl, handed.decided, if_pos]
    simp [frames, terminal]

/-- A run that is shown to its end comes to the verdict of the check, and everything that happens on
the way can be printed. -/
theorem exists_reportAnimate (valid : bench.model.Valid) (idle : bench.busy = false)
    (input : String) (delay : Delay) :
    ∃ earlier description, (bench.check (some input)).describe bench.model = .ok description ∧
      reportAnimate bench input delay = .ok
        ⟨exitCodeFor (bench.check (some input)).accepted, earlier ++ [.line description],
          none⟩ := by
  have within : (bench.check (some input)).Within bench.model := Verdict.within_check valid _ _
  obtain ⟨description, described⟩ := within.exists_describe
  obtain ⟨known, result⟩ :=
    drive_plainReceiver valid (inputSymbols input) Automaton.emptyInputAccepted delay
  have started : bench.startRun (some input) = .ok (Playback.start bench.model
      (inputSymbols input) Automaton.emptyInputAccepted, _) :=
    Workbench.startRun_eq_ok_iff.mpr ⟨idle, rfl, rfl⟩
  generalize Playback.start bench.model _ _ = run at known result started
  have printable : ∀ event ∈ (run.drive plainReceiver delay).events,
      ∃ output, eventOutput bench.model event = .ok output := fun event member =>
    exists_eventOutput fun frame here => known frame (List.mem_filterMap.mpr ⟨event, member, here⟩)
  obtain ⟨earlier, shown⟩ := exists_mapM_eq_ok printable
  refine ⟨earlier, description, described, bind_eq_ok_iff.mpr ⟨_, started, ?_⟩⟩
  refine bind_eq_ok_iff.mpr ⟨earlier, mapError_eq_ok_iff.mpr shown, ?_⟩
  simp only [result]
  exact bind_eq_ok_iff.mpr ⟨description, mapError_eq_ok_iff.mpr described, rfl⟩

/-- What checking an input and showing its run have in common. -/
structure SameVerdict (model : Automaton) (input : String) (checked shown : Report) : Prop where
  exitCodes : shown.exitCode = checked.exitCode
  /-- The exit code tells the verdict, and there is never an error. -/
  decided : checked.exitCode = 0 ∨ checked.exitCode = 2
  uncomplaining : checked.complaint = none ∧ shown.complaint = none
  /-- The last line of the run is the sentence about the verdict of the check. -/
  sentence : ∃ earlier description,
    (model.check Automaton.emptyInputAccepted (inputSymbols input)).describe model =
      .ok description ∧ shown.outputs = earlier ++ [.line description]

/-- What checking several inputs amounts to, in terms of checking each on its own. -/
structure Collects (report : Report) (singles : List Report) : Prop where
  accepted : report.exitCode = 0 ↔ ∀ single ∈ singles, single.exitCode = 0
  decided : report.exitCode = 0 ∨ report.exitCode = 2
  uncomplaining : report.complaint = none
  standardOutput : report.standardOutput = String.join (singles.map Report.standardOutput)

/-- How command lines that are about one text go together. -/
structure Agreement (text : String) : Prop where
  /-- Where the text comes from does not matter, only what it is and what is asked for. -/
  asked : ∀ surroundings args request, Asks surroundings args request text →
    run surroundings args = conclude request (.ok text)
  /-- Every command complains about an unreadable text in the same way and prints nothing else. -/
  unreadable : ∀ error, Spec.parse text = .error error → ∀ request, ∃ report,
    conclude request (.ok text) = .finished report ∧ report.exitCode = 1 ∧
      report.standardOutput = "" ∧ report.standardError = "Error: " ++ error.message ++ "\n"
  /-- Checking an input and showing its run, with whatever number for a delay, have the same
  verdict. -/
  single : ∀ model, Spec.parse text = .ok model → ∀ source source' input delay,
    ∃ checked shown, conclude (.check source [input]) (.ok text) = .finished checked ∧
      conclude (.animate source' input (some delay)) (.ok text) = .finished shown ∧
        SameVerdict model input checked shown
  /-- Checking several inputs collects what checking each of them reports. -/
  several : ∀ model, Spec.parse text = .ok model → ∀ source source' inputs,
    ∃ report, ∃ single : String → Report,
      conclude (.check source inputs) (.ok text) = .finished report ∧
        (∀ input ∈ inputs, conclude (.check source' [input]) (.ok text) =
          .finished (single input)) ∧
        Collects report (inputs.map single)

/-- The exit code for a verdict is no error. -/
theorem exitCodeFor_decided (accepted : Bool) :
    exitCodeFor accepted = 0 ∨ exitCodeFor accepted = 2 := by
  cases accepted <;> simp [exitCodeFor]

theorem exitCodeFor_eq_zero_iff {accepted : Bool} : exitCodeFor accepted = 0 ↔ accepted = true := by
  cases accepted <;> simp [exitCodeFor]

/-- A request on a text that specifies an automaton ends as it is carried out. -/
theorem conclude_of_parse (read : Spec.parse text = .ok model) {request : Request} {report : Report}
    (carried : carryOut (newBench.commit model) request = .ok report) :
    conclude request (.ok text) = .finished report := by
  rw [conclude, execute_of_parse read, carried]

/-- The command lines about a text agree, whatever the text is. An option without a number
(`--delay=--`) leaves the delay absent; the command that shows a run is not spoken about then. -/
theorem agreement (text : String) : Agreement text where
  asked := fun surroundings args request => Asks.run_eq
  unreadable := by
    intro error refused request
    rcases Spec.parse_ok_or_reading text with ⟨model, parsed⟩ | ⟨reading, unread⟩
    · rw [parsed] at refused
      cases refused
    · rw [unread] at refused
      obtain rfl := Except.error.inj refused
      refine ⟨_, conclude_of_unreadable unread request, rfl, rfl, rfl⟩
  single := by
    intro model read source source' input delay
    have holds := commit_newBench model
    have idle : (newBench.commit model).busy = false := by
      rw [Workbench.busy, Workbench.commit_active]
      rfl
    have valid : (newBench.commit model).model.Valid := by
      rw [holds]
      exact (Spec.orderly_of_parse read).toValid
    obtain ⟨lineOf, reported⟩ := exists_reportCheck valid
    obtain ⟨earlier, description, described, animated⟩ :=
      exists_reportAnimate valid idle input delay
    refine ⟨_, _, conclude_of_parse read (mapError_eq_ok_iff.mpr (reported [input])),
      conclude_of_parse read (mapError_eq_ok_iff.mpr animated), ?_⟩
    rw [Workbench.check, holds] at described
    exact ⟨by simp, exitCodeFor_decided _, ⟨rfl, rfl⟩, earlier, description, described, rfl⟩
  several := by
    intro model read source source' inputs
    have valid : (newBench.commit model).model.Valid := by
      rw [commit_newBench]
      exact (Spec.orderly_of_parse read).toValid
    obtain ⟨lineOf, reported⟩ := exists_reportCheck valid
    refine ⟨_, _, conclude_of_parse read (mapError_eq_ok_iff.mpr (reported inputs)),
      fun input _ => conclude_of_parse read (mapError_eq_ok_iff.mpr (reported [input])),
      ?_, exitCodeFor_decided _, rfl, ?_⟩
    · simp [exitCodeFor_eq_zero_iff]
    · simp [Report.standardOutput, Function.comp_def]

end CommandLine

end Acceptor
