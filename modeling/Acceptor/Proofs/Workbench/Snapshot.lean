import Acceptor.Proofs.Run.Foretold
import Acceptor.Proofs.Workbench.Contents
import Acceptor.Proofs.Workbench.Lock

/-!
# A run and the automaton on the workbench

A run shows the automaton that was on the workbench when it started, and never looks at the
workbench again. `Followed` is the invariant by which it is nevertheless up to date: as long as it
has not finished, the lock keeps this automaton in place. A verdict that the run delivers is
therefore the one that a check would have given at any time since its start.
-/

namespace Acceptor

namespace Playback

/-- What can become of a playback: it can finish, but not go on after that. -/
def Onward (run after : Playback) : Prop :=
  run.finished = true → Settled run after

theorem Onward.refl (run : Playback) : run.Onward run :=
  fun finished => .refl finished

theorem Onward.trans {run between after : Playback} (first : run.Onward between)
    (second : between.Onward after) : run.Onward after := by
  intro finished
  have settled := first finished
  exact settled.trans (second settled.finished)

theorem onward_perform {Failure : Type} (run : Playback) (command : RunCommand Failure) :
    run.Onward (run.perform command).2 :=
  fun finished => (perform_of_finished finished command).2

end Playback

namespace Workbench

variable {Failure : Type} {bench after : Workbench} {model : Automaton} {verdict : Verdict}
  {number : Nat} {run : Playback}

/-- No run is on its way on an idle workbench. -/
theorem Locked.finished_of_idle (locked : bench.Locked) (idle : bench.busy = false)
    (found : bench.runs[number]? = some run) : run.finished = true := by
  by_contra unfinished
  have active := locked.active_of_running found (eq_false_of_ne_true unfinished)
  simp [busy, active] at idle

/-- A run on a workbench shows an automaton and comes to a verdict on it. While it has not finished,
this is the automaton on the workbench. -/
structure Followed (model : Automaton) (verdict : Verdict) (number : Nat) (bench : Workbench)
    (run : Playback) : Prop where
  locked : bench.Locked
  found : bench.runs[number]? = some run
  foretold : run.Foretold model verdict
  current : run.finished = false → bench.model = model

/-- A run that has just been started is followed. -/
theorem followed_of_startRun (locked : bench.Locked) (valid : bench.model.Valid)
    {text : Option String} (started : bench.startRun text = .ok (run, after)) :
    Followed bench.model (bench.check text) bench.runs.length after run := by
  obtain ⟨idle, rfl, rfl⟩ := startRun_eq_ok_iff.mp started
  exact ⟨locked.startRun idle (Playback.notified_start _ _ _) rfl, List.getElem?_concat_length,
    Playback.foretold_start valid _ _, fun _ => rfl⟩

/-- On an idle workbench a run that is followed has finished, so that the automaton may change. -/
theorem Followed.of_idle (followed : Followed model verdict number bench run)
    (idle : bench.busy = false) (locked : after.Locked)
    (found : after.runs[number]? = bench.runs[number]?) :
    Followed model verdict number after run where
  locked := locked
  found := found.trans followed.found
  foretold := followed.foretold
  current := by simp [followed.locked.finished_of_idle idle followed.found]

/-- A command to a run that is followed. -/
theorem Followed.noteRun (followed : Followed model verdict number bench run)
    (command : RunCommand Failure) :
    Followed model verdict number (bench.noteRun number run (run.perform command).2)
      (run.perform command).2 where
  locked := followed.locked.noteRun followed.found command
  found := List.getElem?_set_self (List.getElem?_eq_some_iff.mp followed.found).1
  foretold := followed.foretold.perform command
  current := by
    intro running
    refine followed.current (eq_false_of_ne_true fun finished => ?_)
    rw [(Playback.onward_perform run command finished).finished] at running
    cases running

/-- Every change leaves a run followed. -/
theorem Followed.change (followed : Followed model verdict number bench run)
    {command : Command Failure} (change : Change bench command after) :
    ∃ now, Followed model verdict number after now ∧ run.Onward now := by
  have locked := followed.locked.change change
  cases change with
  | nothing => exact ⟨run, followed, .refl run⟩
  | commit idle made =>
    exact ⟨run, followed.of_idle idle locked (by rw [commit_runs]), .refl run⟩
  | undo idle history => exact ⟨run, followed.of_idle idle locked rfl, .refl run⟩
  | startRun idle text =>
    have bound := (List.getElem?_eq_some_iff.mp followed.found).1
    exact ⟨run, followed.of_idle idle locked (List.getElem?_append_left bound), .refl run⟩
  | @run other ran found asked =>
    by_cases same : other = number
    · subst same
      obtain rfl := Option.some.inj (found.symm.trans followed.found)
      exact ⟨_, followed.noteRun asked, Playback.onward_perform ran asked⟩
    · refine ⟨run, ⟨locked, ?_, followed.foretold, followed.current⟩, .refl run⟩
      exact (List.getElem?_set_ne same).trans followed.found

theorem Followed.performAll (followed : Followed model verdict number bench run)
    (commands : List (Command Failure)) :
    ∃ now, Followed model verdict number (bench.performAll commands) now ∧ run.Onward now :=
  performAll_induction
    (fun bench => ∃ now, Followed model verdict number bench now ∧ run.Onward now)
    (fun _ _ _ change ⟨_, followed, onward⟩ =>
      have ⟨now, still, further⟩ := followed.change change
      ⟨now, still, onward.trans further⟩)
    commands ⟨run, followed, .refl run⟩

/-- As long as a run has not finished, the automaton it shows has been on the workbench all the
time. -/
theorem Followed.model_of_prefix {now : Playback}
    (followed : Followed model verdict number bench run) {between later : List (Command Failure)}
    (earlier : between <+: later) (found : (bench.performAll later).runs[number]? = some now)
    (running : now.finished = false) : (bench.performAll between).model = model := by
  obtain ⟨others, rfl⟩ := earlier
  obtain ⟨mid, there, -⟩ := followed.performAll between
  obtain ⟨last, here, onward⟩ := there.performAll others
  rw [performAll_append, here.found] at found
  obtain rfl := Option.some.inj found
  refine there.current (eq_false_of_ne_true fun finished => ?_)
  rw [(onward finished).finished] at running
  cases running

/-- A run that was started keeps its verdict through all later commands once it has come to it. -/
theorem Followed.decided {now : Playback} (followed : Followed model verdict number bench now)
    {command : RunCommand Failure} (decided : (now.perform command).2.Decided verdict)
    (later : List (Command Failure)) :
    ∃ final, (bench.performAll (.onRun number command :: later)).runs[number]? = some final ∧
      final.Decided verdict := by
  obtain ⟨final, followed', onward⟩ := (followed.noteRun command).performAll later
  refine ⟨final, ?_, decided.of_settled (onward decided.finished)⟩
  rw [← followed'.found, ← perform_onRun followed.found command]
  rfl

/-- What holds of a run after some commands to the workbench that it was started on, which are
listed from its start. Single steps of this run are among the commands, so this includes everything
that is done to the workbench between two frames. -/
structure UpToDate {Failure : Type} (begun : Workbench) (number : Nat) (run : Playback)
    (text : Option String) (commands : List (Command Failure)) (now : Playback) : Prop where
  found : (begun.performAll commands).runs[number]? = some now
  /-- The run shows what it has shown from the start. -/
  snapshot : now.model = run.model ∧ now.picture = run.picture
  /-- Until it has finished, this is the automaton on the workbench, in the order of its transitions
  also, and its picture. -/
  current : now.finished = false → (begun.performAll commands).model = run.model ∧
    (begun.performAll commands).model.projection = run.picture
  /-- A verdict that is delivered by whatever the run is asked to do next is the one that a check
  has given all the time since its start, -/
  checked : ∀ (command : RunCommand Failure) (frame : Frame) (verdict : Verdict),
    frame ∈ (now.perform command).1.delivered → frame.verdict = some verdict →
      ∀ earlier, earlier <+: commands → (begun.performAll earlier).check text = verdict
  /-- and the run has this verdict from then on, whatever is done to it or to the workbench. -/
  lasting : ∀ (command : RunCommand Failure) (frame : Frame) (verdict : Verdict),
    frame ∈ (now.perform command).1.delivered → frame.verdict = some verdict →
      ∀ later, ∃ final, final.finished = true ∧ final.verdict = some verdict ∧
        (begun.performAll (commands ++ .onRun number command :: later)).runs[number]? = some final

/-- A run never goes stale, in whatever order it, the workbench and other runs are used. -/
theorem upToDate_of_performAll {initial : Option Automaton} {limit : Option Int} {start : Workbench}
    (given : ∀ first ∈ initial, first.Valid) (created : create initial limit = .ok start)
    (before : List (Command Failure)) (reached : start.performAll before = bench)
    {text : Option String} {begun : Workbench} (started : bench.startRun text = .ok (run, begun))
    (commands : List (Command Failure)) :
    ∃ now, UpToDate begun bench.runs.length run text commands now := by
  subst reached
  have locked := (locked_of_create created).performAll before
  have valid : ∀ shown ∈ (start.performAll before).timeline, shown.Valid :=
    forall_mem_timeline (fun _ _ made => made.valid) created Automaton.orderly_empty.toValid given
      before
  have followed := followed_of_startRun locked (valid _ List.mem_cons_self) started
  have onModel := followed.foretold.onModel
  have onPicture := followed.foretold.onPicture
  obtain ⟨now, still, -⟩ := followed.performAll commands
  refine ⟨now, still.found, ?_, fun running => ?_, ?_, ?_⟩
  · exact ⟨still.foretold.onModel.trans onModel.symm,
      still.foretold.onPicture.trans onPicture.symm⟩
  · rw [still.current running]
    exact ⟨onModel.symm, onPicture.symm⟩
  · intro command frame verdict delivered decides earlier between
    obtain ⟨rfl, -⟩ := still.foretold.decided_of_perform delivered decides
    have same := followed.model_of_prefix between still.found
      (Playback.running_of_delivered delivered)
    rw [check, check, same]
  · intro command frame verdict delivered decides later
    obtain ⟨rfl, decided⟩ := still.foretold.decided_of_perform delivered decides
    obtain ⟨final, found, finished, verdict⟩ := still.decided decided later
    rw [performAll_append]
    exact ⟨final, finished, verdict, found⟩

/-- The initial state loops on a symbol and accepts. -/
def prepared : List (Command Unit) :=
  [.addTransition 1 1 "A", .acceptStart]

/-- Three of the four frames of a run are shown, and two edits are refused in between. -/
def watched : List (Command Unit) :=
  [.onRun 0 .next, .reset, .onRun 0 .next, .check none, .undo, .onRun 0 .next]

/-- The last frame is shown, and the automaton is reset after that. -/
def outlived : List (Command Unit) :=
  [.onRun 0 .next, .reset, .onRun 0 .cancel]

/-- The last frame carries the verdict of a check at the start, and the run keeps it when the
automaton is reset, on which a check would reject. -/
theorem upToDate_of_watched :
    ∃ start run begun now frame final,
      create none none = .ok start ∧
      (start.performAll prepared).startRun (some "A") = .ok (run, begun) ∧
      (begun.performAll watched).runs[0]? = some now ∧ now.finished = false ∧
      (begun.performAll watched).model.projection = run.picture ∧
      frame ∈ (now.perform (.next : RunCommand Unit)).1.delivered ∧
      frame.verdict = some (begun.check (some "A")) ∧
      (begun.performAll (watched ++ outlived)).runs[0]? = some final ∧
      final.verdict = some (begun.check (some "A")) ∧
      (begun.check (some "A")).accepted = true ∧
      ((begun.performAll (watched ++ outlived)).check (some "A")).accepted = false := by
  have created : create none none = .ok ⟨Automaton.empty, [], standardLimit, [], none⟩ := rfl
  have started : (performAll ⟨Automaton.empty, [], standardLimit, [], none⟩ prepared).startRun
      (some "A") = .ok (_, _) := startRun_eq_ok_iff.mpr ⟨rfl, rfl, rfl⟩
  obtain ⟨now, shows⟩ := upToDate_of_performAll (by simp) created prepared rfl started watched
  obtain rfl := Option.some.inj shows.found
  obtain ⟨final, -, verdict, there⟩ := shows.lasting .next _ _ (.head _) rfl outlived.tail
  exact ⟨_, _, _, _, _, final, created, started, shows.found, rfl, (shows.current rfl).2, .head _,
    rfl, there, verdict, rfl, rfl⟩

end Workbench

end Acceptor
