import Acceptor.Proofs.Automaton.Likeness
import Acceptor.Proofs.Workbench.Change
import Mathlib.Data.List.Chain

/-!
# The history of a workbench

The timeline of a workbench is the automaton on it followed by the earlier ones. `Turn` lists what
a command can do to it: leave it, put a different automaton in front and drop the oldest beyond the
limit, or take the front off. Each of the three keeps the timeline within the limit and neighbours
in it different (`Paced`), so going back always shows another automaton.
-/

namespace Acceptor

namespace Workbench

/-- The automaton on a workbench and those that can be gone back to, the most recent first. -/
def timeline (bench : Workbench) : List Automaton :=
  bench.model :: bench.history

/-- What a command can do to the timeline of a workbench. -/
inductive Turn {Failure : Type} (bench : Workbench) : Command Failure → List Automaton → Prop where
  | kept {command} : Turn bench command bench.timeline
  | grown {command model} (made : Made bench.model model) (different : ¬model.Same bench.model) :
      Turn bench command (model :: bench.timeline.take bench.limit)
  | undone (filled : bench.history ≠ []) : Turn bench .undo bench.history

variable {Failure : Type} {bench after : Workbench} {command : Command Failure}

theorem commit_of_same {model : Automaton} (same : model.Same bench.model) :
    bench.commit model = bench :=
  if_pos same

theorem timeline_commit {model : Automaton} (different : ¬model.Same bench.model) :
    (bench.commit model).timeline = model :: bench.timeline.take bench.limit := by
  rw [commit, if_neg different]
  rfl

@[simp]
theorem commit_limit (model : Automaton) : (bench.commit model).limit = bench.limit := by
  unfold commit
  split <;> rfl

/-- Every change is one of the three to the timeline. -/
theorem turn_of_change (change : Change bench command after) :
    Turn bench command after.timeline := by
  cases change with
  | nothing => exact .kept
  | @commit _ model idle made =>
    by_cases same : model.Same bench.model
    · rw [commit_of_same same]
      exact .kept
    · rw [timeline_commit same]
      exact .grown made same
  | @undo model earlier idle history =>
    have front : timeline { bench with model := model, history := earlier } = bench.history :=
      history.symm
    rw [front]
    exact .undone (by simp [history])
  | startRun idle text => exact .kept
  | run found command => exact .kept

/-- No command changes the limit. -/
theorem limit_of_change (change : Change bench command after) : after.limit = bench.limit := by
  cases change <;> simp [noteRun]

theorem limit_performAll (commands : List (Command Failure)) :
    (bench.performAll commands).limit = bench.limit :=
  performAll_induction (·.limit = bench.limit)
    (fun _ _ _ change same => (limit_of_change change).trans same) commands rfl

/-- What every operation preserves of an automaton holds of all automata on a timeline. -/
theorem timeline_induction (property : Automaton → Prop)
    (preserved : ∀ model next, Made model next → property model → property next)
    (commands : List (Command Failure)) (holds : ∀ model ∈ bench.timeline, property model) :
    ∀ model ∈ (bench.performAll commands).timeline, property model := by
  refine performAll_induction (fun bench => ∀ model ∈ bench.timeline, property model)
    (fun before command after change holds => ?_) commands holds
  have here : property before.model := holds _ List.mem_cons_self
  have turn := turn_of_change change
  generalize after.timeline = timeline at turn ⊢
  cases turn with
  | kept => exact holds
  | grown made different =>
    intro model member
    rcases List.mem_cons.mp member with rfl | earlier
    · exact preserved _ _ made here
    · exact holds model (List.mem_of_mem_take earlier)
  | undone filled => exact fun model member => holds model (List.mem_cons_of_mem _ member)

/-- A timeline within the limit, in which neighbours differ. -/
structure Paced (bench : Workbench) : Prop where
  bounded : bench.history.length ≤ bench.limit
  changing : bench.timeline.IsChain fun later earlier => ¬later.Same earlier

theorem paced_of_create {model : Option Automaton} {limit : Option Int}
    (created : create model limit = .ok bench) : bench.Paced := by
  obtain ⟨most, -, rfl⟩ := map_eq_ok_iff.mp created
  exact ⟨Nat.zero_le _, .singleton _⟩

/-- Every change keeps the pace. -/
theorem Paced.change (paced : bench.Paced) (change : Change bench command after) : after.Paced := by
  have bounded : after.timeline.length ≤ bench.limit + 1 ∧
      after.timeline.IsChain fun later earlier => ¬later.Same earlier := by
    have turn := turn_of_change change
    generalize after.timeline = timeline at turn ⊢
    cases turn with
    | kept => exact ⟨Nat.succ_le_succ paced.bounded, paced.changing⟩
    | grown made different =>
      refine ⟨?_, ?_⟩
      · rw [List.length_cons, List.length_take]
        omega
      · rw [List.isChain_cons]
        refine ⟨fun earlier front => ?_, paced.changing.take _⟩
        -- Unless the limit leaves nothing behind it, the automaton that was replaced comes next.
        cases limit : bench.limit with
        | zero => simp [limit] at front
        | succ more =>
          rw [limit, timeline, List.take_succ_cons, List.head?_cons] at front
          exact Option.some.inj front ▸ different
    | undone filled => exact ⟨Nat.le_succ_of_le paced.bounded, paced.changing.tail⟩
  refine ⟨?_, bounded.2⟩
  rw [limit_of_change change]
  exact Nat.le_of_succ_le_succ bounded.1

theorem Paced.performAll (paced : bench.Paced) (commands : List (Command Failure)) :
    (bench.performAll commands).Paced :=
  performAll_induction Paced (fun _ _ _ change paced => paced.change change) commands paced

/-- A limit is accepted if it is positive and not too large. Without one, or with 0, the standard
one is used. -/
theorem limitOf_eq_ok_iff {limit : Option Int} {most : Nat} :
    limitOf limit = .ok most ↔
      (limit = none ∨ limit = some 0) ∧ most = standardLimit ∨
        0 < most ∧ limit = some (most : Int) ∧ (most : Int) < 9223372036854775808 := by
  cases limit with
  | none => simp [limitOf, eq_comm]
  | some given =>
    have range : limitInRange given = true ↔
        -9223372036854775808 ≤ given ∧ given < 9223372036854775808 := by simp [limitInRange]
    simp only [limitOf, Bool.not_eq_true', ← Bool.not_eq_true, range, reduceCtorEq, false_or,
      Option.some.injEq]
    split_ifs with inRange negative zero
    · rw [false_iff]
      omega
    · rw [Except.ok.injEq]
      omega
    · rw [Except.ok.injEq]
      omega
    · rw [false_iff]
      omega

/-- Going back on an idle workbench says whether there was something to go back to. -/
theorem undo_of_idle (idle : bench.busy = false) :
    ∃ after, bench.undo = .ok (bench.canUndo, after) ∧
      (bench.canUndo = true → after.timeline = bench.history) := by
  cases history : bench.history with
  | nil =>
    refine ⟨bench, undo_eq_ok_iff.mpr ⟨idle, .inl ⟨history, ?_, rfl⟩⟩, ?_⟩ <;>
      simp [canUndo, history]
  | cons model earlier =>
    refine ⟨{ bench with model := model, history := earlier },
      undo_eq_ok_iff.mpr ⟨idle, .inr ⟨model, earlier, history, ?_, rfl⟩⟩, fun _ => rfl⟩
    simp [canUndo, history]

/-- What users of a workbench see of its history, for the limit that they asked for. -/
structure Retraceable (limit : Option Int) (bench : Workbench) : Prop where
  /-- The limit is the standard one where none is given or it is 0, -/
  standard : limit = none ∨ limit = some 0 → bench.limit = standardLimit
  /-- and any other one is taken as it is. -/
  asked : ∀ given, limit = some given → given ≠ 0 → (bench.limit : Int) = given
  /-- There is at most one automaton more than the limit, -/
  bounded : bench.timeline.length ≤ bench.limit + 1
  /-- and of two that follow each other none is the other up to the order of its transitions. -/
  changing : bench.timeline.IsChain fun later earlier => ¬later.Same earlier
  /-- Going back on an idle workbench tells whether it can be done, and then shows a different
  automaton. -/
  undoes : bench.busy = false → ∃ after, bench.undo = .ok (bench.canUndo, after) ∧
    (bench.canUndo = true → ¬after.model.Same bench.model)

/-- In every state of a workbench the timeline keeps to the limit, its neighbours differ, and going
back therefore always shows another automaton. -/
theorem retraceable_of_performAll {model : Option Automaton} {limit : Option Int}
    {start : Workbench} (created : create model limit = .ok start)
    (commands : List (Command Failure)) : (start.performAll commands).Retraceable limit := by
  have paced := (paced_of_create created).performAll commands
  obtain ⟨most, accepted, rfl⟩ := map_eq_ok_iff.mp created
  refine ⟨?_, ?_, Nat.succ_le_succ paced.bounded, paced.changing, ?_⟩
  · intro absent
    rw [limit_performAll]
    rcases limitOf_eq_ok_iff.mp accepted with ⟨-, same⟩ | ⟨positive, given, -⟩
    · exact same
    · rcases absent with rfl | rfl
      · cases given
      · have zero := Option.some.inj given
        omega
  · intro given asked different
    rw [limit_performAll]
    rcases limitOf_eq_ok_iff.mp accepted with ⟨rfl | rfl, -⟩ | ⟨-, rfl, -⟩
    · cases asked
    · exact absurd (Option.some.inj asked).symm different
    · exact Option.some.inj asked
  · intro idle
    obtain ⟨after, undone, shown⟩ := undo_of_idle idle
    refine ⟨after, undone, fun able same => ?_⟩
    have history := shown able
    have changing := paced.changing
    rw [timeline, ← history, timeline, List.isChain_cons_cons] at changing
    exact changing.1 same.symm

/-- Edits between which the automaton is reset twice, the second time without effect. -/
def retraced : List (Command Unit) :=
  [.addState true, .reset, .reset, .addTransition 1 1 "A", .addState false]

/-- Of the five automata in a row a limit of two leaves three, and going back shows another one. -/
theorem retraceable_of_retraced :
    ∃ start, create none (some 2) = .ok start ∧
      (start.performAll retraced).timeline.length = 3 ∧
      ∃ after, (start.performAll retraced).undo = .ok (true, after) ∧
        ¬after.model.Same (start.performAll retraced).model := by
  have created : create none (some 2) = .ok ⟨Automaton.empty, [], 2, [], none⟩ := rfl
  have seen := retraceable_of_performAll created retraced
  obtain ⟨after, undone, shows⟩ := seen.undoes rfl
  exact ⟨_, created, rfl, after, undone, shows rfl⟩

end Workbench

end Acceptor
