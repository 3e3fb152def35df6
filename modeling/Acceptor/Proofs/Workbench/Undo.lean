import Acceptor.Proofs.Workbench.History
import Mathlib.Data.List.Infix

/-!
# Going back

Commands are counted like brackets: one that changes the automaton opens, going back closes. As
long as no more is closed than opened, the timeline is that of the start with one newer automaton
for every open bracket in front (`Bracket`). What the limit has dropped in the meantime stays
dropped: it is as much as the deepest nesting left no room for. Where all brackets are closed
again, the automaton of the start is back, and so is its history up to what was dropped.
-/

namespace Acceptor.Workbench

variable {Failure : Type} {bench origin : Workbench}

/-- What a command counts for: one if it changes the automaton on the workbench, minus one if it
goes back. -/
def weight (bench : Workbench) (command : Command Failure) : Int :=
  match command with
  | .undo => -1
  | other => if (bench.perform other).2.model.Same bench.model then 0 else 1

/-- What some commands count for, one after the other. -/
def tally (bench : Workbench) : List (Command Failure) → Int
  | [] => 0
  | command :: rest => bench.weight command + (bench.perform command).2.tally rest

/-- Commands that start no run, close no more brackets than were opened and leave none open. Their
deepest nesting is within the limit. -/
structure Balanced (bench : Workbench) (commands : List (Command Failure)) (deepest : Nat) :
    Prop where
  noRun : ∀ text, .startRun text ∉ commands
  closed : bench.tally commands = 0
  nonneg : ∀ earlier, earlier <+: commands → 0 ≤ bench.tally earlier
  most : ∀ earlier, earlier <+: commands → bench.tally earlier ≤ deepest
  attained : ∃ earlier, earlier <+: commands ∧ bench.tally earlier = deepest
  within : deepest ≤ bench.limit

/-- An idle workbench with some automata newer than that of the start, whose history has lost what
did not fit at the deepest nesting. -/
structure Bracket (origin : Workbench) (depth deepest : Nat) (bench : Workbench) : Prop where
  idle : bench.busy = false
  limit : bench.limit = origin.limit
  le : depth ≤ deepest
  timeline : ∃ newer : List Automaton, newer.length = depth ∧
    bench.timeline = newer ++ origin.model :: origin.history.take (origin.limit - deepest)

theorem tally_concat (bench : Workbench) (commands : List (Command Failure))
    (command : Command Failure) : bench.tally (commands ++ [command]) =
      bench.tally commands + (bench.performAll commands).weight command := by
  induction commands generalizing bench with
  | nil => simp [tally, performAll]
  | cons first rest inductionHypothesis =>
    rw [List.cons_append, tally, tally, inductionHypothesis, Int.add_assoc]
    rfl

/-- What does not fit into the limit is dropped behind the automata that are kept. -/
theorem take_newer {newer older : List Automaton} {model : Automaton} {limit deepest : Nat}
    (room : newer.length + 1 ≤ limit) :
    (newer ++ model :: older.take (limit - deepest)).take limit =
      newer ++ model :: older.take (limit - max deepest (newer.length + 1)) := by
  obtain ⟨left, rfl⟩ := Nat.exists_eq_add_of_le room
  have front : newer.length + 1 + left - newer.length = left + 1 := by omega
  have back : min left (newer.length + 1 + left - deepest) =
      newer.length + 1 + left - max deepest (newer.length + 1) := by omega
  rw [List.take_append, List.take_of_length_le (by omega), front, List.take_succ_cons,
    List.take_take, back]

/-- An idle workbench stays idle as long as no run is started. -/
theorem idle_of_change {command : Command Failure} {after : Workbench}
    (change : Change bench command after) (noRun : ∀ text, command ≠ .startRun text)
    (idle : bench.busy = false) : after.busy = false := by
  cases change with
  | nothing => exact idle
  | @commit _ model =>
    unfold commit
    split <;> exact idle
  | undo => exact idle
  | startRun _ text => exact absurd rfl (noRun text)
  | run =>
    simp only [busy, Option.isSome_eq_false_iff, Option.isNone_iff_eq_none] at idle ⊢
    simp [noteRun, idle]

theorem bracket_start (idle : origin.busy = false)
    (bounded : origin.history.length ≤ origin.limit) : Bracket origin 0 0 origin := by
  refine ⟨idle, rfl, Nat.le_refl 0, [], rfl, ?_⟩
  rw [Nat.sub_zero, List.take_of_length_le bounded]
  rfl

/-- Going back closes a bracket. -/
theorem Bracket.undo {depth deepest : Nat} (bracket : Bracket origin (depth + 1) deepest bench) :
    (bench.perform (.undo : Command Failure)).1 = .ok (.flag true) ∧
      Bracket origin depth deepest (bench.perform (.undo : Command Failure)).2 := by
  obtain ⟨idle, limit, le, newer, length, shape⟩ := bracket
  obtain ⟨front, others, rfl⟩ := List.exists_cons_of_length_eq_add_one length
  obtain ⟨model, earlier, history⟩ : ∃ model earlier, bench.history = model :: earlier := by
    have filled := (List.cons.inj shape).2
    exact List.exists_cons_of_ne_nil (by simp [filled])
  have done : bench.undo = .ok (true, { bench with model := model, history := earlier }) :=
    undo_eq_ok_iff.mpr ⟨idle, .inr ⟨model, earlier, history, rfl, rfl⟩⟩
  have answer : bench.perform (.undo : Command Failure) =
      (.ok (.flag true), { bench with model := model, history := earlier }) := by
    simp only [perform, attempt, done]
    rfl
  rw [answer]
  refine ⟨rfl, idle, limit, by omega, others, Nat.succ.inj length, ?_⟩
  exact history.symm.trans (List.cons.inj shape).2

/-- A command that does not go back counts for nothing if it leaves the timeline, and for one if it
puts another automaton in front. -/
theorem weight_of_forward (bench : Workbench) {command : Command Failure}
    (noUndo : command ≠ .undo) :
    (bench.weight command = 0 ∧ (bench.perform command).2.timeline = bench.timeline) ∨
      bench.weight command = 1 ∧ ∃ model,
        (bench.perform command).2.timeline = model :: bench.timeline.take bench.limit := by
  have weight : bench.weight command =
      if (bench.perform command).2.model.Same bench.model then 0 else 1 := by
    unfold Workbench.weight
    split
    · exact absurd rfl noUndo
    · rfl
  have turn := turn_of_change (change_of_perform bench command)
  generalize shape : (bench.perform command).2.timeline = timeline at turn
  cases turn with
  | kept =>
    have stays : (bench.perform command).2.model = bench.model := (List.cons.inj shape).1
    exact .inl ⟨by rw [weight, stays, if_pos (.refl bench.model)], rfl⟩
  | @grown _ model made different =>
    have shown : (bench.perform command).2.model = model := (List.cons.inj shape).1
    exact .inr ⟨by rw [weight, shown, if_neg different], model, rfl⟩
  | undone filled => exact absurd rfl noUndo

/-- Any other command opens a bracket if it changes the automaton, and otherwise leaves the timeline
as it is. -/
theorem Bracket.forward {depth deepest : Nat} (bracket : Bracket origin depth deepest bench)
    {command : Command Failure} (noRun : ∀ text, command ≠ .startRun text)
    (noUndo : command ≠ .undo) (room : depth + bench.weight command ≤ origin.limit) :
    ∃ next : Nat, (next : Int) = depth + bench.weight command ∧
      Bracket origin next (max deepest next) (bench.perform command).2 := by
  have change := change_of_perform bench command
  have idle := idle_of_change change noRun bracket.idle
  have limit := (limit_of_change change).trans bracket.limit
  obtain ⟨-, same, le, newer, length, shape⟩ := bracket
  rcases weight_of_forward bench noUndo with ⟨nothing, stays⟩ | ⟨one, model, grows⟩
  · refine ⟨depth, by omega, idle, limit, Nat.le_max_right _ _, newer, length, ?_⟩
    rw [stays, shape, Nat.max_eq_left le]
  · refine ⟨depth + 1, by omega, idle, limit, Nat.le_max_right _ _, model :: newer,
      congrArg Nat.succ length, ?_⟩
    have fits : newer.length + 1 ≤ origin.limit := by omega
    rw [grows, shape, same, take_newer fits, length, List.cons_append]

/-- Every command that starts no run moves the brackets by what it counts for. -/
theorem Bracket.perform {depth deepest : Nat} (bracket : Bracket origin depth deepest bench)
    {command : Command Failure} (noRun : ∀ text, command ≠ .startRun text)
    (nonneg : 0 ≤ depth + bench.weight command)
    (room : depth + bench.weight command ≤ origin.limit) :
    ∃ next : Nat, (next : Int) = depth + bench.weight command ∧
      Bracket origin next (max deepest next) (bench.perform command).2 := by
  by_cases back : command = .undo
  · subst back
    have closes : bench.weight (.undo : Command Failure) = -1 := rfl
    obtain ⟨next, rfl⟩ : ∃ next, depth = next + 1 := ⟨depth - 1, by omega⟩
    have le : next ≤ deepest := Nat.le_of_succ_le bracket.le
    refine ⟨next, by omega, ?_⟩
    rw [Nat.max_eq_left le]
    exact bracket.undo.2
  · exact bracket.forward noRun back room

/-- After commands that start no run, never close more brackets than were opened and stay within the
limit, the brackets are what the commands count for. The deepest nesting is the greatest count on
the way. -/
theorem exists_bracket (idle : origin.busy = false)
    (bounded : origin.history.length ≤ origin.limit) {commands : List (Command Failure)}
    (noRun : ∀ text, .startRun text ∉ commands)
    (nonneg : ∀ earlier, earlier <+: commands → 0 ≤ origin.tally earlier)
    (room : ∀ earlier, earlier <+: commands → origin.tally earlier ≤ origin.limit) :
    ∃ depth deepest : Nat, (depth : Int) = origin.tally commands ∧
      Bracket origin depth deepest (origin.performAll commands) ∧
      (∀ earlier, earlier <+: commands → origin.tally earlier ≤ deepest) ∧
      ∃ earlier, earlier <+: commands ∧ origin.tally earlier = deepest := by
  induction commands using List.reverseRecOn with
  | nil =>
    refine ⟨0, 0, rfl, bracket_start idle bounded, ?_, [], List.prefix_refl [], rfl⟩
    intro earlier before
    rw [List.prefix_nil.mp before]
    exact Int.le_refl 0
  | append_singleton commands command inductionHypothesis =>
    have shorter {earlier : List (Command Failure)} (before : earlier <+: commands) :
        earlier <+: commands ++ [command] := before.trans (List.prefix_append commands [command])
    obtain ⟨depth, deepest, count, bracket, most, attained⟩ := inductionHypothesis
      (fun text member => noRun text (List.mem_append_left _ member))
      (fun earlier before => nonneg earlier (shorter before))
      (fun earlier before => room earlier (shorter before))
    have whole := tally_concat origin commands command
    have nonneg := nonneg _ (List.prefix_refl _)
    have room := room _ (List.prefix_refl _)
    rw [whole, ← count] at nonneg room
    obtain ⟨next, counted, after⟩ := bracket.perform
      (fun text same => noRun text (by simp [same])) nonneg room
    rw [performAll_concat, whole, ← count, ← counted]
    refine ⟨next, max deepest next, rfl, after, ?_, ?_⟩
    · intro earlier before
      rcases List.prefix_concat_iff.mp before with same | before
      · rw [same, whole, ← count, ← counted]
        omega
      · have := most earlier before
        omega
    · rcases Nat.le_total deepest next with deeper | deeper
      · refine ⟨_, List.prefix_refl _, ?_⟩
        rw [whole, ← count, ← counted, Nat.max_eq_right deeper]
      · obtain ⟨earlier, before, greatest⟩ := attained
        exact ⟨earlier, shorter before, by rw [greatest, Nat.max_eq_left deeper]⟩

/-- Balanced commands stay within the limit. -/
theorem Balanced.room {commands : List (Command Failure)} {deepest : Nat}
    (balanced : bench.Balanced commands deepest) :
    ∀ earlier, earlier <+: commands → bench.tally earlier ≤ bench.limit := by
  intro earlier before
  have reached := balanced.most earlier before
  have within := balanced.within
  omega

/-- Between commands that are balanced, going back always succeeds. -/
theorem Balanced.undoes {commands : List (Command Failure)} {deepest : Nat}
    (balanced : origin.Balanced commands deepest) (idle : origin.busy = false)
    (bounded : origin.history.length ≤ origin.limit) {before after : List (Command Failure)}
    (split : commands = before ++ .undo :: after) :
    ((origin.performAll before).perform (.undo : Command Failure)).1 = .ok (.flag true) := by
  have closing : before ++ [.undo] <+: commands := ⟨after, by simp [split]⟩
  have front : before <+: commands := (List.prefix_append before [.undo]).trans closing
  obtain ⟨depth, deepest, count, bracket, -⟩ := exists_bracket idle bounded
    (fun text member => balanced.noRun text (front.subset member))
    (fun earlier inside => balanced.nonneg earlier (inside.trans front))
    (fun earlier inside => balanced.room earlier (inside.trans front))
  have nonneg := balanced.nonneg _ closing
  have closes : (origin.performAll before).weight (.undo : Command Failure) = -1 := rfl
  rw [tally_concat, closes, ← count] at nonneg
  obtain ⟨less, rfl⟩ : ∃ less, depth = less + 1 := ⟨depth - 1, by omega⟩
  exact bracket.undo.1

/-- Balanced commands bring the timeline of the start back, up to what their deepest nesting left no
room for. -/
theorem Balanced.timeline_eq {commands : List (Command Failure)} {deepest : Nat}
    (balanced : origin.Balanced commands deepest) (idle : origin.busy = false)
    (bounded : origin.history.length ≤ origin.limit) :
    (origin.performAll commands).timeline =
      origin.model :: origin.history.take (origin.limit - deepest) := by
  obtain ⟨depth, reached, count, bracket, most, earlier, before, attained⟩ :=
    exists_bracket idle bounded balanced.noRun balanced.nonneg balanced.room
  obtain rfl : reached = deepest := by
    obtain ⟨other, inside, greatest⟩ := balanced.attained
    have upper := balanced.most earlier before
    have lower := most other inside
    omega
  obtain ⟨newer, length, shape⟩ := bracket.timeline
  rw [balanced.closed] at count
  obtain rfl := List.length_eq_zero_iff.mp (length.trans (Int.ofNat_eq_zero.mp count))
  exact shape

/-- From every idle state of a workbench, balanced commands end with the automaton that they began
with, every step back between them succeeds, and of the history the most recent automata are left
for which the deepest nesting had room. -/
theorem restored_of_balanced {model : Option Automaton} {limit : Option Int}
    {start bench : Workbench} (created : create model limit = .ok start)
    {past : List (Command Failure)} (reached : start.performAll past = bench)
    (idle : bench.busy = false) {commands : List (Command Failure)} {deepest : Nat}
    (balanced : bench.Balanced commands deepest) :
    (∀ before after, commands = before ++ .undo :: after →
      ((bench.performAll before).perform (.undo : Command Failure)).1 = .ok (.flag true)) ∧
    (bench.performAll commands).model = bench.model ∧
    (bench.performAll commands).history =
      bench.history.take (min bench.history.length (bench.limit - deepest)) := by
  have bounded : bench.history.length ≤ bench.limit :=
    reached ▸ ((paced_of_create created).performAll past).bounded
  obtain ⟨shown, kept⟩ := List.cons.inj (balanced.timeline_eq idle bounded)
  refine ⟨fun before after split => balanced.undoes idle bounded split, shown, ?_⟩
  refine kept.trans ?_
  rw [List.take_eq_take_iff]
  omega

/-- A workbench with a limit of two after two new states. -/
def twoStates : Workbench :=
  performAll ⟨Automaton.empty, [], 2, [], none⟩
    [(.addState true : Command Unit), .addState false]

/-- Two edits, one that is refused and one that changes nothing, with two steps back. -/
def nested : List (Command Unit) :=
  [.addTransition 1 2 "A", .addTransition 1 1 "A", .undo, .acceptStart, .acceptStart, .undo]

/-- Where edits are nested no deeper than one, the limit of two leaves one of two earlier
automata. -/
theorem restored_of_nested :
    twoStates.history.length = 2 ∧ twoStates.Balanced nested 1 ∧
      (twoStates.performAll nested).model = twoStates.model ∧
      (twoStates.performAll nested).history = twoStates.history.take 1 := by
  have created : create none (some 2) = .ok ⟨Automaton.empty, [], 2, [], none⟩ := rfl
  have counts : ∀ earlier ∈ nested.inits,
      0 ≤ twoStates.tally earlier ∧ twoStates.tally earlier ≤ (1 : Nat) := by decide
  have balanced : twoStates.Balanced nested 1 :=
    ⟨by simp [nested], by decide,
      fun earlier before => (counts earlier ((List.mem_inits earlier nested).mpr before)).1,
      fun earlier before => (counts earlier ((List.mem_inits earlier nested).mpr before)).2,
      ⟨nested.take 1, List.take_prefix 1 nested, by decide⟩, by decide⟩
  obtain ⟨-, shown, kept⟩ := restored_of_balanced created
    (rfl : _ = twoStates) rfl balanced
  exact ⟨rfl, balanced, shown, kept⟩

end Acceptor.Workbench
