import Acceptor.Proofs.Automaton.Likeness
import Acceptor.Proofs.Spec.Written

/-!
# Texts of automata that are the same

The order of the transitions shows in one place of a written specification only: in the order of the
rows of its table. Automata that are the same otherwise are written as the same lines with these
rows rearranged (`write_of_same`).
-/

namespace Acceptor.Spec

variable {model left right : Automaton}

/-- Two texts that consist of the same lines, but for the order of some of them in the middle, which
are the rows of two tables. -/
structure Rearranged (rows rows' : List String) (text text' : String) : Prop where
  order : rows.Perm rows'
  lines : ∃ before after, text = "\n".intercalate (before ++ rows ++ after) ∧
    text' = "\n".intercalate (before ++ rows' ++ after)

/-- The rows of transitions are written one by one. -/
theorem mapM_writeTransition {transitions : List Transition} {row : Transition → String}
    (written : ∀ transition ∈ transitions,
      writeTransition model transition = .ok (row transition)) :
    transitions.mapM (writeTransition model) = .ok (transitions.map row) := by
  rw [mapM_eq_ok_iff, List.map_map]
  exact List.map_congr_left written

/-- The row that a transition of an automaton is written as. -/
def rowOf (model : Automaton) (transition : Transition) : String :=
  (writeTransition model transition).toOption.getD ""

theorem writeTransition_eq_rowOf (valid : model.Valid) {transition : Transition}
    (member : transition ∈ model.transitions) :
    writeTransition model transition = .ok (rowOf model transition) := by
  obtain ⟨text, written, -⟩ := writeTransition_writes valid member
  rw [rowOf, written]
  rfl

/-- The lines of a table with some rows. -/
def tableLines (rows : List String) : List String :=
  if rows.isEmpty then ["    'transitions': \x7b\x7d"]
  else ["    'transitions': \x7b"] ++ rows ++ ["    \x7d"]

/-- The lines before the table. -/
def linesBefore (alphabet states initial accepting : String) : List String :=
  ["SPEC_DFA = \x7b",
    "    'alphabet': " ++ alphabet ++ ",",
    "    'states': " ++ states ++ ",",
    "    'initial_state': " ++ initial ++ ",",
    "    'accepting_states': " ++ accepting ++ ","]

theorem writeTable_eq {rows : List String}
    (written : model.transitions.mapM (writeTransition model) = .ok rows) :
    writeTable model = .ok (tableLines rows) := by
  unfold writeTable tableLines
  rw [written]
  cases transitions : model.transitions with
  | nil =>
    rw [transitions] at written
    cases written
    rfl
  | cons first rest =>
    rw [transitions, List.mapM_cons] at written
    obtain ⟨row, -, written⟩ := bind_eq_ok_iff.mp written
    obtain ⟨others, -, written⟩ := bind_eq_ok_iff.mp written
    cases written
    rfl

/-- The lines around the rows stay where the rows change places. -/
theorem exists_lines_around_rows {rows rows' : List String} (order : rows.Perm rows') :
    ∃ opening closing, tableLines rows = opening ++ rows ++ closing ∧
      tableLines rows' = opening ++ rows' ++ closing := by
  cases rows with
  | nil =>
    obtain rfl := order.nil_eq
    exact ⟨[], _, rfl, rfl⟩
  | cons first rest =>
    have filled : rows'.isEmpty = false := by
      rw [List.isEmpty_eq_false_iff_exists_mem]
      exact ⟨first, order.mem_iff.mp List.mem_cons_self⟩
    refine ⟨_, _, rfl, ?_⟩
    rw [tableLines, filled]
    rfl

/-- The lines before the table do not depend on the transitions. -/
theorem exists_lines_before (valid : model.Valid) : ∃ before, ∀ transitions table,
    writeTable { model with transitions := transitions } = .ok table →
      write { model with transitions := transitions } =
        .ok ("\n".intercalate (before ++ table ++ ["\x7d"])) := by
  obtain ⟨text, written, -⟩ := write_spells valid
  unfold write writeLines at written
  simp only [bind_eq_ok_iff] at written
  obtain ⟨lines, ⟨alphabet, alphabetWritten, states, statesWritten, label, known, initial,
    initialWritten, accepting, acceptingWritten, -⟩, -⟩ := written
  refine ⟨linesBefore alphabet states initial accepting, fun transitions table tableWritten => ?_⟩
  refine bind_eq_ok_iff.mpr ⟨_, ?_, rfl⟩
  unfold writeLines
  simp only [bind_eq_ok_iff]
  exact ⟨alphabet, alphabetWritten, states, statesWritten, label, known, initial, initialWritten,
    accepting, acceptingWritten, table, tableWritten, rfl⟩

/-- Valid automata that are the same are written as texts that differ in the order of their rows. -/
theorem write_of_same (valid : left.Valid) (same : left.Same right) :
    ∃ rows rows' text text', left.transitions.mapM (writeTransition left) = .ok rows ∧
      right.transitions.mapM (writeTransition right) = .ok rows' ∧
      write left = .ok text ∧ write right = .ok text' ∧ Rearranged rows rows' text text' := by
  have written : left.transitions.mapM (writeTransition left) =
      .ok (left.transitions.map (rowOf left)) :=
    mapM_writeTransition fun transition => writeTransition_eq_rowOf valid
  have written' : right.transitions.mapM (writeTransition right) =
      .ok (right.transitions.map (rowOf right)) :=
    mapM_writeTransition fun transition => writeTransition_eq_rowOf (valid.of_same same)
  obtain ⟨before, around⟩ := exists_lines_before valid
  obtain ⟨transitions, order, rfl⟩ := same.exists_eq
  have sameRow : rowOf { left with transitions := transitions } = rowOf left := rfl
  obtain ⟨opening, closing, table, table'⟩ := exists_lines_around_rows (order.map (rowOf left))
  refine ⟨_, _, _, _, written, written', around _ _ (writeTable_eq written),
    around _ _ (writeTable_eq written'), order.map (rowOf left), before ++ opening,
    closing ++ ["\x7d"], ?_, ?_⟩
  · simp only [table, List.append_assoc]
  · simp only [sameRow, table', List.append_assoc]

end Acceptor.Spec
