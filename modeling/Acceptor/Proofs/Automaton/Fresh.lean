import Acceptor.Proofs.Automaton.Validity
import Acceptor.Proofs.Spec.Quotation
import Mathlib.Data.List.Perm.Subperm

/-!
# New states

A new state gets an identifier greater than all others and a label that no other state has
(`freshLabel_spec`). The search for this label always finds one: the variants of a label all
differ, so the states of the automaton cannot have every one of them besides the plain label.
-/

namespace Acceptor

/-- A text without line ends and apostrophes can be written, if there is any. -/
theorem usable_of_plain {text : String} (filled : text ≠ "")
    (plain : ∀ c ∈ text.toList, c ≠ '\n' ∧ c ≠ '\r' ∧ c ≠ '\'') : literalFault? text = none :=
  literalFault?_eq_none_iff.mpr ⟨filled, fun lineFeed => (plain _ lineFeed).1 rfl,
    fun carriageReturn => (plain _ carriageReturn).2.1 rfl,
    fun quotes => (plain _ quotes.1).2.2 rfl⟩

theorem plain_of_isDigit {c : Char} (digit : c.isDigit = true) :
    c ≠ '\n' ∧ c ≠ '\r' ∧ c ≠ '\'' := by
  refine ⟨?_, ?_, ?_⟩ <;> rintro rfl <;> cases digit

/-- A number is written with digits only. -/
theorem plain_of_mem_number {number : Nat} {c : Char} (member : c ∈ (toString number).toList) :
    c ≠ '\n' ∧ c ≠ '\r' ∧ c ≠ '\'' := by
  rw [Nat.toString_eq_ofList_toDigits, String.toList_ofList] at member
  exact plain_of_isDigit (Nat.isDigit_of_mem_toDigits (by decide) (by decide) member)

namespace Automaton

variable {model : Automaton} {id : StateId}

/-- The plain label of a new state has a letter, digits, and a sign before them at most. -/
theorem plain_of_mem_plainLabel {c : Char} (member : c ∈ (plainLabel id).toList) :
    c ≠ '\n' ∧ c ≠ '\r' ∧ c ≠ '\'' := by
  rw [plainLabel, String.toList_append, List.mem_append] at member
  rcases member with letter | number
  · obtain rfl := List.mem_singleton.mp letter
    decide
  · cases id with
    | ofNat count => exact plain_of_mem_number number
    | negSucc count =>
      have written : toString (Int.negSucc count) = "-" ++ toString (count + 1) := rfl
      rw [written, String.toList_append, List.mem_append] at number
      rcases number with sign | digit
      · obtain rfl := List.mem_singleton.mp sign
        decide
      · exact plain_of_mem_number digit

theorem usable_plainLabel (id : StateId) : literalFault? (plainLabel id) = none := by
  refine usable_of_plain ?_ fun c member => plain_of_mem_plainLabel member
  simp [plainLabel]

theorem usable_numberedLabel (id : StateId) (number : Nat) :
    literalFault? (numberedLabel id number) = none := by
  refine usable_of_plain ?_ fun c member => ?_
  · simp [numberedLabel, plainLabel]
  · rw [numberedLabel, String.toList_append, String.toList_append, List.mem_append,
      List.mem_append] at member
    rcases member with (plain | line) | digit
    · exact plain_of_mem_plainLabel plain
    · obtain rfl := List.mem_singleton.mp line
      decide
    · exact plain_of_mem_number digit

/-- Different numbers make different variants of a label. -/
theorem numberedLabel_injective (id : StateId) : Function.Injective (numberedLabel id) := by
  intro left right same
  have characters := congrArg String.toList same
  simp only [numberedLabel, String.toList_append, List.append_cancel_left_eq] at characters
  have numbers := congrArg (fun digits => Nat.ofDigitChars 10 digits 0) characters
  simpa [Nat.toString_eq_ofList_toDigits] using numbers

/-- A variant of a label is longer than the plain label. -/
theorem plainLabel_ne_numberedLabel (id : StateId) (number : Nat) :
    plainLabel id ≠ numberedLabel id number := by
  intro same
  have lengths := congrArg (·.toList.length) same
  simp only [numberedLabel, String.toList_append, List.length_append] at lengths
  have line : "_".toList.length = 1 := rfl
  omega

/-- If a state has the plain label, one of the variants up to the number of states is free: together
with the plain label they are more than there are states. -/
theorem exists_free_number (taken : plainLabel id ∈ model.labels) :
    ∃ number, 1 ≤ number ∧ number ≤ model.states.length ∧
      numberedLabel id number ∉ model.labels := by
  by_contra none
  push Not at none
  have candidates : (plainLabel id :: (List.range' 1 model.states.length).map
      (numberedLabel id)).Nodup := by
    refine List.nodup_cons.mpr ⟨?_, (List.nodup_range').map (numberedLabel_injective id)⟩
    intro member
    obtain ⟨number, -, same⟩ := List.mem_map.mp member
    exact plainLabel_ne_numberedLabel id number same.symm
  have inside : plainLabel id :: (List.range' 1 model.states.length).map (numberedLabel id) ⊆
      model.labels := by
    refine List.cons_subset.mpr ⟨taken, fun label member => ?_⟩
    obtain ⟨number, bounds, rfl⟩ := List.mem_map.mp member
    obtain ⟨least, most⟩ := List.mem_range'_1.mp bounds
    exact none number least (by omega)
  have count := (candidates.subperm inside).length_le
  simp only [List.length_cons, List.length_map, List.length_range', labels] at count
  omega

/-- A new state has the plain label if no other state has it, and otherwise the variant with the
least number that is free. -/
theorem freshLabel_spec (model : Automaton) (id : StateId) :
    (plainLabel id ∉ model.labels ∧ model.freshLabel id = plainLabel id) ∨
      plainLabel id ∈ model.labels ∧ ∃ number, 1 ≤ number ∧ number ≤ model.states.length ∧
        model.freshLabel id = numberedLabel id number ∧ numberedLabel id number ∉ model.labels ∧
        ∀ less, 1 ≤ less → less < number → numberedLabel id less ∈ model.labels := by
  unfold freshLabel
  by_cases taken : plainLabel id ∈ model.labels
  · refine .inr ⟨taken, ?_⟩
    obtain ⟨free, least, most, absent⟩ := exists_free_number taken
    have search : ((List.range' 1 model.states.length).find? fun number =>
        !model.labels.contains (numberedLabel id number)).isSome := by
      rw [List.find?_isSome]
      exact ⟨free, List.mem_range'_1.mpr ⟨least, by omega⟩, by simpa using absent⟩
    obtain ⟨number, found⟩ := Option.isSome_iff_exists.mp search
    obtain ⟨unused, bounds, before⟩ := List.find?_range'_eq_some.mp found
    obtain ⟨lower, upper⟩ := List.mem_range'_1.mp bounds
    refine ⟨number, lower, by omega, ?_, by simpa using unused, ?_⟩
    · simp only [List.contains_iff_mem.mpr taken, found, if_true, Option.getD_some]
    · intro less positive smaller
      simpa using before less positive smaller
  · refine .inl ⟨taken, ?_⟩
    rw [if_neg (by simpa using taken)]

theorem freshLabel_not_mem_labels (model : Automaton) (id : StateId) :
    model.freshLabel id ∉ model.labels := by
  obtain ⟨free, same⟩ | ⟨-, number, -, -, same, free, -⟩ := model.freshLabel_spec id
  · rwa [same]
  · rwa [same]

theorem usable_freshLabel (model : Automaton) (id : StateId) :
    literalFault? (model.freshLabel id) = none := by
  obtain ⟨-, same⟩ | ⟨-, number, -, -, same, -⟩ := model.freshLabel_spec id
  · rw [same]
    exact usable_plainLabel id
  · rw [same]
    exact usable_numberedLabel id number

/-- No identifier in use is greater than the greatest one. -/
theorem le_maxId (known : id ∈ model.ids) : id ≤ model.maxId := by
  unfold maxId
  cases greatest : model.ids.max? with
  | none =>
    rw [List.max?_eq_none_iff] at greatest
    simp [greatest] at known
  | some most => exact (List.max?_eq_some_iff.mp greatest).2 id known

/-- The identifier of a new state is not in use. -/
theorem next_not_mem_ids (model : Automaton) : model.maxId + 1 ∉ model.ids := by
  intro known
  exact Int.not_le.mpr (Int.lt_succ model.maxId) (le_maxId known)

theorem ids_addState (accepting : Bool) :
    (model.addState accepting).1.ids = model.ids ++ [model.maxId + 1] := by
  simp [addState, ids]

theorem labels_addState (accepting : Bool) :
    (model.addState accepting).1.labels =
      model.labels ++ [model.freshLabel (model.maxId + 1)] := by
  simp [addState, labels]

/-- A valid automaton stays valid with a new state. -/
theorem Valid.addState (valid : model.Valid) (accepting : Bool) :
    (model.addState accepting).1.Valid where
  hasStates := by simp [Automaton.addState]
  idsDistinct := by
    rw [ids_addState, ← List.concat_eq_append]
    exact valid.idsDistinct.concat model.next_not_mem_ids
  initialKnown := by
    rw [ids_addState]
    exact List.mem_append_left _ valid.initialKnown
  labelsUsable := by
    intro state member
    rcases List.mem_append.mp member with earlier | new
    · exact valid.labelsUsable state earlier
    · obtain rfl := List.mem_singleton.mp new
      exact model.usable_freshLabel _
  alphabetUsable := valid.alphabetUsable
  symbolsUsable := valid.symbolsUsable
  sourcesKnown := by
    intro transition member
    rw [ids_addState]
    exact List.mem_append_left _ (valid.sourcesKnown transition member)
  targetsKnown := by
    intro transition member
    rw [ids_addState]
    exact List.mem_append_left _ (valid.targetsKnown transition member)
  keysDistinct := valid.keysDistinct

end Automaton

end Acceptor
