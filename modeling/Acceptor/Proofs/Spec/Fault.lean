import Acceptor.Proofs.Spec.Content

/-!
# Which fault of a block is reported

The clauses of a block are checked in a fixed order. What comes before the transitions does not
depend on them (`heading`), and its faults are missing sections, which have no place, and names that
are reported where they stand (`HeadingFault`). The transitions are taken one after the other, so
the reported one is the first that cannot be taken after those before it (`listing_eq_error`), and
those behind it do not matter.
-/

namespace Acceptor.Spec

/-- The sections that have to be there, in the order in which they are looked for. -/
def Section.required : List Section :=
  [.list .alphabet, .list .states, .initialState, .list .acceptingStates]

/-- What the clauses of a block describe apart from the transitions. -/
def heading (clauses : List Clause) : Except ReadError (Listing Label) := do
  let (_, symbols) ← required (.list .alphabet) (listClause? .alphabet clauses)
  let (statesKey, labels) ← required (.list .states) (listClause? .states clauses)
  let initial ← required .initialState (initialClause? clauses)
  let (_, accepting) ← required (.list .acceptingStates) (listClause? .acceptingStates clauses)
  requireAll (.list .alphabet) (!·.isEmpty) (fun _ => .emptySymbol) symbols
  requireAll (.list .states) (!·.isEmpty) (fun _ => .emptyLabel) labels
  if labels.isEmpty then throw ⟨.noStates, some (Section.list .states).name, some statesKey⟩
  let states := distinct (labels.map Literal.content)
  requireAll .initialState states.contains .undeclaredInitial [initial]
  requireAll (.list .acceptingStates) states.contains .undeclaredAccepting accepting
  return {
    states
    alphabet := distinct (symbols.map Literal.content)
    initial := initial.content
    accepting := accepting.map Literal.content
    transitions := [] }

/-- The transitions are added to what else is described. -/
theorem listing_eq_heading (clauses : List Clause) :
    listing clauses = do
      let described ← heading clauses
      let transitions ←
        addEntries described.states described.alphabet [] (tableEntries clauses)
      return { described with transitions } := by
  unfold listing heading
  simp only [bind_assoc]
  refine bind_congr fun symbols => bind_congr fun labels => bind_congr fun initial =>
    bind_congr fun accepting => bind_congr fun _ => bind_congr fun _ => ?_
  split
  · rfl
  · simp only [bind_assoc, pure_bind]

/-- A fault apart from the transitions: a section is missing, and then it is the first one that is,
or a name is reported where it stands. -/
inductive HeadingFault (clauses : List Clause) : ReadError → Prop where
  | missing {named}
      (first : Section.required.find? (· ∉ clauses.map Clause.toSection) = some named) :
      HeadingFault clauses ⟨.missing named.name, some named.name, none⟩
  | item {which key items item cause} (listed : .list which key items ∈ clauses)
      (member : item ∈ items)
      (placed : cause.kind ≠ .malformedBlock ∧ cause.kind ≠ .missingSection) :
      HeadingFault clauses ⟨cause, some (Section.list which).name, some item.position⟩
  | initial {label} (given : .initialState label ∈ clauses) :
      HeadingFault clauses ⟨.undeclaredInitial label.content, some Section.initialState.name,
        some label.position⟩
  | noStates {key items} (listed : .list .states key items ∈ clauses) :
      HeadingFault clauses ⟨.noStates, some (Section.list .states).name, some key⟩

section Faults

variable {clauses : List Clause} {error : ReadError}

theorem listClause?_eq_none_iff {which : ListSection} :
    listClause? which clauses = none ↔ .list which ∉ clauses.map Clause.toSection := by
  simp only [listClause?, List.findSome?_eq_none_iff, List.mem_map, not_exists, not_and]
  refine forall_congr' fun clause => imp_congr_right fun _ => ?_
  cases clause <;> simp [Clause.toSection]

theorem initialClause?_eq_none_iff :
    initialClause? clauses = none ↔ .initialState ∉ clauses.map Clause.toSection := by
  simp only [initialClause?, List.findSome?_eq_none_iff, List.mem_map, not_exists, not_and]
  refine forall_congr' fun clause => imp_congr_right fun _ => ?_
  cases clause <;> simp [Clause.toSection]

theorem required_eq_error_iff {α : Type} {named : Section} {clause : Option α} :
    required named clause = .error error ↔
      clause = none ∧ error = ⟨.missing named.name, some named.name, none⟩ := by
  cases clause <;> simp [required, eq_comm]

theorem exists_of_requireAll {named : Section} {test : String → Bool}
    {cause : String → ReadErrorCause} {items : List Literal}
    (refused : requireAll named test cause items = .error error) :
    ∃ item ∈ items, error = ⟨cause item.content, some named.name, some item.position⟩ := by
  unfold requireAll at refused
  split at refused
  · cases refused
  · next item found =>
    exact ⟨item, List.mem_of_find?_eq_some found, (Except.error.inj refused).symm⟩

/-- The section that is reported as missing is the first one that is. -/
theorem find?_required {sections later : List Section} {named : Section} (earlier : List Section)
    (order : Section.required = earlier ++ named :: later)
    (present : ∀ other ∈ earlier, other ∈ sections) (absent : named ∉ sections) :
    Section.required.find? (· ∉ sections) = some named := by
  rw [order, List.find?_append, List.find?_eq_none.mpr (by simpa using present),
    List.find?_cons_of_pos (by simpa using absent)]
  rfl

/-- The faults apart from the transitions. -/
theorem headingFault_of_heading (nodup : (clauses.map Clause.toSection).Nodup)
    (refused : heading clauses = .error error) : HeadingFault clauses error := by
  have filled {clause : Clause} (member : clause ∈ clauses) :
      clause.toSection ∈ clauses.map Clause.toSection := List.mem_map_of_mem member
  unfold heading at refused
  rcases bind_eq_error_iff.mp refused with missing | ⟨⟨alphabetKey, symbols⟩, found, refused⟩
  · obtain ⟨absent, rfl⟩ := required_eq_error_iff.mp missing
    exact .missing (find?_required [] rfl nofun (listClause?_eq_none_iff.mp absent))
  have alphabet := (listClause?_eq_some_iff nodup).mp (required_eq_ok_iff.mp found)
  rcases bind_eq_error_iff.mp refused with missing | ⟨⟨statesKey, labels⟩, found, refused⟩
  · obtain ⟨absent, rfl⟩ := required_eq_error_iff.mp missing
    refine .missing (find?_required [_] rfl ?_ (listClause?_eq_none_iff.mp absent))
    exact List.forall_mem_singleton.mpr (filled alphabet)
  have states := (listClause?_eq_some_iff nodup).mp (required_eq_ok_iff.mp found)
  rcases bind_eq_error_iff.mp refused with missing | ⟨initial, found, refused⟩
  · obtain ⟨absent, rfl⟩ := required_eq_error_iff.mp missing
    refine .missing (find?_required [_, _] rfl ?_ (initialClause?_eq_none_iff.mp absent))
    exact List.forall_mem_cons.mpr ⟨filled alphabet, List.forall_mem_singleton.mpr (filled states)⟩
  have initialState := (initialClause?_eq_some_iff nodup).mp (required_eq_ok_iff.mp found)
  rcases bind_eq_error_iff.mp refused with missing | ⟨⟨acceptingKey, accepting⟩, found, refused⟩
  · obtain ⟨absent, rfl⟩ := required_eq_error_iff.mp missing
    refine .missing (find?_required [_, _, _] rfl ?_ (listClause?_eq_none_iff.mp absent))
    exact List.forall_mem_cons.mpr ⟨filled alphabet, List.forall_mem_cons.mpr
      ⟨filled states, List.forall_mem_singleton.mpr (filled initialState)⟩⟩
  have acceptingStates := (listClause?_eq_some_iff nodup).mp (required_eq_ok_iff.mp found)
  -- All sections are there, so what is left are the names in them.
  rcases bind_eq_error_iff.mp refused with empty | ⟨-, -, refused⟩
  · obtain ⟨item, member, rfl⟩ := exists_of_requireAll empty
    exact .item alphabet member (by simp [ReadErrorCause.kind])
  rcases bind_eq_error_iff.mp refused with empty | ⟨-, -, refused⟩
  · obtain ⟨item, member, rfl⟩ := exists_of_requireAll empty
    exact .item states member (by simp [ReadErrorCause.kind])
  dsimp only at refused
  split at refused
  · obtain rfl := Except.error.inj refused
    exact .noStates states
  rcases bind_eq_error_iff.mp refused with undeclared | ⟨-, -, refused⟩
  · obtain ⟨item, member, rfl⟩ := exists_of_requireAll undeclared
    obtain rfl := List.mem_singleton.mp member
    exact .initial initialState
  rcases bind_eq_error_iff.mp refused with undeclared | ⟨-, -, ⟨⟩⟩
  · obtain ⟨item, member, rfl⟩ := exists_of_requireAll undeclared
    exact .item acceptingStates member (by simp [ReadErrorCause.kind])

/-- A refused entry is reported where it stands. -/
structure EntryFault (entry : TableEntry) (error : ReadError) : Prop where
  kind : error.kind = .unknownState ∨ error.kind = .unknownSymbol ∨
    error.kind = .duplicateTransition
  inSection : error.inSection = some Section.transitions.name
  position : error.position = some entry.position

theorem entryFault_of_addEntry {states : List Label} {alphabet : List Symbol}
    {taken : List (Label × Symbol × Label)} {entry : TableEntry}
    (refused : addEntry states alphabet taken entry = .error error) : EntryFault entry error := by
  unfold addEntry at refused
  dsimp only at refused
  split at refused
  · cases refused
    exact ⟨.inl rfl, rfl, rfl⟩
  split at refused
  · cases refused
    exact ⟨.inl rfl, rfl, rfl⟩
  split at refused
  · cases refused
    exact ⟨.inr (.inl rfl), rfl, rfl⟩
  split at refused
  · cases refused
  · split at refused
    · cases refused
    · cases refused
      exact ⟨.inr (.inr rfl), rfl, rfl⟩

theorem addEntries_append (states : List Label) (alphabet : List Symbol)
    (taken : List (Label × Symbol × Label)) (earlier later : List TableEntry) :
    addEntries states alphabet taken (earlier ++ later) =
      addEntries states alphabet taken earlier >>= (addEntries states alphabet · later) := by
  induction earlier generalizing taken with
  | nil => rfl
  | cons entry rest inductionHypothesis =>
    simp only [List.cons_append, addEntries, bind_assoc, inductionHypothesis]

/-- The entries are refused at the first one that cannot be added to those before it. -/
theorem exists_entry_of_addEntries {states : List Label} {alphabet : List Symbol}
    {taken : List (Label × Symbol × Label)} {entries : List TableEntry}
    (refused : addEntries states alphabet taken entries = .error error) :
    ∃ earlier entry later sofar, entries = earlier ++ entry :: later ∧
      addEntries states alphabet taken earlier = .ok sofar ∧
        addEntry states alphabet sofar entry = .error error := by
  induction entries generalizing taken with
  | nil => cases refused
  | cons entry rest inductionHypothesis =>
    rw [addEntries] at refused
    rcases bind_eq_error_iff.mp refused with here | ⟨more, added, refused⟩
    · exact ⟨[], entry, rest, taken, rfl, rfl, here⟩
    · obtain ⟨earlier, other, later, sofar, rfl, before, here⟩ := inductionHypothesis refused
      refine ⟨entry :: earlier, other, later, sofar, rfl, ?_, here⟩
      rw [addEntries, added]
      exact before

end Faults

/-- What is described apart from the transitions does not depend on them. -/
theorem heading_transitions (earlier later : List Clause) (entries entries' : List TableEntry) :
    heading (earlier ++ .transitions entries :: later) =
      heading (earlier ++ .transitions entries' :: later) := by
  simp [heading, listClause?, initialClause?, List.findSome?_append]

/-- The clauses of a block are refused at an entry of the transition table: the table without this
entry and those behind it is not refused, and without those behind it, it is refused alike. -/
structure TableFault (clauses : List Clause) (entry : TableEntry) (error : ReadError) : Prop where
  fault : EntryFault entry error
  table : ∃ before after earlier later,
    clauses = before ++ .transitions (earlier ++ entry :: later) :: after ∧
      (∃ described, listing (before ++ .transitions earlier :: after) = .ok described) ∧
        listing (before ++ .transitions (earlier ++ [entry]) :: after) = .error error

/-- The clauses of a block are refused for a fault apart from the transitions, or at the first entry
that cannot be taken after those before it. -/
theorem listing_eq_error {clauses : List Clause} {error : ReadError}
    (nodup : (clauses.map Clause.toSection).Nodup) (refused : listing clauses = .error error) :
    HeadingFault clauses error ∨ ∃ entry, TableFault clauses entry error := by
  rw [listing_eq_heading] at refused
  rcases bind_eq_error_iff.mp refused with fault | ⟨described, headed, refused⟩
  · exact .inl (headingFault_of_heading nodup fault)
  right
  rcases bind_eq_error_iff.mp refused with stuck | ⟨-, -, ⟨⟩⟩
  obtain ⟨earlier, entry, later, sofar, table, taken, here⟩ := exists_entry_of_addEntries stuck
  rcases (tableEntries_eq_iff nodup).mp table with listed | ⟨empty, -⟩
  case inr => simp at empty
  obtain ⟨before, after, rfl⟩ := List.append_of_mem listed
  have sections (entries : List TableEntry) :
      ((before ++ .transitions entries :: after).map Clause.toSection).Nodup := by
    simpa [Clause.toSection] using nodup
  have listed (entries : List TableEntry) :
      listing (before ++ .transitions entries :: after) = do
        let transitions ← addEntries described.states described.alphabet [] entries
        return { described with transitions } := by
    have same : tableEntries (before ++ .transitions entries :: after) = entries :=
      (tableEntries_eq_iff (sections entries)).mpr (.inl (by simp))
    rw [listing_eq_heading, heading_transitions before after entries (earlier ++ entry :: later),
      headed, same]
    rfl
  refine ⟨entry, entryFault_of_addEntry here, before, after, earlier, later, rfl, ?_, ?_⟩
  · rw [listed, taken]
    exact ⟨_, rfl⟩
  · rw [listed, addEntries_append, taken]
    change (addEntries _ _ sofar [entry] >>= _) = _
    rw [addEntries, here]
    rfl

end Acceptor.Spec
