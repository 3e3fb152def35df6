import Acceptor.Proofs.Automaton.Building
import Acceptor.Proofs.Automaton.Likeness
import Acceptor.Proofs.Distinct
import Mathlib.Data.Finset.Dedup

/-!
# In which order transitions are described

Installing a transition can be refused, change nothing or bring a new symbol along, so what building
makes of a description might depend on the order of its transitions. `Listing.gathered` says what it
amounts to without any order of steps: each transition once, and the symbols that were not declared
behind those that were. Building succeeds exactly if the gathered description is coherent, and gives
the automaton that it stands for (`Listing.build_eq_ok_iff`). Whether it is coherent depends on
which transitions occur, and not on where or how often.
-/

namespace Acceptor

/-- What the hash of an automaton is computed from. The transitions count as a set. -/
def Automaton.hashed (model : Automaton) :
    List State × List Symbol × Finset Transition × StateId :=
  (model.states, model.alphabet, model.transitions.toFinset, model.initial)

/-- Automata that are the same have the same hash. -/
theorem Automaton.Same.hashed_eq {left right : Automaton} (same : left.Same right) :
    left.hashed = right.hashed := by
  rw [hashed, hashed, same.states, same.alphabet, same.initial,
    List.toFinset_eq_of_perm _ _ same.transitions]

/-- Two automata that differ at most in the order of their transitions and of their symbols. -/
structure Automaton.Reordered (left right : Automaton) : Prop where
  states : left.states = right.states
  initial : left.initial = right.initial
  transitions : left.transitions.Perm right.transitions
  symbols : ∀ symbol, symbol ∈ left.alphabet ↔ symbol ∈ right.alphabet
  verdicts : ∀ emptyAccepts input, left.check emptyAccepts input = right.check emptyAccepts input

/-- The symbols of some described transitions that an alphabet does not have, in the order of their
first uses. -/
def undeclared {Name : Type} (alphabet : List Symbol) (rows : List (Name × Symbol × Name)) :
    List Symbol :=
  (distinct (rows.map (·.2.1))).filter (!alphabet.contains ·)

theorem undeclared_of_declared {Name : Type} {alphabet : List Symbol}
    {rows : List (Name × Symbol × Name)} (declared : ∀ row ∈ rows, row.2.1 ∈ alphabet) :
    undeclared alphabet rows = [] := by
  refine List.filter_eq_nil_iff.mpr fun symbol used => ?_
  obtain ⟨row, member, rfl⟩ := List.mem_map.mp (mem_distinct.mp used)
  simpa using declared row member

theorem mem_undeclared {Name : Type} {alphabet : List Symbol} {rows : List (Name × Symbol × Name)}
    {symbol : Symbol} :
    symbol ∈ undeclared alphabet rows ↔ (∃ row ∈ rows, row.2.1 = symbol) ∧ symbol ∉ alphabet := by
  simp [undeclared, mem_distinct]

namespace Listing

variable {Name : Type} [DecidableEq Name]

/-- A description with other transitions. -/
abbrev withRows (listing : Listing Name) (rows : List (Name × Symbol × Name)) : Listing Name :=
  { listing with transitions := rows }

/-- A description with each transition once, and with the symbols of its transitions declared. -/
def gathered (listing : Listing Name) : Listing Name where
  states := listing.states
  alphabet := listing.alphabet ++ undeclared listing.alphabet listing.transitions
  initial := listing.initial
  accepting := listing.accepting
  transitions := distinct listing.transitions

variable {listing : Listing Name} {rows rows' : List (Name × Symbol × Name)}
  {row : Name × Symbol × Name} {symbol : Symbol}

/-- The alphabet of a gathered description has the declared symbols and those that are used. -/
theorem mem_alphabet_gathered :
    symbol ∈ listing.gathered.alphabet ↔
      symbol ∈ listing.alphabet ∨ ∃ row ∈ listing.transitions, row.2.1 = symbol := by
  rw [gathered, List.mem_append, mem_undeclared]
  by_cases declared : symbol ∈ listing.alphabet <;> simp [declared]

/-- One more transition that is there already changes nothing about what is gathered. -/
theorem gathered_concat_of_mem (member : row ∈ rows) :
    (listing.withRows (rows ++ [row])).gathered = (listing.withRows rows).gathered := by
  have used : row.2.1 ∈ rows.map (·.2.1) := List.mem_map_of_mem member
  simp only [gathered, undeclared, List.map_append, List.map_singleton, distinct_concat, member,
    used, if_true]

/-- A new transition stands at the end, and so does its symbol if it is new. -/
theorem gathered_concat_of_not_mem (absent : row ∉ rows) :
    (listing.withRows (rows ++ [row])).gathered = { (listing.withRows rows).gathered with
      alphabet := Automaton.withSymbol (listing.withRows rows).gathered.alphabet row.2.1
      transitions := (listing.withRows rows).gathered.transitions ++ [row] } := by
  have alphabet : listing.alphabet ++ undeclared listing.alphabet (rows ++ [row]) =
      Automaton.withSymbol (listing.alphabet ++ undeclared listing.alphabet rows) row.2.1 := by
    by_cases declared : row.2.1 ∈ listing.alphabet <;>
      by_cases used : row.2.1 ∈ rows.map (·.2.1) <;>
        simp [undeclared, Automaton.withSymbol, distinct_concat, mem_distinct, declared, used]
  simp only [gathered, distinct_concat, absent, if_false, alphabet]

theorem idOf_eq_ok_iff [StateName Name] {name : Name} {id : StateId} :
    listing.idOf name = .ok id ↔ name ∈ listing.states ∧ id = listing.number name := by
  by_cases listed : name ∈ listing.states
  · rw [idOf_of_mem listed]
    simp [listed, eq_comm]
  · have missing : listing.idOf? name = none := by
      rw [idOf?, List.idxOf?_eq_none_iff.mpr listed]
      rfl
    simp [idOf, missing, listed]

namespace Coherent

variable [StateName Name] {model : Automaton}

/-- Whether a gathered description is coherent depends on which transitions occur: fewer of them
leave it coherent. -/
theorem gathered_mono (coherent : (listing.withRows rows').gathered.Coherent)
    (subset : rows ⊆ rows') : (listing.withRows rows).gathered.Coherent where
  hasStates := coherent.hasStates
  statesDistinct := coherent.statesDistinct
  labelsUsable := coherent.labelsUsable
  alphabetUsable := by
    intro symbol member
    refine coherent.alphabetUsable symbol (mem_alphabet_gathered.mpr ?_)
    refine (mem_alphabet_gathered.mp member).imp_right ?_
    rintro ⟨row, there, same⟩
    exact ⟨row, subset there, same⟩
  initialListed := coherent.initialListed
  acceptingListed := coherent.acceptingListed
  sourcesListed := fun row member => coherent.sourcesListed row
    (mem_distinct.mpr (subset (mem_distinct.mp member)))
  symbolsListed := fun row member => mem_alphabet_gathered.mpr
    (.inr ⟨row, mem_distinct.mp member, rfl⟩)
  targetsListed := fun row member => coherent.targetsListed row
    (mem_distinct.mpr (subset (mem_distinct.mp member)))
  keysDistinct := by
    refine List.Nodup.map_on (fun first firstMember second secondMember same => ?_)
      (nodup_distinct rows)
    have there {row} (member : row ∈ distinct rows) : row ∈ distinct rows' :=
      mem_distinct.mpr (subset (mem_distinct.mp member))
    exact List.inj_on_of_nodup_map coherent.keysDistinct (there firstMember) (there secondMember)
      same

/-- A transition between listed states is installed exactly if it was described. -/
theorem numbered_mem_iff (coherent : (listing.withRows rows).gathered.Coherent)
    (sourceListed : row.1 ∈ listing.states) (targetListed : row.2.2 ∈ listing.states) :
    listing.numbered row ∈ (listing.withRows rows).gathered.automaton.transitions ↔ row ∈ rows := by
  constructor
  · intro installed
    obtain ⟨other, member, same⟩ := List.mem_map.mp installed
    obtain ⟨sources, symbols, targets⟩ := Transition.mk.inj same
    have source := number_injective (coherent.sourcesListed other member) sourceListed sources
    have target := number_injective (coherent.targetsListed other member) targetListed targets
    obtain rfl : other = row := Prod.ext source (Prod.ext symbols target)
    exact mem_distinct.mp member
  · intro member
    exact List.mem_map_of_mem (mem_distinct.mpr member)

/-- A key is free exactly if no described transition has it. -/
theorem target?_eq_none_iff (coherent : (listing.withRows rows).gathered.Coherent)
    (sourceListed : row.1 ∈ listing.states) :
    (listing.withRows rows).gathered.automaton.target? (listing.number row.1) row.2.1 = none ↔
      (row.1, row.2.1) ∉ (distinct rows).map fun other => (other.1, other.2.1) := by
  rw [Automaton.target?_eq_none_iff, not_iff_not]
  constructor
  · intro taken
    obtain ⟨transition, installed, key⟩ := List.mem_map.mp taken
    obtain ⟨other, member, rfl⟩ := List.mem_map.mp installed
    obtain ⟨sources, symbols⟩ := Prod.mk.inj key
    have source := number_injective (coherent.sourcesListed other member) sourceListed sources
    exact List.mem_map.mpr ⟨other, member, Prod.ext source symbols⟩
  · intro taken
    obtain ⟨other, member, key⟩ := List.mem_map.mp taken
    obtain ⟨source, symbols⟩ := Prod.mk.inj key
    refine List.mem_map.mpr ⟨_, List.mem_map_of_mem member, ?_⟩
    exact Prod.ext (congrArg listing.number source) symbols

/-- A new transition leaves a gathered description coherent exactly if its symbol is usable and its
key is free. -/
theorem concat_iff (coherent : (listing.withRows rows).gathered.Coherent) (absent : row ∉ rows)
    (sourceListed : row.1 ∈ listing.states) (targetListed : row.2.2 ∈ listing.states) :
    (listing.withRows (rows ++ [row])).gathered.Coherent ↔ literalFault? row.2.1 = none ∧
      (row.1, row.2.1) ∉ (distinct rows).map fun other => (other.1, other.2.1) := by
  have transitions : distinct (rows ++ [row]) = distinct rows ++ [row] := by
    rw [distinct_concat, if_neg absent]
  have keys : ((distinct (rows ++ [row])).map fun other => (other.1, other.2.1)).Nodup ↔
      (row.1, row.2.1) ∉ (distinct rows).map fun other => (other.1, other.2.1) := by
    rw [transitions, List.map_append, List.map_singleton, ← List.concat_eq_append,
      List.nodup_concat]
    exact and_iff_left coherent.keysDistinct
  constructor
  · intro extended
    refine ⟨extended.alphabetUsable _ (mem_alphabet_gathered.mpr (.inr ⟨row, ?_, rfl⟩)),
      keys.mp extended.keysDistinct⟩
    exact List.mem_append_right _ List.mem_cons_self
  · rintro ⟨usable, free⟩
    have each {property : Name × Symbol × Name → Prop} (here : property row)
        (others : ∀ other ∈ distinct rows, property other) :
        ∀ other ∈ distinct (rows ++ [row]), property other := by
      rw [transitions]
      exact List.forall_mem_append.mpr ⟨others, List.forall_mem_singleton.mpr here⟩
    exact {
      hasStates := coherent.hasStates
      statesDistinct := coherent.statesDistinct
      labelsUsable := coherent.labelsUsable
      alphabetUsable := by
        intro symbol member
        rcases mem_alphabet_gathered.mp member with declared | ⟨other, there, rfl⟩
        · exact coherent.alphabetUsable symbol (mem_alphabet_gathered.mpr (.inl declared))
        · rcases List.mem_append.mp there with earlier | new
          · exact coherent.alphabetUsable _ (mem_alphabet_gathered.mpr (.inr ⟨other, earlier, rfl⟩))
          · obtain rfl := List.mem_singleton.mp new
            exact usable
      initialListed := coherent.initialListed
      acceptingListed := coherent.acceptingListed
      sourcesListed := each sourceListed coherent.sourcesListed
      symbolsListed := fun other member => mem_alphabet_gathered.mpr
        (.inr ⟨other, mem_distinct.mp member, rfl⟩)
      targetsListed := each targetListed coherent.targetsListed
      keysDistinct := keys.mpr free }

/-- One more transition between listed states is installed exactly if the description stays
coherent with it, and then the automaton is the one that this description stands for. -/
theorem addTransition_gathered (coherent : (listing.withRows rows).gathered.Coherent)
    (sourceListed : row.1 ∈ listing.states) (targetListed : row.2.2 ∈ listing.states) :
    (listing.withRows rows).gathered.automaton.addTransition (listing.number row.1)
        (listing.number row.2.2) row.2.1 = .ok model ↔
      (listing.withRows (rows ++ [row])).gathered.Coherent ∧
        model = (listing.withRows (rows ++ [row])).gathered.automaton := by
  have known {name} (listed : name ∈ listing.states) :
      listing.number name ∈ (listing.withRows rows).gathered.automaton.ids :=
    @number_mem_ids _ _ _ (listing.withRows rows).gathered _ listed
  have there := coherent.numbered_mem_iff sourceListed targetListed
  rw [numbered, ← Automaton.target?_eq_some_iff coherent.valid.keysDistinct] at there
  rw [Automaton.addTransition_eq_ok_iff, there, coherent.target?_eq_none_iff sourceListed]
  by_cases member : row ∈ rows
  · have usable : literalFault? row.2.1 = none :=
      coherent.alphabetUsable _ (mem_alphabet_gathered.mpr (.inr ⟨row, member, rfl⟩))
    have taken : (row.1, row.2.1) ∈ (distinct rows).map fun other => (other.1, other.2.1) :=
      List.mem_map.mpr ⟨row, mem_distinct.mpr member, rfl⟩
    rw [gathered_concat_of_mem member]
    simp [known sourceListed, known targetListed, usable, taken, member, coherent]
  · have extended : (listing.withRows (rows ++ [row])).gathered.automaton =
        { (listing.withRows rows).gathered.automaton with
          alphabet := Automaton.withSymbol (listing.withRows rows).gathered.automaton.alphabet
            row.2.1
          transitions := (listing.withRows rows).gathered.automaton.transitions ++
            [⟨listing.number row.1, row.2.1, listing.number row.2.2⟩] } := by
      rw [gathered_concat_of_not_mem member]
      simp only [automaton, List.map_append]
      rfl
    rw [coherent.concat_iff member sourceListed targetListed, extended]
    simp only [known sourceListed, known targetListed, member, false_and, false_or, true_and,
      and_assoc]

end Coherent

variable [StateName Name] {model : Automaton}

/-- Some more transitions are installed one after the other exactly if the description is coherent
with them. -/
theorem installAll_eq_ok_iff {done coming : List (Name × Symbol × Name)}
    (coherent : (listing.withRows done).gathered.Coherent) :
    listing.installAll coming (listing.withRows done).gathered.automaton = .ok model ↔
      (listing.withRows (done ++ coming)).gathered.Coherent ∧
        model = (listing.withRows (done ++ coming)).gathered.automaton := by
  induction coming generalizing done with
  | nil =>
    rw [List.append_nil, installAll, Except.ok.injEq, eq_comm (b := model)]
    exact (and_iff_right coherent).symm
  | cons row rest inductionHypothesis =>
    have regroup : done ++ row :: rest = (done ++ [row]) ++ rest := by simp
    rw [regroup, installAll, bind_eq_ok_iff]
    simp only [bind_eq_ok_iff, idOf_eq_ok_iff]
    constructor
    · rintro ⟨-, ⟨sourceListed, rfl⟩, -, ⟨targetListed, rfl⟩, between, added, onward⟩
      obtain ⟨extended, rfl⟩ := (coherent.addTransition_gathered sourceListed targetListed).mp added
      exact (inductionHypothesis extended).mp onward
    · rintro ⟨whole, rfl⟩
      have extended : (listing.withRows (done ++ [row])).gathered.Coherent :=
        whole.gathered_mono (List.subset_append_left _ _)
      have member : row ∈ distinct (done ++ [row]) := mem_distinct.mpr (by simp)
      have sourceListed := extended.sourcesListed row member
      have targetListed := extended.targetsListed row member
      exact ⟨_, ⟨sourceListed, rfl⟩, _, ⟨targetListed, rfl⟩, _,
        (coherent.addTransition_gathered sourceListed targetListed).mpr ⟨extended, rfl⟩,
        (inductionHypothesis extended).mpr ⟨whole, rfl⟩⟩

/-- Which transitions a description has does not matter to installing others. -/
theorem installAll_withRows (listing : Listing Name)
    (rows coming : List (Name × Symbol × Name)) (start : Automaton) :
    (listing.withRows rows).installAll coming start = listing.installAll coming start := by
  induction coming generalizing start with
  | nil => rfl
  | cons row rest inductionHypothesis =>
    simp only [installAll, inductionHypothesis]
    rfl

/-- Building a description without transitions comes before installing some. -/
theorem build_withRows (listing : Listing Name) (rows : List (Name × Symbol × Name)) :
    (listing.withRows rows).build = (listing.withRows []).build >>= listing.installAll rows := by
  by_cases statesDistinct : listing.states.Nodup
  case neg =>
    simp only [build, statesDistinct, not_false_eq_true, if_true]
    rfl
  simp only [build, statesDistinct, not_true_eq_false, if_false, bind_assoc, installAll_withRows]
  rfl

/-- Without transitions, a description is built exactly if it is coherent. -/
theorem build_withoutRows_eq_ok_iff :
    (listing.withRows []).build = .ok model ↔ (listing.withRows []).gathered.Coherent ∧
      model = (listing.withRows []).gathered.automaton := by
  have same : (listing.withRows []).gathered = listing.withRows [] := by
    simp [gathered, undeclared, distinct]
  rw [same]
  constructor
  · intro built
    unfold build at built
    simp only [refuseIf_eq_ok_iff, bind_eq_ok_iff, Decidable.not_not, idOf_eq_ok_iff] at built
    obtain ⟨statesDistinct, _, ⟨initialListed, rfl⟩, ⟨⟩, accepting, _, passed, installed⟩ := built
    obtain ⟨rfl, hasStates, -, -, labels, alphabet, -⟩ := Automaton.checked_eq_ok_iff.mp passed
    refine ⟨?_, (Except.ok.inj installed).symm⟩
    exact {
      hasStates := by simpa [numberedStates] using hasStates
      statesDistinct := statesDistinct
      labelsUsable := by
        intro name member
        obtain ⟨index, bound, rfl⟩ := List.getElem_of_mem member
        exact labels _ (List.mem_mapIdx.mpr ⟨index, bound, rfl⟩)
      alphabetUsable := alphabet
      initialListed := initialListed
      acceptingListed := by
        intro name member
        obtain ⟨id, listed⟩ := discard_eq_ok_iff.mp (forM_eq_ok_iff.mp accepting name member)
        exact (idOf_eq_ok_iff.mp listed).1
      sourcesListed := List.forall_mem_nil _
      symbolsListed := List.forall_mem_nil _
      targetsListed := List.forall_mem_nil _
      keysDistinct := List.nodup_nil }
  · rintro ⟨coherent, rfl⟩
    exact build_of_coherent coherent

/-- Building succeeds exactly if the gathered description is coherent, and gives the automaton that
it stands for. -/
theorem build_eq_ok_iff :
    listing.build = .ok model ↔
      listing.gathered.Coherent ∧ model = listing.gathered.automaton := by
  have whole : listing.build = (listing.withRows []).build >>= listing.installAll _ :=
    build_withRows listing listing.transitions
  rw [whole, bind_eq_ok_iff]
  simp only [build_withoutRows_eq_ok_iff]
  constructor
  · rintro ⟨-, ⟨coherent, rfl⟩, installed⟩
    exact (installAll_eq_ok_iff coherent).mp installed
  · rintro ⟨coherent, rfl⟩
    have unconnected : (listing.withRows []).gathered.Coherent :=
      coherent.gathered_mono (List.nil_subset listing.transitions)
    exact ⟨_, ⟨unconnected, rfl⟩, (installAll_eq_ok_iff unconnected).mpr ⟨coherent, rfl⟩⟩

theorem installAll_append (listing : Listing Name) (earlier later : List (Name × Symbol × Name))
    (start : Automaton) :
    listing.installAll (earlier ++ later) start =
      listing.installAll earlier start >>= listing.installAll later := by
  induction earlier generalizing start with
  | nil => rfl
  | cons row rest inductionHypothesis =>
    simp only [List.cons_append, installAll, bind_assoc, inductionHypothesis]

/-- A transition that has been installed is not installed again. -/
theorem installAll_cons_of_mem (coherent : (listing.withRows rows).gathered.Coherent)
    (member : row ∈ rows) (rest : List (Name × Symbol × Name)) :
    listing.installAll (row :: rest) (listing.withRows rows).gathered.automaton =
      listing.installAll rest (listing.withRows rows).gathered.automaton := by
  have sourceListed : row.1 ∈ listing.states :=
    coherent.sourcesListed row (mem_distinct.mpr member)
  have targetListed : row.2.2 ∈ listing.states :=
    coherent.targetsListed row (mem_distinct.mpr member)
  have same : (listing.withRows (rows ++ [row])).gathered = (listing.withRows rows).gathered :=
    gathered_concat_of_mem member
  have again := (coherent.addTransition_gathered sourceListed targetListed).mpr
    ⟨by rwa [same], by rw [same]⟩
  rw [installAll, idOf_of_mem sourceListed, idOf_of_mem targetListed]
  simp only [bind, Except.bind, again]

/-- The automata that two orders of the same transitions stand for differ in the order of what the
transitions bring along. -/
theorem Coherent.reordered (coherent : (listing.withRows rows).gathered.Coherent)
    (order : rows.Perm rows') :
    (listing.withRows rows).gathered.automaton.Reordered
      (listing.withRows rows').gathered.automaton := by
  have coherent' : (listing.withRows rows').gathered.Coherent :=
    coherent.gathered_mono order.symm.subset
  have once : (distinct rows).Perm (distinct rows') := by
    refine (List.perm_ext_iff_of_nodup (nodup_distinct rows) (nodup_distinct rows')).mpr ?_
    intro row
    rw [mem_distinct, mem_distinct, order.mem_iff]
  have transitions := once.map listing.numbered
  refine ⟨rfl, rfl, transitions, fun symbol => ?_, ?_⟩
  · refine mem_alphabet_gathered.trans (Iff.trans ?_ mem_alphabet_gathered.symm)
    exact or_congr_right (exists_congr fun row => and_congr_left fun _ => order.mem_iff)
  · refine Automaton.check_congr rfl (fun source symbol => Option.ext fun target => ?_) fun _ => rfl
    rw [Automaton.target?_eq_some_iff coherent.valid.keysDistinct,
      Automaton.target?_eq_some_iff coherent'.valid.keysDistinct]
    exact transitions.mem_iff

/-- The order of the new symbols is the only thing that can tell two orders of the same transitions
apart. -/
theorem Coherent.same_of_undeclared (coherent : (listing.withRows rows).gathered.Coherent)
    (order : rows.Perm rows')
    (symbols : undeclared listing.alphabet rows = undeclared listing.alphabet rows') :
    (listing.withRows rows).gathered.automaton.Same
      (listing.withRows rows').gathered.automaton :=
  ⟨rfl, congrArg (listing.alphabet ++ ·) symbols, (coherent.reordered order).transitions, rfl⟩

/-- A transition that comes again after its first occurrence changes nothing, not even the reason
of a refusal. -/
theorem build_repeated (listing : Listing Name) (row : Name × Symbol × Name)
    (before between after : List (Name × Symbol × Name)) :
    (listing.withRows (before ++ row :: (between ++ row :: after))).build =
      (listing.withRows (before ++ row :: (between ++ after))).build := by
  obtain ⟨earlier, regroup, member⟩ : ∃ earlier, (∀ rest, before ++ row :: (between ++ rest) =
      earlier ++ rest) ∧ row ∈ earlier :=
    ⟨before ++ row :: between, by simp, by simp⟩
  rw [regroup, regroup, build_withRows, build_withRows listing (_ ++ after)]
  cases unconnected : (listing.withRows []).build with
  | error error => rfl
  | ok start =>
    obtain ⟨coherent, rfl⟩ := build_withoutRows_eq_ok_iff.mp unconnected
    change listing.installAll (_ ++ _) _ = listing.installAll (_ ++ _) _
    rw [installAll_append, installAll_append]
    cases installed : listing.installAll earlier (listing.withRows []).gathered.automaton with
    | error error => rfl
    | ok middle =>
      obtain ⟨reached, rfl⟩ := (installAll_eq_ok_iff coherent).mp installed
      exact installAll_cons_of_mem reached member after

/-- The order in which transitions are described is immaterial. A permutation of them is built
exactly if they are; the automata differ in the order of their transitions and of the symbols that
the transitions add, and have the same hash if those symbols come in the same order or are none.
A transition that is described again makes no difference at all. -/
theorem build_transitionOrder (listing : Listing Name) :
    (∀ rows rows', rows.Perm rows' →
      ((∃ model, (listing.withRows rows).build = .ok model) ↔
        ∃ model', (listing.withRows rows').build = .ok model') ∧
      ∀ model model', (listing.withRows rows).build = .ok model →
        (listing.withRows rows').build = .ok model' →
        model.Reordered model' ∧
          ((∀ row ∈ rows, row.2.1 ∈ listing.alphabet) ∨
              distinct (rows.map (·.2.1)) = distinct (rows'.map (·.2.1)) →
            model.Same model' ∧ model.hashed = model'.hashed)) ∧
    ∀ row before between after,
      (listing.withRows (before ++ row :: (between ++ row :: after))).build =
        (listing.withRows (before ++ row :: (between ++ after))).build := by
  refine ⟨fun rows rows' order => ⟨?_, fun model model' built built' => ?_⟩, build_repeated listing⟩
  · simp only [build_eq_ok_iff, exists_and_left, exists_eq, and_true]
    exact ⟨fun coherent => coherent.gathered_mono order.symm.subset,
      fun coherent => coherent.gathered_mono order.subset⟩
  · obtain ⟨coherent, rfl⟩ := build_eq_ok_iff.mp built
    obtain ⟨-, rfl⟩ := build_eq_ok_iff.mp built'
    refine ⟨coherent.reordered order, fun alike => ?_⟩
    have symbols : undeclared listing.alphabet rows = undeclared listing.alphabet rows' := by
      rcases alike with declared | sameOrder
      · have declared' : ∀ row ∈ rows', row.2.1 ∈ listing.alphabet :=
          fun row member => declared row (order.mem_iff.mpr member)
        rw [undeclared_of_declared declared, undeclared_of_declared declared']
      · rw [undeclared, undeclared, sameOrder]
    have same := coherent.same_of_undeclared order symbols
    exact ⟨same, same.hashed_eq⟩

/-- Two transitions between two places come in either order: the automata list them differently and
are the same. -/
theorem build_transitionOrder_places :
    let places : Listing Label := ⟨["hall", "room"], ["in", "out"], "hall", ["room"], []⟩
    let rows := [("hall", "in", "room"), ("room", "out", "hall")]
    let rows' := [("room", "out", "hall"), ("hall", "in", "room")]
    rows.Perm rows' ∧ ∃ model model', (places.withRows rows).build = .ok model ∧
      (places.withRows rows').build = .ok model' ∧ model ≠ model' ∧ model.Same model' ∧
      model.hashed = model'.hashed := by
  intro places rows rows'
  have order : rows.Perm rows' := .swap _ _ _
  have built : (places.withRows rows).build = .ok ⟨[⟨1, "hall", false⟩, ⟨2, "room", true⟩],
    ["in", "out"], [⟨1, "in", 2⟩, ⟨2, "out", 1⟩], 1⟩ := by decide
  have built' : (places.withRows rows').build = .ok ⟨[⟨1, "hall", false⟩, ⟨2, "room", true⟩],
    ["in", "out"], [⟨2, "out", 1⟩, ⟨1, "in", 2⟩], 1⟩ := by decide
  obtain ⟨-, alike⟩ := (build_transitionOrder places).1 rows rows' order
  have same := (alike _ _ built built').2 (.inl (by decide))
  exact ⟨order, _, _, built, built', by decide, same⟩

end Listing

end Acceptor
