import Acceptor.Proofs.Distinct
import Acceptor.Proofs.Success
import Acceptor.Spec.Reading
import Mathlib.Data.List.Nodup

/-!
# What the clauses of a block say

`Content` is what a block says once its sections are told apart. `Content.Consistent` states what
has to hold of it, and `listing_eq_ok_iff` that the checks, which stop at the first fault, let
exactly the consistent contents pass and take the repetitions out of them.
-/

namespace Acceptor.Spec

/-- A row of the transition table without its place. -/
def TableEntry.described (entry : TableEntry) : Label × Symbol × Label :=
  (entry.source, entry.symbol, entry.target)

/-- What a block says, section by section. -/
structure Content where
  symbols : List Literal
  labels : List Literal
  initial : Literal
  accepting : List Literal
  entries : List TableEntry

namespace Content

/-- The labels a block declares, with repetitions. -/
def declared (content : Content) : List Label :=
  content.labels.map Literal.content

/-- The symbols a block declares, with repetitions. -/
def spelled (content : Content) : List Symbol :=
  content.symbols.map Literal.content

/-- The clauses of a block give its content: no section occurs twice, the four required ones occur,
and the transition table is empty where it is left out. -/
structure OfClauses (content : Content) (clauses : List Clause) : Prop where
  sectionsDistinct : (clauses.map Clause.toSection).Nodup
  alphabet : ∃ key, .list .alphabet key content.symbols ∈ clauses
  states : ∃ key, .list .states key content.labels ∈ clauses
  initialState : .initialState content.initial ∈ clauses
  acceptingStates : ∃ key, .list .acceptingStates key content.accepting ∈ clauses
  transitions : .transitions content.entries ∈ clauses ∨
    content.entries = [] ∧ Section.transitions ∉ clauses.map Clause.toSection

/-- A content describes an automaton: its names are not empty, there is a state, everything that
is referred to is declared, and no state has two targets on a symbol. -/
structure Consistent (content : Content) : Prop where
  symbolsNamed : ∀ symbol ∈ content.symbols, symbol.content ≠ ""
  labelsNamed : ∀ label ∈ content.labels, label.content ≠ ""
  hasStates : content.labels ≠ []
  initialDeclared : content.initial.content ∈ content.declared
  acceptingDeclared : ∀ label ∈ content.accepting, label.content ∈ content.declared
  sourcesDeclared : ∀ entry ∈ content.entries, entry.source ∈ content.declared
  targetsDeclared : ∀ entry ∈ content.entries, entry.target ∈ content.declared
  symbolsDeclared : ∀ entry ∈ content.entries, entry.symbol ∈ content.spelled
  deterministic : ∀ first ∈ content.entries, ∀ second ∈ content.entries,
    first.source = second.source → first.symbol = second.symbol → first.target = second.target

/-- The description that a content amounts to, every name and transition once. -/
def listing (content : Content) : Listing Label where
  states := distinct content.declared
  alphabet := distinct content.spelled
  initial := content.initial.content
  accepting := content.accepting.map Literal.content
  transitions := distinct (content.entries.map TableEntry.described)

end Content

/-- Where no section occurs twice, a search by kind finds the one clause of that kind. -/
theorem findSome?_clause_eq_some_iff {α : Type} {clauses : List Clause}
    {view : Clause → Option α} (named : Section) (clauseOf : α → Clause)
    (nodup : (clauses.map Clause.toSection).Nodup)
    (views : ∀ clause value, view clause = some value ↔ clause = clauseOf value)
    (fills : ∀ value, (clauseOf value).toSection = named) {value : α} :
    clauses.findSome? view = some value ↔ clauseOf value ∈ clauses := by
  have sound {found : α} (search : clauses.findSome? view = some found) :
      clauseOf found ∈ clauses := by
    obtain ⟨clause, member, seen⟩ := List.exists_of_findSome?_eq_some search
    rwa [← (views clause found).mp seen]
  refine ⟨sound, fun member => ?_⟩
  have seen : (clauses.findSome? view).isSome :=
    List.findSome?_isSome_iff.mpr ⟨_, member, by simp [(views _ value).mpr rfl]⟩
  obtain ⟨found, search⟩ := Option.isSome_iff_exists.mp seen
  have same : clauseOf found = clauseOf value :=
    List.inj_on_of_nodup_map nodup (sound search) member ((fills found).trans (fills value).symm)
  rw [search, ← (views _ found).mpr rfl, same]
  exact (views _ value).mpr rfl

theorem listClause?_eq_some_iff {clauses : List Clause} {which : ListSection} {key : Position}
    {items : List Literal} (nodup : (clauses.map Clause.toSection).Nodup) :
    listClause? which clauses = some (key, items) ↔ .list which key items ∈ clauses := by
  refine findSome?_clause_eq_some_iff (.list which)
    (fun value : Position × List Literal => .list which value.1 value.2) nodup
    (fun clause value => ?_) (fun _ => rfl)
  cases clause with
  | list other key items =>
    by_cases same : other = which
    · simp [same, Prod.ext_iff]
    · simp [same]
  | initialState label => simp
  | transitions entries => simp

theorem initialClause?_eq_some_iff {clauses : List Clause} {label : Literal}
    (nodup : (clauses.map Clause.toSection).Nodup) :
    initialClause? clauses = some label ↔ .initialState label ∈ clauses := by
  refine findSome?_clause_eq_some_iff .initialState Clause.initialState nodup
    (fun clause value => ?_) (fun _ => rfl)
  cases clause <;> simp

/-- A search for a list by kind gives the list of the one clause of that kind, and an empty one if
no clause is of that kind. -/
theorem getD_findSome?_clause_eq_iff {α : Type} {clauses : List Clause}
    {view : Clause → Option (List α)} (named : Section) (clauseOf : List α → Clause)
    (nodup : (clauses.map Clause.toSection).Nodup)
    (views : ∀ clause value, view clause = some value ↔ clause = clauseOf value)
    (fills : ∀ clause, clause.toSection = named ↔ ∃ value, clause = clauseOf value)
    {value : List α} :
    (clauses.findSome? view).getD [] = value ↔ clauseOf value ∈ clauses ∨
      value = [] ∧ named ∉ clauses.map Clause.toSection := by
  have search {found : List α} : clauses.findSome? view = some found ↔ clauseOf found ∈ clauses :=
    findSome?_clause_eq_some_iff named clauseOf nodup views fun value =>
      (fills _).mpr ⟨value, rfl⟩
  have filled : named ∈ clauses.map Clause.toSection ↔ ∃ found, clauseOf found ∈ clauses := by
    rw [List.mem_map]
    constructor
    · rintro ⟨clause, member, kind⟩
      obtain ⟨found, rfl⟩ := (fills clause).mp kind
      exact ⟨found, member⟩
    · rintro ⟨found, member⟩
      exact ⟨_, member, (fills _).mpr ⟨found, rfl⟩⟩
  rw [filled]
  cases found : clauses.findSome? view with
  | none =>
    have missing (any : List α) : clauseOf any ∉ clauses := by
      intro member
      simp [search.mpr member] at found
    simp [missing, eq_comm]
  | some table =>
    have here := search.mp found
    constructor
    · rintro rfl
      exact .inl here
    · rintro (there | ⟨-, missing⟩)
      · exact Option.some.inj (found.symm.trans (search.mpr there))
      · exact absurd ⟨table, here⟩ missing

/-- The table of a block is that of its section, and empty without one. -/
theorem tableEntries_eq_iff {clauses : List Clause} {entries : List TableEntry}
    (nodup : (clauses.map Clause.toSection).Nodup) :
    tableEntries clauses = entries ↔ .transitions entries ∈ clauses ∨
      entries = [] ∧ Section.transitions ∉ clauses.map Clause.toSection := by
  refine getD_findSome?_clause_eq_iff .transitions Clause.transitions nodup
    (fun clause value => ?_) (fun clause => ?_)
  · cases clause <;> simp
  · cases clause <;> simp [Clause.toSection]

theorem required_eq_ok_iff {α : Type} {named : Section} {clause : Option α} {value : α} :
    required named clause = .ok value ↔ clause = some value := by
  cases clause <;> simp [required]

/-- The test of a list passes exactly if every literal passes it. -/
theorem requireAll_eq_ok_iff {named : Section} {test : String → Bool}
    {cause : String → ReadErrorCause} {items : List Literal} {passed : Unit} :
    requireAll named test cause items = .ok passed ↔ ∀ item ∈ items, test item.content = true := by
  unfold requireAll
  cases found : items.find? (!test ·.content) with
  | none => simpa [List.find?_eq_none] using found
  | some item =>
    have fails : test item.content = false := by simpa using List.find?_some found
    simp only [reduceCtorEq, false_iff]
    intro every
    simp [every item (List.mem_of_find?_eq_some found)] at fails

/-- No source and symbol lead to two places among some described transitions. -/
def Deterministic (transitions : List (Label × Symbol × Label)) : Prop :=
  ∀ first ∈ transitions, ∀ second ∈ transitions,
    first.1 = second.1 → first.2.1 = second.2.1 → first.2.2 = second.2.2

/-- An entry refers to declared states and symbols. -/
structure TableEntry.Declared (entry : TableEntry) (states : List Label)
    (alphabet : List Symbol) : Prop where
  source : entry.source ∈ states
  target : entry.target ∈ states
  symbol : entry.symbol ∈ alphabet

theorem deterministic_map_described_iff {entries : List TableEntry} :
    Deterministic (entries.map TableEntry.described) ↔
      ∀ first ∈ entries, ∀ second ∈ entries,
        first.source = second.source → first.symbol = second.symbol →
          first.target = second.target := by
  simp only [Deterministic, List.forall_mem_map, TableEntry.described]

/-- One more transition contradicts nothing exactly if it agrees with those of its key. -/
theorem deterministic_concat_iff {taken : List (Label × Symbol × Label)}
    {described : Label × Symbol × Label} (deterministic : Deterministic taken) :
    Deterministic (taken ++ [described]) ↔ ∀ earlier ∈ taken,
      earlier.1 = described.1 → earlier.2.1 = described.2.1 → earlier.2.2 = described.2.2 := by
  constructor
  · intro whole earlier member
    exact whole earlier (by simp [member]) described (by simp)
  · intro agrees first firstMember second secondMember sources symbols
    rcases List.mem_append.mp firstMember with firstTaken | firstNew <;>
      rcases List.mem_append.mp secondMember with secondTaken | secondNew
    · exact deterministic first firstTaken second secondTaken sources symbols
    · cases List.mem_singleton.mp secondNew
      exact agrees first firstTaken sources symbols
    · cases List.mem_singleton.mp firstNew
      exact (agrees second secondTaken sources.symm symbols.symm).symm
    · cases List.mem_singleton.mp firstNew
      cases List.mem_singleton.mp secondNew
      rfl

/-- An entry is added exactly if it refers to declared names only and does not contradict an
earlier one; then it is at the end, unless it is there already. -/
theorem addEntry_eq_ok_iff {states : List Label} {alphabet : List Symbol}
    {taken after : List (Label × Symbol × Label)} {entry : TableEntry}
    (deterministic : Deterministic taken) :
    addEntry states alphabet taken entry = .ok after ↔
      entry.Declared states alphabet ∧ Deterministic (taken ++ [entry.described]) ∧
        after = if entry.described ∈ taken then taken else taken ++ [entry.described] := by
  by_cases source : entry.source ∈ states
  case neg => simp [addEntry, source, show ¬entry.Declared states alphabet from (source ·.source)]
  by_cases target : entry.target ∈ states
  case neg =>
    simp [addEntry, source, target, show ¬entry.Declared states alphabet from (target ·.target)]
  by_cases symbol : entry.symbol ∈ alphabet
  case neg =>
    simp [addEntry, source, target, symbol,
      show ¬entry.Declared states alphabet from (symbol ·.symbol)]
  have declared : entry.Declared states alphabet := ⟨source, target, symbol⟩
  rw [deterministic_concat_iff deterministic]
  simp only [addEntry, List.contains_iff_mem.mpr source, List.contains_iff_mem.mpr target,
    List.contains_iff_mem.mpr symbol, declared, Bool.not_true, Bool.false_eq_true, if_false,
    true_and]
  cases found : taken.find? fun earlier =>
      earlier.1 == entry.source && earlier.2.1 == entry.symbol with
  | none =>
    have free : ∀ earlier ∈ taken, earlier.1 = entry.source → earlier.2.1 ≠ entry.symbol := by
      simpa [List.find?_eq_none] using found
    have absent : entry.described ∉ taken := fun member => free _ member rfl rfl
    simp only [absent, if_false, Except.ok.injEq, eq_comm (a := after)]
    refine ⟨fun added => ⟨fun earlier member sources symbols => ?_, added⟩, fun added => added.2⟩
    exact absurd symbols (free earlier member sources)
  | some earlier =>
    obtain ⟨source', symbol', existing⟩ := earlier
    have member := List.mem_of_find?_eq_some found
    obtain ⟨rfl, rfl⟩ : source' = entry.source ∧ symbol' = entry.symbol := by
      simpa using List.find?_some found
    by_cases same : existing = entry.target
    · subst same
      have there : entry.described ∈ taken := member
      simp only [there, if_true, Except.ok.injEq, eq_comm (a := after)]
      refine ⟨fun kept => ⟨fun earlier taken' sources symbols => ?_, kept⟩, fun kept => kept.2⟩
      exact deterministic earlier taken' _ member sources symbols
    · simp only [same, if_false, reduceCtorEq, false_iff]
      rintro ⟨agrees, -⟩
      exact same (agrees _ member rfl rfl)

/-- What counts for determinism is which transitions occur. -/
theorem deterministic_congr {left right : List (Label × Symbol × Label)}
    (same : ∀ described, described ∈ left ↔ described ∈ right) :
    Deterministic left ↔ Deterministic right := by
  simp only [Deterministic, same]

/-- Entries are added exactly if each refers to declared names only and no two of them contradict
each other; every transition is there once, in the order of the first entries. -/
theorem addEntries_eq_ok_iff {states : List Label} {alphabet : List Symbol}
    {taken result : List (Label × Symbol × Label)} {entries : List TableEntry}
    (nodup : taken.Nodup) (deterministic : Deterministic taken) :
    addEntries states alphabet taken entries = .ok result ↔
      (∀ entry ∈ entries, entry.Declared states alphabet) ∧
        Deterministic (taken ++ entries.map TableEntry.described) ∧
          result = distinct (taken ++ entries.map TableEntry.described) := by
  induction entries generalizing taken with
  | nil =>
    simp [addEntries, distinct_of_nodup nodup, deterministic, eq_comm]
  | cons entry rest inductionHypothesis =>
    have grown : (if entry.described ∈ taken then taken else taken ++ [entry.described]) =
        distinct (taken ++ [entry.described]) := by
      rw [distinct_concat, distinct_of_nodup nodup]
    have whole : taken ++ (entry :: rest).map TableEntry.described =
        taken ++ [entry.described] ++ rest.map TableEntry.described := by simp
    rw [addEntries, bind_eq_ok_iff]
    simp only [addEntry_eq_ok_iff deterministic, grown, List.forall_mem_cons, whole]
    have onward (after : Deterministic (taken ++ [entry.described])) :=
      inductionHypothesis (nodup_distinct (taken ++ [entry.described]))
        ((deterministic_congr fun _ => mem_distinct).mpr after)
    have sameTransitions : Deterministic (distinct (taken ++ [entry.described]) ++
        rest.map TableEntry.described) ↔
          Deterministic (taken ++ [entry.described] ++ rest.map TableEntry.described) :=
      deterministic_congr fun _ => by simp only [List.mem_append, mem_distinct]
    constructor
    · rintro ⟨after, ⟨declared, here, rfl⟩, added⟩
      rw [onward here, sameTransitions, distinct_distinct_append] at added
      exact ⟨⟨declared, added.1⟩, added.2⟩
    · rintro ⟨⟨declared, others⟩, whole, rfl⟩
      have here : Deterministic (taken ++ [entry.described]) := fun first firstMember second
        secondMember => whole first (List.mem_append_left _ firstMember) second
          (List.mem_append_left _ secondMember)
      refine ⟨_, ⟨declared, here, rfl⟩, ?_⟩
      rw [onward here, sameTransitions, distinct_distinct_append]
      exact ⟨others, whole, rfl⟩

/-- The description read from some clauses, none of which fills a section twice, is that of their
content, and it is read exactly if the content is consistent. -/
theorem listing_eq_ok_iff {clauses : List Clause} {described : Listing Label}
    (nodup : (clauses.map Clause.toSection).Nodup) :
    listing clauses = .ok described ↔ ∃ content : Content,
      content.OfClauses clauses ∧ content.Consistent ∧ described = content.listing := by
  unfold listing
  simp only [bind_eq_ok_iff, required_eq_ok_iff, Prod.exists, listClause?_eq_some_iff nodup,
    initialClause?_eq_some_iff nodup, requireAll_eq_ok_iff, refuseIf_eq_ok_iff, pure_eq_ok_iff,
    exists_const,
    addEntries_eq_ok_iff List.nodup_nil (show Deterministic [] by simp [Deterministic]),
    List.nil_append, Bool.not_eq_true', String.isEmpty_eq_false_iff, List.isEmpty_iff,
    List.contains_iff_mem, mem_distinct, List.mem_singleton, forall_eq]
  constructor
  · rintro ⟨alphabetKey, symbols, alphabet, statesKey, labels, states, initial, initialState,
      acceptingKey, accepting, acceptingStates, symbolsNamed, labelsNamed, hasStates,
      initialDeclared, acceptingDeclared, transitions, ⟨declared, deterministic, rfl⟩, rfl⟩
    refine ⟨⟨symbols, labels, initial, accepting, tableEntries clauses⟩,
      ⟨nodup, ⟨_, alphabet⟩, ⟨_, states⟩, initialState, ⟨_, acceptingStates⟩,
        (tableEntries_eq_iff nodup).mp rfl⟩,
      ⟨symbolsNamed, labelsNamed, hasStates, initialDeclared, acceptingDeclared, ?_, ?_, ?_, ?_⟩,
      rfl⟩
    · exact fun entry member => mem_distinct.mp (declared entry member).source
    · exact fun entry member => mem_distinct.mp (declared entry member).target
    · exact fun entry member => mem_distinct.mp (declared entry member).symbol
    · exact deterministic_map_described_iff.mp deterministic
  · rintro ⟨content, ofClauses, consistent, rfl⟩
    obtain ⟨alphabetKey, alphabet⟩ := ofClauses.alphabet
    obtain ⟨statesKey, states⟩ := ofClauses.states
    obtain ⟨acceptingKey, acceptingStates⟩ := ofClauses.acceptingStates
    have table := (tableEntries_eq_iff nodup).mpr ofClauses.transitions
    refine ⟨_, _, alphabet, _, _, states, _, ofClauses.initialState, _, _, acceptingStates,
      consistent.symbolsNamed, consistent.labelsNamed, consistent.hasStates,
      consistent.initialDeclared, consistent.acceptingDeclared, _, ⟨?_, ?_, rfl⟩, ?_⟩
    · rw [table]
      exact fun entry member => ⟨mem_distinct.mpr (consistent.sourcesDeclared entry member),
        mem_distinct.mpr (consistent.targetsDeclared entry member),
        mem_distinct.mpr (consistent.symbolsDeclared entry member)⟩
    · rw [table]
      exact deterministic_map_described_iff.mpr consistent.deterministic
    · rw [table]
      rfl

end Acceptor.Spec
