import Acceptor.Proofs.Spec.Language
import Acceptor.Proofs.Spec.Written

/-!
# Written automata are read back

The words of a written automaton are derived from the grammar, whatever their places, and say what
its description says (`firstBlock_of_words`). Reading back therefore gives the automaton itself if
it is canonical; nothing else is ever read, so every other automaton is changed or refused.
-/

namespace Acceptor.Spec

/-- What a clause says without its places. -/
def Clause.value : Clause → SectionValue
  | .list which _ items => .list which (items.map Literal.content)
  | .initialState label => .initialState label.content
  | .transitions entries => .transitions (entries.map TableEntry.described)

/-- A token with the word of a literal has the text of this literal as its content. -/
theorem content_of_word {token : Token} {text : String} (same : token.word = literalWord text) :
    token.kind = .literal ∧ token.content = text := by
  obtain ⟨kind, written⟩ := Prod.mk.inj same
  refine ⟨kind, ?_⟩
  rw [Token.content, written]
  simp

/-- A token with the word of a usable literal is a value. -/
theorem isValue_of_word {token : Token} {text : String} (same : token.word = literalWord text)
    (usable : literalFault? text = none) : token.IsValue := by
  obtain ⟨kind, written⟩ := Prod.mk.inj same
  obtain ⟨-, -, unbroken, -⟩ := literalFault?_eq_none_iff.mp usable
  refine ⟨kind, ?_⟩
  rw [written]
  unfold quoteFor
  split <;> simp [unbroken]

theorem kind_of_word {token : Token} {kind : TokenKind} {text : List Char}
    (same : token.word = (kind, text)) : token.kind = kind :=
  congrArg Prod.fst same

variable {α β : Type} {Item : List Token → α → Prop} {spelled : β → List Word}

/-- Words of items with commas between them are derived, if those of each item are. -/
theorem separated_of_words (means : α → β) {values : List β}
    (each : ∀ value ∈ values, ∀ part : List Token, part.map Token.word = spelled value →
      ∃ item, Item part item ∧ means item = value) {tokens : List Token}
    (same : tokens.map Token.word = [(.comma, [','])].intercalate (values.map spelled)) :
    ∃ items, Separated Item tokens items ∧ items.map means = values := by
  induction values generalizing tokens with
  | nil =>
    obtain rfl : tokens = [] := by simpa using same
    exact ⟨[], .empty, rfl⟩
  | cons value rest inductionHypothesis =>
    cases rest with
    | nil =>
      rw [List.map_singleton, List.intercalate_singleton] at same
      obtain ⟨item, derived, rfl⟩ := each value List.mem_cons_self tokens same
      exact ⟨[item], .last derived, rfl⟩
    | cons next others =>
      rw [List.map_cons, List.map_cons, List.intercalate_cons_cons, List.append_assoc,
        List.map_eq_append_iff] at same
      obtain ⟨part, _, rfl, here, same⟩ := same
      obtain ⟨comma, later, rfl, separates, same⟩ := List.map_eq_cons_iff.mp same
      obtain ⟨item, derived, rfl⟩ := each value List.mem_cons_self part here
      obtain ⟨items, sequence, meant⟩ := inductionHypothesis
        (fun other member => each other (List.mem_cons_of_mem _ member)) same
      refine ⟨item :: items, .more derived (kind_of_word separates) sequence, ?_⟩
      rw [List.map_cons, meant]

/-- Words of items with a comma after each of them are derived, if those of each item are. -/
theorem separated_of_ended_words (means : α → β) {values : List β}
    (each : ∀ value ∈ values, ∀ part : List Token, part.map Token.word = spelled value →
      ∃ item, Item part item ∧ means item = value) {tokens : List Token}
    (same : tokens.map Token.word =
      (values.map fun value => spelled value ++ [(.comma, [','])]).flatten) :
    ∃ items, Separated Item tokens items ∧ items.map means = values := by
  induction values generalizing tokens with
  | nil =>
    obtain rfl : tokens = [] := by simpa using same
    exact ⟨[], .empty, rfl⟩
  | cons value rest inductionHypothesis =>
    rw [List.map_cons, List.flatten_cons, List.append_assoc, List.map_eq_append_iff] at same
    obtain ⟨part, _, rfl, here, same⟩ := same
    obtain ⟨comma, later, rfl, separates, same⟩ := List.map_eq_cons_iff.mp same
    obtain ⟨item, derived, rfl⟩ := each value List.mem_cons_self part here
    obtain ⟨items, sequence, rfl⟩ := inductionHypothesis
      (fun other member => each other (List.mem_cons_of_mem _ member)) same
    exact ⟨item :: items, .more derived (kind_of_word separates) sequence, rfl⟩

/-- The word of a usable literal is that of a list item. -/
theorem listItem_of_words {text : String} (usable : literalFault? text = none)
    {part : List Token} (same : part.map Token.word = [literalWord text]) :
    ∃ item, ListItem part item ∧ item.content = text := by
  obtain ⟨token, rfl, word⟩ := List.map_eq_singleton_iff.mp same
  exact ⟨_, .value (isValue_of_word word usable), (content_of_word word).2⟩

/-- The words of a row between usable literals are those of a table row. -/
theorem tableRow_of_words {described : Label × Symbol × Label}
    (source : literalFault? described.1 = none) (symbol : literalFault? described.2.1 = none)
    (target : literalFault? described.2.2 = none) {part : List Token}
    (same : part.map Token.word = rowWords described) :
    ∃ entry, TableRow part entry ∧ entry.described = described := by
  simp only [rowWords, List.map_eq_cons_iff, List.map_eq_nil_iff] at same
  obtain ⟨opening, _, rfl, openingWord, sourceToken, _, rfl, sourceWord, comma, _, rfl, commaWord,
    symbolToken, _, rfl, symbolWord, closing, _, rfl, closingWord, colon, _, rfl, colonWord,
    targetToken, _, rfl, targetWord, rfl⟩ := same
  refine ⟨_, .row (kind_of_word openingWord) (isValue_of_word sourceWord source)
    (kind_of_word commaWord) (isValue_of_word symbolWord symbol) (kind_of_word closingWord)
    (kind_of_word colonWord) (isValue_of_word targetWord target), ?_⟩
  simp only [TableEntry.described, (content_of_word sourceWord).2, (content_of_word symbolWord).2,
    (content_of_word targetWord).2]

/-- A token with the word of a section name names the section. -/
theorem names_of_words {named : Section} {part : List Token} {value : List Word}
    (same : part.map Token.word = headingWords named ++ value) :
    ∃ key colon rest, part = key :: colon :: rest ∧ key.Names named ∧ colon.kind = .colon ∧
      rest.map Token.word = value := by
  obtain ⟨key, _, rfl, keyWord, same⟩ := List.map_eq_cons_iff.mp same
  obtain ⟨colon, rest, rfl, colonWord, same⟩ := List.map_eq_cons_iff.mp same
  have name := content_of_word keyWord
  exact ⟨key, colon, rest, rfl, ⟨name.1, name.2⟩, kind_of_word colonWord, same⟩

/-- Words between braces are those of tokens between braces. -/
theorem braces_of_words {part : List Token} {inner : List Word}
    (same : part.map Token.word =
      (.openBrace, ['\x7b']) :: (inner ++ [(.closeBrace, ['\x7d'])])) :
    ∃ opening body closing, part = opening :: (body ++ [closing]) ∧ opening.kind = .openBrace ∧
      closing.kind = .closeBrace ∧ body.map Token.word = inner := by
  obtain ⟨opening, _, rfl, openingWord, same⟩ := List.map_eq_cons_iff.mp same
  obtain ⟨body, _, rfl, bodyWords, same⟩ := List.map_eq_append_iff.mp same
  obtain ⟨closing, rfl, closingWord⟩ := List.map_eq_singleton_iff.mp same
  exact ⟨opening, body, closing, rfl, kind_of_word openingWord, kind_of_word closingWord, bodyWords⟩

/-- The words of a section with usable texts are those of a section that says the same. -/
theorem sectionText_of_words {value : SectionValue} (usable : value.Usable) {part : List Token}
    (same : part.map Token.word = value.words) :
    ∃ clause, SectionText part clause ∧ clause.value = value := by
  cases value with
  | list which items =>
    obtain ⟨key, colon, rest, rfl, names, colonKind, same⟩ := names_of_words same
    unfold listWords at same
    split at same
    · next empty =>
      obtain ⟨word, _, rfl, wordWord, same⟩ := List.map_eq_cons_iff.mp same
      obtain ⟨opening, _, rfl, openingWord, same⟩ := List.map_eq_cons_iff.mp same
      obtain ⟨closing, rfl, closingWord⟩ := List.map_eq_singleton_iff.mp same
      have set : word.text = "set" := String.toList_inj.mp (congrArg Prod.snd wordWord)
      obtain rfl := List.isEmpty_iff.mp empty
      exact ⟨_, .emptyList names colonKind (kind_of_word wordWord) set (kind_of_word openingWord)
        (kind_of_word closingWord), rfl⟩
    · obtain ⟨opening, body, closing, rfl, openingKind, closingKind, same⟩ := braces_of_words same
      obtain ⟨literals, listed, rfl⟩ := separated_of_words Literal.content
        (fun item member _ => listItem_of_words (usable item member)) same
      exact ⟨_, .list names colonKind openingKind listed closingKind, rfl⟩
  | initialState label =>
    obtain ⟨key, colon, rest, rfl, names, colonKind, same⟩ := names_of_words same
    obtain ⟨token, rfl, word⟩ := List.map_eq_singleton_iff.mp same
    refine ⟨_, .initialState names colonKind (isValue_of_word word usable), ?_⟩
    exact congrArg SectionValue.initialState (content_of_word word).2
  | transitions rows =>
    obtain ⟨key, colon, rest, rfl, names, colonKind, same⟩ := names_of_words same
    obtain ⟨opening, body, closing, rfl, openingKind, closingKind, same⟩ := braces_of_words same
    obtain ⟨entries, listed, rfl⟩ := separated_of_ended_words TableEntry.described
      (fun described member _ => tableRow_of_words (usable described member).1
        (usable described member).2.1 (usable described member).2.2) same
    exact ⟨_, .transitions names colonKind openingKind listed closingKind, rfl⟩

/-- Tokens with the words of a specification whose texts are usable are a block, and its clauses
say what the specification says. -/
theorem firstBlock_of_words {described : Listing Label}
    (usable : ∀ value ∈ sectionValues described, value.Usable) {part : List Token}
    (same : part.map Token.word = specWords described) :
    ∃ clauses, FirstBlock part clauses ∧ clauses.map Clause.value = sectionValues described := by
  obtain ⟨word, _, rfl, wordWord, same⟩ := List.map_eq_cons_iff.mp same
  obtain ⟨sign, _, rfl, signWord, same⟩ := List.map_eq_cons_iff.mp same
  obtain ⟨opening, body, closing, rfl, openingKind, closingKind, same⟩ := braces_of_words same
  obtain ⟨clauses, sections, values⟩ := separated_of_words Clause.value
    (fun value member _ => sectionText_of_words (usable value member)) same
  have name : word.text = "SPEC_DFA" := String.toList_inj.mp (congrArg Prod.snd wordWord)
  have opens : opensBlock word sign = true := by
    simp [opensBlock, kind_of_word wordWord, kind_of_word signWord, name]
  refine ⟨clauses, ⟨[], word, sign, opening :: (body ++ [closing]), [], ?_, .singleton word, opens,
    .block openingKind sections closingKind⟩, values⟩
  simp

/-- A clause that says what a list says is a list with its name. -/
theorem list_of_value {clause : Clause} {which : ListSection} {items : List String}
    (same : clause.value = .list which items) :
    ∃ key literals, clause = .list which key literals ∧ literals.map Literal.content = items := by
  cases clause with
  | list other key literals =>
    obtain ⟨rfl, contents⟩ := SectionValue.list.inj same
    exact ⟨key, literals, rfl, contents⟩
  | initialState => cases same
  | transitions => cases same

/-- A content says what a description says. -/
structure Content.Means (content : Content) (described : Listing Label) : Prop where
  states : content.declared = described.states
  alphabet : content.spelled = described.alphabet
  initial : content.initial.content = described.initial
  accepting : content.accepting.map Literal.content = described.accepting
  transitions : content.entries.map TableEntry.described = described.transitions

/-- Clauses that say what a description says have a content that says the same. -/
theorem exists_content {described : Listing Label} {clauses : List Clause}
    (values : clauses.map Clause.value = sectionValues described) :
    ∃ content : Content, content.OfClauses clauses ∧ content.Means described := by
  simp only [sectionValues, List.map_eq_cons_iff, List.map_eq_nil_iff] at values
  obtain ⟨alphabet, _, rfl, alphabetValue, states, _, rfl, statesValue, initial, _, rfl,
    initialValue, accepting, _, rfl, acceptingValue, table, _, rfl, tableValue, rfl⟩ := values
  obtain ⟨alphabetKey, symbols, rfl, spelled⟩ := list_of_value alphabetValue
  obtain ⟨statesKey, labels, rfl, declared⟩ := list_of_value statesValue
  obtain ⟨acceptingKey, accepted, rfl, acceptedLabels⟩ := list_of_value acceptingValue
  cases initial with
  | initialState initial =>
    cases table with
    | transitions entries =>
      refine ⟨⟨symbols, labels, initial, accepted, entries⟩, ⟨?_, ⟨alphabetKey, ?_⟩,
        ⟨statesKey, ?_⟩, ?_, ⟨acceptingKey, ?_⟩, .inl ?_⟩, declared, spelled,
        SectionValue.initialState.inj initialValue, acceptedLabels,
        SectionValue.transitions.inj tableValue⟩
      · simp [Clause.toSection]
      all_goals simp
    | list => cases tableValue
    | initialState => cases tableValue
  | list => cases initialValue
  | transitions => cases initialValue

namespace Content.Means

variable {content : Content} {described : Listing Label}

/-- What says the same as a coherent description is consistent. -/
theorem consistent (means : content.Means described) (coherent : described.Coherent) :
    content.Consistent where
  symbolsNamed := by
    intro symbol member
    have listed : symbol.content ∈ described.alphabet :=
      means.alphabet ▸ List.mem_map_of_mem member
    exact (literalFault?_eq_none_iff.mp (coherent.alphabetUsable _ listed)).1
  labelsNamed := by
    intro label member
    have listed : label.content ∈ described.states := means.states ▸ List.mem_map_of_mem member
    exact (literalFault?_eq_none_iff.mp (coherent.labelsUsable _ listed)).1
  hasStates := by
    intro empty
    refine coherent.hasStates ?_
    rw [← means.states, Content.declared, empty]
    rfl
  initialDeclared := by
    rw [means.initial, means.states]
    exact coherent.initialListed
  acceptingDeclared := by
    intro label member
    rw [means.states]
    exact coherent.acceptingListed _ (means.accepting ▸ List.mem_map_of_mem member)
  sourcesDeclared := by
    intro entry member
    rw [means.states]
    exact coherent.sourcesListed entry.described (means.transitions ▸ List.mem_map_of_mem member)
  targetsDeclared := by
    intro entry member
    rw [means.states]
    exact coherent.targetsListed entry.described (means.transitions ▸ List.mem_map_of_mem member)
  symbolsDeclared := by
    intro entry member
    rw [means.alphabet]
    exact coherent.symbolsListed entry.described (means.transitions ▸ List.mem_map_of_mem member)
  deterministic := by
    intro first firstMember second secondMember sources symbols
    have same : first.described = second.described :=
      List.inj_on_of_nodup_map coherent.keysDistinct
        (means.transitions ▸ List.mem_map_of_mem firstMember)
        (means.transitions ▸ List.mem_map_of_mem secondMember) (Prod.ext sources symbols)
    exact congrArg (·.2.2) same

/-- What says the same as a coherent description without repeated symbols amounts to it. -/
theorem listing_eq (means : content.Means described) (coherent : described.Coherent)
    (alphabetDistinct : described.alphabet.Nodup) : content.listing = described := by
  have states := distinct_of_nodup coherent.statesDistinct
  have alphabet := distinct_of_nodup alphabetDistinct
  have transitions := distinct_of_nodup (coherent.keysDistinct.of_map _)
  rw [Content.listing, means.states, means.alphabet, means.initial, means.accepting,
    means.transitions, states, alphabet, transitions]

end Content.Means

variable {text : String} {model : Automaton}

/-- A text that spells a canonical automaton specifies this automaton. -/
theorem parse_of_spells (canonical : model.Canonical) (valid : model.Valid)
    (spells : Spells text (specWords model.listing)) : parse text = .ok model := by
  have coherent := canonical.coherent valid
  obtain ⟨clauses, block, values⟩ :=
    firstBlock_of_words (usable_of_valid valid) spells.map_word_tokens
  obtain ⟨content, ofClauses, means⟩ := exists_content values
  rw [parse_eq_ok_iff_listingOf]
  refine ⟨model.listing, ?_, (canonical.automaton_listing valid).symm⟩
  rw [listingOf_eq_ok_iff]
  exact ⟨clauses, content, block, ofClauses, means.consistent coherent,
    (means.listing_eq coherent canonical.alphabetDistinct).symm⟩

/-- Only canonical automata are read. -/
theorem canonical_of_parse (read : parse text = .ok model) : model.Canonical := by
  obtain ⟨described, listed, rfl⟩ := parse_eq_ok_iff_listingOf.mp read
  obtain ⟨coherent, alphabetDistinct, -⟩ := build_of_listingOf listed
  exact coherent.canonical alphabetDistinct

/-- Whether an automaton is canonical does not depend on the order of its transitions. -/
theorem canonical_of_same {parsed : Automaton} (same : parsed.Same model)
    (canonical : parsed.Canonical) : model.Canonical where
  idsNumbered := by
    have numbered := canonical.idsNumbered
    rwa [Automaton.ids, same.states] at numbered
  labelsDistinct := by
    have distinct := canonical.labelsDistinct
    rwa [Automaton.labels, same.states] at distinct
  alphabetDistinct := same.alphabet ▸ canonical.alphabetDistinct
  symbolsListed := by
    intro transition member
    rw [← same.alphabet]
    exact canonical.symbolsListed transition (same.transitions.mem_iff.mpr member)

/-- Every automaton that can be made from parts can be written, and what is read back is the same
automaton exactly if its identifiers count from 1, its labels and symbols are distinct, and all its
symbols are in the alphabet. It is then read back with its transitions in their order, so that it
is written with the same text again. -/
theorem same_of_write_iff_canonical {states : List State} {alphabet : List Symbol}
    {transitions : List Transition} {initial : StateId} {model : Automaton}
    (accepted : Automaton.ofParts states alphabet transitions initial = .ok model) :
    ∃ text, write model = .ok text ∧
      ((∃ parsed, parse text = .ok parsed ∧ parsed.Same model) ↔ model.Canonical) ∧
      ∀ parsed, parse text = .ok parsed → parsed.Same model →
        parsed.transitions = model.transitions ∧ write parsed = .ok text := by
  have valid := Automaton.valid_of_ofParts accepted
  obtain ⟨text, written, spells⟩ := write_spells valid
  have onlyCanonical (parsed : Automaton) (read : parse text = .ok parsed)
      (same : parsed.Same model) : model.Canonical :=
    canonical_of_same same (canonical_of_parse read)
  refine ⟨text, written, ⟨?_, ?_⟩, ?_⟩
  · rintro ⟨parsed, read, same⟩
    exact onlyCanonical parsed read same
  · intro canonical
    exact ⟨model, parse_of_spells canonical valid spells, ⟨rfl, rfl, .refl _, rfl⟩⟩
  · intro parsed read same
    have readBack := parse_of_spells (onlyCanonical parsed read same) valid spells
    obtain rfl : parsed = model := Except.ok.inj (read.symm.trans readBack)
    exact ⟨rfl, written⟩

/-- An automaton in whose texts signs of the format, comment signs and quotes occur. -/
def signed (first second : StateId) : Automaton where
  states := [⟨first, "it's #1", false⟩, ⟨second, "\\, \x7b\"set()", true⟩]
  alphabet := [":", "é"]
  transitions := [⟨first, "é", second⟩, ⟨first, ":", first⟩]
  initial := second

/-- Signs in labels and symbols survive, while identifiers that do not count from 1 do not. -/
theorem same_of_write_signed :
    (∃ text parsed, write (signed 1 2) = .ok text ∧ parse text = .ok parsed ∧
      parsed.Same (signed 1 2) ∧ write parsed = .ok text) ∧
    ∃ text, write (signed 7 (-2)) = .ok text ∧
      ¬∃ parsed, parse text = .ok parsed ∧ parsed.Same (signed 7 (-2)) := by
  constructor
  · have accepted : Automaton.ofParts (signed 1 2).states (signed 1 2).alphabet
        (signed 1 2).transitions (signed 1 2).initial = .ok (signed 1 2) := rfl
    obtain ⟨text, written, survives, again⟩ := same_of_write_iff_canonical accepted
    obtain ⟨parsed, read, same⟩ := survives.mpr (by decide)
    exact ⟨text, parsed, written, read, same, (again parsed read same).2⟩
  · have accepted : Automaton.ofParts (signed 7 (-2)).states (signed 7 (-2)).alphabet
        (signed 7 (-2)).transitions (signed 7 (-2)).initial = .ok (signed 7 (-2)) := rfl
    obtain ⟨text, written, survives, -⟩ := same_of_write_iff_canonical accepted
    exact ⟨text, written, fun found => absurd (survives.mp found) (by decide)⟩

end Acceptor.Spec
