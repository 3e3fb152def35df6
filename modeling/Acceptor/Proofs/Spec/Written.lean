import Acceptor.Proofs.Automaton.Canonical
import Acceptor.Proofs.Spec.Move
import Acceptor.Proofs.Spec.Spelling
import Acceptor.Spec.Writing

/-!
# What a written specification spells

Every valid automaton can be written, and the text spells the words of its description by labels
(`write_spells`): signs, section names and literals in the order of the format. Lines and
indentation are gone there.
-/

namespace Acceptor.Spec

/-- The quote that a literal is written in. -/
def quoteFor (text : String) : Char :=
  if text.toList.contains '\'' then '"' else '\''

/-- The word of a written literal. -/
def literalWord (text : String) : Word :=
  (.literal, quoteFor text :: (text.toList ++ [quoteFor text]))

/-- The words before the value of a section. -/
def headingWords (named : Section) : List Word :=
  [literalWord named.name, (.colon, [':'])]

/-- The words of a list value. -/
def listWords (items : List String) : List Word :=
  if items.isEmpty then [(.identifier, ['s', 'e', 't']), (.openParen, ['(']), (.closeParen, [')'])]
  else
    (.openBrace, ['\x7b']) ::
      ([(.comma, [','])].intercalate (items.map fun item => [literalWord item]) ++
        [(.closeBrace, ['\x7d'])])

/-- The words of a row of the transition table. -/
def rowWords (described : Label × Symbol × Label) : List Word :=
  [(.openParen, ['(']), literalWord described.1, (.comma, [',']), literalWord described.2.1,
    (.closeParen, [')']), (.colon, [':']), literalWord described.2.2]

/-- The words of the transition table, a comma after each row. -/
def tableWords (rows : List (Label × Symbol × Label)) : List Word :=
  (.openBrace, ['\x7b']) :: ((rows.map fun described => rowWords described ++
    [(.comma, [','])]).flatten ++ [(.closeBrace, ['\x7d'])])

/-- What a section says, without places. -/
inductive SectionValue where
  | list (which : ListSection) (items : List String)
  | initialState (label : Label)
  | transitions (rows : List (Label × Symbol × Label))

/-- The words of a section. -/
def SectionValue.words : SectionValue → List Word
  | .list which items => headingWords (.list which) ++ listWords items
  | .initialState label => headingWords .initialState ++ [literalWord label]
  | .transitions rows => headingWords .transitions ++ tableWords rows

/-- All texts of a section are usable. -/
def SectionValue.Usable : SectionValue → Prop
  | .list _ items => ∀ item ∈ items, literalFault? item = none
  | .initialState label => literalFault? label = none
  | .transitions rows => ∀ described ∈ rows, literalFault? described.1 = none ∧
      literalFault? described.2.1 = none ∧ literalFault? described.2.2 = none

/-- What the sections say, in the order in which they are written. -/
def sectionValues (listing : Listing Label) : List SectionValue :=
  [.list .alphabet listing.alphabet, .list .states listing.states, .initialState listing.initial,
    .list .acceptingStates listing.accepting, .transitions listing.transitions]

/-- The words before the first section. -/
def openingWords : List Word :=
  [(.identifier, ['S', 'P', 'E', 'C', '_', 'D', 'F', 'A']), (.equals, ['=']),
    (.openBrace, ['\x7b'])]

/-- The words of a specification. -/
def specWords (listing : Listing Label) : List Word :=
  openingWords ++ ([(.comma, [','])].intercalate ((sectionValues listing).map SectionValue.words) ++
    [(.closeBrace, ['\x7d'])])

/-- A usable text is enclosed in its quotes, as it leaves them free. -/
theorem enclosed_quoteFor {text quoted : String} (usable : literalFault? text = none)
    (same : quoted.toList = quoteFor text :: (text.toList ++ [quoteFor text])) :
    Enclosed (quoteFor text) text.toList quoted.toList := by
  obtain ⟨-, noLineEnd, -, notBoth⟩ := literalFault?_eq_none_iff.mp usable
  refine ⟨same, ?_, ?_, noLineEnd⟩
  all_goals
    unfold quoteFor
    split
  · exact .inr rfl
  · exact .inl rfl
  · next single =>
    exact fun double => notBoth ⟨List.contains_iff_mem.mp single, double⟩
  · next noSingle =>
    exact fun single => noSingle (List.contains_iff_mem.mpr single)

/-- A usable text in its quotes spells its literal. -/
theorem spells_literal {text quoted : String} (usable : literalFault? text = none)
    (same : quoted.toList = quoteFor text :: (text.toList ++ [quoteFor text])) :
    Spells quoted [literalWord text] := by
  intro rest
  rw [words_quoted (enclosed_quoteFor usable same), same]
  rfl

/-- The start of a section spells its name and a colon. -/
theorem spells_heading {named : Section} {piece : String}
    (same : piece = "    '" ++ named.name ++ "': ") : Spells piece (headingWords named) := by
  have blank : Spells "    " [] := spells_signs rfl
  have name : Spells ("'" ++ named.name ++ "'") [literalWord named.name] := by
    refine spells_literal ?_ ?_
    all_goals rcases named with ⟨_ | _ | _⟩ | _ | _ <;> decide
  have colon : Spells ": " [(.colon, [':'])] := spells_signs rfl
  have whole : piece = "    " ++ ("'" ++ named.name ++ "'") ++ ": " := by
    rw [same, ← String.toList_inj]
    simp
  rw [whole]
  exact (blank.append name).append colon

/-- A line with a section spells the section and a comma. -/
theorem spells_section (named : Section) (heading : String) {value : String} {spelled : List Word}
    (same : heading = "    '" ++ named.name ++ "': ") (spells : Spells value spelled) :
    Spells (heading ++ value ++ ",") (headingWords named ++ spelled ++ [(.comma, [','])]) :=
  ((spells_heading same).append spells).append (spells_signs rfl)

/-- A step that writes a text which spells some words. -/
def Writes (step : Except AutomatonError String) (spelled : List Word) : Prop :=
  ∃ text, step = .ok text ∧ Spells text spelled

/-- A step that writes several texts, each of which spells its words. -/
def WritesAll (step : Except AutomatonError (List String)) (spelled : List (List Word)) : Prop :=
  ∃ texts, step = .ok texts ∧ List.Forall₂ Spells texts spelled

/-- Entries that are each written are all written. -/
theorem writesAll_mapM {α : Type} {entries : List α} {convert : α → Except AutomatonError String}
    {spelled : α → List Word} (each : ∀ entry ∈ entries, Writes (convert entry) (spelled entry)) :
    WritesAll (entries.mapM convert) (entries.map spelled) := by
  induction entries with
  | nil => exact ⟨[], rfl, .nil⟩
  | cons first rest inductionHypothesis =>
    obtain ⟨text, written, spells⟩ := each first List.mem_cons_self
    obtain ⟨texts, others, spell⟩ :=
      inductionHypothesis fun entry member => each entry (List.mem_cons_of_mem first member)
    refine ⟨text :: texts, ?_, .cons spells spell⟩
    simp [List.mapM_cons, written, others, bind, Except.bind, pure, Except.pure]

/-- A usable text is written in its quotes. -/
theorem exists_of_writeLiteral {text : String} (usable : literalFault? text = none) :
    ∃ quoted, writeLiteral text = .ok quoted ∧
      quoted.toList = quoteFor text :: (text.toList ++ [quoteFor text]) := by
  unfold writeLiteral
  rw [requireLiteral_eq_ok_iff.mpr usable]
  refine ⟨_, rfl, ?_⟩
  unfold quoteFor
  split <;> simp

theorem writeLiteral_writes {text : String} (usable : literalFault? text = none) :
    Writes (writeLiteral text) [literalWord text] := by
  obtain ⟨quoted, written, same⟩ := exists_of_writeLiteral usable
  exact ⟨quoted, written, spells_literal usable same⟩

/-- A list of usable texts is written. -/
theorem writeList_writes {items : List String}
    (usable : ∀ item ∈ items, literalFault? item = none) :
    Writes (writeList items) (listWords items) := by
  obtain ⟨literals, written, spell⟩ :=
    writesAll_mapM fun item member => writeLiteral_writes (usable item member)
  have sameLength := spell.length_eq
  unfold writeList listWords
  rw [written]
  cases items with
  | nil =>
    obtain rfl : literals = [] := by simpa using sameLength
    have signs : Spells "()" [(.openParen, ['(']), (.closeParen, [')'])] :=
      spells_signs rfl
    exact ⟨_, rfl, spells_name signs rfl rfl rfl rfl rfl⟩
  | cons first rest =>
    cases literals with
    | nil => cases sameLength
    | cons literal others =>
      have opening : Spells "\x7b" [(.openBrace, ['\x7b'])] := spells_signs rfl
      have closing : Spells "\x7d" [(.closeBrace, ['\x7d'])] := spells_signs rfl
      have comma : Spells ", " [(.comma, [','])] := spells_signs rfl
      exact ⟨_, rfl, (opening.append (comma.intercalate spell)).append closing⟩

variable {model : Automaton}

/-- A transition of a valid automaton is written as a row between the labels of its states. -/
theorem writeTransition_writes (valid : model.Valid) {transition : Transition}
    (member : transition ∈ model.transitions) :
    Writes (writeTransition model transition) (rowWords (model.labelOf transition.source,
      transition.symbol, model.labelOf transition.target) ++ [(.comma, [','])]) := by
  have sourceKnown := valid.sourcesKnown transition member
  have targetKnown := valid.targetsKnown transition member
  obtain ⟨source, sourceWritten, sourceSpells⟩ :=
    writeLiteral_writes (valid.labelOf_usable sourceKnown)
  obtain ⟨symbol, symbolWritten, symbolSpells⟩ :=
    writeLiteral_writes (valid.symbolsUsable transition member)
  obtain ⟨target, targetWritten, targetSpells⟩ :=
    writeLiteral_writes (valid.labelOf_usable targetKnown)
  unfold writeTransition
  simp only [Automaton.label_of_known sourceKnown, Automaton.label_of_known targetKnown,
    sourceWritten, symbolWritten, targetWritten, bind, Except.bind]
  have opening : Spells "        (" [(.openParen, ['('])] := spells_signs rfl
  have comma : Spells ", " [(.comma, [','])] := spells_signs rfl
  have closing : Spells "): " [(.closeParen, [')']), (.colon, [':'])] := spells_signs rfl
  have last : Spells "," [(.comma, [','])] := spells_signs rfl
  exact ⟨_, rfl, (((((opening.append sourceSpells).append comma).append symbolSpells).append
    closing).append targetSpells).append last⟩

/-- The lines of a table spell the words of the section together. -/
theorem writeTable_writes (valid : model.Valid) :
    ∃ spelled, WritesAll (writeTable model) spelled ∧
      spelled.flatten = headingWords .transitions ++ tableWords model.listing.transitions := by
  have heading : Spells "    'transitions': " (headingWords .transitions) :=
    spells_heading rfl
  unfold writeTable
  by_cases missing : model.transitions.isEmpty = true
  · have braces : Spells "\x7b\x7d" [(.openBrace, ['\x7b']), (.closeBrace, ['\x7d'])] :=
      spells_signs rfl
    have line : "    'transitions': \x7b\x7d" = "    'transitions': " ++ "\x7b\x7d" := rfl
    rw [if_pos missing, line]
    refine ⟨[_], ⟨_, rfl, .cons (heading.append braces) .nil⟩, ?_⟩
    simp [Automaton.listing, List.isEmpty_iff.mp missing, tableWords]
  · have opening : Spells "\x7b" [(.openBrace, ['\x7b'])] := spells_signs rfl
    have closing : Spells "    \x7d" [(.closeBrace, ['\x7d'])] := spells_signs rfl
    have line : "    'transitions': \x7b" = "    'transitions': " ++ "\x7b" := rfl
    have each : WritesAll (model.transitions.mapM (writeTransition model))
        (model.listing.transitions.map fun described =>
          rowWords described ++ [(.comma, [','])]) := by
      simpa [Automaton.listing, Function.comp_def] using
        writesAll_mapM fun transition member => writeTransition_writes valid member
    obtain ⟨rows, written, spell⟩ := each
    rw [if_neg missing, written, line]
    have lines := List.rel_append (List.rel_append (.cons (heading.append opening) .nil) spell)
      (.cons closing .nil)
    exact ⟨_, ⟨_, rfl, lines⟩, by simp [tableWords]⟩

/-- The texts of the description of a valid automaton are usable. -/
theorem usable_of_valid (valid : model.Valid) :
    ∀ value ∈ sectionValues model.listing, value.Usable := by
  simp only [sectionValues, List.forall_mem_cons, List.not_mem_nil, false_implies, implies_true,
    and_true, SectionValue.Usable]
  refine ⟨valid.alphabetUsable, ?_, valid.labelOf_usable valid.initialKnown, ?_, ?_⟩
  · intro label member
    obtain ⟨state, known, rfl⟩ := List.mem_map.mp member
    exact valid.labelsUsable state known
  · intro label member
    obtain ⟨state, accepting, rfl⟩ := List.mem_map.mp member
    exact valid.labelsUsable state (List.mem_of_mem_filter accepting)
  · intro described member
    obtain ⟨transition, known, rfl⟩ := List.mem_map.mp member
    exact ⟨valid.labelOf_usable (valid.sourcesKnown transition known),
      valid.symbolsUsable transition known,
      valid.labelOf_usable (valid.targetsKnown transition known)⟩

/-- Every valid automaton can be written, and the text spells its description. -/
theorem write_spells (valid : model.Valid) :
    ∃ text, write model = .ok text ∧ Spells text (specWords model.listing) := by
  have usable := usable_of_valid valid
  simp only [sectionValues, List.forall_mem_cons, SectionValue.Usable, Automaton.listing] at usable
  obtain ⟨alphabet, alphabetWritten, alphabetSpells⟩ := writeList_writes usable.1
  obtain ⟨states, statesWritten, statesSpells⟩ := writeList_writes usable.2.1
  obtain ⟨initial, initialWritten, initialSpells⟩ := writeLiteral_writes usable.2.2.1
  obtain ⟨accepting, acceptingWritten, acceptingSpells⟩ := writeList_writes usable.2.2.2.1
  obtain ⟨rows, ⟨table, tableWritten, tableSpells⟩, flattened⟩ := writeTable_writes valid
  have signs : Spells " = \x7b" [(.equals, ['=']), (.openBrace, ['\x7b'])] :=
    spells_signs rfl
  have opening : Spells "SPEC_DFA = \x7b" openingWords :=
    spells_name signs rfl rfl rfl rfl rfl
  have alphabetLine := spells_section (.list .alphabet) "    'alphabet': " rfl alphabetSpells
  have statesLine := spells_section (.list .states) "    'states': " rfl statesSpells
  have initialLine := spells_section .initialState "    'initial_state': " rfl initialSpells
  have acceptingLine := spells_section (.list .acceptingStates)
    "    'accepting_states': " rfl acceptingSpells
  have closing : Spells "\x7d" [(.closeBrace, ['\x7d'])] := spells_signs rfl
  have lines := List.rel_append (List.rel_append
    (.cons opening (.cons alphabetLine (.cons statesLine (.cons initialLine
      (.cons acceptingLine .nil))))) tableSpells) (.cons closing .nil)
  have lineEnd : Spells "\n" [] := spells_signs rfl
  have whole := lineEnd.intercalate lines
  unfold write writeLines
  rw [alphabetWritten, statesWritten, Automaton.label_of_known valid.initialKnown]
  simp only [initialWritten, acceptingWritten, tableWritten, bind, Except.bind]
  refine ⟨_, rfl, ?_⟩
  rw [intercalate_nil_left, List.flatten_append, List.flatten_append, flattened] at whole
  simpa [specWords, sectionValues, SectionValue.words, List.intercalate_cons_cons,
    Automaton.listing] using whole

end Acceptor.Spec
