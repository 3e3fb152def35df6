import Acceptor.Proofs.Spec.Fault
import Acceptor.Proofs.Spec.Omission
import Acceptor.Proofs.Spec.Viable

/-!
# Refusals point at the first offender

A text is refused while its tokens are read, for the sections before the transitions, or at an entry
of the transition table (`Refusal`). All but the refusals for a block or a section that is not there
name a place, and a token stands there (`Located`).

For a refused entry the text is cut around its row (`RowCut`), so that the rows from there on, or
those behind it, can be left out of the text itself: without the refused entry and those behind it
the text specifies an automaton, and with that entry as the last one it is refused alike
(`offence`). Leaving out rows keeps blanks, line ends and comments, so the refusal stays in its
place.
-/

namespace Acceptor.Spec

section Rows

variable {former latter : List Clause} {earlier later : List TableEntry} {entry : TableEntry}

/-- An entry stands where the parenthesis of its row does. -/
theorem TableRow.exists_opening {row : List Token} (rowText : TableRow row entry) :
    ∃ opening ∈ row.head?, opening.kind = .openParen ∧ opening.position = entry.position := by
  cases rowText with
  | row openingKind => exact ⟨_, rfl, openingKind, rfl⟩

/-- A row ends with a literal. -/
theorem TableRow.kind_getLast {row : List Token} (rowText : TableRow row entry) :
    ∃ target ∈ row.getLast?, target.kind = .literal := by
  cases rowText with
  | row _ _ _ _ _ _ targetValue => exact ⟨_, rfl, targetValue.literal⟩

/-- Tokens with a transition table are cut around the row of an entry: into those before it, its
own, those of the rows behind it and all others. -/
structure AroundRow (former latter : List Clause) (earlier : List TableEntry) (entry : TableEntry)
    (later : List TableEntry) (lead row rest trail : List Token) : Prop where
  rowText : TableRow row entry
  rows : Separated TableRow (row ++ rest) (entry :: later)
  /-- Before the row stands the comma of another one or the brace that opens the table. -/
  behind : ∃ last ∈ lead.getLast?, last.kind = .openBrace ∨ last.kind = .comma
  /-- Without this row and those behind it, the table has the entries before it. -/
  dropped : FirstBlock (lead ++ trail) (former ++ .transitions earlier :: latter)
  /-- Without those behind it, the entry is the last one. -/
  ended : FirstBlock (lead ++ (row ++ trail))
    (former ++ .transitions (earlier ++ [entry]) :: latter)

/-- A block can be cut around every row of its transition table. -/
theorem FirstBlock.exists_aroundRow {tokens : List Token}
    (block : FirstBlock tokens (former ++ .transitions (earlier ++ entry :: later) :: latter)) :
    ∃ lead row rest trail, tokens = lead ++ (row ++ (rest ++ trail)) ∧
      AroundRow former latter earlier entry later lead row rest trail := by
  obtain ⟨before, word, sign, block, after, rfl, silent, opens, text⟩ := block
  obtain ⟨openingKind, sections, closingKind⟩ := text
  next opening body closing =>
  obtain ⟨front, part, others, rfl, inBlock⟩ := sections.exists_splitAt
  have table := inBlock.item
  cases table with
  | @transitions key colon brace body _ braceEnd names colonKind braceKind listed endKind =>
    obtain ⟨rowsBefore, row, rest, rfl, inTable⟩ := listed.exists_splitAt
    have replaced {rows : List Token} {entries : List TableEntry}
        (listed : Separated TableRow rows entries) :
        FirstBlock (before ++ word :: sign :: opening :: (front ++ key :: colon :: brace ::
            (rows ++ braceEnd :: (others ++ closing :: after))))
          (former ++ .transitions entries :: latter) := by
      refine ⟨before, word, sign, _, after, ?_, silent, opens, .block openingKind
        (inBlock.leads (inBlock.onward (.transitions names colonKind braceKind listed endKind)))
        closingKind⟩
      simp
    refine ⟨before ++ word :: sign :: opening :: (front ++ key :: colon :: brace :: rowsBefore),
      row, rest, braceEnd :: (others ++ closing :: after), by simp, inTable.item,
      inTable.onward inTable.item, ?_, ?_, ?_⟩
    · cases ends : rowsBefore.getLast? with
      | none => exact ⟨brace, by simp [List.getLast?_cons, ends], .inl braceKind⟩
      | some comma =>
        exact ⟨comma, by simp [List.getLast?_cons, ends], .inr (inTable.closed comma ends)⟩
    · simpa using replaced (inTable.leads .empty)
    · simpa using replaced (inTable.leads (.last inTable.item))

end Rows

/-- The ways in which tokens are refused. -/
inductive Refusal (tokens : List Token) (error : ReadError) : Prop where
  /-- No block opens, or it is not complete. -/
  | malformed (kind : error.kind = .malformedBlock) (position : error.position = none)
  /-- A token cannot be part of a block. -/
  | token {token} (member : token ∈ tokens) (points : error.Points token)
  /-- A section of the block is missing, or a name in it is refused. -/
  | heading {clauses} (block : FirstBlock tokens clauses) (fault : HeadingFault clauses error)
  /-- An entry of the transition table is refused. -/
  | entry {clauses entry} (block : FirstBlock tokens clauses)
      (nodup : (clauses.map Clause.toSection).Nodup) (fault : TableFault clauses entry error)

section Refusals

variable {tokens : List Token} {clauses : List Clause} {error : ReadError}

/-- Tokens that are refused while they are read. -/
theorem refusal_of_readClauses (refused : readClauses tokens = .error error) :
    Refusal tokens error := by
  unfold readClauses at refused
  split at refused
  · cases refused
    exact .malformed rfl rfl
  · next inner found =>
    obtain ⟨before, word, sign, brace, rfl, -⟩ := blockTokens?_eq_some_iff.mp found
    have stops := stops_readFrom [] .name inner
    rw [refused] at stops
    cases stops with
    | @ended reached goal _ leads =>
      obtain ⟨kind, position⟩ := Place.ended_malformed _
      exact .malformed kind position
    | refused leads refuses =>
      exact .token (by simp) (Place.points_move refuses)

/-- Tokens are refused in one of the listed ways. -/
theorem refusal_of_listingOf (refused : listingOf tokens = .error error) :
    Refusal tokens error := by
  rcases bind_eq_error_iff.mp refused with early | ⟨clauses, read, refused⟩
  · exact refusal_of_readClauses early
  · obtain ⟨block, nodup⟩ := readClauses_eq_ok_iff.mp read
    rcases listing_eq_error nodup refused with fault | ⟨entry, fault⟩
    · exact .heading block fault
    · exact .entry block nodup fault

/-- A refusal names a place unless it is for a block or a section that is not there, and a token
stands at that place. -/
structure Located (tokens : List Token) (error : ReadError) : Prop where
  named : error.position.isSome ↔
    error.kind ≠ .malformedBlock ∧ error.kind ≠ .missingSection
  token : ∀ position ∈ error.position, ∃ token ∈ tokens, token.position = position

/-- A refusal that names the place of a token is located, if its kind is one that names places. -/
theorem located_of_token {token : Token} (member : token ∈ tokens)
    (placed : error.kind ≠ .malformedBlock ∧ error.kind ≠ .missingSection)
    (position : error.position = some token.position) : Located tokens error where
  named := by simp [placed, position]
  token := by
    rintro place isPlace
    rw [position] at isPlace
    exact ⟨token, member, Option.some.inj isPlace⟩

theorem located_of_headingFault (block : FirstBlock tokens clauses)
    (fault : HeadingFault clauses error) : Located tokens error := by
  cases fault with
  | missing => exact ⟨by simp [ReadError.kind, ReadErrorCause.kind], by simp⟩
  | item listed member placed =>
    obtain ⟨part, inside, text⟩ := block.exists_part listed
    obtain ⟨token, there, -, rfl⟩ := text.exists_token member
    exact located_of_token (inside there) placed rfl
  | initial given =>
    obtain ⟨part, inside, text⟩ := block.exists_part given
    cases text with
    | @initialState key colon value =>
      have there : value ∈ tokens := inside (by simp)
      exact located_of_token there (by simp [ReadError.kind, ReadErrorCause.kind]) rfl
  | noStates listed =>
    obtain ⟨part, inside, text⟩ := block.exists_part listed
    obtain ⟨token, there, rfl⟩ := text.exists_key
    exact located_of_token (inside there) (by simp [ReadError.kind, ReadErrorCause.kind]) rfl

/-- Every refusal is located. -/
theorem Refusal.located (refusal : Refusal tokens error) : Located tokens error := by
  cases refusal with
  | malformed kind position => exact ⟨by simp [kind, position], by simp [position]⟩
  | token member points =>
    exact located_of_token member (by simp [points.kind]) points.position
  | heading block fault => exact located_of_headingFault block fault
  | @entry clauses entry block nodup fault =>
    obtain ⟨former, latter, earlier, later, rfl, -⟩ := fault.table
    obtain ⟨lead, row, rest, trail, rfl, around⟩ := block.exists_aroundRow
    obtain ⟨opening, first, -, place⟩ := around.rowText.exists_opening
    have there : opening ∈ lead ++ (row ++ (rest ++ trail)) := by
      simp [List.mem_of_head? first]
    refine located_of_token there ?_ (by rw [fault.fault.position, place])
    rcases fault.fault.kind with kind | kind | kind <;> simp [kind]

end Refusals

section Texts

variable {text : String} {former latter : List Clause} {earlier later : List TableEntry}
  {entry : TableEntry} {before row rest after : List Lexeme} {error : ReadError}

/-- A text is cut around the row of an entry of its transition table, right behind the token before
the row, the last one of the row and the last one of the rows behind it. -/
structure RowCut (text : String) (former latter : List Clause) (earlier : List TableEntry)
    (entry : TableEntry) (later : List TableEntry) (before row rest after : List Lexeme) :
    Prop where
  whole : lexemes text.toList = before ++ (row ++ (rest ++ after))
  around : AroundRow former latter earlier entry later (tokensFrom ⟨1, 1⟩ before)
    (tokensFrom (.past ⟨1, 1⟩ before) row) (tokensFrom (.past ⟨1, 1⟩ (before ++ row)) rest)
    (tokensFrom (.past ⟨1, 1⟩ (before ++ row ++ rest)) after)
  beforeEnds : ∀ last ∈ before.getLast?, last.isSealed = true
  rowEnds : ∀ last ∈ row.getLast?, last.isSealed = true
  restEnds : ∀ last ∈ rest.getLast?, last.isLayout = false

/-- A text with a transition table can be cut around every row of it. -/
theorem exists_rowCut (block : FirstBlock (tokens text)
      (former ++ .transitions (earlier ++ entry :: later) :: latter)) :
    ∃ before row rest after,
      RowCut text former latter earlier entry later before row rest after := by
  obtain ⟨lead, rowTokens, restTokens, trail, split, around⟩ := block.exists_aroundRow
  obtain ⟨before, others, whole, rfl, split, beforeEnds⟩ := exists_cut split
  obtain ⟨row, others, rfl, rfl, split, rowEnds⟩ := exists_cut split
  obtain ⟨rest, after, rfl, rfl, rfl, restEnds⟩ := exists_cut split
  rw [← Position.past_append, ← Position.past_append] at around
  refine ⟨before, row, rest, after, whole, around, ?_, ?_, ?_⟩
  · intro last isLast
    obtain ⟨token, isToken, kind⟩ := beforeEnds last isLast
    obtain ⟨token', isToken', sign⟩ := around.behind
    cases Option.mem_unique isToken isToken'
    rcases sign with sign | sign <;> simp [Lexeme.isSealed, kind, sign]
  · intro last isLast
    obtain ⟨token, isToken, kind⟩ := rowEnds last isLast
    obtain ⟨token', isToken', literal⟩ := around.rowText.kind_getLast
    cases Option.mem_unique isToken isToken'
    simp [Lexeme.isSealed, kind, literal]
  · intro last isLast
    obtain ⟨token, -, kind⟩ := restEnds last isLast
    simp [Lexeme.isLayout, kind]

theorem Lexeme.isLayout_of_isSealed {lexeme : Lexeme} (ends : lexeme.isSealed = true) :
    lexeme.isLayout = false := by
  unfold isSealed at ends
  unfold isLayout
  split at ends <;> simp_all

theorem listingOf_of_firstBlock {tokens : List Token} {clauses : List Clause}
    (block : FirstBlock tokens clauses) (nodup : (clauses.map Clause.toSection).Nodup) :
    listingOf tokens = listing clauses := by
  rw [listingOf, readClauses_eq_ok_iff.mpr ⟨block, nodup⟩]
  rfl

/-- The text without an entry and those behind it describes what the clauses without them do. -/
theorem RowCut.parse_dropped {described : Listing Label}
    (cut : RowCut text former latter earlier entry later before row rest after)
    (nodup : ((former ++ .transitions earlier :: latter).map Clause.toSection).Nodup)
    (read : listing (former ++ .transitions earlier :: latter) = .ok described) :
    parse (without before (row ++ rest) after) = .ok described.automaton := by
  have whole : lexemes text.toList = before ++ ((row ++ rest) ++ after) := by
    rw [cut.whole, List.append_assoc]
  have ends : ∀ last ∈ (row ++ rest).getLast?, last.isLayout = false := by
    intro last isLast
    rw [List.getLast?_append] at isLast
    cases behind : rest.getLast? with
    | none =>
      rw [behind, Option.none_or] at isLast
      exact Lexeme.isLayout_of_isSealed (cut.rowEnds last isLast)
    | some other =>
      rw [behind, Option.some_or] at isLast
      cases isLast
      exact cut.restEnds last behind
  obtain ⟨f, -, same⟩ := exists_listingOf_without whole cut.beforeEnds ends
  rw [← List.append_assoc, listingOf_of_firstBlock cut.around.dropped nodup, read] at same
  rw [parse_eq_listingOf, same]
  rfl

/-- The text without the entries behind one is refused as the clauses without them are, if the
refusal points at that entry. -/
theorem RowCut.parse_ended
    (cut : RowCut text former latter earlier entry later before row rest after)
    (nodup : ((former ++ .transitions (earlier ++ [entry]) :: latter).map Clause.toSection).Nodup)
    (position : error.position = some entry.position)
    (refused : listing (former ++ .transitions (earlier ++ [entry]) :: latter) = .error error) :
    parse (without (before ++ row) rest after) = .error (.reading error) := by
  have whole : lexemes text.toList = (before ++ row) ++ (rest ++ after) := by
    rw [cut.whole, List.append_assoc]
  have filled : row ≠ [] := by
    rintro rfl
    have rowText := cut.around.rowText
    cases rowText
  have closed : ∀ last ∈ (before ++ row).getLast?, last.isSealed = true := by
    intro last isLast
    rw [List.getLast?_append_of_ne_nil _ filled] at isLast
    exact cut.rowEnds last isLast
  obtain ⟨f, fixes, same⟩ := exists_listingOf_without whole closed cut.restEnds
  have ended := cut.around.ended
  rw [← List.append_assoc, ← tokensFrom_append] at ended
  rw [listingOf_of_firstBlock ended nodup, refused] at same
  obtain ⟨opening, first, -, place⟩ := cut.around.rowText.exists_opening
  have there : opening ∈ tokensFrom ⟨1, 1⟩ (before ++ row) := by
    rw [tokensFrom_append]
    exact List.mem_append_right _ (List.mem_of_head? first)
  have stays : error.relocate f = error := by
    rw [ReadError.relocate, position, Option.map_some, ← place, fixes opening there, place,
      ← position]
  rw [parse_eq_listingOf, same]
  change Except.error (SpecError.reading (error.relocate f)) = _
  rw [stays]

/-- A text is refused at an entry of its transition table: at the parenthesis of its row, where the
text without this entry and those behind it specifies an automaton, and the text without those
behind it is refused alike. -/
def RefusedAtEntry (text : String) (error : ReadError) : Prop :=
  ∃ former latter earlier entry later before row rest after,
    FirstBlock (tokens text) (former ++ .transitions (earlier ++ entry :: later) :: latter) ∧
      RowCut text former latter earlier entry later before row rest after ∧
      (∃ opening ∈ (tokensFrom (.past ⟨1, 1⟩ before) row).head?, opening.kind = .openParen ∧
        error.position = some opening.position) ∧
      (∃ model, parse (without before (row ++ rest) after) = .ok model) ∧
      parse (without (before ++ row) rest after) = .error (.reading error)

theorem refusedAtEntry_of_tableFault {clauses : List Clause}
    (block : FirstBlock (tokens text) clauses) (nodup : (clauses.map Clause.toSection).Nodup)
    (fault : TableFault clauses entry error) : RefusedAtEntry text error := by
  obtain ⟨former, latter, earlier, later, rfl, ⟨described, read⟩, refused⟩ := fault.table
  obtain ⟨before, row, rest, after, cut⟩ := exists_rowCut block
  obtain ⟨opening, first, kind, place⟩ := cut.around.rowText.exists_opening
  have position := fault.fault.position
  have nodup (entries : List TableEntry) :
      ((former ++ .transitions entries :: latter).map Clause.toSection).Nodup := by
    simpa [Clause.toSection] using nodup
  exact ⟨former, latter, earlier, entry, later, before, row, rest, after, block, cut,
    ⟨opening, first, kind, by rw [position, place]⟩, ⟨_, cut.parse_dropped (nodup _) read⟩,
    cut.parse_ended (nodup _) position refused⟩

/-- What the refusal of a text says about it. -/
structure Offence (text : String) (error : ReadError) : Prop where
  located : Located (tokens text) error
  /-- A section is missing only from a complete block, and it is the first required one that is. -/
  missing : error.kind = .missingSection → ∃ clauses named, FirstBlock (tokens text) clauses ∧
    Section.required.find? (· ∉ clauses.map Clause.toSection) = some named ∧
      error = ⟨.missing named.name, some named.name, none⟩
  /-- A refusal of a transition is that of the first entry that cannot be taken. -/
  transition : (error.kind = .unknownState ∨ error.kind = .unknownSymbol ∨
      error.kind = .duplicateTransition) →
    error.inSection = some Section.transitions.name → RefusedAtEntry text error

/-- A fault of the sections before the transitions is not one of a transition. -/
theorem HeadingFault.inSection_ne {clauses : List Clause} (fault : HeadingFault clauses error) :
    error.kind = .missingSection ∨ error.inSection ≠ some Section.transitions.name := by
  cases fault with
  | missing => exact .inl rfl
  | @item which => exact .inr (by cases which <;> simp [Section.name])
  | initial => exact .inr (by simp [Section.name])
  | noStates => exact .inr (by simp [Section.name])

theorem Refusal.offence (refusal : Refusal (tokens text) error) : Offence text error where
  located := refusal.located
  missing := by
    intro missing
    cases refusal with
    | malformed kind => cases kind.symm.trans missing
    | token member points => cases points.kind.symm.trans missing
    | @heading clauses block fault =>
      cases fault with
      | missing first => exact ⟨clauses, _, block, first, rfl⟩
      | item listed member placed => exact absurd missing placed.2
      | initial => cases missing
      | noStates => cases missing
    | entry block nodup fault =>
      rcases fault.fault.kind with kind | kind | kind <;> cases kind.symm.trans missing
  transition := by
    intro ofTransition inTransitions
    cases refusal with
    | malformed kind =>
      rw [kind] at ofTransition
      simp at ofTransition
    | token member points =>
      rw [points.kind] at ofTransition
      simp at ofTransition
    | heading block fault =>
      rcases fault.inSection_ne with missing | elsewhere
      · rw [missing] at ofTransition
        simp at ofTransition
      · exact absurd inTransitions elsewhere
    | entry block nodup fault => exact refusedAtEntry_of_tableFault block nodup fault

/-- Refusals point at the first offender. Every refusal of a text is one of its reader. It names a
place unless it is for a malformed block or a missing section, and a token stands at that place.
A missing section is the first required one that a complete block does not have. A transition is
refused at the parenthesis of an entry such that the text without it and the entries behind it
specifies an automaton, and without only those behind it is refused alike. -/
theorem offence_of_parse {text : String} {error : SpecError} (refused : parse text = .error error) :
    ∃ reading, error = .reading reading ∧ Offence text reading := by
  rw [parse_eq_listingOf] at refused
  cases read : listingOf (tokens text) with
  | ok described =>
    rw [read] at refused
    cases refused
  | error reading =>
    rw [read] at refused
    cases refused
    exact ⟨reading, rfl, (refusal_of_listingOf read).offence⟩

/-- A specification in which the second row has a symbol that is not in the alphabet. -/
def strangeSymbolText : String :=
  "SPEC_DFA=\x7b'alphabet':\x7b'a'\x7d,'states':\x7b'q'\x7d,'initial_state':'q'," ++
    "'accepting_states':set(),'transitions':\x7b('q','a'):'q',\n('q','b'):'q'\x7d\x7d"

theorem offence_of_parse_strangeSymbol :
    parse strangeSymbolText =
        .error (.reading ⟨.undeclaredSymbol "b", some "transitions", some ⟨2, 1⟩⟩) ∧
      RefusedAtEntry strangeSymbolText
        ⟨.undeclaredSymbol "b", some "transitions", some ⟨2, 1⟩⟩ := by
  have refused : parse strangeSymbolText =
      .error (.reading ⟨.undeclaredSymbol "b", some "transitions", some ⟨2, 1⟩⟩) := by
    decide +kernel
  obtain ⟨reading, same, offence⟩ := offence_of_parse refused
  cases same
  exact ⟨refused, offence.transition (.inr (.inl rfl)) rfl⟩

end Texts

end Acceptor.Spec
