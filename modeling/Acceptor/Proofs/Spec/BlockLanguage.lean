import Acceptor.Proofs.Spec.Grammar

/-!
# The reader accepts exactly the blocks

The machine of `readFrom` goes through three sequences: the items of a list, the rows of the
transition table and the sections of the block. All three have the same four kinds of steps, which
`ReadsSequence` collects; `ReadsSequence.atItem_eq_ok_iff` shows once that such a reader accepts
exactly the sequences of the grammar, whatever follows the closing brace.
-/

namespace Acceptor.Spec

/-- Some tokens start with another one than a closing brace. -/
def StartsOpen (tokens : List Token) : Prop :=
  ∃ first rest, tokens = first :: rest ∧ first.kind ≠ .closeBrace

/-- Every value of a sequence is fresh with respect to the values before it. -/
def Admitted {α : Type} (Fresh : List α → α → Prop) : List α → List α → Prop
  | _, [] => True
  | before, value :: rest => Fresh before value ∧ Admitted Fresh (before ++ [value]) rest

/-- A reader of a sequence up to a closing brace, by what it does where an item may come
(`atItem`), after an item (`afterItem`) and behind the brace (`atEnd`). -/
structure ReadsSequence {α Result : Type} (Item : List Token → α → Prop)
    (Fresh : List α → α → Prop)
    (atItem afterItem atEnd : List α → List Token → Except ReadError Result) : Prop where
  atItem_nil : ∀ {values result}, atItem values [] ≠ .ok result
  atItem_brace : ∀ {values brace rest}, brace.kind = .closeBrace →
    atItem values (brace :: rest) = atEnd values rest
  atItem_item : ∀ {values body value rest}, Item body value → Fresh values value →
    atItem values (body ++ rest) = afterItem (values ++ [value]) rest
  item_of_atItem : ∀ {values tokens result}, StartsOpen tokens → atItem values tokens = .ok result →
    ∃ body value rest, tokens = body ++ rest ∧ Item body value ∧ Fresh values value ∧
      afterItem (values ++ [value]) rest = .ok result
  afterItem_nil : ∀ {values result}, afterItem values [] ≠ .ok result
  afterItem_comma : ∀ {values comma rest}, comma.kind = .comma →
    afterItem values (comma :: rest) = atItem values rest
  afterItem_brace : ∀ {values brace rest}, brace.kind = .closeBrace →
    afterItem values (brace :: rest) = atEnd values rest
  afterItem_other : ∀ {values token rest result}, token.kind ≠ .comma →
    token.kind ≠ .closeBrace → afterItem values (token :: rest) ≠ .ok result

namespace ReadsSequence

variable {α Result : Type} {Item : List Token → α → Prop} {Fresh : List α → α → Prop}
  {atItem afterItem atEnd : List α → List Token → Except ReadError Result}

/-- A derived sequence is read up to its brace. -/
theorem atItem_of_separated
    (reads : ReadsSequence Item Fresh atItem afterItem atEnd) {values more : List α}
    {body rest : List Token} {brace : Token} (sequence : Separated Item body more)
    (admitted : Admitted Fresh values more) (closes : brace.kind = .closeBrace) :
    atItem values (body ++ brace :: rest) = atEnd (values ++ more) rest := by
  induction sequence generalizing values with
  | empty => simp [reads.atItem_brace closes]
  | last item => rw [reads.atItem_item item admitted.1, reads.afterItem_brace closes]
  | more item separates _ inductionHypothesis =>
    rw [List.append_assoc, reads.atItem_item item admitted.1, List.cons_append,
      reads.afterItem_comma separates, inductionHypothesis admitted.2, List.append_assoc]
    rfl

/-- What is read up to a brace is a derived sequence. -/
theorem separated_of_atItem
    (reads : ReadsSequence Item Fresh atItem afterItem atEnd) {values : List α}
    {tokens : List Token} {result : Result} (accepted : atItem values tokens = .ok result) :
    ∃ body more brace rest, tokens = body ++ brace :: rest ∧ brace.kind = .closeBrace ∧
      Separated Item body more ∧ Admitted Fresh values more ∧
        atEnd (values ++ more) rest = .ok result := by
  -- An item covers at least one token, so what follows it is shorter.
  induction length : tokens.length using Nat.strongRecOn generalizing tokens values with
  | ind bound inductionHypothesis =>
    cases tokens with
    | nil => exact absurd accepted reads.atItem_nil
    | cons first others =>
      by_cases closes : first.kind = .closeBrace
      · rw [reads.atItem_brace closes] at accepted
        exact ⟨[], [], first, others, rfl, closes, .empty, trivial, by simpa using accepted⟩
      · obtain ⟨body, value, rest, split, item, fresh, after⟩ :=
          reads.item_of_atItem ⟨first, others, rfl, closes⟩ accepted
        cases rest with
        | nil => exact absurd after reads.afterItem_nil
        | cons next rest =>
          by_cases separates : next.kind = .comma
          · rw [reads.afterItem_comma separates] at after
            have shorter : rest.length < bound := by
              rw [← length, split]
              simp
              omega
            obtain ⟨body', more, brace, rest', rfl, closes', sequence, admitted, onward⟩ :=
              inductionHypothesis _ shorter after rfl
            refine ⟨body ++ next :: body', value :: more, brace, rest', by simp [split], closes',
              .more item separates sequence, ⟨fresh, admitted⟩, by simpa using onward⟩
          · by_cases closes' : next.kind = .closeBrace
            · rw [reads.afterItem_brace closes'] at after
              exact ⟨body, [value], next, rest, split, closes', .last item, ⟨fresh, trivial⟩, after⟩
            · exact absurd after (reads.afterItem_other separates closes')

/-- A reader of a sequence accepts exactly the derived sequences that a brace closes. -/
theorem atItem_eq_ok_iff
    (reads : ReadsSequence Item Fresh atItem afterItem atEnd) {values : List α}
    {tokens : List Token} {result : Result} :
    atItem values tokens = .ok result ↔
      ∃ body more brace rest, tokens = body ++ brace :: rest ∧ brace.kind = .closeBrace ∧
        Separated Item body more ∧ Admitted Fresh values more ∧
          atEnd (values ++ more) rest = .ok result := by
  constructor
  · exact reads.separated_of_atItem
  · rintro ⟨body, more, brace, rest, rfl, closes, sequence, admitted, onward⟩
    rw [reads.atItem_of_separated sequence admitted closes, onward]

end ReadsSequence

/-- Reading on after a move. -/
def readOn (clauses : List Clause) (rest : List Token) : Move → Except ReadError (List Clause)
  | .within place => readFrom clauses place rest
  | .complete clause => readFrom (clauses ++ [clause]) .clauseEnd rest
  | .closed => .ok clauses

section Machine

variable {clauses result : List Clause} {place : Place} {tokens rest : List Token}

/-- An admitted token is read by its move. -/
theorem readFrom_of_moves {token : Token} {move : Move}
    (moves : Moves (clauses.map Clause.toSection) place token move) :
    readFrom clauses place (token :: rest) = readOn clauses rest move := by
  rw [readFrom, Place.move_eq_ok_iff.mpr moves]
  cases move <;> rfl

/-- A reading that succeeds starts with a move. -/
theorem moves_of_readFrom (accepted : readFrom clauses place tokens = .ok result) :
    ∃ token rest move, tokens = token :: rest ∧
      Moves (clauses.map Clause.toSection) place token move ∧
        readOn clauses rest move = .ok result := by
  cases tokens with
  | nil => simp [readFrom] at accepted
  | cons token rest =>
    cases made : place.move (clauses.map Clause.toSection) token with
    | error error => simp [readFrom, made] at accepted
    | ok move =>
      have moves := Place.move_eq_ok_iff.mp made
      exact ⟨token, rest, move, rfl, moves, by rw [← readFrom_of_moves moves, accepted]⟩

theorem readFrom_nil_ne_ok : readFrom clauses place [] ≠ .ok result := by
  intro accepted
  simp [readFrom] at accepted

/-- The items of a list are read as a sequence. -/
theorem readsItems (clauses : List Clause) (which : ListSection) (key : Position) :
    ReadsSequence ListItem (fun _ _ => True)
      (fun items => readFrom clauses (.item which key items))
      (fun items => readFrom clauses (.itemEnd which key items))
      (fun items => readFrom (clauses ++ [.list which key items]) .clauseEnd) where
  atItem_nil := readFrom_nil_ne_ok
  atItem_brace closes := readFrom_of_moves (.itemClose closes)
  atItem_item := by
    rintro items body literal rest ⟨value⟩ -
    exact readFrom_of_moves (.item value)
  item_of_atItem := by
    rintro items tokens result ⟨first, others, rfl, open_⟩ accepted
    obtain ⟨token, rest, move, split, moves, onward⟩ := moves_of_readFrom accepted
    cases split
    cases moves with
    | item value => exact ⟨[first], _, others, rfl, .value value, trivial, onward⟩
    | itemClose closes => exact absurd closes open_
  afterItem_nil := readFrom_nil_ne_ok
  afterItem_comma separates := readFrom_of_moves (.itemComma separates)
  afterItem_brace closes := readFrom_of_moves (.itemEndClose closes)
  afterItem_other := by
    intro items token rest result comma brace accepted
    obtain ⟨token, rest, move, split, moves, -⟩ := moves_of_readFrom accepted
    cases split
    cases moves with
    | itemComma kind => exact comma kind
    | itemEndClose kind => exact brace kind

/-- The rows of the transition table are read as a sequence. -/
theorem readsRows (clauses : List Clause) :
    ReadsSequence TableRow (fun _ _ => True)
      (fun entries => readFrom clauses (.entry entries))
      (fun entries => readFrom clauses (.entryEnd entries))
      (fun entries => readFrom (clauses ++ [.transitions entries]) .clauseEnd) where
  atItem_nil := readFrom_nil_ne_ok
  atItem_brace closes := readFrom_of_moves (.entryClose closes)
  atItem_item := by
    rintro entries body entry rest ⟨openingKind, sourceValue, commaKind, symbolValue, closingKind,
      colonKind, targetValue⟩ -
    simp only [List.cons_append, List.nil_append, readOn,
      readFrom_of_moves (.entryOpen openingKind), readFrom_of_moves (.entrySource sourceValue),
      readFrom_of_moves (.sourceComma commaKind), readFrom_of_moves (.entrySymbol symbolValue),
      readFrom_of_moves (.pairClose closingKind), readFrom_of_moves (.pairColon colonKind),
      readFrom_of_moves (.entryTarget targetValue)]
  item_of_atItem := by
    rintro entries tokens result ⟨first, others, rfl, open_⟩ accepted
    obtain ⟨opening, r₁, _, split, moves, onward⟩ := moves_of_readFrom accepted
    cases split
    cases moves with
    | entryClose closes => exact absurd closes open_
    | entryOpen openingKind =>
      obtain ⟨source, r₂, _, rfl, moves, onward⟩ := moves_of_readFrom onward
      cases moves with | entrySource sourceValue => ?_
      obtain ⟨comma, r₃, _, rfl, moves, onward⟩ := moves_of_readFrom onward
      cases moves with | sourceComma commaKind => ?_
      obtain ⟨symbol, r₄, _, rfl, moves, onward⟩ := moves_of_readFrom onward
      cases moves with | entrySymbol symbolValue => ?_
      obtain ⟨closing, r₅, _, rfl, moves, onward⟩ := moves_of_readFrom onward
      cases moves with | pairClose closingKind => ?_
      obtain ⟨colon, r₆, _, rfl, moves, onward⟩ := moves_of_readFrom onward
      cases moves with | pairColon colonKind => ?_
      obtain ⟨target, rest, _, rfl, moves, onward⟩ := moves_of_readFrom onward
      cases moves with | entryTarget targetValue => ?_
      exact ⟨[first, source, comma, symbol, closing, colon, target], _, rest, rfl,
        .row openingKind sourceValue commaKind symbolValue closingKind colonKind targetValue,
        trivial, onward⟩
  afterItem_nil := readFrom_nil_ne_ok
  afterItem_comma separates := readFrom_of_moves (.entryComma separates)
  afterItem_brace closes := readFrom_of_moves (.entryEndClose closes)
  afterItem_other := by
    intro entries token rest result comma brace accepted
    obtain ⟨token, rest, move, split, moves, -⟩ := moves_of_readFrom accepted
    cases split
    cases moves with
    | entryComma kind => exact comma kind
    | entryEndClose kind => exact brace kind

/-- Where any value is fresh, every sequence is admitted. -/
theorem admitted_of_always {α : Type} (before more : List α) :
    Admitted (fun _ _ => True) before more := by
  induction more generalizing before with
  | nil => trivial
  | cons value rest inductionHypothesis => exact ⟨trivial, inductionHypothesis _⟩

/-- A section whose name is not filled yet is read up to its end. -/
theorem readFrom_sectionText {text : List Token} {clause : Clause}
    (section_ : SectionText text clause)
    (fresh : clause.toSection ∉ clauses.map Clause.toSection) :
    readFrom clauses .name (text ++ rest) = readFrom (clauses ++ [clause]) .clauseEnd rest := by
  cases section_ with
  | initialState names colonKind isValue =>
    simp only [List.cons_append, List.nil_append, readFrom_of_moves (.name names fresh), readOn,
      readFrom_of_moves (.nameColon colonKind), Section.start,
      readFrom_of_moves (.initialLabel isValue)]
  | emptyList names colonKind wordKind wordText openingKind closingKind =>
    simp only [List.cons_append, List.nil_append, readFrom_of_moves (.name names fresh), readOn,
      readFrom_of_moves (.nameColon colonKind), Section.start,
      readFrom_of_moves (.setWord wordKind wordText), readFrom_of_moves (.setOpen openingKind),
      readFrom_of_moves (.setClose closingKind)]
  | list names colonKind openingKind listed closingKind =>
    simp only [List.cons_append, List.append_assoc, List.nil_append,
      readFrom_of_moves (.name names fresh), readOn, readFrom_of_moves (.nameColon colonKind),
      Section.start, readFrom_of_moves (.listOpen openingKind)]
    exact (readsItems _ _ _).atItem_of_separated listed (admitted_of_always _ _) closingKind
  | transitions names colonKind openingKind listed closingKind =>
    simp only [List.cons_append, List.append_assoc, List.nil_append,
      readFrom_of_moves (.name names fresh), readOn, readFrom_of_moves (.nameColon colonKind),
      Section.start, readFrom_of_moves (.tableOpen openingKind)]
    exact (readsRows _).atItem_of_separated listed (admitted_of_always _ _) closingKind

/-- A reading that succeeds from the value of a section on covers the rest of its text. -/
theorem sectionText_of_readFrom {key colon : Token} {named : Section} (names : key.Names named)
    (colonKind : colon.kind = .colon)
    (accepted : readFrom clauses (named.start key.position) tokens = .ok result) :
    ∃ value clause rest, tokens = value ++ rest ∧ SectionText (key :: colon :: value) clause ∧
      clause.toSection = named ∧ readFrom (clauses ++ [clause]) .clauseEnd rest = .ok result := by
  obtain ⟨first, others, _, rfl, moves, onward⟩ := moves_of_readFrom accepted
  cases named with
  | initialState =>
    cases moves with | initialLabel isValue => ?_
    exact ⟨[first], _, others, rfl, .initialState names colonKind isValue, rfl, onward⟩
  | transitions =>
    cases moves with | tableOpen openingKind => ?_
    obtain ⟨body, entries, closing, rest, rfl, closes, listed, -, onward⟩ :=
      (readsRows _).separated_of_atItem onward
    exact ⟨first :: (body ++ [closing]), _, rest, by simp,
      .transitions names colonKind openingKind listed closes, rfl, onward⟩
  | list which =>
    cases moves with
    | listOpen openingKind =>
      obtain ⟨body, items, closing, rest, rfl, closes, listed, -, onward⟩ :=
        (readsItems _ _ _).separated_of_atItem onward
      exact ⟨first :: (body ++ [closing]), _, rest, by simp,
        .list names colonKind openingKind listed closes, rfl, onward⟩
    | setWord wordKind wordText =>
      obtain ⟨opening, r₁, _, rfl, moves, onward⟩ := moves_of_readFrom onward
      cases moves with | setOpen openingKind => ?_
      obtain ⟨closing, rest, _, rfl, moves, onward⟩ := moves_of_readFrom onward
      cases moves with | setClose closingKind => ?_
      exact ⟨[first, opening, closing], _, rest, rfl,
        .emptyList names colonKind wordKind wordText openingKind closingKind, rfl, onward⟩

end Machine

/-- The sections of a block are read as a sequence in which no section occurs twice. -/
theorem readsSections :
    ReadsSequence SectionText
      (fun clauses clause => clause.toSection ∉ clauses.map Clause.toSection)
      (fun clauses => readFrom clauses .name) (fun clauses => readFrom clauses .clauseEnd)
      (fun clauses _ => .ok clauses) where
  atItem_nil := readFrom_nil_ne_ok
  atItem_brace closes := readFrom_of_moves (.close closes)
  atItem_item := readFrom_sectionText
  item_of_atItem := by
    rintro clauses tokens result ⟨first, others, rfl, open_⟩ accepted
    obtain ⟨key, r₁, _, split, moves, onward⟩ := moves_of_readFrom accepted
    cases split
    cases moves with
    | close closes => exact absurd closes open_
    | name names fresh =>
      obtain ⟨colon, r₂, _, rfl, moves, onward⟩ := moves_of_readFrom onward
      cases moves with | nameColon colonKind => ?_
      obtain ⟨value, clause, rest, rfl, text, rfl, after⟩ :=
        sectionText_of_readFrom names colonKind onward
      exact ⟨first :: colon :: value, clause, rest, rfl, text, fresh, after⟩
  afterItem_nil := readFrom_nil_ne_ok
  afterItem_comma separates := readFrom_of_moves (.clauseComma separates)
  afterItem_brace closes := readFrom_of_moves (.clauseEndClose closes)
  afterItem_other := by
    intro clauses token rest result comma brace accepted
    obtain ⟨token, rest, move, split, moves, -⟩ := moves_of_readFrom accepted
    cases split
    cases moves with
    | clauseComma kind => exact comma kind
    | clauseEndClose kind => exact brace kind

/-- A sequence in which no value repeats a feature of an earlier one has distinct features. -/
theorem admitted_iff_nodup {α β : Type} (feature : α → β) {before more : List α}
    (distinct : (before.map feature).Nodup) :
    Admitted (fun earlier value => feature value ∉ earlier.map feature) before more ↔
      ((before ++ more).map feature).Nodup := by
  induction more generalizing before with
  | nil => simpa [Admitted] using distinct
  | cons value rest inductionHypothesis =>
    have regroup : before ++ value :: rest = before ++ [value] ++ rest := by simp
    rw [Admitted, regroup]
    constructor
    · rintro ⟨fresh, others⟩
      refine (inductionHypothesis ?_).mp others
      simpa [List.nodup_append, distinct] using fresh
    · intro nodup
      have shorter : ((before ++ [value]).map feature).Nodup := nodup.sublist (by simp)
      refine ⟨?_, (inductionHypothesis shorter).mpr nodup⟩
      rw [List.map_append, List.nodup_append] at shorter
      intro member
      exact shorter.2.2 _ member _ (by simp) rfl

/-- Reading from the opening brace on gives some clauses exactly if a block with them stands there
in which no section occurs twice. -/
theorem readFrom_name_eq_ok_iff {tokens : List Token} {clauses : List Clause} :
    readFrom [] .name tokens = .ok clauses ↔
      ∃ body brace after, tokens = body ++ brace :: after ∧ brace.kind = .closeBrace ∧
        Separated SectionText body clauses ∧ (clauses.map Clause.toSection).Nodup := by
  rw [readsSections.atItem_eq_ok_iff]
  simp only [List.nil_append, admitted_iff_nodup Clause.toSection
    (show (([] : List Clause).map Clause.toSection).Nodup from List.nodup_nil), Except.ok.injEq]
  constructor
  · rintro ⟨body, more, brace, after, split, closes, sections, nodup, rfl⟩
    exact ⟨body, brace, after, split, closes, sections, nodup⟩
  · rintro ⟨body, brace, after, split, closes, sections, nodup⟩
    exact ⟨body, clauses, brace, after, split, closes, sections, nodup, rfl⟩

/-- The search for a block passes over the tokens before the first word and sign that open one. -/
theorem blockTokens?_append {before : List Token} {word sign : Token} {rest : List Token}
    (silent : (before ++ [word]).IsChain Silent) :
    blockTokens? (before ++ word :: sign :: rest) = blockTokens? (word :: sign :: rest) := by
  induction before with
  | nil => rfl
  | cons first others inductionHypothesis =>
    have onward := inductionHypothesis (List.isChain_of_isChain_cons silent)
    rw [← onward]
    cases others with
    | nil =>
      have quiet : opensBlock first word = false := (List.isChain_cons_cons.mp silent).1
      simp [blockTokens?, quiet]
    | cons second others =>
      have quiet : opensBlock first second = false := (List.isChain_cons_cons.mp silent).1
      simp [blockTokens?, quiet]

/-- The tokens of the block are those behind the first word and sign that open one, if a brace
follows them. -/
theorem blockTokens?_eq_some_iff {tokens inner : List Token} :
    blockTokens? tokens = some inner ↔
      ∃ before word sign brace, tokens = before ++ word :: sign :: brace :: inner ∧
        (before ++ [word]).IsChain Silent ∧ opensBlock word sign = true ∧
          brace.kind = .openBrace := by
  constructor
  · intro found
    fun_induction blockTokens? tokens with
    | case1 word sign opens brace rest kind =>
      cases found
      exact ⟨[], word, sign, brace, rfl, .singleton _, opens, kind⟩
    | case2 word sign opens brace rest kind => cases found
    | case3 word sign opens => cases found
    | case4 first second rest opens inductionHypothesis =>
      obtain ⟨before, word, sign, brace, split, silent, opens', kind⟩ := inductionHypothesis found
      refine ⟨first :: before, word, sign, brace, by simp [split], ?_, opens', kind⟩
      cases before with
      | nil =>
        cases split
        simpa [Silent] using opens
      | cons head others =>
        cases split
        exact .cons_cons (by simpa [Silent] using opens) silent
    | case5 => cases found
  · rintro ⟨before, word, sign, brace, rfl, silent, opens, kind⟩
    rw [blockTokens?_append silent]
    simp [blockTokens?, opens, kind]

/-- Reading gives some clauses exactly if the first block among the tokens has them and no section
occurs twice in it. -/
theorem readClauses_eq_ok_iff {tokens : List Token} {clauses : List Clause} :
    readClauses tokens = .ok clauses ↔
      FirstBlock tokens clauses ∧ (clauses.map Clause.toSection).Nodup := by
  unfold readClauses
  constructor
  · intro accepted
    split at accepted
    · cases accepted
    · next inner found =>
      obtain ⟨before, word, sign, brace, rfl, silent, opens, kind⟩ :=
        blockTokens?_eq_some_iff.mp found
      obtain ⟨body, closing, after, rfl, closes, sections, nodup⟩ :=
        readFrom_name_eq_ok_iff.mp accepted
      exact ⟨⟨before, word, sign, brace :: (body ++ [closing]), after, by simp, silent, opens,
        .block kind sections closes⟩, nodup⟩
  · rintro ⟨⟨before, word, sign, block, after, rfl, silent, opens, text⟩, nodup⟩
    obtain ⟨kind, sections, closes⟩ := text
    next brace body closing =>
    have found : blockTokens? (before ++ word :: sign :: (brace :: (body ++ [closing]) ++ after)) =
        some (body ++ closing :: after) :=
      blockTokens?_eq_some_iff.mpr ⟨before, word, sign, brace, by simp, silent, opens, kind⟩
    rw [found]
    exact readFrom_name_eq_ok_iff.mpr ⟨body, closing, after, rfl, closes, sections, nodup⟩

end Acceptor.Spec
