import Acceptor.Proofs.Spec.Language

/-!
# Reading does not look at places

The reader passes the places of tokens on to what it reads and to its refusals, and never decides
anything by them. If the tokens stand elsewhere, the same is read, and a refusal names the place
where its token stands then (`automatonOf_relocate`).
-/

namespace Acceptor

/-- Refusals of a chain of steps can be changed step by step. -/
theorem mapError_bind {ε ε' α β : Type} {step : Except ε α} {next : α → Except ε β}
    {change : ε → ε'} :
    (step >>= next).mapError change = step.mapError change >>= fun value =>
      (next value).mapError change := by
  cases step <;> rfl

namespace Spec

/-- A token at another place. -/
def Token.relocate (f : Position → Position) (token : Token) : Token :=
  { token with position := f token.position }

/-- A literal at another place. -/
def Literal.relocate (f : Position → Position) (item : Literal) : Literal :=
  { item with position := f item.position }

/-- A row of the transition table at another place. -/
def TableEntry.relocate (f : Position → Position) (entry : TableEntry) : TableEntry :=
  { entry with position := f entry.position }

/-- A section at another place. -/
def Clause.relocate (f : Position → Position) : Clause → Clause
  | .list which key items => .list which (f key) (items.map (Literal.relocate f))
  | .initialState label => .initialState (label.relocate f)
  | .transitions entries => .transitions (entries.map (TableEntry.relocate f))

/-- What has been read of a section at another place. -/
def Place.relocate (f : Position → Position) : Place → Place
  | .name => .name
  | .nameColon named key => .nameColon named (f key)
  | .initialLabel => .initialLabel
  | .listStart which key => .listStart which (f key)
  | .setOpen which key => .setOpen which (f key)
  | .setClose which key => .setClose which (f key)
  | .item which key items => .item which (f key) (items.map (Literal.relocate f))
  | .itemEnd which key items => .itemEnd which (f key) (items.map (Literal.relocate f))
  | .tableStart => .tableStart
  | .entry entries => .entry (entries.map (TableEntry.relocate f))
  | .entrySource entries opened => .entrySource (entries.map (TableEntry.relocate f)) (f opened)
  | .sourceComma entries opened source =>
    .sourceComma (entries.map (TableEntry.relocate f)) (f opened) source
  | .entrySymbol entries opened source =>
    .entrySymbol (entries.map (TableEntry.relocate f)) (f opened) source
  | .pairClose entries opened source symbol =>
    .pairClose (entries.map (TableEntry.relocate f)) (f opened) source symbol
  | .pairColon entries opened source symbol =>
    .pairColon (entries.map (TableEntry.relocate f)) (f opened) source symbol
  | .entryTarget entries opened source symbol =>
    .entryTarget (entries.map (TableEntry.relocate f)) (f opened) source symbol
  | .entryEnd entries => .entryEnd (entries.map (TableEntry.relocate f))
  | .clauseEnd => .clauseEnd

/-- What a token does, at another place. -/
def Move.relocate (f : Position → Position) : Move → Move
  | .within place => .within (place.relocate f)
  | .complete clause => .complete (clause.relocate f)
  | .closed => .closed

/-- A refusal at another place, if it is at any. -/
def ReadError.relocate (f : Position → Position) (error : ReadError) : ReadError :=
  { error with position := error.position.map f }

/-- A refusal of a specification at another place, if it is at any. -/
def SpecError.relocate (f : Position → Position) : SpecError → SpecError
  | .reading error => .reading (error.relocate f)
  | .automaton error => .automaton error

variable {f : Position → Position}

@[simp]
theorem toSection_relocate (clause : Clause) :
    (clause.relocate f).toSection = clause.toSection := by
  cases clause <;> rfl

@[simp]
theorem map_toSection_relocate (clauses : List Clause) :
    (clauses.map (Clause.relocate f)).map Clause.toSection = clauses.map Clause.toSection := by
  simp [Function.comp_def]

@[simp]
theorem content_map_relocate (items : List Literal) :
    (items.map (Literal.relocate f)).map Literal.content = items.map Literal.content := by
  simp [Function.comp_def, Literal.relocate]

/-- The result of a step at another place. -/
def relocated {α : Type} (f : Position → Position) (change : α → α) (result : Except ReadError α) :
    Except ReadError α :=
  (result.map change).mapError (ReadError.relocate f)

theorem Place.ended_relocate (place : Place) :
    (place.relocate f).ended = place.ended.relocate f := by
  cases place <;> rfl

theorem openSection_relocate (filled : List Section) (token : Token) :
    openSection filled (token.relocate f) =
      relocated f (Move.relocate f) (openSection filled token) := by
  have content : (token.relocate f).content = token.content := rfl
  unfold openSection
  rw [content]
  dsimp only
  split
  · rfl
  · split <;> rfl

/-- A token does the same at another place. -/
theorem Place.move_relocate (filled : List Section) (place : Place) (token : Token) :
    (place.relocate f).move filled (token.relocate f) =
      relocated f (Move.relocate f) (place.move filled token) := by
  obtain ⟨kind, text, position⟩ := token
  cases place <;> cases kind <;> try rfl
  case name.literal => exact openSection_relocate filled _
  case listStart.identifier which key =>
    change (if text = "set" then _ else _) = relocated f _ (if text = "set" then _ else _)
    split <;> rfl
  case nameColon.colon named key => cases named <;> rfl
  -- What is left are the values, which are refused alike for a carriage return.
  all_goals
    change (if text.toList.contains '\r' then _ else _) =
      relocated f _ (if text.toList.contains '\r' then _ else _)
    split
    · rfl
    · simp [relocated, Move.relocate, Clause.relocate, Place.relocate, Literal.relocate,
        TableEntry.relocate, Token.relocate, Token.content, Except.map, Except.mapError]

/-- A block is read alike at another place. -/
theorem readFrom_relocate (clauses : List Clause) (place : Place) (tokens : List Token) :
    readFrom (clauses.map (Clause.relocate f)) (place.relocate f) (tokens.map (Token.relocate f)) =
      relocated f (List.map (Clause.relocate f)) (readFrom clauses place tokens) := by
  induction tokens generalizing clauses place with
  | nil =>
    simp only [List.map_nil, readFrom, Place.ended_relocate]
    rfl
  | cons token rest inductionHypothesis =>
    simp only [List.map_cons, readFrom, map_toSection_relocate, Place.move_relocate]
    cases place.move (clauses.map Clause.toSection) token with
    | error error => rfl
    | ok move =>
      cases move with
      | within next => exact inductionHypothesis clauses next
      | complete clause =>
        have onward := inductionHypothesis (clauses ++ [clause]) .clauseEnd
        rw [List.map_append] at onward
        exact onward
      | closed => rfl

/-- The same tokens open a block at another place. -/
theorem blockTokens?_relocate (tokens : List Token) :
    blockTokens? (tokens.map (Token.relocate f)) =
      (blockTokens? tokens).map (List.map (Token.relocate f)) := by
  have opens (word sign : Token) :
      opensBlock (word.relocate f) (sign.relocate f) = opensBlock word sign := rfl
  have kinds (token : Token) : (token.relocate f).kind = token.kind := rfl
  fun_induction blockTokens? tokens with
  | case1 word sign opened brace inner kind => simp [blockTokens?, opens, opened, kinds, kind]
  | case2 word sign opened brace inner kind => simp [blockTokens?, opens, opened, kinds, kind]
  | case3 word sign opened => simp [blockTokens?, opens, opened]
  | case4 word sign rest silent inductionHypothesis =>
    rw [← inductionHypothesis]
    simp [blockTokens?, opens, silent]
  | case5 tokens single =>
    rcases tokens with _ | ⟨word, _ | ⟨sign, rest⟩⟩
    · rfl
    · rfl
    · exact absurd rfl (single word sign rest)

theorem readClauses_relocate (tokens : List Token) :
    readClauses (tokens.map (Token.relocate f)) =
      relocated f (List.map (Clause.relocate f)) (readClauses tokens) := by
  unfold readClauses
  rw [blockTokens?_relocate]
  cases blockTokens? tokens with
  | none => rfl
  | some inner => exact readFrom_relocate [] .name inner

theorem listClause?_relocate (which : ListSection) (clauses : List Clause) :
    listClause? which (clauses.map (Clause.relocate f)) =
      (listClause? which clauses).map fun found =>
        (f found.1, found.2.map (Literal.relocate f)) := by
  unfold listClause?
  rw [List.findSome?_map, List.map_findSome?]
  congr 1
  funext clause
  cases clause with
  | list other key items =>
    by_cases same : other = which <;> simp [Clause.relocate, same]
  | initialState label => rfl
  | transitions entries => rfl

theorem initialClause?_relocate (clauses : List Clause) :
    initialClause? (clauses.map (Clause.relocate f)) =
      (initialClause? clauses).map (Literal.relocate f) := by
  unfold initialClause?
  rw [List.findSome?_map, List.map_findSome?]
  congr 1
  funext clause
  cases clause <;> rfl

theorem tableEntries_relocate (clauses : List Clause) :
    tableEntries (clauses.map (Clause.relocate f)) =
      (tableEntries clauses).map (TableEntry.relocate f) := by
  unfold tableEntries
  rw [← Option.getD_map (List.map (TableEntry.relocate f)), List.findSome?_map,
    List.map_findSome?]
  congr 2
  funext clause
  cases clause <;> rfl

/-- A test of a list fails at the same literal at another place. -/
theorem requireAll_relocate (named : Section) (test : String → Bool)
    (cause : String → ReadErrorCause) (items : List Literal) :
    requireAll named test cause (items.map (Literal.relocate f)) =
      (requireAll named test cause items).mapError (ReadError.relocate f) := by
  unfold requireAll
  rw [List.find?_map]
  have same : (fun item : Literal => !test item.content) ∘ Literal.relocate f =
      fun item => !test item.content := rfl
  rw [same]
  cases items.find? fun item => !test item.content <;> rfl

theorem addEntry_relocate (states : List Label) (alphabet : List Symbol)
    (taken : List (Label × Symbol × Label)) (entry : TableEntry) :
    addEntry states alphabet taken (entry.relocate f) =
      (addEntry states alphabet taken entry).mapError (ReadError.relocate f) := by
  have source : (entry.relocate f).source = entry.source := rfl
  have symbol : (entry.relocate f).symbol = entry.symbol := rfl
  have target : (entry.relocate f).target = entry.target := rfl
  unfold addEntry
  rw [source, symbol, target]
  dsimp only
  split
  · rfl
  split
  · rfl
  split
  · rfl
  split
  · rfl
  · split <;> rfl

theorem addEntries_relocate (states : List Label) (alphabet : List Symbol)
    (taken : List (Label × Symbol × Label)) (entries : List TableEntry) :
    addEntries states alphabet taken (entries.map (TableEntry.relocate f)) =
      (addEntries states alphabet taken entries).mapError (ReadError.relocate f) := by
  induction entries generalizing taken with
  | nil => rfl
  | cons entry rest inductionHypothesis =>
    rw [List.map_cons, addEntries, addEntries, mapError_bind, addEntry_relocate]
    simp only [inductionHypothesis]

/-- The clauses of a block describe the same at another place. -/
theorem listing_relocate (clauses : List Clause) :
    listing (clauses.map (Clause.relocate f)) =
      (listing clauses).mapError (ReadError.relocate f) := by
  unfold listing
  rw [listClause?_relocate, listClause?_relocate, listClause?_relocate, initialClause?_relocate,
    tableEntries_relocate]
  cases listClause? .alphabet clauses with
  | none => rfl
  | some symbols => ?_
  cases listClause? .states clauses with
  | none => rfl
  | some labels => ?_
  cases initialClause? clauses with
  | none => rfl
  | some initial => ?_
  cases listClause? .acceptingStates clauses with
  | none => rfl
  | some accepting => ?_
  have goesOn {α β : Type} (value : α) (next : α → Except ReadError β) :
      (Except.ok value >>= next) = next value := rfl
  have one : [Literal.relocate f initial] = [initial].map (Literal.relocate f) := rfl
  simp only [required, Option.map_some, goesOn, mapError_bind, one, requireAll_relocate,
    content_map_relocate, addEntries_relocate, List.isEmpty_map]
  split
  · simp only [mapError_bind]
    rfl
  · simp only [mapError_bind]
    rfl

/-- Tokens describe the same at other places, or are refused alike at the other place. -/
theorem listingOf_relocate (f : Position → Position) (tokens : List Token) :
    listingOf (tokens.map (Token.relocate f)) =
      (listingOf tokens).mapError (ReadError.relocate f) := by
  unfold listingOf
  rw [readClauses_relocate]
  cases readClauses tokens with
  | error error => rfl
  | ok clauses => exact listing_relocate clauses

/-- Tokens at other places specify the same automaton, or are refused alike at the other place. -/
theorem automatonOf_relocate (f : Position → Position) (tokens : List Token) :
    automatonOf (tokens.map (Token.relocate f)) =
      (automatonOf tokens).mapError (SpecError.relocate f) := by
  unfold automatonOf
  rw [listingOf_relocate]
  cases listingOf tokens with
  | error error => rfl
  | ok listing =>
    change listing.build.mapError _ = (listing.build.mapError _).mapError _
    cases listing.build <;> rfl

end Spec

end Acceptor
