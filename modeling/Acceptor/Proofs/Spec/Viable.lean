import Acceptor.Proofs.Spec.Language

/-!
# Where reading stops

`Stops` lists the three ways in which the reading of a block can end: at the end of the tokens, at
a token that is refused, at the brace that closes the block. From every place that the reader comes
to, a block can still be completed (`completable`), so the reader stops at the first token after
which it no longer can. `classified` sorts all lists of tokens by this.
-/

namespace Acceptor.Spec

/-- A refusal of a token, in the syntax and where the token stands. -/
structure ReadError.Points (error : ReadError) (token : Token) : Prop where
  kind : error.kind = .wrongSyntax
  position : error.position = some token.position

section Refusals

variable {filled : List Section} {place : Place} {token : Token} {error : ReadError}

theorem Place.points_unexpected (place : Place) (token : Token) :
    (place.unexpected token).Points token :=
  ⟨rfl, rfl⟩

theorem Place.points_value {use : String → Move} (refused : place.value token use = .error error) :
    error.Points token := by
  unfold Place.value at refused
  split at refused
  · cases refused
    exact ⟨rfl, rfl⟩
  · cases refused

theorem points_openSection (refused : openSection filled token = .error error) :
    error.Points token := by
  unfold openSection at refused
  dsimp only at refused
  split at refused
  · cases refused
    exact ⟨rfl, rfl⟩
  · split at refused
    · cases refused
      exact ⟨rfl, rfl⟩
    · cases refused

/-- A token that may not come next is refused where it stands. -/
theorem Place.points_move (refused : place.move filled token = .error error) :
    error.Points token := by
  unfold Place.move at refused
  split at refused
  case h_6 =>
    -- A word that is not the one for an empty list.
    split at refused
    · cases refused
    · cases refused
      exact points_unexpected _ _
  all_goals first
    | contradiction
    | exact points_value refused
    | exact points_openSection refused
    | (cases refused; exact points_unexpected _ _)

end Refusals

/-- Some tokens lead the reader from a place on to another one, with more sections complete. -/
def Leads (clauses : List Clause) (place : Place) (read : List Token) (reached : List Clause)
    (goal : Place) : Prop :=
  ∀ rest, readFrom clauses place (read ++ rest) = readFrom reached goal rest

/-- The ways in which reading from a place on ends. -/
inductive Stops (clauses : List Clause) (place : Place) :
    List Token → Except ReadError (List Clause) → Prop where
  /-- The tokens end inside the block. -/
  | ended {read reached goal} (leads : Leads clauses place read reached goal) :
      Stops clauses place read (.error goal.ended)
  /-- A token may not come next. -/
  | refused {read token rest reached goal error} (leads : Leads clauses place read reached goal)
      (refuses : goal.move (reached.map Clause.toSection) token = .error error) :
      Stops clauses place (read ++ token :: rest) (.error error)
  /-- A brace closes the block. -/
  | closed {read brace rest reached goal} (leads : Leads clauses place read reached goal)
      (closes : Moves (reached.map Clause.toSection) goal brace .closed) :
      Stops clauses place (read ++ brace :: rest) (.ok reached)

section Machine

variable {clauses next : List Clause} {place onward : Place} {token : Token} {tokens : List Token}
  {result : Except ReadError (List Clause)}

/-- A token that leads on is read before whatever ends the reading. -/
theorem Stops.cons (leads : Leads clauses place [token] next onward)
    (stops : Stops next onward tokens result) : Stops clauses place (token :: tokens) result := by
  have extended {read : List Token} {reached : List Clause} {goal : Place}
      (later : Leads next onward read reached goal) :
      Leads clauses place (token :: read) reached goal :=
    fun rest => (leads (read ++ rest)).trans (later rest)
  cases stops with
  | ended later => exact .ended (extended later)
  | refused later refuses => exact .refused (extended later) refuses
  | closed later closes => exact .closed (extended later) closes

/-- Reading ends in one of the listed ways. -/
theorem stops_readFrom (clauses : List Clause) (place : Place) (tokens : List Token) :
    Stops clauses place tokens (readFrom clauses place tokens) := by
  induction tokens generalizing clauses place with
  | nil => exact .ended fun rest => rfl
  | cons token rest inductionHypothesis =>
    have here : Leads clauses place [] clauses place := fun rest => rfl
    cases made : place.move (clauses.map Clause.toSection) token with
    | error error =>
      have refused : readFrom clauses place (token :: rest) = .error error := by
        rw [readFrom, made]
      rw [refused]
      exact .refused here made
    | ok move =>
      have moves := Place.move_eq_ok_iff.mp made
      have step (rest : List Token) : readFrom clauses place (token :: rest) = _ :=
        readFrom_of_moves moves
      rw [step]
      cases move with
      | within next => exact .cons step (inductionHypothesis clauses next)
      | complete clause => exact .cons step (inductionHypothesis (clauses ++ [clause]) .clauseEnd)
      | closed => exact .closed here moves

/-- From a place on, some tokens close the block. -/
def Completable (clauses : List Clause) (place : Place) : Prop :=
  ∃ tokens result, readFrom clauses place tokens = .ok result

/-- A token of a kind, for blocks in which the text does not matter. -/
def bareToken (kind : TokenKind) : Token :=
  ⟨kind, "", ⟨1, 1⟩⟩

theorem isValue_bareToken : (bareToken .literal).IsValue :=
  ⟨rfl, by simp [bareToken]⟩

theorem Completable.within {goal : Place}
    (moves : Moves (clauses.map Clause.toSection) place token (.within goal))
    (onward : Completable clauses goal) : Completable clauses place := by
  obtain ⟨tokens, result, accepted⟩ := onward
  exact ⟨token :: tokens, result, (readFrom_of_moves moves).trans accepted⟩

/-- After a complete section the block can be closed at once. -/
theorem Completable.complete {clause : Clause}
    (moves : Moves (clauses.map Clause.toSection) place token (.complete clause)) :
    Completable clauses place := by
  have closes : readFrom (clauses ++ [clause]) .clauseEnd [bareToken .closeBrace] =
      .ok (clauses ++ [clause]) := readFrom_of_moves (.clauseEndClose rfl)
  exact ⟨[token, bareToken .closeBrace], _, (readFrom_of_moves moves).trans closes⟩

/-- Wherever the reader is, the block can still be completed. -/
theorem completable (clauses : List Clause) (place : Place) : Completable clauses place := by
  have brace : (bareToken .closeBrace).kind = .closeBrace := rfl
  have opening : (bareToken .openBrace).kind = .openBrace := rfl
  have paren : (bareToken .closeParen).kind = .closeParen := rfl
  have colon : (bareToken .colon).kind = .colon := rfl
  have comma : (bareToken .comma).kind = .comma := rfl
  have setClose {which key} : Completable clauses (.setClose which key) :=
    .complete (.setClose paren)
  have item {which key items} : Completable clauses (.item which key items) :=
    .complete (.itemClose brace)
  have entry {entries} : Completable clauses (.entry entries) := .complete (.entryClose brace)
  have entryEnd {entries} : Completable clauses (.entryEnd entries) :=
    .complete (.entryEndClose brace)
  have entryTarget {entries opened source symbol} :
      Completable clauses (.entryTarget entries opened source symbol) :=
    .within (.entryTarget isValue_bareToken) entryEnd
  have pairColon {entries opened source symbol} :
      Completable clauses (.pairColon entries opened source symbol) :=
    .within (.pairColon colon) entryTarget
  have pairClose {entries opened source symbol} :
      Completable clauses (.pairClose entries opened source symbol) :=
    .within (.pairClose paren) pairColon
  have entrySymbol {entries opened source} :
      Completable clauses (.entrySymbol entries opened source) :=
    .within (.entrySymbol isValue_bareToken) pairClose
  have sourceComma {entries opened source} :
      Completable clauses (.sourceComma entries opened source) :=
    .within (.sourceComma comma) entrySymbol
  have start {key} (named : Section) : Completable clauses (named.start key) := by
    cases named with
    | list which => exact .within (.listOpen opening) item
    | initialState => exact .complete (.initialLabel isValue_bareToken)
    | transitions => exact .within (.tableOpen opening) entry
  cases place with
  | name => exact ⟨[bareToken .closeBrace], clauses, readFrom_of_moves (.close brace)⟩
  | nameColon named key => exact .within (.nameColon colon) (start named)
  | initialLabel => exact .complete (.initialLabel isValue_bareToken)
  | listStart which key => exact start (.list which)
  | setOpen which key =>
    have bracket : (bareToken .openParen).kind = .openParen := rfl
    exact .within (.setOpen bracket) setClose
  | setClose which key => exact setClose
  | item which key items => exact item
  | itemEnd which key items => exact .complete (.itemEndClose brace)
  | tableStart => exact .within (.tableOpen opening) entry
  | entry entries => exact entry
  | entrySource entries opened => exact .within (.entrySource isValue_bareToken) sourceComma
  | sourceComma entries opened source => exact sourceComma
  | entrySymbol entries opened source => exact entrySymbol
  | pairClose entries opened source symbol => exact pairClose
  | pairColon entries opened source symbol => exact pairColon
  | entryTarget entries opened source symbol => exact entryTarget
  | entryEnd entries => exact entryEnd
  | clauseEnd => exact ⟨[bareToken .closeBrace], clauses, readFrom_of_moves (.clauseEndClose brace)⟩

end Machine

/-- Tokens that end with the closing brace of their first block, in which no section occurs
twice. -/
def ClosedBy (tokens : List Token) (clauses : List Clause) : Prop :=
  ∃ before word sign block, tokens = before ++ word :: sign :: block ∧
    (before ++ [word]).IsChain Silent ∧ opensBlock word sign = true ∧ BlockText block clauses ∧
      (clauses.map Clause.toSection).Nodup

/-- Tokens that end with a complete block, which is the first one. -/
def Closed (tokens : List Token) : Prop :=
  ∃ clauses, ClosedBy tokens clauses

/-- Some first tokens end with a complete block. -/
def Complete (tokens : List Token) : Prop :=
  ∃ closed, Closed closed ∧ closed <+: tokens

/-- Tokens that can be continued to a complete block. -/
def Viable (tokens : List Token) : Prop :=
  ∃ closed, Closed closed ∧ tokens <+: closed

/-- The first word and sign that open a block are followed by a brace. -/
def Opened (tokens : List Token) : Prop :=
  ∃ before word sign brace inner, tokens = before ++ word :: sign :: brace :: inner ∧
    (before ++ [word]).IsChain Silent ∧ opensBlock word sign = true ∧ brace.kind = .openBrace

/-- Tokens are refused as a malformed block, without a place. -/
def Malformed (tokens : List Token) : Prop :=
  ∃ error, automatonOf tokens = .error (.reading error) ∧ error.kind = .malformedBlock ∧
    error.position = none

section Classification

variable {tokens closed : List Token} {clauses : List Clause}

/-- Reading gives some clauses exactly if some first tokens end with a block that has them. -/
theorem readClauses_eq_ok_iff_closedBy :
    readClauses tokens = .ok clauses ↔ ∃ closed, ClosedBy closed clauses ∧ closed <+: tokens := by
  rw [readClauses_eq_ok_iff]
  constructor
  · rintro ⟨⟨before, word, sign, block, after, rfl, silent, opens, text⟩, nodup⟩
    exact ⟨_, ⟨before, word, sign, block, rfl, silent, opens, text, nodup⟩, after, by simp⟩
  · rintro ⟨-, ⟨before, word, sign, block, rfl, silent, opens, text, nodup⟩, after, rfl⟩
    exact ⟨⟨before, word, sign, block, after, by simp, silent, opens, text⟩, nodup⟩

/-- What is read from some tokens is decided by the block at their front. -/
theorem automatonOf_of_readClauses (read : readClauses tokens = .ok clauses) :
    automatonOf tokens = match listing clauses with
      | .error error => .error (.reading error)
      | .ok listing => listing.build.mapError .automaton := by
  unfold automatonOf listingOf
  rw [read]
  rfl

/-- Tokens that are refused while they are read. -/
theorem automatonOf_of_refused {error : ReadError} (refused : readClauses tokens = .error error) :
    automatonOf tokens = .error (.reading error) := by
  unfold automatonOf listingOf
  rw [refused]
  rfl

theorem not_opened_iff : ¬Opened tokens ↔ blockTokens? tokens = none := by
  rw [← Option.not_isSome_iff_eq_none, Option.isSome_iff_exists, not_iff_not]
  simp only [blockTokens?_eq_some_iff]
  constructor
  · rintro ⟨before, word, sign, brace, inner, opened⟩
    exact ⟨inner, before, word, sign, brace, opened⟩
  · rintro ⟨inner, before, word, sign, brace, opened⟩
    exact ⟨before, word, sign, brace, inner, opened⟩

/-- What opens a block decides where its reading starts, whatever follows. -/
theorem Opened.exists_lead (opened : Opened tokens) :
    ∃ lead inner, tokens = lead ++ inner ∧
      ∀ others, readClauses (lead ++ others) = readFrom [] .name others := by
  obtain ⟨before, word, sign, brace, inner, rfl, silent, opens, kind⟩ := opened
  refine ⟨before ++ [word, sign, brace], inner, by simp, fun others => ?_⟩
  have found : blockTokens? (before ++ [word, sign, brace] ++ others) = some others :=
    blockTokens?_eq_some_iff.mpr ⟨before, word, sign, brace, by simp, silent, opens, kind⟩
  rw [readClauses, found]

/-- Tokens that the reader has passed over can be continued to a complete block. -/
theorem viable_of_leads {lead read : List Token} {reached : List Clause} {goal : Place}
    (starts : ∀ others, readClauses (lead ++ others) = readFrom [] .name others)
    (leads : Leads [] .name read reached goal) (unclosed : ¬Complete (lead ++ read)) :
    Viable (lead ++ read) := by
  obtain ⟨rest, result, accepted⟩ := completable reached goal
  have whole : readClauses (lead ++ (read ++ rest)) = .ok result := by rw [starts, leads, accepted]
  obtain ⟨closed, closes, inside⟩ := readClauses_eq_ok_iff_closedBy.mp whole
  rw [← List.append_assoc] at inside
  rcases List.prefix_or_prefix_of_prefix inside (List.prefix_append (lead ++ read) rest) with
    before | after
  · exact absurd ⟨closed, ⟨result, closes⟩, before⟩ unclosed
  · exact ⟨closed, ⟨result, closes⟩, after⟩

/-- A token that is refused cannot be part of a block. -/
theorem not_viable_of_refused {lead read : List Token} {token : Token} {reached : List Clause}
    {goal : Place} {error : ReadError}
    (starts : ∀ others, readClauses (lead ++ others) = readFrom [] .name others)
    (leads : Leads [] .name read reached goal)
    (refuses : goal.move (reached.map Clause.toSection) token = .error error) :
    ¬Viable (lead ++ read ++ [token]) := by
  rintro ⟨-, ⟨clauses, closes⟩, others, rfl⟩
  have accepted := readClauses_eq_ok_iff_closedBy.mpr ⟨_, closes, List.prefix_rfl⟩
  have refused : readFrom reached goal (token :: others) = .error error := by
    rw [readFrom, refuses]
  have regroup : lead ++ read ++ [token] ++ others = lead ++ (read ++ token :: others) := by simp
  rw [regroup, starts, leads, refused] at accepted
  cases accepted

/-- What can be continued to a complete block has first tokens that can. -/
theorem Viable.of_prefix {first : List Token} (viable : Viable tokens) (inside : first <+: tokens) :
    Viable first := by
  obtain ⟨closed, closes, before⟩ := viable
  exact ⟨closed, closes, inside.trans before⟩

theorem Place.ended_malformed (goal : Place) :
    goal.ended.kind = .malformedBlock ∧ goal.ended.position = none := by
  unfold ended
  cases goal.underWay <;> exact ⟨rfl, rfl⟩

/-- Tokens are refused at the first of them that cannot be part of a block. -/
def RefusedEarly (tokens : List Token) : Prop :=
  ∃ index token error, tokens[index]? = some token ∧ Viable (tokens.take index) ∧
    ¬Viable (tokens.take (index + 1)) ∧ automatonOf tokens = .error (.reading error) ∧
      error.kind = .wrongSyntax ∧ error.position = some token.position

/-- Where a block opens and is not complete, the tokens end too early or one of them is refused. -/
theorem Opened.malformed_or_refusedEarly (opened : Opened tokens) (unclosed : ¬Complete tokens) :
    Viable tokens ∧ Malformed tokens ∨ RefusedEarly tokens := by
  obtain ⟨lead, inner, rfl, starts⟩ := opened.exists_lead
  have stops := stops_readFrom [] .name inner
  generalize outcome : readFrom [] .name inner = result at stops
  rw [← starts] at outcome
  cases stops with
  | @ended _ reached goal leads =>
    exact .inl ⟨viable_of_leads starts leads unclosed, goal.ended,
      automatonOf_of_refused outcome, goal.ended_malformed⟩
  | @refused read token rest reached goal error leads refuses =>
    have points := Place.points_move refuses
    have regroup : lead ++ (read ++ token :: rest) = (lead ++ read) ++ token :: rest := by simp
    rw [regroup] at outcome unclosed ⊢
    have shorter : ¬Complete (lead ++ read) := by
      rintro ⟨closed, closes, inside⟩
      exact unclosed ⟨closed, closes, inside.trans (List.prefix_append _ _)⟩
    refine .inr ⟨(lead ++ read).length, token, error, ?_, ?_, ?_, automatonOf_of_refused outcome,
      points.kind, points.position⟩
    · rw [List.getElem?_append_right (Nat.le_refl _), Nat.sub_self, List.getElem?_cons_zero]
    · rw [List.take_left]
      exact viable_of_leads starts leads shorter
    · rw [List.take_length_add_append, List.take_succ_cons, List.take_zero]
      exact not_viable_of_refused starts leads refuses
  | closed leads closes =>
    obtain ⟨closed, closedBy, inside⟩ := readClauses_eq_ok_iff_closedBy.mp outcome
    exact absurd ⟨closed, ⟨_, closedBy⟩, inside⟩ unclosed

/-- What becomes of some tokens. Without a complete block at their front, they are under way as long
as they can be continued to one. -/
structure Classified (tokens : List Token) : Prop where
  /-- Where no block opens, there is none. -/
  unopened : ¬Opened tokens → Malformed tokens
  /-- A complete block is read to its brace, and what follows does not matter. -/
  complete : ∀ closed, Closed closed → closed <+: tokens →
    (∃ clauses, readClauses tokens = .ok clauses) ∧
      ∀ rest, automatonOf (closed ++ rest) = automatonOf tokens
  /-- Tokens that could go on to a complete block end too early. -/
  underWay : Opened tokens → ¬Complete tokens → Viable tokens → Malformed tokens
  /-- All others are refused at the first token that cannot be part of a block. -/
  refused : Opened tokens → ¬Complete tokens → ¬Viable tokens → RefusedEarly tokens

/-- All lists of tokens are sorted by whether a block opens, is complete or can be completed. -/
theorem classified (tokens : List Token) : Classified tokens where
  unopened := by
    intro unopened
    have refused : readClauses tokens = .error ⟨.noBlock, none, none⟩ := by
      rw [readClauses, not_opened_iff.mp unopened]
    exact ⟨_, automatonOf_of_refused refused, rfl, rfl⟩
  complete := by
    rintro closed ⟨clauses, closes⟩ inside
    have read {tokens : List Token} (inside : closed <+: tokens) :
        readClauses tokens = .ok clauses :=
      readClauses_eq_ok_iff_closedBy.mpr ⟨closed, closes, inside⟩
    refine ⟨⟨clauses, read inside⟩, fun rest => ?_⟩
    rw [automatonOf_of_readClauses (read inside),
      automatonOf_of_readClauses (read (List.prefix_append closed rest))]
  underWay := by
    intro opened unclosed viable
    rcases opened.malformed_or_refusedEarly unclosed with ⟨-, malformed⟩ | refused
    · exact malformed
    · obtain ⟨index, token, error, -, -, stuck, -⟩ := refused
      exact absurd (viable.of_prefix (List.take_prefix _ _)) stuck
  refused := by
    intro opened unclosed stuck
    rcases opened.malformed_or_refusedEarly unclosed with ⟨viable, -⟩ | refused
    · exact absurd viable stuck
    · exact refused

end Classification

end Acceptor.Spec
