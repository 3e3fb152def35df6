import Acceptor.Proofs.Spec.LineFeed
import Acceptor.Proofs.Spec.Viable

/-!
# What stands around a block

Only the first block of a text counts. Lines above it that open no block only move the places of
refusals down, and lines below a text change neither what it specifies nor where it is refused,
unless it ended before its block was complete. Both parts may be any text, whatever quotes or
comments are left open in it.
-/

namespace Acceptor.Spec

/-- The word that a block starts with. -/
def Token.IsBlockWord (token : Token) : Prop :=
  token.kind = .identifier ∧ token.text = "SPEC_DFA"

/-- Tokens that open no block, and do not start one either. -/
structure Blockless (tokens : List Token) : Prop where
  silent : tokens.IsChain Silent
  finished : ∀ last ∈ tokens.getLast?, ¬last.IsBlockWord

section Tokens

variable {before tokens : List Token}

theorem silent_of_not_isBlockWord {word : Token} (other : ¬word.IsBlockWord) (sign : Token) :
    Silent word sign := by
  unfold Silent opensBlock
  by_contra opens
  simp only [Bool.not_eq_false, Bool.and_eq_true, beq_iff_eq] at opens
  exact other opens.1

/-- The search for a block passes over tokens that open none. -/
theorem blockTokens?_of_blockless (blockless : Blockless before) :
    blockTokens? (before ++ tokens) = blockTokens? tokens := by
  obtain ⟨silent, finished⟩ := blockless
  induction before with
  | nil => rfl
  | cons first others inductionHypothesis =>
    cases others with
    | nil =>
      have quiet := silent_of_not_isBlockWord (finished first rfl)
      cases tokens with
      | nil => rfl
      | cons next rest =>
        have same : opensBlock first next = false := quiet next
        simp [blockTokens?, same]
    | cons second others =>
      have quiet : opensBlock first second = false := (List.isChain_cons_cons.mp silent).1
      rw [← inductionHypothesis (List.isChain_cons_cons.mp silent).2 finished]
      simp [blockTokens?, quiet]

theorem automatonOf_of_blockless (blockless : Blockless before) :
    automatonOf (before ++ tokens) = automatonOf tokens := by
  simp only [automatonOf, listingOf, readClauses, blockTokens?_of_blockless blockless]

/-- What is read of some tokens stays the same if more follow, unless a block was missing or not
complete. -/
theorem readClauses_append (tokens more : List Token) :
    readClauses (tokens ++ more) = readClauses tokens ∨
      ∃ error, readClauses tokens = .error error ∧ error.kind = .malformedBlock := by
  by_cases opened : Opened tokens
  · obtain ⟨lead, inner, rfl, starts⟩ := opened.exists_lead
    have stops := stops_readFrom [] .name inner
    generalize outcome : readFrom [] .name inner = result at stops
    rw [List.append_assoc, starts, starts, outcome]
    cases stops with
    | @ended _ reached goal leads => exact .inr ⟨goal.ended, rfl, goal.ended_malformed.1⟩
    | refused leads refuses =>
      left
      rw [List.append_assoc, leads, List.cons_append, readFrom, refuses]
    | closed leads closes =>
      left
      rw [List.append_assoc, leads, List.cons_append, readFrom_of_moves closes]
      rfl
  · refine .inr ⟨⟨.noBlock, none, none⟩, ?_, rfl⟩
    rw [readClauses, not_opened_iff.mp opened]

/-- What some tokens specify, or why they are refused, stays the same if more follow, unless a block
was missing or not complete. -/
theorem automatonOf_append
    (wellFormed : ∀ error, automatonOf tokens = .error (.reading error) →
      error.kind ≠ .malformedBlock) (more : List Token) :
    automatonOf (tokens ++ more) = automatonOf tokens := by
  rcases readClauses_append tokens more with same | ⟨error, refused, malformed⟩
  · simp only [automatonOf, listingOf, same]
  · exact absurd malformed (wellFormed error (automatonOf_of_refused refused))

/-- A complete block ends with a brace. -/
theorem ClosedBy.exists_brace {clauses : List Clause} (closes : ClosedBy tokens clauses) :
    ∃ front brace, tokens = front ++ [brace] ∧ brace.kind = .closeBrace := by
  obtain ⟨before, word, sign, block, rfl, -, -, ⟨-, -, kind⟩, -⟩ := closes
  next opening body closing =>
  exact ⟨before ++ word :: sign :: opening :: body, closing, by simp, kind⟩

/-- A last token that is no brace contributes nothing to what is specified. -/
theorem automatonOf_of_concat {token : Token} {model : Automaton} (other : token.kind ≠ .closeBrace)
    (accepted : automatonOf (tokens ++ [token]) = .ok model) : automatonOf tokens = .ok model := by
  cases read : readClauses (tokens ++ [token]) with
  | error error =>
    rw [automatonOf_of_refused read] at accepted
    cases accepted
  | ok clauses =>
    obtain ⟨closed, closes, inside⟩ := readClauses_eq_ok_iff_closedBy.mp read
    rcases List.prefix_concat_iff.mp inside with rfl | earlier
    · obtain ⟨front, brace, same, kind⟩ := closes.exists_brace
      obtain ⟨-, last⟩ := List.append_inj' same rfl
      cases last
      exact absurd kind other
    · have again := readClauses_eq_ok_iff_closedBy.mpr ⟨closed, closes, earlier⟩
      rw [automatonOf_of_readClauses again, ← automatonOf_of_readClauses read, accepted]

end Tokens

/-- What lines above and below a text do. -/
structure Surrounded (before text after : String) : Prop where
  /-- Behind lines that open no block, the text specifies what it does alone, or is refused for the
  same cause, as many lines lower. -/
  below : Blockless (tokens (before ++ "\n")) → parse (before ++ "\n" ++ text) =
    (parse text).mapError (SpecError.relocate (Position.down (before.toList.count '\n' + 1)))
  /-- A text that specifies an automaton does so whatever follows, -/
  accepted : ∀ model, parse text = .ok model → parse (text ++ "\n" ++ after) = .ok model
  /-- and one that is refused otherwise than for a missing or unfinished block is refused for the
  same cause at the same place, unless its last character is joined with the line feed. -/
  refused : ∀ error, parse text = .error (.reading error) → error.kind ≠ .malformedBlock →
    text.toList.getLast? ≠ some '\r' → parse (text ++ "\n" ++ after) = .error (.reading error)

/-- Text around a specification is ignored. -/
theorem surrounded (before text after : String) : Surrounded before text after where
  below := by
    intro blockless
    obtain ⟨known, left, -, -, cut⟩ := exists_tokens_cut before
    have alone : tokens (before ++ "\n") = known := by
      have empty := cut ""
      rwa [String.append_empty, tokens_empty, List.map_nil, List.append_nil] at empty
    rw [alone] at blockless
    rw [parse, parse, cut, automatonOf_of_blockless blockless, automatonOf_relocate]
  accepted := by
    intro model accepted
    obtain ⟨known, left, alone, rest, cut⟩ := exists_tokens_cut text
    rw [parse, alone] at accepted
    rw [parse, cut]
    have enough : automatonOf known = .ok model := by
      rcases rest with rfl | ⟨-, token, rfl, kind⟩
      · rwa [List.append_nil] at accepted
      · exact automatonOf_of_concat (by simp [kind]) accepted
    rw [automatonOf_append (by simp [enough]), enough]
  refused := by
    intro error refused wellFormed notReturn
    obtain ⟨known, left, alone, rest, cut⟩ := exists_tokens_cut text
    rcases rest with rfl | ⟨isReturn, -⟩
    · rw [List.append_nil] at alone
      rw [parse, alone] at refused
      have kept : ∀ other, automatonOf known = .error (.reading other) →
          other.kind ≠ .malformedBlock := by
        intro other same
        rw [refused] at same
        cases same
        exact wellFormed
      rw [parse, cut, automatonOf_append kept, refused]
    · exact absurd isReturn notReturn

/-- A line with an open quote and an open comment. -/
def note : String := "SPEC_DFA it's # = \x7b"

/-- A text that specifies an automaton with one state. -/
def single : String :=
  "SPEC_DFA=\x7b'alphabet':set(),'states':\x7b'q'\x7d,'initial_state':'q'," ++
    "'accepting_states':set()\x7d"

/-- A text that is refused at its closing brace. -/
def valueless : String := "SPEC_DFA=\x7b'states':\x7d"

/-- The refusal of a text in which a list is missing. -/
def missingList (position : Position) : SpecError :=
  .reading ⟨.unexpected .openBrace .closeBrace "\x7d", some "states", some position⟩

/-- Notes above and below change nothing but the line of a refusal. -/
theorem surrounded_by_notes :
    (∃ model, parse single = .ok model ∧ parse (note ++ "\n" ++ single) = .ok model ∧
      parse (single ++ "\n" ++ note) = .ok model) ∧
    parse (note ++ "\n" ++ valueless) = .error (missingList ⟨2, 20⟩) ∧
    parse (valueless ++ "\n" ++ note) = .error (missingList ⟨1, 20⟩) := by
  have accepted : parse single = .ok ⟨[⟨1, "q", false⟩], [], [], 1⟩ := by decide +kernel
  have refused : parse valueless = .error (missingList ⟨1, 20⟩) := by decide +kernel
  have noted : tokens (note ++ "\n") = [⟨.identifier, "SPEC_DFA", ⟨1, 1⟩⟩,
      ⟨.identifier, "it", ⟨1, 10⟩⟩, ⟨.unknown, "'", ⟨1, 12⟩⟩, ⟨.identifier, "s", ⟨1, 13⟩⟩] := by
    decide +kernel
  have blockless : Blockless (tokens (note ++ "\n")) := by
    rw [noted]
    exact ⟨by simp [Silent, opensBlock], by simp [Token.IsBlockWord]⟩
  refine ⟨⟨_, accepted, ?_, (surrounded note single note).accepted _ accepted⟩, ?_, ?_⟩
  · rw [(surrounded note single note).below blockless, accepted]
    rfl
  · rw [(surrounded note valueless note).below blockless, refused]
    rfl
  · refine (surrounded note valueless note).refused _ refused ?_ ?_
    · decide
    · decide

end Acceptor.Spec
