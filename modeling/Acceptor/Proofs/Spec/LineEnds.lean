import Acceptor.Proofs.Spec.Layout
import Acceptor.Proofs.Spec.LineFeed
import Acceptor.Text.LineEnds

/-!
# Line ends

A line of a specification may end with a line feed or with a carriage return and a line feed, each
line as it likes. The two are not cut into the same lexemes: a comment goes on up to the line feed
and takes the carriage return in, which no other lexeme does. Yet the tokens are the same and stand
at the same places (`tokensFrom_unifyLineEndsIn`), because a comment is followed by a line end, and
behind a line end columns are counted anew.

A carriage return that stands alone is a character like any other and belongs to the line, so that
`Paired` texts are the ones spoken about.
-/

namespace Acceptor

namespace Text

/-- Every carriage return of a text has a line feed behind it. -/
inductive Paired : List Char → Prop where
  | empty : Paired []
  | lineEnd {cs} (onward : Paired cs) : Paired ('\r' :: '\n' :: cs)
  | other {c cs} (noReturn : c ≠ '\r') (onward : Paired cs) : Paired (c :: cs)

/-- A text with a carriage return put before every line feed. -/
def returnedIn (cs : List Char) : List Char :=
  cs.flatMap fun c => if c = '\n' then ['\r', '\n'] else [c]

/-- A text in which every line feed is made a carriage return and a line feed. -/
def returned (text : String) : String :=
  String.ofList (returnedIn text.toList)

variable {cs front : List Char} {c : Char}

theorem unifyLineEndsIn_lineEnd (cs : List Char) :
    unifyLineEndsIn ('\r' :: '\n' :: cs) = '\n' :: unifyLineEndsIn cs := rfl

theorem unifyLineEndsIn_cons (noReturn : c ≠ '\r') (cs : List Char) :
    unifyLineEndsIn (c :: cs) = c :: unifyLineEndsIn cs := by
  rw [unifyLineEndsIn]
  · exact fun _ same => absurd same noReturn
  · exact noReturn

theorem returnedIn_cons (c : Char) (cs : List Char) :
    returnedIn (c :: cs) = (if c = '\n' then ['\r', '\n'] else [c]) ++ returnedIn cs :=
  List.flatMap_cons

/-- A text without carriage returns is paired after they are put in, and is got back by taking them
out again. -/
theorem paired_returnedIn (unbroken : '\r' ∉ cs) :
    Paired (returnedIn cs) ∧ unifyLineEndsIn (returnedIn cs) = cs := by
  induction cs with
  | nil => exact ⟨.empty, rfl⟩
  | cons c cs inductionHypothesis =>
    obtain ⟨here, later⟩ := not_or.mp (mt List.mem_cons.mpr unbroken)
    obtain ⟨paired, same⟩ := inductionHypothesis later
    rw [returnedIn_cons]
    split
    · next lineFeed =>
      subst lineFeed
      exact ⟨.lineEnd paired, congrArg ('\n' :: ·) same⟩
    · refine ⟨.other (Ne.symm here) paired, ?_⟩
      rw [List.singleton_append, unifyLineEndsIn_cons (Ne.symm here), same]

/-- What is left of a paired text behind some characters is paired. -/
theorem Paired.of_append (paired : Paired (front ++ cs)) : Paired cs := by
  generalize whole : front ++ cs = text at paired
  induction paired generalizing front with
  | empty =>
    obtain ⟨-, rfl⟩ := List.append_eq_nil_iff.mp whole
    exact .empty
  | @lineEnd rest onward inductionHypothesis =>
    rcases List.append_eq_cons_iff.mp whole with ⟨-, rfl⟩ | ⟨left, -, further⟩
    · exact .lineEnd onward
    · rcases List.append_eq_cons_iff.mp further.symm with ⟨-, rfl⟩ | ⟨behind, -, last⟩
      · exact .other (by decide) onward
      · exact inductionHypothesis last.symm
  | @other c rest noReturn onward inductionHypothesis =>
    rcases List.append_eq_cons_iff.mp whole with ⟨-, rfl⟩ | ⟨left, -, further⟩
    · exact .other noReturn onward
    · exact inductionHypothesis further.symm

variable {keeps : Char → Bool}

/-- What goes up to the end of a line at most reaches equally far in both ways of ending it, -/
theorem dropWhile_unifyLineEndsIn (stops : keeps '\n' = false) (paired : Paired cs) :
    (unifyLineEndsIn cs).dropWhile keeps = unifyLineEndsIn (cs.dropWhile keeps) := by
  induction paired with
  | empty => rfl
  | @lineEnd rest =>
    rw [unifyLineEndsIn_lineEnd, List.dropWhile_cons_of_neg (by simp [stops]),
      List.dropWhile_cons, List.dropWhile_cons_of_neg (by simp [stops])]
    split
    · exact (unifyLineEndsIn_cons (by decide) rest).symm
    · exact (unifyLineEndsIn_lineEnd rest).symm
  | @other c rest noReturn onward inductionHypothesis =>
    rw [unifyLineEndsIn_cons noReturn, List.dropWhile_cons, List.dropWhile_cons,
      inductionHypothesis]
    split
    · rfl
    · exact (unifyLineEndsIn_cons noReturn rest).symm

/-- and it is the same if it has no carriage return either. -/
theorem takeWhile_unifyLineEndsIn (stops : keeps '\n' = false) (stopsBefore : keeps '\r' = false)
    (paired : Paired cs) : (unifyLineEndsIn cs).takeWhile keeps = cs.takeWhile keeps := by
  induction paired with
  | empty => rfl
  | lineEnd => simp [unifyLineEndsIn_lineEnd, stops, stopsBefore]
  | other noReturn onward inductionHypothesis =>
    rw [unifyLineEndsIn_cons noReturn, List.takeWhile_cons, List.takeWhile_cons,
      inductionHypothesis]

end Text

namespace Spec

open Text (Paired unifyLineEndsIn unifyLineEndsIn_lineEnd unifyLineEndsIn_cons
  dropWhile_unifyLineEndsIn takeWhile_unifyLineEndsIn)

variable {cs : List Char} {c quote : Char}

theorem firstLexeme_lineFeed (cs : List Char) :
    firstLexeme '\n' cs = (⟨.lineEnd, ['\n']⟩, cs) := rfl

theorem firstLexeme_carriageReturn (cs : List Char) :
    firstLexeme '\r' ('\n' :: cs) = (⟨.lineEnd, ['\r', '\n']⟩, cs) := rfl

theorem firstLexeme_comment (cs : List Char) :
    firstLexeme '#' cs =
      (⟨.comment, '#' :: cs.takeWhile staysOnLine⟩, cs.dropWhile staysOnLine) := rfl

/-- A literal is closed by the next character, not at all, or further on. -/
theorem closeLiteral?_cons (quote c : Char) (cs : List Char) :
    closeLiteral? quote (c :: cs) =
      if c = quote then some ([quote], cs)
      else if c = '\n' then none
      else (closeLiteral? quote cs).map fun found => (c :: found.1, found.2) := by
  unfold closeLiteral?
  by_cases closes : c = quote
  · simp [staysInLiteral, closes]
  · by_cases lineFeed : c = '\n'
    · have other : '\n' ≠ quote := lineFeed ▸ closes
      simp [staysInLiteral, lineFeed, other]
    · have stays : staysInLiteral quote c = true := by simp [staysInLiteral, closes, lineFeed]
      rw [List.dropWhile_cons_of_pos stays, List.takeWhile_cons_of_pos stays, if_neg closes,
        if_neg lineFeed]
      split
      · split <;> rfl
      · rfl

/-- A literal is closed before the line ends, however it ends, or not at all. -/
theorem closeLiteral?_unifyLineEndsIn (isQuote : quote ≠ '\n' ∧ quote ≠ '\r')
    (paired : Paired cs) :
    closeLiteral? quote (unifyLineEndsIn cs) =
      (closeLiteral? quote cs).map fun found => (found.1, unifyLineEndsIn found.2) := by
  induction paired with
  | empty => rfl
  | lineEnd =>
    simp [unifyLineEndsIn_lineEnd, closeLiteral?_cons, isQuote.1.symm, isQuote.2.symm]
  | @other c rest noReturn onward inductionHypothesis =>
    rw [unifyLineEndsIn_cons noReturn, closeLiteral?_cons, closeLiteral?_cons,
      inductionHypothesis]
    split
    · rfl
    split
    · rfl
    · simp only [Option.map_map]
      rfl

/-- The first lexeme of a text does not depend on how lines end, unless it is a comment or starts
with a carriage return. -/
theorem firstLexeme_unifyLineEndsIn (noComment : c ≠ '#') (noReturn : c ≠ '\r')
    (paired : Paired cs) :
    firstLexeme c (unifyLineEndsIn cs) =
      ((firstLexeme c cs).1, unifyLineEndsIn (firstLexeme c cs).2) := by
  unfold firstLexeme
  split_ifs with comment quote name blank lineFeed carriageReturn
  · exact absurd (eq_of_beq comment) noComment
  · have isQuote : c ≠ '\n' ∧ c ≠ '\r' := by
      rcases (by simpa using quote : c = '\'' ∨ c = '"') with rfl | rfl <;> decide
    rw [closeLiteral?_unifyLineEndsIn isQuote paired]
    cases closeLiteral? c cs <;> rfl
  · rw [takeWhile_unifyLineEndsIn rfl rfl paired, dropWhile_unifyLineEndsIn rfl paired]
  · rw [takeWhile_unifyLineEndsIn rfl rfl paired, dropWhile_unifyLineEndsIn rfl paired]
  · rfl
  · exact absurd (eq_of_beq carriageReturn) noReturn
  · rfl

/-- Where the line is over, the column no longer matters. -/
theorem tokensFrom_of_line_ended {position position' : Position}
    (line : position'.line = position.line) (breaks : ∀ c ∈ cs.head?, c = '\n') :
    tokensFrom position' (lexemes cs) = tokensFrom position (lexemes cs) := by
  cases cs with
  | nil =>
    rw [lexemes]
    rfl
  | cons first rest =>
    obtain rfl := breaks first rfl
    rw [lexemes, firstLexeme_lineFeed, tokensFrom, tokensFrom, line]

/-- The tokens of a text and their places do not depend on how its lines end. -/
theorem tokensFrom_unifyLineEndsIn (position : Position) (paired : Paired cs) :
    tokensFrom position (lexemes (unifyLineEndsIn cs)) = tokensFrom position (lexemes cs) := by
  fun_induction lexemes cs generalizing position with
  | case1 =>
    rw [unifyLineEndsIn, lexemes]
  | case2 c cs inductionHypothesis =>
    have rest : Paired (firstLexeme c cs).2 :=
      Paired.of_append ((firstLexeme_append c cs).symm ▸ paired)
    cases paired with
    | @lineEnd cs =>
      -- A line end of two characters and one of a single one lead to the same place.
      rw [firstLexeme_carriageReturn] at inductionHypothesis rest ⊢
      rw [unifyLineEndsIn_lineEnd, lexemes, firstLexeme_lineFeed, tokensFrom_cons, tokensFrom_cons]
      exact inductionHypothesis _ rest
    | other noReturn onward =>
      rw [unifyLineEndsIn_cons noReturn, lexemes, tokensFrom_cons, tokensFrom_cons]
      by_cases comment : c = '#'
      · -- The comment may be shorter by a carriage return, and the line is over behind it.
        subst comment
        have breaks : ∀ c ∈ (cs.dropWhile staysOnLine).head?, c = '\n' := fun c first => by
          simpa [staysOnLine] using head_dropWhile c first
        rw [firstLexeme_comment] at inductionHypothesis rest ⊢
        rw [firstLexeme_comment, dropWhile_unifyLineEndsIn rfl onward, inductionHypothesis _ rest]
        exact tokensFrom_of_line_ended rfl breaks
      · rw [firstLexeme_unifyLineEndsIn comment noReturn onward, inductionHypothesis _ rest]

/-- The style of line ends does not matter. A text and the same text with carriage returns before
its line feeds have the same tokens at the same places, and the same automaton is read from them or
both are refused for the same reason at the same place. -/
theorem sameTokens_of_returned {text : String} (unbroken : '\r' ∉ text.toList) :
    tokens (Text.returned text) = tokens text ∧ parse (Text.returned text) = parse text := by
  obtain ⟨paired, back⟩ := Text.paired_returnedIn unbroken
  have same : tokens (Text.returned text) = tokens text := by
    have unified := tokensFrom_unifyLineEndsIn ⟨1, 1⟩ paired
    rw [back] at unified
    rw [tokens, Text.returned, String.toList_ofList, tokens, unified]
  exact ⟨same, congrArg automatonOf same⟩

/-- A quote that is left open, a comment with a quote in it, and the name of an unknown section
below them, which is refused at its place in both texts. -/
theorem sameTokens_of_returned_unclosed :
    '\r' ∉ "'a\n# it's\nSPEC_DFA = \x7b\n'b'\x7d".toList ∧
      tokens "'a\r\n# it's\r\nSPEC_DFA = \x7b\r\n'b'\x7d" =
        tokens "'a\n# it's\nSPEC_DFA = \x7b\n'b'\x7d" ∧
      parse "'a\r\n# it's\r\nSPEC_DFA = \x7b\r\n'b'\x7d" =
        .error (.reading ⟨.unknownSection "b", some "b", some ⟨4, 1⟩⟩) := by
  have unbroken : '\r' ∉ "'a\n# it's\nSPEC_DFA = \x7b\n'b'\x7d".toList := by decide
  have written : Text.returned "'a\n# it's\nSPEC_DFA = \x7b\n'b'\x7d" =
      "'a\r\n# it's\r\nSPEC_DFA = \x7b\r\n'b'\x7d" := by decide +kernel
  have refused : parse "'a\n# it's\nSPEC_DFA = \x7b\n'b'\x7d" =
      .error (.reading ⟨.unknownSection "b", some "b", some ⟨4, 1⟩⟩) := by decide +kernel
  obtain ⟨sameTokens, sameResult⟩ := sameTokens_of_returned unbroken
  rw [written] at sameTokens sameResult
  exact ⟨unbroken, sameTokens, sameResult.trans refused⟩

end Spec

end Acceptor
