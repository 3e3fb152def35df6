import Acceptor.Proofs.Spec.Quotation
import Acceptor.Proofs.Spec.Relocation

/-!
# Texts below each other

No lexeme goes on behind a line feed, so a text is cut up to a line feed as if it ended there, and
behind it as if it started there. The one character that can be joined with a line feed is a
carriage return right before it. For the tokens this means that those of the first text stay where
they are, and that those of the second one stand as many lines lower as the first one has
(`exists_tokens_cut`).
-/

namespace Acceptor.Spec

section Lexemes

/-- What is taken from a text up to a line feed does not depend on what follows. -/
theorem takeWhile_append_lineFeed {keeps : Char → Bool} (stops : keeps '\n' = false)
    (cs rest : List Char) :
    (cs ++ '\n' :: rest).takeWhile keeps = cs.takeWhile keeps := by
  induction cs with
  | nil => simp [stops]
  | cons c cs inductionHypothesis =>
    rw [List.cons_append, List.takeWhile_cons, List.takeWhile_cons, inductionHypothesis]

theorem dropWhile_append_lineFeed {keeps : Char → Bool} (stops : keeps '\n' = false)
    (cs rest : List Char) :
    (cs ++ '\n' :: rest).dropWhile keeps = cs.dropWhile keeps ++ '\n' :: rest := by
  induction cs with
  | nil => simp [stops]
  | cons c cs inductionHypothesis =>
    rw [List.cons_append, List.dropWhile_cons, List.dropWhile_cons]
    split
    · exact inductionHypothesis
    · rfl

/-- A literal is closed before a line feed or not at all. -/
theorem closeLiteral?_append_lineFeed {quote : Char} (isQuote : quote ≠ '\n')
    (cs rest : List Char) :
    closeLiteral? quote (cs ++ '\n' :: rest) =
      (closeLiteral? quote cs).map fun found => (found.1, found.2 ++ '\n' :: rest) := by
  have stops : staysInLiteral quote '\n' = false := by simp [staysInLiteral]
  unfold closeLiteral?
  rw [dropWhile_append_lineFeed stops, takeWhile_append_lineFeed stops]
  cases cs.dropWhile (staysInLiteral quote) with
  | nil => simp [isQuote.symm]
  | cons c others =>
    by_cases same : c = quote <;> simp [same]

/-- The first lexeme of a text does not reach over a line feed, unless it is a carriage return right
before it. -/
theorem firstLexeme_append_lineFeed {c : Char} {cs : List Char} (apart : ¬(c = '\r' ∧ cs = []))
    (rest : List Char) :
    firstLexeme c (cs ++ '\n' :: rest) =
      ((firstLexeme c cs).1, (firstLexeme c cs).2 ++ '\n' :: rest) := by
  have comment : staysOnLine '\n' = false := rfl
  have name : isNamePart '\n' = false := rfl
  have blank : isSpacing '\n' = false := rfl
  unfold firstLexeme
  split
  · rw [takeWhile_append_lineFeed comment, dropWhile_append_lineFeed comment]
  split
  · next quote =>
    have isQuote : c ≠ '\n' := by
      rintro rfl
      revert quote
      decide
    rw [closeLiteral?_append_lineFeed isQuote]
    cases closeLiteral? c cs <;> rfl
  split
  · rw [takeWhile_append_lineFeed name, dropWhile_append_lineFeed name]
  split
  · rw [takeWhile_append_lineFeed blank, dropWhile_append_lineFeed blank]
  split
  · rfl
  split
  · next isReturn =>
    cases cs with
    | nil => exact absurd ⟨eq_of_beq isReturn, rfl⟩ apart
    | cons next others => by_cases lineFeed : next = '\n' <;> simp [lineFeed]
  · rfl

/-- A text is cut before a line feed as if it ended there, except that a carriage return at its end
is joined with the line feed. -/
theorem exists_lexemes_cut (before : List Char) :
    ∃ parts lineEnd left, (∀ after, lexemes (before ++ '\n' :: after) =
        parts ++ lineEnd :: lexemes after) ∧ lineEnd.kind = .lineEnd ∧
      lexemes before = parts ++ left ∧
        (left = [] ∨ left = [⟨.token .unknown, ['\r']⟩] ∧ before.getLast? = some '\r') := by
  fun_induction lexemes before with
  | case1 =>
    refine ⟨[], ⟨.lineEnd, ['\n']⟩, [], fun after => ?_, rfl, rfl, .inl rfl⟩
    rw [List.nil_append, lexemes]
    rfl
  | case2 c cs inductionHypothesis =>
    by_cases joined : c = '\r' ∧ cs = []
    · obtain ⟨rfl, rfl⟩ := joined
      refine ⟨[], ⟨.lineEnd, ['\r', '\n']⟩, [⟨.token .unknown, ['\r']⟩], fun after => ?_, rfl, ?_,
        .inr ⟨rfl, rfl⟩⟩
      · rw [List.cons_append, lexemes]
        rfl
      · change _ :: lexemes [] = _
        rw [lexemes]
        rfl
    · obtain ⟨parts, lineEnd, left, cut, kind, alone, rest⟩ := inductionHypothesis
      refine ⟨(firstLexeme c cs).1 :: parts, lineEnd, left, fun after => ?_, kind, ?_, ?_⟩
      · rw [List.cons_append, lexemes, firstLexeme_append_lineFeed joined, cut, List.cons_append]
      · rw [alone, List.cons_append]
      · rcases rest with nothing | ⟨isReturn, last⟩
        · exact .inl nothing
        · refine .inr ⟨isReturn, ?_⟩
          rw [← firstLexeme_append c cs, List.getLast?_append, last, Option.some_or]

end Lexemes

theorem tokens_empty : tokens "" = [] := by
  rw [tokens, String.toList_empty, lexemes]
  rfl

/-- The place behind a lexeme. -/
def Position.behind (position : Position) (lexeme : Lexeme) : Position :=
  match lexeme.kind with
  | .lineEnd => ⟨position.line + 1, 1⟩
  | .token _ | .comment | .blank =>
    { position with column := position.column + lexeme.text.length }

/-- The token that a lexeme at a place is. -/
def Lexeme.token? (position : Position) (lexeme : Lexeme) : Option Token :=
  match lexeme.kind with
  | .token kind => some ⟨kind, String.ofList lexeme.text, position⟩
  | .comment | .blank | .lineEnd => none

theorem tokensFrom_cons (position : Position) (lexeme : Lexeme) (rest : List Lexeme) :
    tokensFrom position (lexeme :: rest) =
      (lexeme.token? position).toList ++ tokensFrom (position.behind lexeme) rest := by
  obtain ⟨kind, text⟩ := lexeme
  cases kind <;> rfl

/-- The place behind some lexemes. -/
def Position.past (position : Position) (parts : List Lexeme) : Position :=
  parts.foldl Position.behind position

theorem Position.past_append (position : Position) (earlier later : List Lexeme) :
    position.past (earlier ++ later) = (position.past earlier).past later :=
  List.foldl_append

theorem tokensFrom_append (position : Position) (earlier later : List Lexeme) :
    tokensFrom position (earlier ++ later) =
      tokensFrom position earlier ++ tokensFrom (position.past earlier) later := by
  induction earlier generalizing position with
  | nil => rfl
  | cons lexeme rest inductionHypothesis =>
    rw [List.cons_append, tokensFrom_cons, tokensFrom_cons, inductionHypothesis, List.append_assoc]
    rfl

/-- A place some lines lower. -/
def Position.down (lines : Nat) (position : Position) : Position :=
  { position with line := position.line + lines }

/-- Tokens of a text that starts lower stand lower. -/
theorem tokensFrom_down (lines : Nat) (position : Position) (parts : List Lexeme) :
    tokensFrom (position.down lines) parts =
      (tokensFrom position parts).map (Token.relocate (Position.down lines)) := by
  induction parts generalizing position with
  | nil => rfl
  | cons lexeme rest inductionHypothesis =>
    have behind : (position.down lines).behind lexeme = (position.behind lexeme).down lines := by
      unfold Position.behind
      split
      · simp only [Position.down, Nat.add_right_comm]
      all_goals rfl
    rw [tokensFrom_cons, tokensFrom_cons, behind, inductionHypothesis, List.map_append]
    congr 1
    unfold Lexeme.token?
    split <;> rfl

/-- A piece of a line holds no line feed. -/
theorem count_cons_takeWhile {keeps : Char → Bool} (stops : keeps '\n' = false) {c : Char}
    (stays : c ≠ '\n') (cs : List Char) : (c :: cs.takeWhile keeps).count '\n' = 0 := by
  refine List.count_eq_zero.mpr fun member => ?_
  rcases List.mem_cons.mp member with same | later
  · exact stays same.symm
  · have kept := List.all_eq_true.mp List.all_takeWhile _ later
    rw [stops] at kept
    cases kept

/-- The lexeme of a line end has one line feed, and no other lexeme has any. -/
theorem line_behind_firstLexeme (position : Position) (c : Char) (cs : List Char) :
    (position.behind (firstLexeme c cs).1).line =
      position.line + (firstLexeme c cs).1.text.count '\n' := by
  by_cases lineFeed : c = '\n'
  · subst lineFeed
    rfl
  have single : [c].count '\n' = 0 := by simp [lineFeed]
  unfold firstLexeme
  split
  · rw [count_cons_takeWhile rfl lineFeed]
    rfl
  split
  · split
    · next closing rest closed =>
      obtain ⟨body, rfl, -, -, noLineEnd⟩ := closeLiteral?_eq_some_iff.mp closed
      have none : (c :: (body ++ [c])).count '\n' = 0 :=
        List.count_eq_zero.mpr (by simp [noLineEnd, Ne.symm lineFeed])
      rw [none]
      rfl
    · rw [single]
      rfl
  split
  · rw [count_cons_takeWhile rfl lineFeed]
    rfl
  split
  · rw [count_cons_takeWhile rfl lineFeed]
    rfl
  split
  · next same => exact absurd (eq_of_beq same) lineFeed
  split
  · next isReturn =>
    obtain rfl := eq_of_beq isReturn
    split <;> rfl
  · rw [single]
    rfl

theorem line_past_lexemes (position : Position) (cs : List Char) :
    (position.past (lexemes cs)).line = position.line + cs.count '\n' := by
  fun_induction lexemes cs generalizing position with
  | case1 => rfl
  | case2 c cs inductionHypothesis =>
    have whole := congrArg (List.count '\n') (firstLexeme_append c cs)
    rw [List.count_append] at whole
    have onward := inductionHypothesis (position.behind (firstLexeme c cs).1)
    rw [line_behind_firstLexeme] at onward
    have same : (position.past ((firstLexeme c cs).1 :: lexemes (firstLexeme c cs).2)).line =
        ((position.behind (firstLexeme c cs).1).past (lexemes (firstLexeme c cs).2)).line := rfl
    omega

/-- The tokens of a text below another one are those of the text alone, as many lines lower as the
other one has. The tokens of the text above are those that it has alone, but for a carriage return
at its end. -/
theorem exists_tokens_cut (before : String) :
    ∃ known left, tokens before = known ++ left ∧
      (left = [] ∨ before.toList.getLast? = some '\r' ∧
        ∃ token, left = [token] ∧ token.kind = .unknown) ∧
      ∀ after, tokens (before ++ "\n" ++ after) = known ++
        (tokens after).map (Token.relocate (Position.down (before.toList.count '\n' + 1))) := by
  obtain ⟨parts, lineEnd, left, cut, kind, alone, rest⟩ := exists_lexemes_cut before.toList
  have known : tokens before = tokensFrom ⟨1, 1⟩ parts ++ tokensFrom (.past ⟨1, 1⟩ parts) left := by
    rw [tokens, alone, tokensFrom_append]
  refine ⟨_, _, known, ?_, fun after => ?_⟩
  · rcases rest with rfl | ⟨rfl, last⟩
    · exact .inl rfl
    · exact .inr ⟨last, _, rfl, rfl⟩
  · have line : (Position.past ⟨1, 1⟩ parts).line = 1 + before.toList.count '\n' := by
      rw [← line_past_lexemes ⟨1, 1⟩ before.toList, alone, Position.past_append]
      rcases rest with rfl | ⟨rfl, -⟩ <;> rfl
    have start : (Position.past ⟨1, 1⟩ parts).behind lineEnd =
        Position.down (before.toList.count '\n' + 1) ⟨1, 1⟩ := by
      unfold Position.behind
      rw [kind, line]
      rfl
    have text : (before ++ "\n" ++ after).toList = before.toList ++ '\n' :: after.toList := by
      simp
    have noToken : lineEnd.token? (Position.past ⟨1, 1⟩ parts) = none := by
      rw [Lexeme.token?, kind]
    rw [tokens, text, cut, tokensFrom_append, tokensFrom_cons, noToken, start, tokensFrom_down]
    rfl

end Acceptor.Spec
