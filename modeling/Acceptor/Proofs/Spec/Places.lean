import Acceptor.Proofs.Spec.Omission
import Mathlib.Data.List.DropRight

/-!
# Where tokens stand

A text is cut by going over its characters, while lines and columns are counted beside it. The count
is exact: behind any lexemes it stands where the characters so far lead to, one line for each line
feed and one column for each character since (`past_eq_after`). A token can therefore be found in
the text by its place. What lies between two tokens is what cutting drops, and a dropped lexeme that
is neither a blank nor a line end is a comment, behind which nothing else stands on its line.

Lines are ended by line feeds only. A carriage return belongs to the line, also where it is cut off
together with the line feed behind it.
-/

namespace Acceptor.Spec

/-- The lines of a text. -/
def linesOf (cs : List Char) : List (List Char) :=
  cs.splitOn '\n'

/-- The characters of a text behind its last line feed. -/
def lastLine (cs : List Char) : List Char :=
  cs.rtakeWhile staysOnLine

/-- The place of a character that comes behind some others. -/
def Position.after (front : List Char) : Position :=
  ⟨front.count '\n' + 1, (lastLine front).length + 1⟩

section Lines

variable {front back piece lineText : List Char}

theorem lastLine_append (oneLine : '\n' ∉ piece) (front : List Char) :
    lastLine (front ++ piece) = lastLine front ++ piece := by
  have stays : ∀ c ∈ piece.reverse, staysOnLine c = true := by
    intro c member
    have other : c ≠ '\n' := fun same => oneLine (same ▸ List.mem_reverse.mp member)
    simpa [staysOnLine] using other
  unfold lastLine List.rtakeWhile
  rw [List.reverse_append, List.takeWhile_append_of_pos stays, List.reverse_append,
    List.reverse_reverse]

theorem lastLine_concat_lineFeed (front : List Char) : lastLine (front ++ ['\n']) = [] :=
  List.rtakeWhile_concat_neg _ _ _ (by decide)

/-- What stays on the line leads on along the line. -/
theorem Position.after_append (oneLine : '\n' ∉ piece) (front : List Char) :
    Position.after (front ++ piece) =
      { Position.after front with column := (Position.after front).column + piece.length } := by
  unfold Position.after
  rw [List.count_append, List.count_eq_zero.mpr oneLine, lastLine_append oneLine,
    List.length_append, Nat.add_zero, Nat.add_right_comm]

/-- A text has one line more than line feeds. -/
theorem length_linesOf (cs : List Char) : (linesOf cs).length = cs.count '\n' + 1 := by
  unfold linesOf
  induction cs with
  | nil => rfl
  | cons c cs inductionHypothesis =>
    rw [List.splitOn_cons_eq_if_modifyHead, List.count_cons]
    split <;> simp [inductionHypothesis]

theorem getElem?_linesOf_zero (cs : List Char) :
    (linesOf cs)[0]? = some (cs.takeWhile staysOnLine) := by
  unfold linesOf
  induction cs with
  | nil => rfl
  | cons c cs inductionHypothesis =>
    rw [List.splitOn_cons_eq_if_modifyHead, List.takeWhile_cons]
    by_cases lineFeed : c = '\n' <;>
      simp [lineFeed, staysOnLine, inductionHypothesis]

/-- Behind some characters a text goes on with the rest of the line that they end in. -/
theorem getElem?_linesOf (front back : List Char) :
    (linesOf (front ++ back))[front.count '\n']? =
      some (lastLine front ++ back.takeWhile staysOnLine) := by
  induction front using List.reverseRecOn generalizing back with
  | nil => exact getElem?_linesOf_zero back
  | append_singleton front c inductionHypothesis =>
    by_cases lineFeed : c = '\n'
    · subst lineFeed
      have split : linesOf (front ++ ['\n'] ++ back) = linesOf front ++ linesOf back := by
        rw [List.append_assoc]
        exact List.splitOn_append_cons_self front back
      have length : (front ++ ['\n']).count '\n' = (linesOf front).length := by
        rw [length_linesOf, List.count_append]
        rfl
      rw [split, length, List.getElem?_append_right (Nat.le_refl _), Nat.sub_self,
        getElem?_linesOf_zero, lastLine_concat_lineFeed, List.nil_append]
    · have oneLine : '\n' ∉ [c] := by simpa using Ne.symm lineFeed
      have stays : staysOnLine c = true := by simpa [staysOnLine] using lineFeed
      have same := inductionHypothesis (c :: back)
      rw [List.takeWhile_cons_of_pos stays] at same
      rw [List.append_assoc, List.count_append, List.count_eq_zero.mpr oneLine,
        lastLine_append oneLine, List.append_assoc]
      exact same

/-- A line of a text starts at the front or behind a line feed, and has no line feed itself. -/
theorem exists_around_line {cs : List Char} {number : Nat}
    (found : (linesOf cs)[number]? = some lineText) :
    ∃ before after, cs = before ++ (lineText ++ after) ∧ '\n' ∉ lineText ∧
      before.count '\n' = number ∧ (before = [] ∨ ∃ earlier, before = earlier ++ ['\n']) := by
  induction cs generalizing number with
  | nil =>
    cases number with
    | zero =>
      obtain rfl := Option.some.inj found
      exact ⟨[], [], rfl, List.not_mem_nil, rfl, .inl rfl⟩
    | succ number => cases found
  | cons c cs inductionHypothesis =>
    cases number with
    | zero =>
      rw [getElem?_linesOf_zero] at found
      obtain rfl := Option.some.inj found
      refine ⟨[], _, List.takeWhile_append_dropWhile.symm, fun member => ?_, rfl, .inl rfl⟩
      cases List.all_eq_true.mp List.all_takeWhile _ member
    | succ number =>
      rw [linesOf, List.splitOn_cons_eq_if_modifyHead] at found
      by_cases lineFeed : c = '\n'
      · subst lineFeed
        rw [if_pos (beq_self_eq_true _)] at found
        obtain ⟨before, after, rfl, oneLine, count, starts⟩ := inductionHypothesis found
        refine ⟨'\n' :: before, after, rfl, oneLine, by simp [count], .inr ?_⟩
        rcases starts with rfl | ⟨earlier, rfl⟩
        · exact ⟨[], rfl⟩
        · exact ⟨'\n' :: earlier, rfl⟩
      · rw [if_neg (by simpa using lineFeed), List.getElem?_modifyHead,
          if_neg (Nat.succ_ne_zero number)] at found
        obtain ⟨before, after, rfl, oneLine, count, starts⟩ := inductionHypothesis found
        refine ⟨c :: before, after, rfl, oneLine, by simp [lineFeed, count], .inr ?_⟩
        rcases starts with rfl | ⟨earlier, rfl⟩
        · cases count
        · exact ⟨c :: earlier, rfl⟩

/-- Every character of a line is at its place in the text. -/
theorem exists_front {cs : List Char} {number index : Nat} {c : Char}
    (found : (linesOf cs)[number]? = some lineText) (here : lineText[index]? = some c) :
    ∃ front back, cs = front ++ c :: back ∧ c ≠ '\n' ∧
      Position.after front = ⟨number + 1, index + 1⟩ := by
  obtain ⟨before, after, rfl, oneLine, rfl, starts⟩ := exists_around_line found
  obtain ⟨bound, rfl⟩ := List.getElem?_eq_some_iff.mp here
  have split :
      lineText = lineText.take index ++ lineText[index] :: lineText.drop (index + 1) := by
    simp
  refine ⟨before ++ lineText.take index, lineText.drop (index + 1) ++ after, ?_, ?_, ?_⟩
  · conv_lhs => rw [split]
    simp only [List.append_assoc, List.cons_append]
  · exact fun same => oneLine (same ▸ List.getElem_mem bound)
  · have start : lastLine before = [] := by
      rcases starts with rfl | ⟨earlier, rfl⟩
      · rfl
      · exact lastLine_concat_lineFeed earlier
    rw [Position.after_append fun member => oneLine (List.mem_of_mem_take member)]
    simp [Position.after, start, Nat.min_eq_left bound.le, Nat.add_comm]

/-- At a place in a text, its line goes on with the next character. -/
theorem line_of_place {cs : List Char} {number index : Nat} (whole : cs = front ++ back)
    (place : Position.after front = ⟨number + 1, index + 1⟩)
    (found : (linesOf cs)[number]? = some lineText) :
    lineText = lastLine front ++ back.takeWhile staysOnLine ∧ (lastLine front).length = index := by
  obtain ⟨lineNumber, column⟩ := Position.mk.inj place
  obtain rfl := Nat.succ.inj lineNumber
  rw [whole, getElem?_linesOf] at found
  exact ⟨(Option.some.inj found).symm, Nat.succ.inj column⟩

theorem getElem?_of_place {cs : List Char} {number index : Nat} {c : Char}
    (whole : cs = front ++ c :: back) (stays : c ≠ '\n')
    (place : Position.after front = ⟨number + 1, index + 1⟩)
    (found : (linesOf cs)[number]? = some lineText) : lineText[index]? = some c := by
  have here : staysOnLine c = true := by simpa [staysOnLine] using stays
  obtain ⟨rfl, rfl⟩ := line_of_place whole place found
  rw [List.takeWhile_cons_of_pos here]
  simp

end Lines

section Lexemes

variable {cs front rest : List Char} {c : Char} {parts earlier later : List Lexeme}
  {lexeme : Lexeme}

/-- A lexeme that is no line end stays on its line. -/
theorem behind_of_stays (stays : lexeme.kind ≠ .lineEnd) (position : Position) :
    position.behind lexeme = { position with column := position.column + lexeme.text.length } := by
  unfold Position.behind
  split
  · next ends => exact absurd ends stays
  all_goals rfl

/-- A first lexeme holds a line feed exactly if it is a line end. -/
theorem lineFeed_mem_iff (first : firstLexeme c cs = (lexeme, rest)) :
    '\n' ∈ lexeme.text ↔ lexeme.kind = .lineEnd := by
  have line := line_behind_firstLexeme ⟨1, 1⟩ c cs
  rw [first] at line
  by_cases ends : lexeme.kind = .lineEnd
  · rw [Position.behind, ends] at line
    exact iff_of_true (List.count_pos_iff.mp (Nat.add_left_cancel line ▸ Nat.one_pos)) ends
  · rw [behind_of_stays ends] at line
    exact iff_of_false (List.count_eq_zero.mp (Nat.left_eq_add.mp line)) ends

/-- The lexeme of a line end is a line feed, or a carriage return and a line feed. -/
theorem text_of_lineEnd (first : firstLexeme c cs = (lexeme, rest))
    (ends : lexeme.kind = .lineEnd) : lexeme.text = ['\n'] ∨ lexeme.text = ['\r', '\n'] := by
  have lineFeed := (lineFeed_mem_iff first).mpr ends
  have isLayout : lexeme.isLayout = true := by rw [Lexeme.isLayout, ends]
  rcases text_of_isLayout first isLayout with spaces | same | same | ⟨body, same, oneLine, -⟩
  · cases spaces '\n' lineFeed
  · exact .inl same
  · exact .inr same
  · rw [same] at lineFeed
    simp [oneLine] at lineFeed

/-- The place behind a lexeme is where its characters lead to. -/
theorem behind_after (first : firstLexeme c cs = (lexeme, rest)) (front : List Char) :
    (Position.after front).behind lexeme = Position.after (front ++ lexeme.text) := by
  by_cases ends : lexeme.kind = .lineEnd
  · rw [Position.behind, ends]
    rcases text_of_lineEnd first ends with same | same
    · rw [same, Position.after, Position.after, lastLine_concat_lineFeed]
      simp
    · have split : front ++ lexeme.text = (front ++ ['\r']) ++ ['\n'] := by simp [same]
      rw [split, Position.after, Position.after, lastLine_concat_lineFeed]
      simp
  · have oneLine : '\n' ∉ lexeme.text := fun member => ends ((lineFeed_mem_iff first).mp member)
    rw [behind_of_stays ends, Position.after_append oneLine]

/-- The place behind some lexemes is where their characters lead to. -/
theorem past_eq_after (cut : lexemes cs = earlier ++ later) (front : List Char) :
    (Position.after front).past earlier = Position.after (front ++ written earlier) := by
  induction earlier generalizing cs front with
  | nil => rw [written_nil, List.append_nil]; rfl
  | cons lexeme others inductionHypothesis =>
    rw [List.cons_append] at cut
    obtain ⟨c, text, -, -, first, onward⟩ := exists_of_lexemes_cons cut
    have behind := behind_after first front
    rw [written_cons, ← List.append_assoc, ← inductionHypothesis onward, ← behind]
    rfl

theorem past_start (cut : lexemes cs = earlier ++ later) :
    Position.past ⟨1, 1⟩ earlier = Position.after (written earlier) :=
  past_eq_after cut []

/-- A token is a lexeme at the place behind those before it. -/
theorem exists_lexeme_of_token {position : Position} {token : Token}
    (member : token ∈ tokensFrom position parts) :
    ∃ earlier lexeme later, parts = earlier ++ lexeme :: later ∧
      lexeme.token? (position.past earlier) = some token := by
  induction parts generalizing position with
  | nil => cases member
  | cons lexeme others inductionHypothesis =>
    rw [tokensFrom_cons] at member
    rcases List.mem_append.mp member with here | later
    · exact ⟨[], lexeme, others, rfl, Option.mem_toList.mp here⟩
    · obtain ⟨earlier, found, after, rfl, same⟩ := inductionHypothesis later
      exact ⟨lexeme :: earlier, found, after, rfl, same⟩

/-- Every character of some lexemes is in one of them. -/
theorem exists_lexeme_around {back : List Char} (whole : written parts = front ++ c :: back) :
    ∃ earlier lexeme later inside outside, parts = earlier ++ lexeme :: later ∧
      front = written earlier ++ inside ∧ lexeme.text = inside ++ c :: outside := by
  induction parts generalizing front with
  | nil => simp at whole
  | cons lexeme others inductionHypothesis =>
    rw [written_cons] at whole
    have further {front' : List Char} (later : written others = front' ++ c :: back)
        (split : front = lexeme.text ++ front') :
        ∃ earlier found later inside outside, lexeme :: others = earlier ++ found :: later ∧
          front = written earlier ++ inside ∧ found.text = inside ++ c :: outside := by
      obtain ⟨earlier, found, rest, inside, outside, rfl, rfl, text⟩ := inductionHypothesis later
      refine ⟨lexeme :: earlier, found, rest, inside, outside, rfl, ?_, text⟩
      rw [split, written_cons, List.append_assoc]
    rcases List.append_eq_append_iff.mp whole with ⟨front', split, later⟩ | ⟨text, split, rest⟩
    · exact further later split
    · rcases List.cons_eq_append_iff.mp rest with ⟨rfl, later⟩ | ⟨outside, rfl, -⟩
      · rw [List.append_nil] at split
        exact @further [] later (by simp [split])
      · exact ⟨[], lexeme, others, front, outside, rfl, rfl, split⟩

end Lexemes

/-- A token takes up a place. -/
def Token.Covers (token : Token) (place : Position) : Prop :=
  token.position.line = place.line ∧ token.position.column ≤ place.column ∧
    place.column < token.position.column + token.text.length

/-- A token has ended where a place is reached. -/
def Token.EndsBefore (token : Token) (place : Position) : Prop :=
  token.position.line < place.line ∨
    token.position.line = place.line ∧
      token.position.column + token.text.length ≤ place.column

section Tokens

variable {position place : Position} {token : Token} {parts : List Lexeme} {lexeme : Lexeme}

/-- The token that a lexeme is has its text and ends where the place behind it begins. -/
theorem of_token? (isToken : lexeme.token? position = some token) :
    token.text = String.ofList lexeme.text ∧ token.position = position ∧
      token.EndsBefore (position.behind lexeme) := by
  unfold Lexeme.token? at isToken
  split at isToken
  · next kind same =>
    obtain rfl := Option.some.inj isToken
    refine ⟨rfl, rfl, .inr ?_⟩
    rw [behind_of_stays (by simp [same])]
    simp
  all_goals cases isToken

/-- A lexeme that is not dropped is a token wherever it stands. -/
theorem exists_token_of_not_layout (isToken : lexeme.isLayout = false) (position : Position) :
    ∃ token, lexeme.token? position = some token := by
  unfold Lexeme.isLayout at isToken
  unfold Lexeme.token?
  split at isToken <;> simp_all

/-- What ends before a place ends before every one that does not come earlier. -/
theorem Token.EndsBefore.of_not_before (ends : token.EndsBefore position)
    (notEarlier : ¬place.Before position) : token.EndsBefore place := by
  unfold EndsBefore Position.Before at *
  omega

/-- A token that has ended before a place takes up no place there or further on its line. -/
theorem Token.EndsBefore.not_covers (ends : token.EndsBefore position)
    (line : place.line = position.line) (further : position.column ≤ place.column) :
    ¬token.Covers place := by
  unfold EndsBefore Covers at *
  omega

/-- Every token ends before the place of the next one. -/
theorem pairwise_endsBefore (filled : ∀ lexeme ∈ parts, lexeme.text ≠ []) :
    (tokensFrom position parts).Pairwise fun first second =>
      first.EndsBefore second.position := by
  induction parts generalizing position with
  | nil => exact .nil
  | cons lexeme others inductionHypothesis =>
    obtain ⟨-, later⟩ := List.forall_mem_cons.mp filled
    rw [tokensFrom_cons]
    cases isToken : lexeme.token? position with
    | none => exact inductionHypothesis later
    | some token =>
      obtain ⟨-, -, ends⟩ := of_token? isToken
      refine .cons (fun other member => ?_) (inductionHypothesis later)
      exact ends.of_not_before ((pairwise_before_tokensFrom later).1 other member)

/-- Lexemes do not lead back. -/
theorem not_before_past (filled : ∀ lexeme ∈ parts, lexeme.text ≠ []) :
    ¬(position.past parts).Before position := by
  induction parts generalizing position with
  | nil =>
    change ¬position.Before position
    unfold Position.Before
    omega
  | cons lexeme others inductionHypothesis =>
    obtain ⟨here, later⟩ := List.forall_mem_cons.mp filled
    have leads := position.before_behind here
    have onward := @inductionHypothesis (position.behind lexeme) later
    change ¬((position.behind lexeme).past others).Before position
    unfold Position.Before at *
    omega

/-- Tokens have ended at the place behind their lexemes. -/
theorem endsBefore_past (filled : ∀ lexeme ∈ parts, lexeme.text ≠ [])
    (member : token ∈ tokensFrom position parts) : token.EndsBefore (position.past parts) := by
  obtain ⟨earlier, lexeme, later, rfl, isToken⟩ := exists_lexeme_of_token member
  obtain ⟨-, -, ends⟩ := of_token? isToken
  have after : ∀ other ∈ later, other.text ≠ [] := fun other among => filled other (by simp [among])
  rw [Position.past_append]
  exact ends.of_not_before (not_before_past after)

end Tokens

/-- Why a character in a line of a text belongs to no token. Lines and characters are counted
from 0 here. -/
inductive Skipped (text : String) (number index : Nat) (lineText : List Char) : Prop where
  | space (here : lineText[index]? = some ' ')
  | tab (here : lineText[index]? = some '\t')
  /-- It is a carriage return right before the line feed that ends the line. -/
  | lineEnd (here : lineText[index]? = some '\r') (last : index + 1 = lineText.length)
      (ended : number + 1 < (linesOf text.toList).length)
  /-- A comment has begun before or with it. Its sign belongs to no token, and no token follows on
  the line. -/
  | comment (start : Nat) (begun : start ≤ index) (sign : lineText[start]? = some '#')
      (free : ∀ column, start ≤ column → ∀ token ∈ tokens text,
        ¬token.Covers ⟨number + 1, column + 1⟩)

/-- The lexemes and tokens of a text account for all of its characters. -/
structure Accounted (text : String) : Prop where
  /-- The text is cut into lexemes without loss, none of which is empty, -/
  filled : ∀ lexeme ∈ lexemes text.toList, lexeme.text ≠ []
  whole : ((lexemes text.toList).map Lexeme.text).flatten = text.toList
  /-- and the tokens are those that are not dropped. -/
  kept : (tokens text).map Token.word = (lexemes text.toList).filterMap Lexeme.word?
  /-- The line of a token, read from its column on, starts with the text of the token. -/
  stands : ∀ token ∈ tokens text, 1 ≤ token.position.line ∧ 1 ≤ token.position.column ∧
    ∃ lineText, (linesOf text.toList)[token.position.line - 1]? = some lineText ∧
      token.text.toList <+: lineText.drop (token.position.column - 1)
  /-- The places of tokens ascend, and tokens do not overlap. -/
  ascends : (tokens text).Pairwise fun first second => first.position.Before second.position
  apart : (tokens text).Pairwise fun first second => first.EndsBefore second.position
  /-- Every character of a line is in a token or is skipped. The line feeds between the lines are in
  no token, since tokens stay within their lines. -/
  covered : ∀ number lineText, (linesOf text.toList)[number]? = some lineText →
    ∀ index < lineText.length, (∃ token ∈ tokens text, token.Covers ⟨number + 1, index + 1⟩) ∨
      Skipped text number index lineText

section Text

variable {text : String} {front back : List Char} {c : Char} {earlier later : List Lexeme}
  {lexeme : Lexeme}

/-- The lexeme in the middle of a text is the first one of what is left there. -/
theorem firstLexeme_of_cut {cs : List Char} (cut : lexemes cs = earlier ++ lexeme :: later) :
    ∃ c rest, firstLexeme c rest = (lexeme, written later) ∧
      lexemes (written later) = later := by
  obtain ⟨c, text, -, -, first, onward⟩ := exists_of_lexemes_cons (lexemes_written cut)
  exact ⟨c, _, first, onward⟩

/-- A token stands where its place says. -/
theorem stands_of_mem_tokens {token : Token} (member : token ∈ tokens text) :
    1 ≤ token.position.line ∧ 1 ≤ token.position.column ∧
      ∃ lineText, (linesOf text.toList)[token.position.line - 1]? = some lineText ∧
        token.text.toList <+: lineText.drop (token.position.column - 1) := by
  obtain ⟨earlier, lexeme, later, cut, isToken⟩ := exists_lexeme_of_token member
  obtain ⟨same, place, -⟩ := of_token? isToken
  have place : token.position = Position.after (written earlier) := place.trans (past_start cut)
  have stays : '\n' ∉ lexeme.text := by
    refine oneLine_of_token (by rw [cut]; simp) ?_
    unfold Lexeme.token? at isToken
    unfold Lexeme.isLayout
    split at isToken <;> simp_all
  have whole : text.toList = written earlier ++ (lexeme.text ++ written later) := by
    rw [← written_lexemes text.toList, cut, written_append, written_cons]
  have line := getElem?_linesOf (written earlier) (lexeme.text ++ written later)
  rw [← whole, List.takeWhile_append_of_pos fun c among => by
    simpa [staysOnLine] using fun lineFeed : c = '\n' => stays (lineFeed ▸ among)] at line
  rw [place, same]
  refine ⟨Nat.le_add_left _ _, Nat.le_add_left _ _, _, line, ?_⟩
  simp [Position.after]

/-- Nothing from a comment on to the end of its line belongs to a token. -/
theorem free_of_comment (cut : lexemes text.toList = earlier ++ lexeme :: later)
    (isLayout : lexeme.isLayout = true) (stays : '\n' ∉ lexeme.text)
    (breaks : ∀ next ∈ (written later).head?, next = '\n') {place : Position}
    (line : place.line = (Position.past ⟨1, 1⟩ earlier).line)
    (further : (Position.past ⟨1, 1⟩ earlier).column ≤ place.column) :
    ∀ token ∈ tokens text, ¬token.Covers place := by
  have filled := filled_lexemes text.toList
  rw [cut] at filled
  obtain ⟨filledEarlier, filledLater⟩ := List.forall_mem_append.mp filled
  have noToken : lexeme.token? (.past ⟨1, 1⟩ earlier) = none := by
    unfold Lexeme.isLayout at isLayout
    unfold Lexeme.token?
    split at isLayout <;> simp_all
  intro token member
  rw [tokens, cut, tokensFrom_append, tokensFrom_cons, noToken, Option.toList_none,
    List.nil_append] at member
  rcases List.mem_append.mp member with before | behind
  · exact (endsBefore_past filledEarlier before).not_covers line further
  · obtain ⟨c, rest, first, onward⟩ := firstLexeme_of_cut cut
    have ends : lexeme.kind ≠ .lineEnd := fun same => stays ((lineFeed_mem_iff first).mpr same)
    cases later with
    | nil => cases behind
    | cons next others =>
      -- The comment is followed by the end of its line, and the tokens stand on later ones.
      obtain ⟨d, further, -, starts, second, -⟩ := exists_of_lexemes_cons onward
      obtain rfl : d = '\n' := breaks d (by rw [starts]; rfl)
      obtain rfl : next = ⟨.lineEnd, ['\n']⟩ := (congrArg Prod.fst second).symm
      rw [tokensFrom_cons, behind_of_stays ends] at behind
      have notBefore := (pairwise_before_tokensFrom (List.forall_mem_cons.mp
        (List.forall_mem_cons.mp filledLater).2).2).1 token behind
      have lower : (Position.past ⟨1, 1⟩ earlier).line + 1 ≤ token.position.line :=
        Nat.not_lt.mp fun above => notBefore (.inl above)
      exact fun covers => by
        have sameLine := covers.1
        omega

/-- A character of a lexeme that is dropped is skipped. -/
theorem skipped_of_layout (cut : lexemes text.toList = earlier ++ lexeme :: later)
    (isLayout : lexeme.isLayout = true) {inside outside : List Char} {number index : Nat}
    {lineText : List Char} (holds : lexeme.text = inside ++ c :: outside) (stays : c ≠ '\n')
    (place : Position.after (written earlier ++ inside) = ⟨number + 1, index + 1⟩)
    (found : (linesOf text.toList)[number]? = some lineText) :
    Skipped text number index lineText := by
  obtain ⟨d, rest, first, -⟩ := firstLexeme_of_cut cut
  have whole : text.toList = written earlier ++ (lexeme.text ++ written later) := by
    rw [← written_lexemes text.toList, cut, written_append, written_cons]
  have split : text.toList = (written earlier ++ inside) ++ c :: (outside ++ written later) := by
    simp [whole, holds]
  have here := getElem?_of_place split stays place found
  rcases text_of_isLayout first isLayout with spaces | same | same | ⟨body, same, oneLine, breaks⟩
  · rcases (by simpa [isSpacing] using spaces c (by simp [holds]) : c = ' ' ∨ c = '\t') with
      rfl | rfl
    · exact .space here
    · exact .tab here
  · rw [same, List.singleton_eq_append_iff] at holds
    simp_all
  · rw [same] at holds
    obtain ⟨rfl, rfl⟩ : c = '\r' ∧ outside = ['\n'] := by
      cases inside with
      | nil => simpa [eq_comm] using holds
      | cons first others =>
        rw [List.cons_append] at holds
        have rest := (List.cons.inj holds).2
        rcases List.singleton_eq_append_iff.mp rest with ⟨-, last⟩ | ⟨-, ⟨⟩⟩
        exact absurd (List.cons.inj last).1 stays
    obtain ⟨rfl, rfl⟩ := line_of_place split place found
    refine .lineEnd here (by rw [List.length_append]; rfl) ?_
    obtain ⟨lineNumber, -⟩ := Position.mk.inj place
    rw [length_linesOf, split, List.count_append, ← lineNumber]
    simp
  · have onLine : '\n' ∉ lexeme.text := by simp [same, oneLine]
    have insideOnLine : '\n' ∉ inside := fun member => onLine (by simp [holds, member])
    rw [Position.after_append insideOnLine] at place
    obtain ⟨lineNumber, column⟩ := Position.mk.inj place
    have start : Position.after (written earlier) =
        ⟨number + 1, (lastLine (written earlier)).length + 1⟩ := by
      rw [← lineNumber]
      rfl
    have sign : text.toList = written earlier ++ '#' :: (body ++ written later) := by
      simp [whole, same]
    refine .comment (lastLine (written earlier)).length ?_
      (getElem?_of_place sign (by decide) start found) fun column further => ?_
    · have length : (lastLine (written earlier)).length + 1 + inside.length = index + 1 := column
      omega
    · have begins := (past_start cut).trans start
      refine free_of_comment cut isLayout onLine breaks ?_ ?_ <;> rw [begins]
      exact Nat.succ_le_succ further

/-- Every character of a line is in a token or skipped. -/
theorem covered_or_skipped {number index : Nat} {lineText : List Char}
    (found : (linesOf text.toList)[number]? = some lineText) (bound : index < lineText.length) :
    (∃ token ∈ tokens text, token.Covers ⟨number + 1, index + 1⟩) ∨
      Skipped text number index lineText := by
  obtain ⟨front, back, whole, stays, place⟩ :=
    exists_front found (List.getElem?_eq_getElem bound)
  rw [← written_lexemes text.toList] at whole
  obtain ⟨earlier, lexeme, later, inside, outside, cut, rfl, holds⟩ := exists_lexeme_around whole
  cases isLayout : lexeme.isLayout with
  | true => exact .inr (skipped_of_layout cut isLayout holds stays place found)
  | false =>
    have onLine : '\n' ∉ lexeme.text := oneLine_of_token (by rw [cut]; simp) isLayout
    have insideOnLine : '\n' ∉ inside := fun member => onLine (by simp [holds, member])
    rw [Position.after_append insideOnLine, ← past_start cut] at place
    obtain ⟨lineNumber, column⟩ := Position.mk.inj place
    obtain ⟨token, isToken⟩ := exists_token_of_not_layout isLayout (.past ⟨1, 1⟩ earlier)
    obtain ⟨same, stands, -⟩ := of_token? isToken
    refine .inl ⟨token, ?_, ?_⟩
    · rw [tokens, cut, tokensFrom_append, tokensFrom_cons, isToken]
      simp
    · have length : token.text.length = inside.length + (outside.length + 1) := by
        rw [same, holds, String.length_ofList, List.length_append, List.length_cons]
      have starts : token.position.column + inside.length = index + 1 := by
        rw [stands]
        exact column
      refine ⟨(congrArg Position.line stands).trans lineNumber, ?_, ?_⟩
      · change token.position.column ≤ index + 1
        omega
      · change index + 1 < token.position.column + token.text.length
        omega

/-- Cutting a text accounts for all of its characters, whatever the text is. -/
theorem accounted (text : String) : Accounted text where
  filled := filled_lexemes text.toList
  whole := lexemes_flatten text.toList
  kept := map_word_tokens text
  stands := fun _ => stands_of_mem_tokens
  ascends := (pairwise_before_tokensFrom (filled_lexemes text.toList)).2
  apart := pairwise_endsBefore (filled_lexemes text.toList)
  covered := fun _ _ found _ => covered_or_skipped found

end Text

end Acceptor.Spec
