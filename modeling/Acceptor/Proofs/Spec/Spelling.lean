import Acceptor.Proofs.Spec.Quotation
import Mathlib.Data.List.Forall2

/-!
# What a text spells

The words of a text are its tokens without their places. A piece of text spells some words if they
come first in every text that starts with the piece, so that what a text spells can be found piece
by piece. No piece may therefore end inside a name, whose end depends on what follows.
-/

namespace Acceptor.Spec

/-- A token without its place. -/
abbrev Word := TokenKind × List Char

/-- The word that a token stands for. -/
def Token.word (token : Token) : Word :=
  (token.kind, token.text.toList)

/-- The word that a lexeme stands for, if it is a token. -/
def Lexeme.word? (lexeme : Lexeme) : Option Word :=
  match lexeme.kind with
  | .token kind => some (kind, lexeme.text)
  | .comment | .blank | .lineEnd => none

/-- The words of a text. -/
def words (cs : List Char) : List Word :=
  (lexemes cs).filterMap Lexeme.word?

@[simp]
theorem words_nil : words [] = [] := by
  simp [words, lexemes]

/-- A text starts with the word of its first lexeme, if there is one. -/
theorem words_cons (c : Char) (cs : List Char) :
    words (c :: cs) = (firstLexeme c cs).1.word?.toList ++ words (firstLexeme c cs).2 := by
  rw [words, lexemes, List.filterMap_cons]
  cases (firstLexeme c cs).1.word? <;> rfl

theorem map_word_tokensFrom (position : Position) (parts : List Lexeme) :
    (tokensFrom position parts).map Token.word = parts.filterMap Lexeme.word? := by
  fun_induction tokensFrom position parts with
  | case1 => rfl
  | case2 position lexeme rest kind inductionHypothesis =>
    simp [Lexeme.word?, kind, inductionHypothesis]
  | case3 position lexeme rest next tokenKind kind inductionHypothesis =>
    simp [Lexeme.word?, Token.word, kind, inductionHypothesis]
  | case4 position lexeme rest next kind inductionHypothesis =>
    simp [Lexeme.word?, kind, inductionHypothesis]
  | case5 position lexeme rest next kind inductionHypothesis =>
    simp [Lexeme.word?, kind, inductionHypothesis]

/-- The tokens of a text stand for its words. -/
theorem map_word_tokens (text : String) : (tokens text).map Token.word = words text.toList :=
  map_word_tokensFrom _ _

/-- A space or a tab at the front of a text changes no word. -/
theorem words_spacing {c : Char} (spacing : isSpacing c = true) (cs : List Char) :
    words (c :: cs) = words cs := by
  have first {c : Char} (spacing : isSpacing c = true) (cs : List Char) :
      words (c :: cs) = words (cs.dropWhile isSpacing) := by
    have blank : firstLexeme c cs =
        (⟨.blank, c :: cs.takeWhile isSpacing⟩, cs.dropWhile isSpacing) := by
      rcases (by simpa [isSpacing] using spacing : c = ' ' ∨ c = '\t') with rfl | rfl <;> rfl
    rw [words_cons, blank]
    rfl
  rw [first spacing]
  cases cs with
  | nil => rfl
  | cons next cs =>
    by_cases goesOn : isSpacing next = true
    · rw [first goesOn, List.dropWhile_cons_of_pos goesOn]
    · rw [List.dropWhile_cons_of_neg goesOn]

/-- A sign at the front of a text is a word. -/
theorem words_punctuation {c : Char} {kind : TokenKind} (sign : punctuation? c = some kind)
    (cs : List Char) : words (c :: cs) = (kind, [c]) :: words cs := by
  have first : firstLexeme c cs = (⟨.token kind, [c]⟩, cs) := by
    unfold punctuation? at sign
    split at sign <;> cases sign <;> rfl
  rw [words_cons, first]
  rfl

/-- A quoted text at the front of a text is a word. -/
theorem words_quoted {quote : Char} {body text : List Char} (enclosed : Enclosed quote body text)
    (cs : List Char) : words (text ++ cs) = (.literal, text) :: words cs := by
  rw [words, lexemes_quoted enclosed]
  rfl

/-- A name is a word where it ends. -/
theorem words_name {c : Char} {name rest : List Char} (starts : isNameStart c = true)
    (goesOn : ∀ part ∈ name, isNamePart part = true)
    (ends : ∀ next ∈ rest.head?, isNamePart next = false) :
    words (c :: (name ++ rest)) = (.identifier, c :: name) :: words rest := by
  have noOther : ¬c == '#' ∧ ¬(c == '\'' || c == '"') := by
    constructor
    all_goals
      intro other
      simp only [Bool.or_eq_true, beq_iff_eq] at other
      revert starts
    · subst other
      decide
    · rcases other with rfl | rfl <;> decide
  have stops : rest.takeWhile isNamePart = [] ∧ rest.dropWhile isNamePart = rest := by
    cases rest with
    | nil => exact ⟨rfl, rfl⟩
    | cons next others => simp [ends next rfl]
  have first : firstLexeme c (name ++ rest) = (⟨.token .identifier, c :: name⟩, rest) := by
    unfold firstLexeme
    rw [if_neg noOther.1, if_neg noOther.2, if_pos starts,
      List.takeWhile_append_of_pos goesOn, List.dropWhile_append_of_pos goesOn, stops.1, stops.2,
      List.append_nil]
  rw [words_cons, first]
  rfl

/-- A piece of text spells words: they come first in every text that starts with it. -/
def Spells (piece : String) (spelled : List Word) : Prop :=
  ∀ rest, words (piece.toList ++ rest) = spelled ++ words rest

theorem spells_empty : Spells "" [] := fun _ => rfl

/-- Pieces that follow each other spell their words one after the other. -/
theorem Spells.append {left right : String} {leftWords rightWords : List Word}
    (leftSpells : Spells left leftWords) (rightSpells : Spells right rightWords) :
    Spells (left ++ right) (leftWords ++ rightWords) := by
  intro rest
  rw [String.toList_append, List.append_assoc, leftSpells, rightSpells, List.append_assoc]

/-- The characters of the format outside names and literals: spaces, line ends and signs. -/
def isFormat (c : Char) : Bool :=
  c == ' ' || c == '\n' || (punctuation? c).isSome

/-- A text of spaces, line ends and signs spells its signs. -/
theorem spells_signs {piece : String} (plain : piece.toList.all isFormat = true) :
    Spells piece
      (piece.toList.filterMap fun c => (punctuation? c).map fun kind => (kind, [c])) := by
  intro rest
  revert plain
  induction piece.toList with
  | nil => exact fun _ => rfl
  | cons c cs inductionHypothesis =>
    intro plain
    rw [List.all_cons, Bool.and_eq_true] at plain
    obtain ⟨here, there⟩ := plain
    have others := inductionHypothesis there
    have cases : c = ' ' ∨ c = '\n' ∨ (punctuation? c).isSome := by
      simpa [isFormat, or_assoc] using here
    rcases cases with rfl | rfl | sign
    · exact (words_spacing rfl _).trans others
    · exact (words_cons _ _).trans others
    · obtain ⟨kind, sign⟩ := Option.isSome_iff_exists.mp sign
      rw [List.cons_append, words_punctuation sign, others, List.filterMap_cons, sign]
      rfl

/-- A name before signs spells itself and the signs. -/
theorem spells_name {c next : Char} {name others : List Char} {piece signs : String}
    {spelled : List Word} (spells : Spells signs spelled) (after : signs.toList = next :: others)
    (ends : isNamePart next = false) (starts : isNameStart c = true)
    (goesOn : name.all isNamePart = true) (same : piece.toList = c :: (name ++ signs.toList)) :
    Spells piece ((.identifier, c :: name) :: spelled) := by
  intro rest
  have whole : piece.toList ++ rest = c :: (name ++ next :: (others ++ rest)) := by
    simp [same, after]
  have parts := List.all_eq_true.mp goesOn
  have stops : ∀ first ∈ (next :: (others ++ rest)).head?, isNamePart first = false := by
    simpa using ends
  rw [whole, words_name starts parts stops, ← List.cons_append, ← after, spells, List.cons_append]

theorem intercalate_nil_left {α : Type} (lists : List (List α)) :
    [].intercalate lists = lists.flatten := by
  induction lists with
  | nil => rfl
  | cons first rest inductionHypothesis =>
    cases rest with
    | nil => simp
    | cons =>
      rw [List.intercalate_cons_cons, inductionHypothesis, List.append_nil]
      rfl

/-- Pieces joined by a separator spell their words, joined by those of the separator. -/
theorem Spells.intercalate {separator : String} {between : List Word}
    (separates : Spells separator between) {pieces : List String} {spelled : List (List Word)}
    (each : List.Forall₂ Spells pieces spelled) :
    Spells (separator.intercalate pieces) (between.intercalate spelled) := by
  induction each with
  | nil => exact spells_empty
  | @cons piece here pieces others spells rest inductionHypothesis =>
    cases rest with
    | nil => simpa using spells
    | cons =>
      rw [String.intercalate_cons_cons, List.intercalate_cons_cons]
      exact (spells.append separates).append inductionHypothesis

/-- A text spells the words of its tokens. -/
theorem Spells.map_word_tokens {text : String} {spelled : List Word}
    (spells : Spells text spelled) : (tokens text).map Token.word = spelled := by
  have whole := spells []
  rw [List.append_nil, words_nil, List.append_nil] at whole
  rw [Spec.map_word_tokens, whole]

end Acceptor.Spec
