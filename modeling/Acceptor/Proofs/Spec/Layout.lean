import Acceptor.Proofs.Spec.Relocation
import Acceptor.Proofs.Spec.Spelling

/-!
# Layout

What stands between the tokens of a text can be changed at will: blanks, line ends and comments can
be put in wherever two lexemes meet (`Padded`), and the text spells the same words afterwards, so
that the same is read. A quote or a sign in a comment that is put in does no harm, because the
comment is over before the next lexeme begins. The lexemes that could be joined with what is put in
are names, which no gap can go on with, and blanks and comments, which are no tokens.

A character that starts no token could be joined: a quote with one in a comment, a carriage return
with a line end. Texts with such characters are therefore left out.
-/

namespace Acceptor.Spec

/-- What can stand between two lexemes: spaces, tabs, line ends and whole lines of comment. -/
inductive Gap : List Char → Prop where
  | empty : Gap []
  | space {cs} (onward : Gap cs) : Gap (' ' :: cs)
  | tab {cs} (onward : Gap cs) : Gap ('\t' :: cs)
  | lineFeed {cs} (onward : Gap cs) : Gap ('\n' :: cs)
  | carriageReturn {cs} (onward : Gap cs) : Gap ('\r' :: '\n' :: cs)
  | comment {body cs} (oneLine : '\n' ∉ body) (onward : Gap cs) :
      Gap ('#' :: (body ++ '\n' :: cs))

/-- The given lexemes in their order, with gaps before, between and behind them. -/
inductive Padded : List Lexeme → List Char → Prop where
  | last {gap} (isGap : Gap gap) : Padded [] gap
  | more {gap lexeme rest cs} (isGap : Gap gap) (onward : Padded rest cs) :
      Padded (lexeme :: rest) (gap ++ (lexeme.text ++ cs))

/-- A comment goes on up to the next line feed. -/
theorem words_comment (cs : List Char) :
    words ('#' :: cs) = words (cs.dropWhile staysOnLine) :=
  words_cons '#' cs

/-- What stays on the line is skipped with a comment. -/
theorem dropWhile_append_of_oneLine {body : List Char} (oneLine : '\n' ∉ body) (cs : List Char) :
    (body ++ cs).dropWhile staysOnLine = cs.dropWhile staysOnLine := by
  refine List.dropWhile_append_of_pos fun c member => ?_
  have other : c ≠ '\n' := fun same => oneLine (same ▸ member)
  simpa [staysOnLine] using other

section Gap

variable {gap : List Char}

/-- A gap spells nothing. -/
theorem words_gap (isGap : Gap gap) (cs : List Char) : words (gap ++ cs) = words cs := by
  induction isGap with
  | empty => rfl
  | space _ inductionHypothesis => exact (words_spacing rfl _).trans inductionHypothesis
  | tab _ inductionHypothesis => exact (words_spacing rfl _).trans inductionHypothesis
  | lineFeed _ inductionHypothesis => exact (words_cons _ _).trans inductionHypothesis
  | carriageReturn _ inductionHypothesis => exact (words_cons _ _).trans inductionHypothesis
  | @comment body rest oneLine _ inductionHypothesis =>
    rw [List.cons_append, List.append_assoc, words_comment, dropWhile_append_of_oneLine oneLine]
    exact (words_cons _ _).trans inductionHypothesis

/-- Nothing but a gap is lost where a comment reaches into it, if the line is over behind it. -/
theorem words_dropWhile_gap (isGap : Gap gap) {cs : List Char} (breaks : ∀ c ∈ cs.head?, c = '\n') :
    words ((gap ++ cs).dropWhile staysOnLine) = words cs := by
  induction isGap with
  | empty =>
    cases cs with
    | nil => rfl
    | cons c rest =>
      obtain rfl := breaks c rfl
      rfl
  | space _ inductionHypothesis => exact inductionHypothesis
  | tab _ inductionHypothesis => exact inductionHypothesis
  | lineFeed onward => exact (words_cons _ _).trans (words_gap onward cs)
  | carriageReturn onward => exact (words_cons _ _).trans (words_gap onward cs)
  | @comment body rest oneLine onward =>
    have sign : staysOnLine '#' = true := rfl
    rw [List.cons_append, List.append_assoc, List.dropWhile_cons_of_pos sign,
      dropWhile_append_of_oneLine oneLine]
    exact (words_cons _ _).trans (words_gap onward cs)

/-- No name goes on into a gap. -/
theorem Gap.head_ends (isGap : Gap gap) : ∀ c ∈ gap.head?, isNamePart c = false := by
  cases isGap with
  | empty => nofun
  | space | tab | lineFeed | carriageReturn | comment =>
    intro c first
    obtain rfl := Option.some.inj first
    rfl

end Gap

/-- A padded text starts like the text it comes from or with a gap, and no name goes on into
either, if it does not go on into the text. -/
theorem Padded.head_ends {cs padded : List Char} (isPadded : Padded (lexemes cs) padded)
    (ends : ∀ c ∈ cs.head?, isNamePart c = false) : ∀ c ∈ padded.head?, isNamePart c = false := by
  cases cs with
  | nil =>
    rw [lexemes] at isPadded
    cases isPadded with | last isGap => exact isGap.head_ends
  | cons first rest =>
    rw [lexemes] at isPadded
    cases isPadded with
    | more isGap onward =>
      next gap others =>
      cases gap with
      | nil =>
        have head := firstLexeme_head first rest
        intro c here
        rw [List.nil_append, List.head?_append, head] at here
        exact ends c here
      | cons => exact isGap.head_ends

/-- What is left of a text behind the first characters of a kind starts with another one. -/
theorem head_dropWhile {keeps : Char → Bool} {cs : List Char} :
    ∀ c ∈ (cs.dropWhile keeps).head?, keeps c = false := by
  intro c first
  have stops := List.head?_dropWhile_not keeps cs
  rw [Option.mem_def.mp first] at stops
  simpa using stops

/-- A comment is followed by a line end, whatever the padding is. -/
theorem words_dropWhile_padded {cs padded : List Char} (isPadded : Padded (lexemes cs) padded)
    (breaks : ∀ c ∈ cs.head?, c = '\n') : words (padded.dropWhile staysOnLine) = words padded := by
  cases cs with
  | nil =>
    rw [lexemes] at isPadded
    cases isPadded with
    | last isGap =>
      have skipped := @words_dropWhile_gap _ isGap [] (by simp)
      have spelled := words_gap isGap []
      rw [List.append_nil] at skipped spelled
      rw [skipped, spelled]
  | cons first rest =>
    obtain rfl := breaks first rfl
    rw [lexemes] at isPadded
    cases isPadded with
    | more isGap onward =>
      have head := firstLexeme_head '\n' rest
      rw [words_dropWhile_gap isGap, words_gap isGap]
      rw [List.head?_append, head]
      exact breaks

/-- The first lexeme of a text stands for the same word where the rest of the text is padded, unless
it is a character that starts no token. -/
theorem words_firstLexeme {c : Char} {cs padded : List Char}
    (known : (firstLexeme c cs).1.kind ≠ .token .unknown)
    (isPadded : Padded (lexemes (firstLexeme c cs).2) padded) :
    words ((firstLexeme c cs).1.text ++ padded) =
      (firstLexeme c cs).1.word?.toList ++ words padded := by
  have kept {keeps : Char → Bool} : ∀ c ∈ cs.takeWhile keeps, keeps c = true :=
    List.all_eq_true.mp List.all_takeWhile
  unfold firstLexeme at known isPadded ⊢
  split_ifs at known isPadded ⊢ with comment quote name blank lineFeed carriageReturn
  · obtain rfl := eq_of_beq comment
    have breaks : ∀ c ∈ (cs.dropWhile staysOnLine).head?, c = '\n' := fun c first => by
      simpa [staysOnLine] using head_dropWhile c first
    rw [List.cons_append, words_comment, List.dropWhile_append_of_pos kept,
      words_dropWhile_padded isPadded breaks]
    rfl
  · split at known
    · next closed =>
      obtain ⟨body, rfl, -, noQuote, noLineEnd⟩ := closeLiteral?_eq_some_iff.mp closed
      exact words_quoted ⟨rfl, by simpa using quote, noQuote, noLineEnd⟩ padded
    · exact absurd rfl known
  · exact words_name name kept (isPadded.head_ends head_dropWhile)
  · have spaces {spacing : List Char} (all : ∀ c ∈ spacing, isSpacing c = true) :
        words (spacing ++ padded) = words padded := by
      induction spacing with
      | nil => rfl
      | cons c rest inductionHypothesis =>
        obtain ⟨here, others⟩ := List.forall_mem_cons.mp all
        exact (words_spacing here _).trans (inductionHypothesis others)
    exact (words_spacing blank _).trans (spaces kept)
  · obtain rfl := eq_of_beq lineFeed
    exact words_cons _ _
  · obtain rfl := eq_of_beq carriageReturn
    split at known
    · exact words_cons _ _
    · exact absurd rfl known
  · cases sign : punctuation? c with
    | none => exact absurd (by rw [sign]; rfl) known
    | some kind => exact words_punctuation sign padded

/-- Padding changes no word, if every character of the text belongs to some token, blank, line end
or comment. -/
theorem words_padded {cs padded : List Char}
    (known : ∀ lexeme ∈ lexemes cs, lexeme.kind ≠ .token .unknown)
    (isPadded : Padded (lexemes cs) padded) : words padded = words cs := by
  fun_induction lexemes cs generalizing padded with
  | case1 =>
    cases isPadded with
    | last isGap =>
      have spelled := words_gap isGap []
      rwa [List.append_nil] at spelled
  | case2 c cs inductionHypothesis =>
    obtain ⟨here, others⟩ := List.forall_mem_cons.mp known
    cases isPadded with
    | more isGap onward =>
      rw [words_gap isGap, words_firstLexeme here onward, inductionHypothesis others onward,
        words_cons]

/-- Tokens that stand for the same words are the same at any one place. -/
theorem map_relocate_of_words {left right : List Token}
    (words : left.map Token.word = right.map Token.word) (place : Position) :
    left.map (Token.relocate fun _ => place) = right.map (Token.relocate fun _ => place) := by
  have placed (token : Token) : token.relocate (fun _ => place) =
      ⟨token.word.1, String.ofList token.word.2, place⟩ := by
    simp [Token.relocate, Token.word]
  have again := congrArg (List.map fun word : Word => Token.mk word.1 (String.ofList word.2) place)
    words
  simpa only [List.map_map, Function.comp_def, ← placed] using again

/-- Two results of reading differ at most in where a refusal points. -/
inductive ReadAlike : Except SpecError Automaton → Except SpecError Automaton → Prop where
  | model (model : Automaton) : ReadAlike (.ok model) (.ok model)
  | refusal {error error' : ReadError} (kind : error'.kind = error.kind)
      (inSection : error'.inSection = error.inSection)
      (detail : error'.cause.detail = error.cause.detail) :
      ReadAlike (.error (.reading error)) (.error (.reading error'))

/-- Texts that spell the same words are read alike. -/
theorem readAlike_of_words {text text' : String} (same : words text'.toList = words text.toList) :
    ReadAlike (parse text) (parse text') := by
  rw [← map_word_tokens, ← map_word_tokens] at same
  have placed := congrArg automatonOf (map_relocate_of_words same ⟨1, 1⟩)
  rw [automatonOf_relocate, automatonOf_relocate] at placed
  change (parse text').mapError _ = (parse text).mapError _ at placed
  rcases parse_ok_or_reading text with ⟨model, read⟩ | ⟨error, refused⟩
  · rw [read] at placed ⊢
    rw [mapError_eq_ok_iff.mp placed]
    exact .model model
  · rw [refused] at placed ⊢
    rcases parse_ok_or_reading text' with ⟨model', read'⟩ | ⟨error', refused'⟩
    · rw [read'] at placed
      cases placed
    · rw [refused'] at placed ⊢
      obtain ⟨cause, inSection, -⟩ :=
        ReadError.mk.inj (SpecError.reading.inj (Except.error.inj placed))
      exact .refusal (congrArg ReadErrorCause.kind cause) inSection
        (congrArg ReadErrorCause.detail cause)

/-- A lexeme that is a token has a word of the text. -/
theorem exists_token_of_lexeme {text : String} {lexeme : Lexeme} {kind : TokenKind}
    (member : lexeme ∈ lexemes text.toList) (isToken : lexeme.kind = .token kind) :
    ∃ token ∈ tokens text, token.kind = kind := by
  have spelled : (kind, lexeme.text) ∈ words text.toList :=
    List.mem_filterMap.mpr ⟨lexeme, member, by rw [Lexeme.word?, isToken]⟩
  rw [← map_word_tokens] at spelled
  obtain ⟨token, there, same⟩ := List.mem_map.mp spelled
  exact ⟨token, there, congrArg Prod.fst same⟩

/-- Layout does not matter. However a text in which every character belongs to some token, blank,
line end or comment is padded with gaps, the tokens keep their kinds and texts, and the same
automaton is read or the text is refused for the same reason. -/
theorem readAlike_of_padded {text text' : String}
    (known : ∀ token ∈ tokens text, token.kind ≠ .unknown)
    (padded : Padded (lexemes text.toList) text'.toList) :
    (tokens text').map Token.word = (tokens text).map Token.word ∧
      ReadAlike (parse text) (parse text') := by
  have same : words text'.toList = words text.toList := by
    refine words_padded (fun lexeme member isUnknown => ?_) padded
    obtain ⟨token, there, kind⟩ := exists_token_of_lexeme member isUnknown
    exact known token there kind
  refine ⟨?_, readAlike_of_words same⟩
  rw [map_word_tokens, map_word_tokens, same]

/-- The characters of some lexemes. -/
def written (parts : List Lexeme) : List Char :=
  (parts.map Lexeme.text).flatten

@[simp]
theorem written_nil : written [] = [] := rfl

@[simp]
theorem written_cons (lexeme : Lexeme) (parts : List Lexeme) :
    written (lexeme :: parts) = lexeme.text ++ written parts := rfl

@[simp]
theorem written_append (earlier later : List Lexeme) :
    written (earlier ++ later) = written earlier ++ written later := by
  simp [written]

theorem written_lexemes (cs : List Char) : written (lexemes cs) = cs :=
  lexemes_flatten cs

/-- A text without gaps put in is padded with empty ones. -/
theorem padded_written (parts : List Lexeme) : Padded parts (written parts) := by
  induction parts with
  | nil => exact .last .empty
  | cons lexeme rest inductionHypothesis => exact .more .empty inductionHypothesis

/-- One gap is put in between some first lexemes and the others. -/
theorem padded_insert {gap : List Char} (isGap : Gap gap) (earlier later : List Lexeme) :
    Padded (earlier ++ later) (written earlier ++ (gap ++ written later)) := by
  induction earlier with
  | nil =>
    cases later with
    | nil => exact .last (by simpa using isGap)
    | cons lexeme rest => exact .more isGap (padded_written rest)
  | cons lexeme rest inductionHypothesis =>
    rw [written_cons, List.append_assoc]
    exact .more .empty inductionHypothesis

/-- A comment with a quote and a brace between two names and signs. -/
theorem readAlike_of_padded_comment :
    (∀ token ∈ tokens "SPEC_DFA=\x7b'states'", token.kind ≠ .unknown) ∧
      Padded (lexemes "SPEC_DFA=\x7b'states'".toList)
        "SPEC_DFA=\t# it's \x7d\n\x7b'states'".toList ∧
      (tokens "SPEC_DFA=\t# it's \x7d\n\x7b'states'").map Token.word =
        (tokens "SPEC_DFA=\x7b'states'").map Token.word ∧
      ReadAlike (parse "SPEC_DFA=\x7b'states'") (parse "SPEC_DFA=\t# it's \x7d\n\x7b'states'") := by
  have known : ∀ token ∈ tokens "SPEC_DFA=\x7b'states'", token.kind ≠ .unknown := by
    decide +kernel
  have cut : lexemes "SPEC_DFA=\x7b'states'".toList = [⟨.token .identifier, "SPEC_DFA".toList⟩,
      ⟨.token .equals, ['=']⟩] ++ [⟨.token .openBrace, ['\x7b']⟩,
      ⟨.token .literal, "'states'".toList⟩] := by
    decide +kernel
  have isGap : Gap "\t# it's \x7d\n".toList :=
    .tab (@Gap.comment " it's \x7d".toList [] (by decide) .empty)
  have padded := padded_insert isGap [⟨.token .identifier, "SPEC_DFA".toList⟩,
    ⟨.token .equals, ['=']⟩] [⟨.token .openBrace, ['\x7b']⟩, ⟨.token .literal, "'states'".toList⟩]
  rw [← cut] at padded
  exact ⟨known, padded, readAlike_of_padded known padded⟩

end Acceptor.Spec
