import Acceptor.Proofs.Spec.Layout
import Acceptor.Proofs.Spec.LineFeed

/-!
# Leaving out tokens

A text from which some neighbouring tokens are left out, while the blanks, line ends and comments
among them stay (`without`). Up to the gap it is cut as before: a literal and a sign are lexemes
whatever follows, and a quote that was left open stays open, because no line gets a quote that it
did not have (`lexemes_congr`). What stays in the gap spells nothing. So the tokens before the gap
stay where they are, and those behind it keep their words (`exists_tokens_without`).

Lines are not joined, which is why the layout has to stay: a line end that was left out could close
a quote in the line before.
-/

namespace Acceptor.Spec

/-- A quote closes nothing exactly if the rest of its line has no other one. -/
theorem closeLiteral?_eq_none_iff {quote : Char} (isQuote : quote ≠ '\n') {cs : List Char} :
    closeLiteral? quote cs = none ↔ quote ∉ cs.takeWhile staysOnLine := by
  rw [← not_iff_not, ← ne_eq, Option.ne_none_iff_exists, not_not]
  constructor
  · rintro ⟨⟨closing, rest⟩, closed⟩
    obtain ⟨body, -, rfl, -, oneLine⟩ := closeLiteral?_eq_some_iff.mp closed.symm
    have stays : ∀ c ∈ body, staysOnLine c = true := fun c member => by
      simpa [staysOnLine] using fun same : c = '\n' => oneLine (same ▸ member)
    have here : staysOnLine quote = true := by simpa [staysOnLine] using isQuote
    rw [List.takeWhile_append_of_pos stays, List.takeWhile_cons_of_pos here]
    simp
  · intro member
    obtain ⟨body, others, line, noQuote⟩ := List.eq_append_cons_of_mem member
    have oneLine : '\n' ∉ body := by
      intro broken
      have inLine : '\n' ∈ cs.takeWhile staysOnLine := by simp [line, broken]
      have stays := List.all_eq_true.mp List.all_takeWhile _ inLine
      cases stays
    have whole : cs = body ++ quote :: (others ++ cs.dropWhile staysOnLine) := by
      have joined := List.takeWhile_append_dropWhile (p := staysOnLine) (l := cs)
      rw [line] at joined
      simpa using joined.symm
    exact ⟨_, (closeLiteral?_eq_some_iff.mpr ⟨body, rfl, whole, noQuote, oneLine⟩).symm⟩

/-- A lexeme that ends by itself: a literal or a sign. -/
def Lexeme.isSealed (lexeme : Lexeme) : Bool :=
  match lexeme.kind with
  | .token .identifier | .token .unknown | .comment | .blank | .lineEnd => false
  | .token _ => true

/-- One text can follow a lexeme in place of another: it starts with the same character, and its
first line has only characters that the first line of the other one has. -/
structure Follows (rest rest' : List Char) : Prop where
  head : rest'.head? = rest.head?
  line : rest'.takeWhile staysOnLine ⊆ rest.takeWhile staysOnLine

/-- What is taken from the front of a text does not depend on what follows behind the next
character. -/
theorem span_congr {keeps : Char → Bool} {text rest rest' : List Char}
    (stops : (text ++ rest).dropWhile keeps = rest) (head : rest'.head? = rest.head?) :
    (text ++ rest').takeWhile keeps = text ∧ (text ++ rest').dropWhile keeps = rest' := by
  have taken : (text ++ rest).takeWhile keeps = text := by
    have joined := List.takeWhile_append_dropWhile (p := keeps) (l := text ++ rest)
    rw [stops] at joined
    exact List.append_cancel_right joined
  have kept : ∀ c ∈ text, keeps c = true := by
    rw [← taken]
    exact List.all_eq_true.mp List.all_takeWhile
  have ends : ∀ c ∈ rest'.head?, keeps c = false := by
    rw [head, ← stops]
    exact head_dropWhile
  rw [List.takeWhile_append_of_pos kept, List.dropWhile_append_of_pos kept]
  cases rest' with
  | nil => simp
  | cons c others => simp [ends c rfl]

/-- The first lexeme of a text is the same if something else follows that can follow it, and in any
case if it ends by itself. -/
theorem firstLexeme_congr {c : Char} {text rest rest' : List Char} {lexeme : Lexeme}
    (first : firstLexeme c (text ++ rest) = (lexeme, rest))
    (follows : lexeme.isSealed = false → Follows rest rest') :
    firstLexeme c (text ++ rest') = (lexeme, rest') := by
  have joined := firstLexeme_append c (text ++ rest)
  rw [first] at joined
  have whole : lexeme.text = c :: text := List.append_cancel_right joined
  obtain ⟨kind, lexed⟩ := lexeme
  obtain rfl : lexed = c :: text := whole
  unfold firstLexeme at first ⊢
  split_ifs at first ⊢ with comment quote name blank lineFeed carriageReturn
  · obtain ⟨⟨rfl, -⟩, stops⟩ := (Prod.mk.inj first).imp_left Lexeme.mk.inj
    obtain ⟨taken, left⟩ := span_congr stops (follows rfl).head
    rw [taken, left]
  · cases closed : closeLiteral? c (text ++ rest) with
    | some found =>
      obtain ⟨closing, left⟩ := found
      simp only [closed] at first
      obtain ⟨⟨rfl, same⟩, rfl⟩ := (Prod.mk.inj first).imp_left Lexeme.mk.inj
      obtain ⟨body, rfl, -, noQuote, oneLine⟩ := closeLiteral?_eq_some_iff.mp closed
      obtain rfl := (List.cons.inj same).2
      have again : closeLiteral? c (body ++ [c] ++ rest') = some (body ++ [c], rest') :=
        closeLiteral?_eq_some_iff.mpr ⟨body, rfl, by simp, noQuote, oneLine⟩
      rw [again]
    | none =>
      simp only [closed] at first
      obtain ⟨⟨rfl, same⟩, -⟩ := (Prod.mk.inj first).imp_left Lexeme.mk.inj
      obtain rfl := (List.cons.inj same).2
      have isQuote : c ≠ '\n' := by
        rintro rfl
        revert quote
        decide
      have stillOpen : closeLiteral? c rest' = none := by
        refine (closeLiteral?_eq_none_iff isQuote).mpr fun member => ?_
        exact (closeLiteral?_eq_none_iff isQuote).mp closed ((follows rfl).line member)
      rw [List.nil_append, stillOpen]
  · obtain ⟨⟨rfl, -⟩, stops⟩ := (Prod.mk.inj first).imp_left Lexeme.mk.inj
    obtain ⟨taken, left⟩ := span_congr stops (follows rfl).head
    rw [taken, left]
  · obtain ⟨⟨rfl, -⟩, stops⟩ := (Prod.mk.inj first).imp_left Lexeme.mk.inj
    obtain ⟨taken, left⟩ := span_congr stops (follows rfl).head
    rw [taken, left]
  · obtain ⟨⟨rfl, same⟩, -⟩ := (Prod.mk.inj first).imp_left Lexeme.mk.inj
    obtain rfl := (List.cons.inj same).2
    rfl
  · split at first
    · obtain ⟨⟨rfl, same⟩, -⟩ := (Prod.mk.inj first).imp_left Lexeme.mk.inj
      obtain rfl := (List.cons.inj same).2
      rfl
    · next alone =>
      obtain ⟨⟨rfl, same⟩, -⟩ := (Prod.mk.inj first).imp_left Lexeme.mk.inj
      obtain rfl := (List.cons.inj same).2
      split
      · next others lineFeed =>
        have head := (follows rfl).head
        rw [List.nil_append] at lineFeed
        rw [lineFeed, List.head?_cons] at head
        obtain ⟨left, starts⟩ := List.head?_eq_some_iff.mp head.symm
        exact absurd starts (alone left)
      · rfl
  · obtain ⟨⟨rfl, same⟩, -⟩ := (Prod.mk.inj first).imp_left Lexeme.mk.inj
    obtain rfl := (List.cons.inj same).2
    rfl

section Lexemes

variable {cs rest rest' : List Char} {lexeme : Lexeme} {before after parts : List Lexeme}

/-- A text that is cut into a first lexeme and others starts with the first one, and what follows is
cut into the others. -/
theorem exists_of_lexemes_cons (cut : lexemes cs = lexeme :: parts) :
    ∃ c text, lexeme.text = c :: text ∧ cs = c :: (text ++ written parts) ∧
      firstLexeme c (text ++ written parts) = (lexeme, written parts) ∧
        lexemes (written parts) = parts := by
  cases cs with
  | nil =>
    rw [lexemes] at cut
    cases cut
  | cons c others =>
    rw [lexemes] at cut
    obtain ⟨first, onward⟩ := List.cons.inj cut
    have left : (firstLexeme c others).2 = written parts := by rw [← onward, written_lexemes]
    have joined := firstLexeme_append c others
    obtain ⟨text, starts⟩ := List.head?_eq_some_iff.mp (firstLexeme_head c others)
    rw [starts, left, List.cons_append] at joined
    obtain rfl := (List.cons.inj joined).2
    exact ⟨c, text, by rw [← first, starts], rfl, Prod.ext first left, by rw [← left, onward]⟩

/-- The lexemes at the end of a text are those of that end. -/
theorem lexemes_written (cut : lexemes cs = before ++ after) : lexemes (written after) = after := by
  induction before generalizing cs with
  | nil => rw [← List.nil_append after, ← cut, written_lexemes]
  | cons lexeme others inductionHypothesis =>
    obtain ⟨c, text, -, -, -, onward⟩ := exists_of_lexemes_cons cut
    exact inductionHypothesis onward

/-- The same characters in front of a line add the same characters to it. -/
theorem line_append (line : rest'.takeWhile staysOnLine ⊆ rest.takeWhile staysOnLine)
    (front : List Char) :
    (front ++ rest').takeWhile staysOnLine ⊆ (front ++ rest).takeWhile staysOnLine := by
  rw [List.takeWhile_append, List.takeWhile_append]
  split
  · exact List.append_subset.mpr ⟨List.subset_append_left _ _,
      List.Subset.trans line (List.subset_append_right _ _)⟩
  · exact List.Subset.refl _

/-- A text is cut up to a lexeme that ends by itself as before, if the rest of the line does not get
characters that it did not have. -/
theorem lexemes_congr (cut : lexemes (written before ++ written after) = before ++ after)
    (ends : ∀ last ∈ before.getLast?, last.isSealed = true)
    (line : rest.takeWhile staysOnLine ⊆ (written after).takeWhile staysOnLine) :
    lexemes (written before ++ rest) = before ++ lexemes rest := by
  induction before with
  | nil => rfl
  | cons lexeme others inductionHypothesis =>
    rw [List.cons_append] at cut
    obtain ⟨c, text, starts, -, first, onward⟩ := exists_of_lexemes_cons cut
    have follows : lexeme.isSealed = false →
        Follows (written (others ++ after)) (written others ++ rest) := by
      intro unsealed
      cases others with
      | nil => cases unsealed.symm.trans (ends lexeme rfl)
      | cons next others =>
        obtain ⟨d, further, begins, -⟩ := exists_of_lexemes_cons onward
        refine ⟨by simp [begins], ?_⟩
        rw [written_append]
        exact line_append line _
    have again := firstLexeme_congr first follows
    have later : lexemes (written others ++ rest) = others ++ lexemes rest := by
      refine inductionHypothesis (by rwa [written_append] at onward) fun last isLast => ends last ?_
      cases others with
      | nil => cases isLast
      | cons next others => exact isLast
    rw [written_cons, starts, List.cons_append, List.cons_append, List.append_assoc, lexemes, again,
      later, List.cons_append]

/-- A lexeme that is no token. -/
def Lexeme.isLayout (lexeme : Lexeme) : Bool :=
  match lexeme.kind with
  | .token _ => false
  | .comment | .blank | .lineEnd => true

/-- The lexemes that are left of some lexemes without the tokens. -/
def layout (parts : List Lexeme) : List Lexeme :=
  parts.filter Lexeme.isLayout

/-- No token goes over the end of a line. -/
theorem oneLine_of_token (member : lexeme ∈ lexemes cs) (isToken : lexeme.isLayout = false) :
    '\n' ∉ lexeme.text := by
  obtain ⟨c, others, rfl⟩ := exists_of_mem_lexemes member
  have line := line_behind_firstLexeme ⟨1, 1⟩ c others
  have stays : (Position.behind ⟨1, 1⟩ (firstLexeme c others).1).line = 1 := by
    unfold Lexeme.isLayout at isToken
    unfold Position.behind
    split at isToken <;> simp_all
  rw [stays] at line
  exact List.count_eq_zero.mp (Nat.left_eq_add.mp line)

/-- Leaving out tokens adds no characters to a line. -/
theorem line_layout (tokens : ∀ lexeme ∈ parts, lexeme.isLayout = false → '\n' ∉ lexeme.text)
    (rest : List Char) :
    (written (layout parts) ++ rest).takeWhile staysOnLine ⊆
      (written parts ++ rest).takeWhile staysOnLine := by
  induction parts with
  | nil => exact List.Subset.refl _
  | cons lexeme others inductionHypothesis =>
    obtain ⟨here, later⟩ := List.forall_mem_cons.mp tokens
    have line := inductionHypothesis later
    rw [layout, List.filter_cons, written_cons, List.append_assoc]
    split
    · rw [written_cons, List.append_assoc]
      exact line_append line _
    · next isToken =>
      have stays : ∀ c ∈ lexeme.text, staysOnLine c = true := fun c member => by
        have oneLine := here (by simpa using isToken)
        simpa [staysOnLine] using fun same : c = '\n' => oneLine (same ▸ member)
      rw [List.takeWhile_append_of_pos stays]
      exact List.Subset.trans line (List.subset_append_right _ _)

/-- What a first lexeme that is no token looks like, and that a comment goes on up to the end of its
line. -/
theorem text_of_isLayout {c : Char} (first : firstLexeme c cs = (lexeme, rest))
    (isLayout : lexeme.isLayout = true) :
    (∀ d ∈ lexeme.text, isSpacing d = true) ∨ lexeme.text = ['\n'] ∨ lexeme.text = ['\r', '\n'] ∨
      ∃ body, lexeme.text = '#' :: body ∧ '\n' ∉ body ∧ ∀ next ∈ rest.head?, next = '\n' := by
  unfold firstLexeme at first
  split_ifs at first with comment quote name blank lineFeed carriageReturn
  · cases first
    refine .inr (.inr (.inr ⟨_, congrArg (· :: _) (eq_of_beq comment), ?_, fun next here => ?_⟩))
    · intro broken
      cases List.all_eq_true.mp List.all_takeWhile _ broken
    · simpa [staysOnLine] using head_dropWhile next here
  · split at first <;> cases first <;> cases isLayout
  · cases first
    cases isLayout
  · cases first
    exact .inl (List.forall_mem_cons.mpr ⟨blank, List.all_eq_true.mp List.all_takeWhile⟩)
  · cases first
    exact .inr (.inl (congrArg (fun c => [c]) (eq_of_beq lineFeed)))
  · obtain rfl := eq_of_beq carriageReturn
    split at first
    · cases first
      exact .inr (.inr (.inl rfl))
    · cases first
      cases isLayout
  · cases first
    cases isLayout

theorem Gap.spacing {text gap : List Char} (spaces : ∀ c ∈ text, isSpacing c = true)
    (isGap : Gap gap) : Gap (text ++ gap) := by
  induction text with
  | nil => exact isGap
  | cons c others inductionHypothesis =>
    obtain ⟨here, later⟩ := List.forall_mem_cons.mp spaces
    rcases (by simpa [isSpacing] using here : c = ' ' ∨ c = '\t') with rfl | rfl
    · exact .space (inductionHypothesis later)
    · exact .tab (inductionHypothesis later)

/-- What is left of some lexemes that end with a token is a gap. -/
theorem gap_layout (cut : lexemes cs = parts ++ after)
    (ends : ∀ last ∈ parts.getLast?, last.isLayout = false) : Gap (written (layout parts)) := by
  induction parts generalizing cs with
  | nil => exact .empty
  | cons lexeme others inductionHypothesis =>
    rw [List.cons_append] at cut
    obtain ⟨c, text, -, -, first, onward⟩ := exists_of_lexemes_cons cut
    have left : Gap (written (layout others)) := by
      refine inductionHypothesis onward fun last isLast => ends last ?_
      cases others with
      | nil => cases isLast
      | cons next others => exact isLast
    cases isLayout : lexeme.isLayout with
    | false =>
      rw [layout, List.filter_cons_of_neg (by simp [isLayout])]
      exact left
    | true =>
      rw [layout, List.filter_cons_of_pos isLayout, written_cons]
      rcases text_of_isLayout first isLayout with
        spaces | same | same | ⟨body, same, oneLine, breaks⟩
      · exact left.spacing spaces
      · rw [same]
        exact .lineFeed left
      · rw [same]
        exact .carriageReturn left
      · -- A comment is not the last lexeme, and the next one is the end of its line.
        cases others with
        | nil => cases isLayout.symm.trans (ends lexeme rfl)
        | cons next others =>
          rw [List.cons_append] at onward breaks
          obtain ⟨d, further, -, whole, starts, -⟩ := exists_of_lexemes_cons onward
          obtain rfl : d = '\n' := breaks d (by rw [whole]; rfl)
          obtain rfl : next = ⟨.lineEnd, ['\n']⟩ := (congrArg Prod.fst starts).symm
          have rest : Gap (written (layout others)) := by
            cases left with | lineFeed onward => exact onward
          rw [same]
          exact .comment oneLine rest

/-- A text from which the tokens of a piece are left out. Its blanks, line ends and comments
stay. -/
def without (before omitted after : List Lexeme) : String :=
  String.ofList (written (before ++ (layout omitted ++ after)))

/-- The tokens before a piece whose tokens are left out stay where they are, and those behind it
keep their words. -/
theorem exists_tokens_without {text : String} {omitted : List Lexeme}
    (cut : lexemes text.toList = before ++ (omitted ++ after))
    (closed : ∀ last ∈ before.getLast?, last.isSealed = true)
    (ends : ∀ last ∈ omitted.getLast?, last.isLayout = false) :
    ∃ others, tokens (without before omitted after) = tokensFrom ⟨1, 1⟩ before ++ others ∧
      others.map Token.word =
        (tokensFrom (.past ⟨1, 1⟩ (before ++ omitted)) after).map Token.word := by
  have whole : lexemes (written before ++ written (omitted ++ after)) =
      before ++ (omitted ++ after) := by
    rw [← written_append, ← cut, written_lexemes]
  have piece : lexemes (written (omitted ++ after)) = omitted ++ after := lexemes_written cut
  have end_ : lexemes (written after) = after := lexemes_written piece
  have oneLine : ∀ lexeme ∈ omitted, lexeme.isLayout = false → '\n' ∉ lexeme.text :=
    fun lexeme member => oneLine_of_token (piece ▸ List.mem_append_left _ member)
  have line := line_layout oneLine (written after)
  rw [← written_append omitted] at line
  have again := lexemes_congr whole closed line
  refine ⟨tokensFrom (.past ⟨1, 1⟩ before) (lexemes (written (layout omitted) ++ written after)),
    ?_, ?_⟩
  · rw [tokens, without, String.toList_ofList, written_append, written_append, again,
      tokensFrom_append]
  · rw [map_word_tokensFrom, map_word_tokensFrom, ← words, words_gap (gap_layout piece ends), words,
      end_]

end Lexemes

section Places

variable {position : Position} {parts : List Lexeme}

/-- One place comes before another one in a text. -/
def Position.Before (first second : Position) : Prop :=
  first.line < second.line ∨ first.line = second.line ∧ first.column < second.column

/-- A lexeme that is not empty leads on. -/
theorem Position.before_behind (position : Position) {lexeme : Lexeme} (filled : lexeme.text ≠ []) :
    position.Before (position.behind lexeme) := by
  have longer := List.length_pos_iff.mpr filled
  unfold Position.behind
  split
  · exact .inl (Nat.lt_succ_self _)
  all_goals exact .inr ⟨rfl, Nat.lt_add_of_pos_right longer⟩

/-- Tokens stand one behind the other. -/
theorem pairwise_before_tokensFrom (filled : ∀ lexeme ∈ parts, lexeme.text ≠ []) :
    (∀ token ∈ tokensFrom position parts, ¬token.position.Before position) ∧
      (tokensFrom position parts).Pairwise fun first second =>
        first.position.Before second.position := by
  induction parts generalizing position with
  | nil => exact ⟨nofun, .nil⟩
  | cons lexeme others inductionHypothesis =>
    obtain ⟨here, later⟩ := List.forall_mem_cons.mp filled
    obtain ⟨behind, ascending⟩ := @inductionHypothesis (position.behind lexeme) later
    have leads := position.before_behind here
    have further : ∀ token ∈ tokensFrom (position.behind lexeme) others,
        position.Before token.position := by
      intro token member
      have notBefore := behind token member
      unfold Position.Before at *
      omega
    have itself (token : Token) : ¬token.position.Before token.position := by
      unfold Position.Before
      omega
    have onward : ∀ token ∈ tokensFrom (position.behind lexeme) others,
        ¬token.position.Before position := by
      intro token member
      have after := further token member
      unfold Position.Before at *
      omega
    rw [tokensFrom_cons]
    cases isToken : lexeme.token? position with
    | none => exact ⟨onward, ascending⟩
    | some token =>
      have place : token.position = position := by
        unfold Lexeme.token? at isToken
        split at isToken <;> cases isToken
        rfl
      refine ⟨List.forall_mem_cons.mpr ⟨?_, onward⟩, .cons (fun other member => ?_) ascending⟩
      · rw [← place]
        exact itself token
      · rw [place]
        exact further other member

/-- No lexeme is empty. -/
theorem filled_lexemes (cs : List Char) : ∀ lexeme ∈ lexemes cs, lexeme.text ≠ [] := by
  intro lexeme member empty
  obtain ⟨c, others, rfl⟩ := exists_of_mem_lexemes member
  have head := firstLexeme_head c others
  rw [empty] at head
  cases head

/-- No two tokens of a text stand at the same place. -/
theorem nodup_positions (text : String) : ((tokens text).map Token.position).Nodup := by
  rw [List.Nodup, List.pairwise_map]
  refine (pairwise_before_tokensFrom (filled_lexemes text.toList)).2.imp fun before same => ?_
  unfold Position.Before at before
  rw [same] at before
  omega

/-- Tokens with the words of others are those others at other places, if these stand at places of
their own. -/
theorem exists_relocation {known others others' : List Token}
    (apart : ((known ++ others).map Token.position).Nodup)
    (same : others'.map Token.word = others.map Token.word) :
    ∃ f : Position → Position, (∀ token ∈ known, f token.position = token.position) ∧
      others' = others.map (Token.relocate f) := by
  induction others generalizing others' with
  | nil => exact ⟨id, fun _ _ => rfl, List.map_eq_nil_iff.mp same⟩
  | cons token rest inductionHypothesis =>
    obtain ⟨token', rest', rfl, word, words⟩ := List.map_eq_cons_iff.mp same
    rw [List.map_append, List.map_cons, List.nodup_middle, List.nodup_cons, ← List.map_append]
      at apart
    obtain ⟨alone, apart⟩ := apart
    obtain ⟨f, fixes, rfl⟩ := inductionHypothesis apart words
    have elsewhere {other : Token} (member : other ∈ known ++ rest) :
        Function.update f token.position token'.position other.position = f other.position :=
      Function.update_of_ne (fun here => alone (List.mem_map.mpr ⟨other, member, here⟩)) _ _
    have moved : token' =
        token.relocate (Function.update f token.position token'.position) := by
      obtain ⟨kind, text⟩ := Prod.mk.inj word
      have place := Function.update_self token.position token'.position f
      cases token'
      simp_all [Token.relocate, String.toList_inj]
    refine ⟨Function.update f token.position token'.position, fun other member => ?_, ?_⟩
    · rw [elsewhere (List.mem_append_left _ member), fixes other member]
    · rw [List.map_cons, ← moved]
      refine congrArg (token' :: ·) (List.map_congr_left fun other member => ?_)
      rw [Token.relocate, Token.relocate, elsewhere (List.mem_append_right _ member)]

/-- What is described in a text from which a piece is left out is what the other tokens describe
where they stood before, and so is a refusal, but for where it points behind the piece. -/
theorem exists_listingOf_without {text : String} {before omitted after : List Lexeme}
    (cut : lexemes text.toList = before ++ (omitted ++ after))
    (closed : ∀ last ∈ before.getLast?, last.isSealed = true)
    (ends : ∀ last ∈ omitted.getLast?, last.isLayout = false) :
    ∃ f : Position → Position,
      (∀ token ∈ tokensFrom ⟨1, 1⟩ before, f token.position = token.position) ∧
        listingOf (tokens (without before omitted after)) =
          (listingOf (tokensFrom ⟨1, 1⟩ before ++
            tokensFrom (.past ⟨1, 1⟩ (before ++ omitted)) after)).mapError (.relocate f) := by
  obtain ⟨others, tokenized, words⟩ := exists_tokens_without cut closed ends
  have all : tokens text = tokensFrom ⟨1, 1⟩ before ++
      (tokensFrom (.past ⟨1, 1⟩ before) omitted ++
        tokensFrom (.past ⟨1, 1⟩ (before ++ omitted)) after) := by
    rw [tokens, cut, tokensFrom_append, tokensFrom_append, Position.past_append]
  have apart : ((tokensFrom ⟨1, 1⟩ before ++
      tokensFrom (.past ⟨1, 1⟩ (before ++ omitted)) after).map Token.position).Nodup := by
    refine (nodup_positions text).sublist (List.Sublist.map _ ?_)
    rw [all]
    exact (List.sublist_append_right _ _).append_left _
  obtain ⟨f, fixes, rfl⟩ := exists_relocation apart words
  refine ⟨f, fixes, ?_⟩
  rw [tokenized, ← listingOf_relocate, List.map_append]
  congr 2
  refine (List.map_id _).symm.trans (List.map_congr_left fun token member => ?_)
  rw [Token.relocate, fixes token member]
  rfl

/-- Lexemes can be cut right behind one of their tokens. -/
theorem exists_cut {first second : List Token}
    (split : tokensFrom position parts = first ++ second) :
    ∃ earlier later, parts = earlier ++ later ∧ tokensFrom position earlier = first ∧
      tokensFrom (position.past earlier) later = second ∧
        ∀ last ∈ earlier.getLast?, ∃ token ∈ first.getLast?, last.kind = .token token.kind := by
  induction parts generalizing position first with
  | nil =>
    obtain ⟨rfl, rfl⟩ := List.append_eq_nil_iff.mp split.symm
    exact ⟨[], [], rfl, rfl, rfl, nofun⟩
  | cons lexeme others inductionHypothesis =>
    cases first with
    | nil => exact ⟨[], lexeme :: others, rfl, rfl, split, nofun⟩
    | cons token rest =>
      rw [tokensFrom_cons] at split
      cases isToken : lexeme.token? position with
      | none =>
        rw [isToken] at split
        obtain ⟨earlier, later, rfl, covers, onward, ends⟩ := inductionHypothesis split
        refine ⟨lexeme :: earlier, later, rfl, ?_, onward, fun last isLast => ends last ?_⟩
        · rw [tokensFrom_cons, isToken, covers]
          rfl
        · cases earlier with
          | nil => cases covers
          | cons next earlier => exact isLast
      | some found =>
        rw [isToken, Option.toList_some, List.singleton_append, List.cons_append] at split
        obtain ⟨rfl, onward⟩ := List.cons.inj split
        obtain ⟨earlier, later, rfl, rfl, onward, ends⟩ := inductionHypothesis onward
        refine ⟨lexeme :: earlier, later, rfl, ?_, onward, fun last isLast => ?_⟩
        · rw [tokensFrom_cons, isToken]
          rfl
        · cases earlier with
          | nil =>
            obtain rfl := Option.some.inj isLast
            refine ⟨found, rfl, ?_⟩
            unfold Lexeme.token? at isToken
            split at isToken
            · next kind same =>
              cases isToken
              exact same
            all_goals cases isToken
          | cons next earlier =>
            obtain ⟨other, isOther, kind⟩ := ends last isLast
            exact ⟨other, by rw [List.getLast?_cons, Option.mem_def.mp isOther]; rfl, kind⟩

end Places

end Acceptor.Spec
