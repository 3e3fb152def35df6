import Acceptor.Literal
import Acceptor.Spec.Lexeme

/-!
# Literals in a text

A literal token is a text between two quotes of one kind that holds neither this quote nor a line
end (`enclosed_of_mem_tokens`). Hence what a value literal stands for can be a label or a symbol as
soon as it is not empty (`usable_of_mem_tokens`), whatever text the token comes from.
-/

namespace Acceptor

theorem literalFault?_eq_none_iff {text : String} :
    literalFault? text = none ↔ text ≠ "" ∧ '\n' ∉ text.toList ∧ '\r' ∉ text.toList ∧
      ¬('\'' ∈ text.toList ∧ '"' ∈ text.toList) := by
  unfold literalFault?
  simp only [List.isEmpty_iff, Bool.or_eq_true, Bool.and_eq_true, List.contains_iff_mem]
  by_cases empty : text = ""
  · simp [empty]
  · have filled : text.toList ≠ [] := by simpa using empty
    by_cases lineFeed : '\n' ∈ text.toList <;> by_cases carriageReturn : '\r' ∈ text.toList <;>
      by_cases quotes : '\'' ∈ text.toList ∧ '"' ∈ text.toList <;>
        simp [empty, filled, lineFeed, carriageReturn, quotes]

namespace Spec

/-- A text between quotes that holds neither the quote it stands in nor a line end. -/
def Enclosed (quote : Char) (body text : List Char) : Prop :=
  text = quote :: (body ++ [quote]) ∧ (quote = '\'' ∨ quote = '"') ∧ quote ∉ body ∧ '\n' ∉ body

/-- A literal is closed at the first quote of its kind, if no line end comes before it. -/
theorem closeLiteral?_eq_some_iff {quote : Char} {cs closing rest : List Char} :
    closeLiteral? quote cs = some (closing, rest) ↔
      ∃ body, closing = body ++ [quote] ∧ cs = body ++ quote :: rest ∧
        quote ∉ body ∧ '\n' ∉ body := by
  constructor
  · intro closed
    unfold closeLiteral? at closed
    split at closed
    · next c after dropped =>
      split at closed
      · next same =>
        obtain ⟨rfl, rfl⟩ := Prod.mk.inj (Option.some.inj closed)
        have joined := List.takeWhile_append_dropWhile (p := staysInLiteral quote) (l := cs)
        rw [dropped, eq_of_beq same] at joined
        have inside : ∀ c ∈ cs.takeWhile (staysInLiteral quote), c ≠ quote ∧ c ≠ '\n' := by
          intro c member
          have stays := List.all_eq_true.mp (List.all_takeWhile (l := cs)) c member
          simpa [staysInLiteral] using stays
        exact ⟨_, rfl, joined.symm, fun member => (inside _ member).1 rfl,
          fun member => (inside _ member).2 rfl⟩
      · cases closed
    · cases closed
  · rintro ⟨body, rfl, rfl, noQuote, noLineEnd⟩
    have inside : ∀ c ∈ body, staysInLiteral quote c = true := by
      intro c member
      have notQuote : c ≠ quote := fun same => noQuote (same ▸ member)
      have notLineEnd : c ≠ '\n' := fun same => noLineEnd (same ▸ member)
      simp [staysInLiteral, notQuote, notLineEnd]
    have outside : staysInLiteral quote quote = false := by simp [staysInLiteral]
    simp [closeLiteral?, List.takeWhile_append_of_pos inside, List.dropWhile_append_of_pos inside,
      outside]

theorem punctuation?_ne_literal (c : Char) : (punctuation? c).getD .unknown ≠ .literal := by
  unfold punctuation?
  split <;> simp

/-- A literal lexeme is enclosed in quotes. -/
theorem enclosed_of_firstLexeme {c : Char} {cs : List Char}
    (literal : (firstLexeme c cs).1.kind = .token .literal) :
    ∃ body, Enclosed c body (firstLexeme c cs).1.text := by
  unfold firstLexeme at *
  split at literal
  · cases literal
  · next notComment =>
    rw [if_neg notComment]
    split at literal
    · next isQuote =>
      rw [if_pos isQuote]
      split at literal
      · next closing rest closed =>
        obtain ⟨body, rfl, -, noQuote, noLineEnd⟩ := closeLiteral?_eq_some_iff.mp closed
        exact ⟨body, by simp, by simpa using isQuote, noQuote, noLineEnd⟩
      · cases literal
    · -- No other lexeme is a literal.
      exfalso
      revert literal
      repeat' split
      all_goals simp [punctuation?_ne_literal]

/-- A text in quotes is a lexeme, whatever follows. -/
theorem firstLexeme_quoted {quote : Char} {body text : List Char}
    (enclosed : Enclosed quote body text) (cs : List Char) :
    firstLexeme quote (body ++ quote :: cs) = (⟨.token .literal, text⟩, cs) := by
  obtain ⟨rfl, isQuote, noQuote, noLineEnd⟩ := enclosed
  have closed : closeLiteral? quote (body ++ quote :: cs) = some (body ++ [quote], cs) :=
    closeLiteral?_eq_some_iff.mpr ⟨body, rfl, rfl, noQuote, noLineEnd⟩
  unfold firstLexeme
  rw [closed]
  rcases isQuote with rfl | rfl <;> rfl

/-- A text in quotes is cut off the front of a text, and what follows is cut by itself. -/
theorem lexemes_quoted {quote : Char} {body text : List Char}
    (enclosed : Enclosed quote body text) (cs : List Char) :
    lexemes (text ++ cs) = ⟨.token .literal, text⟩ :: lexemes cs := by
  have first := firstLexeme_quoted enclosed cs
  have whole : text ++ cs = quote :: (body ++ quote :: cs) := by simp [enclosed.1]
  rw [whole, lexemes, first]

/-- Every lexeme of a text is the first one of some rest of it. -/
theorem exists_of_mem_lexemes {lexeme : Lexeme} {cs : List Char} (member : lexeme ∈ lexemes cs) :
    ∃ c rest, lexeme = (firstLexeme c rest).1 := by
  fun_induction lexemes cs with
  | case1 => cases member
  | case2 c cs inductionHypothesis =>
    rcases List.mem_cons.mp member with rfl | later
    · exact ⟨c, cs, rfl⟩
    · exact inductionHypothesis later

/-- Every token has the text of a lexeme of its kind. -/
theorem exists_of_mem_tokensFrom {token : Token} {position : Position} {parts : List Lexeme}
    (member : token ∈ tokensFrom position parts) :
    ∃ lexeme ∈ parts, lexeme.kind = .token token.kind ∧ token.text = String.ofList lexeme.text := by
  fun_induction tokensFrom position parts with
  | case1 => cases member
  | case2 position lexeme rest kind inductionHypothesis =>
    obtain ⟨found, later, same⟩ := inductionHypothesis member
    exact ⟨found, by simp [later], same⟩
  | case3 position lexeme rest next tokenKind kind inductionHypothesis =>
    rcases List.mem_cons.mp member with rfl | later
    · exact ⟨lexeme, by simp, kind, rfl⟩
    · obtain ⟨found, later, same⟩ := inductionHypothesis later
      exact ⟨found, by simp [later], same⟩
  | case4 position lexeme rest next kind inductionHypothesis =>
    obtain ⟨found, later, same⟩ := inductionHypothesis member
    exact ⟨found, by simp [later], same⟩
  | case5 position lexeme rest next kind inductionHypothesis =>
    obtain ⟨found, later, same⟩ := inductionHypothesis member
    exact ⟨found, by simp [later], same⟩

/-- A literal token of a text is enclosed in quotes, and its content stands between them. -/
theorem enclosed_of_mem_tokens {text : String} {token : Token} (member : token ∈ tokens text)
    (literal : token.kind = .literal) :
    ∃ quote body, Enclosed quote body token.text.toList ∧ token.content = String.ofList body := by
  obtain ⟨lexeme, lexed, kind, same⟩ := exists_of_mem_tokensFrom member
  obtain ⟨quote, rest, rfl⟩ := exists_of_mem_lexemes lexed
  obtain ⟨body, enclosed⟩ := enclosed_of_firstLexeme (kind.trans (by rw [literal]))
  refine ⟨quote, body, by simpa [same] using enclosed, ?_⟩
  simp [Token.content, same, enclosed.1]

/-- The content of a literal of a text can be a label or a symbol if it is not empty and holds no
carriage return. -/
theorem usable_of_mem_tokens {text : String} {token : Token} (member : token ∈ tokens text)
    (literal : token.kind = .literal) (unbroken : '\r' ∉ token.text.toList)
    (filled : token.content ≠ "") : literalFault? token.content = none := by
  obtain ⟨quote, body, ⟨written, isQuote, noQuote, noLineEnd⟩, content⟩ :=
    enclosed_of_mem_tokens member literal
  rw [written] at unbroken
  refine literalFault?_eq_none_iff.mpr ⟨filled, ?_⟩
  rw [content, String.toList_ofList]
  refine ⟨noLineEnd, fun broken => unbroken (by simp [broken]), fun both => ?_⟩
  rcases isQuote with rfl | rfl
  · exact noQuote both.1
  · exact noQuote both.2

end Spec

end Acceptor
