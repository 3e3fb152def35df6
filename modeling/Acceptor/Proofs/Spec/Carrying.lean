import Acceptor.Proofs.Spec.Move
import Acceptor.Proofs.Spec.Written

/-!
# What a literal can carry

Which texts can be labels and symbols is decided three times over: by the check of a text, by the
quotes that it is written in, and by how a text in quotes is cut and taken. The three agree
(`carried_iff_checked`). A text that is not empty passes the check exactly if some literal carries
it, and then the literal that is written carries it, whatever follows: a comma, a colon or a closing
brace in a specification, or any other text.

The empty text is carried as well, and only the check keeps it out. A literal with a carriage return
in it is a token all the same, and is refused when it is taken.
-/

namespace Acceptor.Spec

/-- A literal stands for a text. -/
structure Carries (literal text : String) : Prop where
  /-- By itself it is cut into one token, -/
  single : tokens literal = [⟨.literal, literal, ⟨1, 1⟩⟩]
  /-- it has the text between its first and its last character, -/
  inside : literal.toList.tail.dropLast = text.toList
  /-- and it is taken as the text wherever a value is read. -/
  taken : ∀ (place : Place) (use : String → Move),
    place.value ⟨.literal, literal, ⟨1, 1⟩⟩ use = .ok (use text)

/-- A literal is the first token of every text that starts with it, and what follows is cut as if it
stood alone, behind the literal on the first line. -/
def ComesFirst (literal : String) : Prop :=
  ∀ rest : String, tokens (literal ++ rest) =
    ⟨.literal, literal, ⟨1, 1⟩⟩ :: tokensFrom ⟨1, 1 + literal.length⟩ (lexemes rest.toList)

variable {subject text literal : String}

/-- A text passes the check exactly if it has no fault, and is returned then. -/
theorem checkLiteral_eq_ok_iff {result : String} :
    checkLiteral subject text = .ok result ↔ literalFault? text = none ∧ result = text := by
  unfold checkLiteral
  split <;> simp [*, eq_comm]

/-- A text that a literal carries has no fault, unless it is empty. -/
theorem Carries.usable (carries : Carries literal text) (filled : text ≠ "") :
    literalFault? text = none := by
  have member : (⟨.literal, literal, ⟨1, 1⟩⟩ : Token) ∈ tokens literal := by
    rw [carries.single]
    exact List.mem_singleton_self _
  have content : Token.content ⟨.literal, literal, ⟨1, 1⟩⟩ = text := by
    rw [Token.content, carries.inside, String.ofList_toList]
  obtain ⟨unbroken, -⟩ := Place.value_eq_ok_iff.mp (carries.taken .initialLabel fun _ => .closed)
  rw [← content] at filled ⊢
  exact usable_of_mem_tokens member rfl unbroken filled

/-- A text in quotes comes first, because the closing quote ends it. -/
theorem comesFirst_of_enclosed {quote : Char} {body : List Char}
    (enclosed : Enclosed quote body literal.toList) : ComesFirst literal := by
  intro rest
  rw [tokens, String.toList_append, lexemes_quoted enclosed, tokensFrom, String.ofList_toList,
    String.length_toList]

/-- A text in quotes carries what stands between them, if it holds no carriage return. -/
theorem carries_of_enclosed {quote : Char} (enclosed : Enclosed quote text.toList literal.toList)
    (unbroken : '\r' ∉ text.toList) : Carries literal text where
  single := by
    have alone := comesFirst_of_enclosed enclosed ""
    rwa [String.append_empty, String.toList_empty, lexemes, tokensFrom] at alone
  inside := by
    rw [enclosed.1]
    simp
  taken := by
    intro place use
    have inside : Token.content ⟨.literal, literal, ⟨1, 1⟩⟩ = text := by
      rw [Token.content, enclosed.1]
      simp
    have noReturn : '\r' ∉ literal.toList := by
      rw [enclosed.1]
      rcases enclosed.2.1 with rfl | rfl <;> simp [unbroken]
    exact Place.value_eq_ok_iff.mpr ⟨noReturn, by rw [inside]⟩

/-- A text without fault is written as a literal that carries it, whatever follows. -/
theorem carries_of_usable (usable : literalFault? text = none) :
    ∃ literal, writeLiteral text = .ok literal ∧ Carries literal text ∧ ComesFirst literal := by
  obtain ⟨-, -, unbroken, -⟩ := literalFault?_eq_none_iff.mp usable
  obtain ⟨literal, written, same⟩ := exists_of_writeLiteral usable
  have enclosed := enclosed_quoteFor usable same
  exact ⟨literal, written, carries_of_enclosed enclosed unbroken, comesFirst_of_enclosed enclosed⟩

/-- A text passes the check, which is that of labels and symbols, exactly if it is not empty and
some literal carries it. It is returned as it is then, and is written as a literal that carries it,
whatever is written behind. -/
theorem carried_iff_checked (subject text : String) :
    ((∃ result, checkLiteral subject text = .ok result) ↔
        text ≠ "" ∧ ∃ literal, Carries literal text) ∧
      (requireLiteral subject text = .ok () ↔ ∃ result, checkLiteral subject text = .ok result) ∧
      ∀ result, checkLiteral subject text = .ok result → result = text ∧
        ∃ literal, writeLiteral text = .ok literal ∧ Carries literal text ∧ ComesFirst literal := by
  have passes : (∃ result, checkLiteral subject text = .ok result) ↔
      literalFault? text = none := by
    simp only [checkLiteral_eq_ok_iff, exists_and_left, exists_eq, and_true]
  rw [passes, requireLiteral_eq_ok_iff]
  refine ⟨⟨fun usable => ?_, ?_⟩, Iff.rfl, fun result passed => ?_⟩
  · obtain ⟨literal, -, carries, -⟩ := carries_of_usable usable
    exact ⟨(literalFault?_eq_none_iff.mp usable).1, literal, carries⟩
  · rintro ⟨filled, literal, carries⟩
    exact carries.usable filled
  · obtain ⟨usable, same⟩ := checkLiteral_eq_ok_iff.mp passed
    exact ⟨same, carries_of_usable usable⟩

/-- A text with an apostrophe, a comment sign and a backslash at its end is carried in the other
quotes, and no literal carries both quotes. -/
theorem carried_iff_checked_apostrophe :
    (∃ literal, writeLiteral "it's #1\\" = .ok literal ∧ Carries literal "it's #1\\" ∧
      ComesFirst literal) ∧ ¬∃ literal, Carries literal "'\"" := by
  obtain ⟨-, -, carried⟩ := carried_iff_checked "State labels" "it's #1\\"
  obtain ⟨checked, -, -⟩ := carried_iff_checked "State labels" "'\""
  refine ⟨(carried "it's #1\\" (by decide)).2, fun carries => ?_⟩
  obtain ⟨result, passed⟩ := checked.mpr ⟨by decide, carries⟩
  cases passed

end Acceptor.Spec
