import Acceptor.Proofs.Spec.Move
import Mathlib.Data.List.Chain

/-!
# The grammar of a block

What a block looks like, said without a reader: sequences between commas with an optional comma at
the end, values and table rows, sections and the block itself. Each rule relates the tokens that it
covers to the data they stand for. `FirstBlock` finds the block among the tokens of a text; what
stands around it is arbitrary.
-/

namespace Acceptor.Spec

/-- Items between commas; one more comma may follow the last item. -/
inductive Separated {α : Type} (Item : List Token → α → Prop) : List Token → List α → Prop where
  | empty : Separated Item [] []
  | last {tokens value} (item : Item tokens value) : Separated Item tokens [value]
  | more {tokens value comma rest values} (item : Item tokens value)
      (separates : comma.kind = .comma) (others : Separated Item rest values) :
      Separated Item (tokens ++ comma :: rest) (value :: values)

/-- One literal as an item of a list. -/
inductive ListItem : List Token → Literal → Prop where
  | value {token} (value : token.IsValue) : ListItem [token] token.toLiteral

/-- One row of the transition table: `(source, symbol): target`. -/
inductive TableRow : List Token → TableEntry → Prop where
  | row {opening source comma symbol closing colon target}
      (openingKind : opening.kind = .openParen) (sourceValue : source.IsValue)
      (commaKind : comma.kind = .comma) (symbolValue : symbol.IsValue)
      (closingKind : closing.kind = .closeParen) (colonKind : colon.kind = .colon)
      (targetValue : target.IsValue) :
      TableRow [opening, source, comma, symbol, closing, colon, target]
        ⟨opening.position, source.content, symbol.content, target.content⟩

/-- A section: its name, a colon and a value of the shape that goes with the name. -/
inductive SectionText : List Token → Clause → Prop where
  | initialState {key colon value} (names : key.Names .initialState)
      (colonKind : colon.kind = .colon) (isValue : value.IsValue) :
      SectionText [key, colon, value] (.initialState value.toLiteral)
  | list {which key colon opening body items closing} (names : key.Names (.list which))
      (colonKind : colon.kind = .colon) (openingKind : opening.kind = .openBrace)
      (listed : Separated ListItem body items) (closingKind : closing.kind = .closeBrace) :
      SectionText (key :: colon :: opening :: (body ++ [closing]))
        (.list which key.position items)
  | emptyList {which key colon word opening closing} (names : key.Names (.list which))
      (colonKind : colon.kind = .colon) (wordKind : word.kind = .identifier)
      (wordText : word.text = "set") (openingKind : opening.kind = .openParen)
      (closingKind : closing.kind = .closeParen) :
      SectionText [key, colon, word, opening, closing] (.list which key.position [])
  | transitions {key colon opening body entries closing} (names : key.Names .transitions)
      (colonKind : colon.kind = .colon) (openingKind : opening.kind = .openBrace)
      (listed : Separated TableRow body entries) (closingKind : closing.kind = .closeBrace) :
      SectionText (key :: colon :: opening :: (body ++ [closing])) (.transitions entries)

/-- A block: sections between braces. -/
inductive BlockText : List Token → List Clause → Prop where
  | block {opening body clauses closing} (openingKind : opening.kind = .openBrace)
      (sections : Separated SectionText body clauses) (closingKind : closing.kind = .closeBrace) :
      BlockText (opening :: (body ++ [closing])) clauses

/-- Two tokens that do not open a block. -/
def Silent (word sign : Token) : Prop :=
  opensBlock word sign = false

/-- The first place among some tokens where a block opens is directly followed by a block with
some clauses. -/
def FirstBlock (tokens : List Token) (clauses : List Clause) : Prop :=
  ∃ before word sign block after,
    tokens = before ++ word :: sign :: (block ++ after) ∧
      (before ++ [word]).IsChain Silent ∧ opensBlock word sign = true ∧ BlockText block clauses

/-- Every value of a sequence stands for some of the tokens. -/
theorem Separated.exists_part {α : Type} {Item : List Token → α → Prop} {tokens : List Token}
    {values : List α} (sequence : Separated Item tokens values) {value : α}
    (member : value ∈ values) : ∃ part, part ⊆ tokens ∧ Item part value := by
  induction sequence with
  | empty => cases member
  | @last tokens only item =>
    cases List.mem_singleton.mp member
    exact ⟨tokens, fun _ inside => inside, item⟩
  | @more tokens first comma rest values item separates others inductionHypothesis =>
    rcases List.mem_cons.mp member with rfl | later
    · exact ⟨tokens, List.subset_append_left _ _, item⟩
    · obtain ⟨part, inside, found⟩ := inductionHypothesis later
      refine ⟨part, fun token there => ?_, found⟩
      exact List.mem_append_right _ (List.mem_cons_of_mem _ (inside there))

/-- A sequence is cut into the part that stands for one of its values, what comes before and what
comes behind it. -/
structure SplitAt {α : Type} (Item : List Token → α → Prop) (front part rest : List Token)
    (before : List α) (value : α) (after : List α) : Prop where
  item : Item part value
  /-- What comes before ends with a comma, if there is anything. -/
  closed : ∀ last ∈ front.getLast?, last.kind = .comma
  /-- The part can be replaced, -/
  onward : ∀ {part' value'}, Item part' value' → Separated Item (part' ++ rest) (value' :: after)
  /-- and what comes before can be continued with any sequence. -/
  leads : ∀ {tail values}, Separated Item tail values →
    Separated Item (front ++ tail) (before ++ values)

/-- A sequence can be cut at each of its values. -/
theorem Separated.exists_splitAt {α : Type} {Item : List Token → α → Prop} {tokens : List Token}
    {before after : List α} {value : α}
    (sequence : Separated Item tokens (before ++ value :: after)) :
    ∃ front part rest, tokens = front ++ (part ++ rest) ∧
      SplitAt Item front part rest before value after := by
  induction before generalizing tokens with
  | nil =>
    cases sequence with
    | last item =>
      refine ⟨[], tokens, [], by simp, item, nofun, fun other => ?_, id⟩
      rw [List.append_nil]
      exact .last other
    | more item separates others =>
      exact ⟨[], _, _, rfl, item, nofun, fun other => .more other separates others, id⟩
  | cons first before inductionHypothesis =>
    rw [List.cons_append] at sequence
    generalize all : before ++ value :: after = values at sequence
    cases sequence with
    | last item => simp at all
    | @more part _ comma rest _ item separates others =>
      obtain ⟨front, part', rest, rfl, split⟩ := inductionHypothesis (all ▸ others)
      refine ⟨part ++ comma :: front, part', rest, by simp, split.item, ?_, split.onward, ?_⟩
      · intro last isLast
        rw [List.getLast?_append, List.getLast?_cons] at isLast
        cases ends : front.getLast? with
        | none => simp_all
        | some other => exact split.closed last (by simp_all)
      · intro tail values continued
        rw [List.append_assoc, List.cons_append]
        exact .more item separates (split.leads continued)

/-- Every clause of the first block stands for some of the tokens. -/
theorem FirstBlock.exists_part {tokens : List Token} {clauses : List Clause}
    (block : FirstBlock tokens clauses) {clause : Clause} (member : clause ∈ clauses) :
    ∃ part, part ⊆ tokens ∧ SectionText part clause := by
  obtain ⟨before, word, sign, block, after, rfl, -, -, ⟨-, sections, -⟩⟩ := block
  obtain ⟨part, inside, text⟩ := sections.exists_part member
  refine ⟨part, fun token there => ?_, text⟩
  have inBody := inside there
  simp [inBody]

/-- Every item of a list is a value literal among the tokens of its section. -/
theorem SectionText.exists_token {text : List Token} {which : ListSection} {key : Position}
    {items : List Literal} (section_ : SectionText text (.list which key items)) {item : Literal}
    (member : item ∈ items) : ∃ token ∈ text, token.IsValue ∧ item = token.toLiteral := by
  cases section_ with
  | list names colonKind openingKind listed closingKind =>
    obtain ⟨part, inside, found⟩ := listed.exists_part member
    cases found with
    | @value token value =>
      have inBody := inside (List.mem_singleton_self token)
      exact ⟨token, by simp [inBody], value, rfl⟩
  | emptyList => cases member

/-- The name of a list stands among the tokens of its section. -/
theorem SectionText.exists_key {text : List Token} {which : ListSection} {key : Position}
    {items : List Literal} (section_ : SectionText text (.list which key items)) :
    ∃ token ∈ text, key = token.position := by
  cases section_ with
  | list => exact ⟨_, List.mem_cons_self .., rfl⟩
  | emptyList => exact ⟨_, List.mem_cons_self .., rfl⟩

end Acceptor.Spec
