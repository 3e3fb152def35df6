import Acceptor.Spec.Block

/-!
# What a token does at a place

`Moves` lists the tokens that a place admits together with the move that each of them makes.
`move_eq_ok_iff` says that the reader makes exactly these moves, so that what follows about reading
can go by cases on the move and never looks into the table of `Place.move` again.
-/

namespace Acceptor.Spec

/-- A literal that can stand as a value: it holds no carriage return. -/
structure Token.IsValue (token : Token) : Prop where
  literal : token.kind = .literal
  unbroken : '\r' ∉ token.text.toList

/-- A literal that names a section. -/
structure Token.Names (token : Token) (named : Section) : Prop where
  literal : token.kind = .literal
  content : token.content = named.name

/-- The literal that a token stands for. -/
def Token.toLiteral (token : Token) : Literal :=
  ⟨token.content, token.position⟩

/-- The name of a section is found again as that section. -/
@[simp]
theorem Section.ofName?_name (named : Section) : Section.ofName? named.name = some named := by
  rcases named with ⟨_ | _ | _⟩ | _ | _ <;> decide

/-- A text names a section only if it is the name of that section. -/
theorem Section.ofName?_eq_some_iff {name : String} {named : Section} :
    Section.ofName? name = some named ↔ name = named.name := by
  constructor
  · intro found
    have named := List.find?_some (p := fun candidate : Section => candidate.name == name) found
    exact (eq_of_beq named).symm
  · rintro rfl
    exact Section.ofName?_name named

/-- The moves that tokens make at the places that admit them, where some sections are filled. -/
inductive Moves (filled : List Section) : Place → Token → Move → Prop where
  | close {token} (kind : token.kind = .closeBrace) : Moves filled .name token .closed
  | name {token named} (names : token.Names named) (fresh : named ∉ filled) :
      Moves filled .name token (.within (.nameColon named token.position))
  | nameColon {token named key} (kind : token.kind = .colon) :
      Moves filled (.nameColon named key) token (.within (named.start key))
  | initialLabel {token} (value : token.IsValue) :
      Moves filled .initialLabel token (.complete (.initialState token.toLiteral))
  | listOpen {token which key} (kind : token.kind = .openBrace) :
      Moves filled (.listStart which key) token (.within (.item which key []))
  | setWord {token which key} (kind : token.kind = .identifier) (word : token.text = "set") :
      Moves filled (.listStart which key) token (.within (.setOpen which key))
  | setOpen {token which key} (kind : token.kind = .openParen) :
      Moves filled (.setOpen which key) token (.within (.setClose which key))
  | setClose {token which key} (kind : token.kind = .closeParen) :
      Moves filled (.setClose which key) token (.complete (.list which key []))
  | item {token which key items} (value : token.IsValue) :
      Moves filled (.item which key items) token
        (.within (.itemEnd which key (items ++ [token.toLiteral])))
  | itemClose {token which key items} (kind : token.kind = .closeBrace) :
      Moves filled (.item which key items) token (.complete (.list which key items))
  | itemComma {token which key items} (kind : token.kind = .comma) :
      Moves filled (.itemEnd which key items) token (.within (.item which key items))
  | itemEndClose {token which key items} (kind : token.kind = .closeBrace) :
      Moves filled (.itemEnd which key items) token (.complete (.list which key items))
  | tableOpen {token} (kind : token.kind = .openBrace) :
      Moves filled .tableStart token (.within (.entry []))
  | entryOpen {token entries} (kind : token.kind = .openParen) :
      Moves filled (.entry entries) token (.within (.entrySource entries token.position))
  | entryClose {token entries} (kind : token.kind = .closeBrace) :
      Moves filled (.entry entries) token (.complete (.transitions entries))
  | entrySource {token entries opened} (value : token.IsValue) :
      Moves filled (.entrySource entries opened) token
        (.within (.sourceComma entries opened token.content))
  | sourceComma {token entries opened source} (kind : token.kind = .comma) :
      Moves filled (.sourceComma entries opened source) token
        (.within (.entrySymbol entries opened source))
  | entrySymbol {token entries opened source} (value : token.IsValue) :
      Moves filled (.entrySymbol entries opened source) token
        (.within (.pairClose entries opened source token.content))
  | pairClose {token entries opened source symbol} (kind : token.kind = .closeParen) :
      Moves filled (.pairClose entries opened source symbol) token
        (.within (.pairColon entries opened source symbol))
  | pairColon {token entries opened source symbol} (kind : token.kind = .colon) :
      Moves filled (.pairColon entries opened source symbol) token
        (.within (.entryTarget entries opened source symbol))
  | entryTarget {token entries opened source symbol} (value : token.IsValue) :
      Moves filled (.entryTarget entries opened source symbol) token
        (.within (.entryEnd (entries ++ [⟨opened, source, symbol, token.content⟩])))
  | entryComma {token entries} (kind : token.kind = .comma) :
      Moves filled (.entryEnd entries) token (.within (.entry entries))
  | entryEndClose {token entries} (kind : token.kind = .closeBrace) :
      Moves filled (.entryEnd entries) token (.complete (.transitions entries))
  | clauseComma {token} (kind : token.kind = .comma) :
      Moves filled .clauseEnd token (.within .name)
  | clauseEndClose {token} (kind : token.kind = .closeBrace) :
      Moves filled .clauseEnd token .closed

/-- A literal is taken as a value exactly if it holds no carriage return. -/
theorem Place.value_eq_ok_iff {place : Place} {token : Token} {use : String → Move} {move : Move} :
    place.value token use = .ok move ↔
      '\r' ∉ token.text.toList ∧ move = use token.content := by
  unfold Place.value
  split
  · next broken => simp [List.contains_iff_mem.mp broken]
  · next unbroken =>
    have absent : '\r' ∉ token.text.toList := fun broken =>
      unbroken (List.contains_iff_mem.mpr broken)
    simp [absent, eq_comm]

/-- A literal opens a section exactly if it names one that is not filled yet. -/
theorem openSection_eq_ok_iff {filled : List Section} {token : Token} {move : Move} :
    openSection filled token = .ok move ↔
      ∃ named, token.content = named.name ∧ named ∉ filled ∧
        move = .within (.nameColon named token.position) := by
  unfold openSection
  dsimp only
  split
  · next unknown =>
    simp only [reduceCtorEq, false_iff, not_exists, not_and]
    intro named content
    simp [content] at unknown
  · next named found =>
    have only (other : Section) : token.content = other.name ↔ other = named := by
      rw [← Section.ofName?_eq_some_iff, found, Option.some.injEq, eq_comm]
    simp only [only, exists_eq_left, List.contains_iff_mem]
    by_cases taken : named ∈ filled
    · simp [taken]
    · simp [taken, eq_comm]

/-- The reader makes exactly the listed moves. -/
theorem Place.move_eq_ok_iff {filled : List Section} {place : Place} {token : Token}
    {move : Move} : place.move filled token = .ok move ↔ Moves filled place token move := by
  constructor
  · intro made
    cases place <;> cases kind : token.kind <;>
      simp only [Place.move, kind, reduceCtorEq, Except.ok.injEq, Place.value_eq_ok_iff,
        openSection_eq_ok_iff] at made
    case name.literal =>
      obtain ⟨named, content, fresh, rfl⟩ := made
      exact .name ⟨kind, content⟩ fresh
    case listStart.identifier =>
      split at made
      · next word =>
        cases made
        exact .setWord kind word
      · simp at made
    all_goals first
      | (subst made; constructor; exact kind)
      | (obtain ⟨unbroken, rfl⟩ := made; constructor; exact ⟨kind, unbroken⟩)
  · intro moves
    cases moves
    case name named fresh names =>
      simpa only [Place.move, names.literal] using
        openSection_eq_ok_iff.mpr ⟨named, names.content, fresh, rfl⟩
    case setWord kind word => simp only [Place.move, kind, word, if_true]
    all_goals first
      | (next kind => simp only [Place.move, kind])
      | (next value =>
          simp only [Place.move, value.literal, Place.value_eq_ok_iff, Token.toLiteral]
          exact ⟨value.unbroken, trivial⟩)

end Acceptor.Spec
