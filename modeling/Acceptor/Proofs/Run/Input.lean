import Acceptor.Run.Input

/-!
# Which symbols an input has

Everything about the words of an input follows from how they are divided at one separator
(`words_append_cons`): separators at the ends change nothing, and a gap between two texts keeps
their words apart. What is trimmed at the ends are separators, so the symbols are the words as soon
as a separator is left inside (`inputSymbols_eq_words`), and the characters if none is. `ReadsBack`
says what follows for the reader of inputs.
-/

namespace Acceptor

namespace Text

variable {drops : Char → Bool} {before after cs : List Char}

/-- What is stripped stands at the two ends. -/
theorem exists_stripped (drops : Char → Bool) (cs : List Char) :
    ∃ before after, (∀ c ∈ before, drops c = true) ∧ (∀ c ∈ after, drops c = true) ∧
      cs = before ++ stripped drops cs ++ after := by
  have first : cs.takeWhile drops ++ cs.dropWhile drops = cs := List.takeWhile_append_dropWhile
  have last : ((cs.dropWhile drops).reverse.dropWhile drops).reverse ++
      ((cs.dropWhile drops).reverse.takeWhile drops).reverse = cs.dropWhile drops := by
    rw [← List.reverse_append, List.takeWhile_append_dropWhile, List.reverse_reverse]
  refine ⟨cs.takeWhile drops, ((cs.dropWhile drops).reverse.takeWhile drops).reverse,
    List.all_eq_true.mp List.all_takeWhile, ?_, ?_⟩
  · intro c member
    exact List.all_eq_true.mp List.all_takeWhile c (List.mem_reverse.mp member)
  · rw [stripped, List.append_assoc, last, first]

/-- Between two texts that are dropped, what none of is dropped is left. -/
theorem stripped_append (droppedBefore : ∀ c ∈ before, drops c = true)
    (droppedAfter : ∀ c ∈ after, drops c = true) (kept : ∀ c ∈ cs, drops c = false) :
    stripped drops (before ++ cs ++ after) = cs := by
  have droppedAfter : ∀ c ∈ after.reverse, drops c = true := fun c member =>
    droppedAfter c (List.mem_reverse.mp member)
  have stays {kept' : List Char} (kept : ∀ c ∈ kept', drops c = false) :
      kept'.dropWhile drops = kept' := by
    cases kept' with
    | nil => rfl
    | cons c rest => exact List.dropWhile_cons_of_neg (by simp [kept c List.mem_cons_self])
  rw [stripped, List.append_assoc, List.dropWhile_append_of_pos droppedBefore]
  cases cs with
  | nil =>
    have gone : after.dropWhile drops = [] := by
      rw [← List.append_nil after, List.dropWhile_append_of_pos fun c member =>
        droppedAfter c (List.mem_reverse.mpr member)]
      rfl
    rw [List.nil_append, gone]
    rfl
  | cons c rest =>
    have first : drops c = false := kept c List.mem_cons_self
    rw [List.cons_append, List.dropWhile_cons_of_neg (by simp [first]), ← List.cons_append,
      List.reverse_append, List.dropWhile_append_of_pos droppedAfter,
      stays fun c member => kept c (List.mem_reverse.mp member), List.reverse_reverse]

end Text

/-- The words of an input: its pieces that are not empty. -/
def words (cs : List Char) : List (List Char) :=
  (pieces cs).filter (!·.isEmpty)

section Words

variable {cs gap before after : List Char} {c : Char}

/-- The pieces of an input are what it is split into at its separators. -/
theorem pieces_eq_splitOnP (cs : List Char) : pieces cs = cs.splitOnP isSeparator := by
  induction cs with
  | nil => rw [pieces, List.splitOnP_nil]
  | cons c rest inductionHypothesis =>
    rw [pieces, List.splitOnP_cons_eq_if_modifyHead, inductionHypothesis]

/-- The words on the two sides of a separator are the words of two inputs. -/
theorem words_append_cons (separates : isSeparator c = true) (left right : List Char) :
    words (left ++ c :: right) = words left ++ words right := by
  rw [words, pieces_eq_splitOnP, List.splitOnP_append_cons left right separates,
    List.filter_append, ← pieces_eq_splitOnP, ← pieces_eq_splitOnP]
  rfl

/-- An input without separators is one word, if it is not empty. -/
theorem words_of_free (free : ∀ c ∈ cs, isSeparator c = false) (nonempty : cs ≠ []) :
    words cs = [cs] := by
  rw [words, pieces_eq_splitOnP, List.splitOnP_eq_singleton free]
  simpa using nonempty

/-- Separators before an input change nothing. -/
theorem words_before (separating : ∀ c ∈ gap, isSeparator c = true) (cs : List Char) :
    words (gap ++ cs) = words cs := by
  induction gap with
  | nil => rfl
  | cons c rest inductionHypothesis =>
    obtain ⟨separates, separating⟩ := List.forall_mem_cons.mp separating
    have apart := words_append_cons separates [] (rest ++ cs)
    rw [List.nil_append] at apart
    rw [List.cons_append, apart, inductionHypothesis separating]
    rfl

/-- Separators between two inputs keep their words apart. -/
theorem words_between (separating : ∀ c ∈ gap, isSeparator c = true) (nonempty : gap ≠ [])
    (left right : List Char) : words (left ++ gap ++ right) = words left ++ words right := by
  obtain ⟨c, rest, rfl⟩ := List.exists_cons_of_ne_nil nonempty
  obtain ⟨separates, separating⟩ := List.forall_mem_cons.mp separating
  rw [List.append_assoc, List.cons_append, words_append_cons separates, words_before separating]

/-- Separators after an input change nothing. -/
theorem words_after (separating : ∀ c ∈ gap, isSeparator c = true) (cs : List Char) :
    words (cs ++ gap) = words cs := by
  by_cases empty : gap = []
  · rw [empty, List.append_nil]
  · have apart := words_between separating empty cs []
    rwa [List.append_nil, show words [] = [] from rfl, List.append_nil] at apart

/-- The words of an input are its characters but for the separators. -/
theorem flatten_words (cs : List Char) :
    (words cs).flatten = cs.filter (!isSeparator ·) := by
  rw [words, List.flatten_filter_not_isEmpty]
  induction cs with
  | nil => rfl
  | cons c rest inductionHypothesis =>
    obtain ⟨first, others, split⟩ : ∃ first others, pieces rest = first :: others :=
      List.exists_cons_of_ne_nil (by simp [pieces_eq_splitOnP])
    rw [split] at inductionHypothesis
    rw [pieces, List.filter_cons]
    cases separates : isSeparator c with
    | true => simpa [split] using inductionHypothesis
    | false => simpa [split] using inductionHypothesis

/-- A word is not empty and has no separator. -/
theorem mem_words {word : List Char} (member : word ∈ words cs) :
    word ≠ [] ∧ ∀ c ∈ word, isSeparator c = false := by
  obtain ⟨piece, nonempty⟩ := List.mem_filter.mp member
  refine ⟨by simpa using nonempty, fun c inside => ?_⟩
  have whole : c ∈ (words cs).flatten := List.mem_flatten.mpr ⟨word, member, inside⟩
  rw [flatten_words] at whole
  simpa using (List.mem_filter.mp whole).2

/-- The blanks that are trimmed are separators, so the words stay the same. -/
theorem words_trim (cs : List Char) : words (Text.trim cs) = words cs := by
  obtain ⟨before, after, blankBefore, blankAfter, whole⟩ := Text.exists_stripped Text.isBlank cs
  have separating {blank : List Char} (blanks : ∀ c ∈ blank, Text.isBlank c = true) :
      ∀ c ∈ blank, isSeparator c = true := fun c member => by
    rw [isSeparator, blanks c member, Bool.true_or]
  calc words (Text.trim cs)
      = words (before ++ Text.trim cs) := (words_before (separating blankBefore) _).symm
    _ = words (before ++ Text.trim cs ++ after) := (words_after (separating blankAfter) _).symm
    _ = words cs := congrArg words whole.symm

/-- An input that has more than one word, or a comma, has a separator left when it is trimmed. -/
theorem any_isSeparator_trim (several : 2 ≤ (words cs).length ∨ ',' ∈ cs) :
    (Text.trim cs).any isSeparator = true := by
  rcases several with several | comma
  · refine Decidable.byContradiction fun free => ?_
    have free : ∀ c ∈ Text.trim cs, isSeparator c = false := by simpa using free
    rw [← words_trim] at several
    by_cases empty : Text.trim cs = []
    · rw [empty] at several
      exact absurd several (by decide)
    · rw [words_of_free free empty, List.length_singleton] at several
      exact absurd several (by decide)
  · obtain ⟨before, after, blankBefore, blankAfter, whole⟩ := Text.exists_stripped Text.isBlank cs
    rw [whole, List.mem_append, List.mem_append] at comma
    rcases comma with (inBefore | inside) | inAfter
    · exact absurd (blankBefore _ inBefore) (by decide)
    · exact List.any_eq_true.mpr ⟨_, inside, rfl⟩
    · exact absurd (blankAfter _ inAfter) (by decide)

end Words

/-- A symbol that can be set apart from others: it is not empty, and no separator is in it. -/
def Unbroken (symbol : Symbol) : Prop :=
  symbol ≠ "" ∧ ∀ c ∈ symbol.toList, isSeparator c = false

/-- A text of separators only. -/
def Separating (text : String) : Prop :=
  ∀ c ∈ text.toList, isSeparator c = true

/-- A text of white space only. -/
def Blank (text : String) : Prop :=
  ∀ c ∈ text.toList, Text.isBlank c = true

instance (symbol : Symbol) : Decidable (Unbroken symbol) :=
  have := List.decidableBAll (isSeparator · = false) symbol.toList
  inferInstanceAs (Decidable (symbol ≠ "" ∧ ∀ c ∈ symbol.toList, isSeparator c = false))

instance (text : String) : Decidable (Separating text) :=
  List.decidableBAll (isSeparator · = true) text.toList

instance (text : String) : Decidable (Blank text) :=
  List.decidableBAll (Text.isBlank · = true) text.toList

/-- A reader of inputs loses nothing but separators, and all symbols that have none can be entered
to it. -/
structure ReadsBack (read : String → List Symbol) : Prop where
  /-- The symbols that are read are unbroken, -/
  unbroken : ∀ text, ∀ symbol ∈ read text, Unbroken symbol
  /-- and together they are the input without its separators. -/
  complete : ∀ text, String.join (read text) = String.ofList (text.toList.filter (!isSeparator ·))
  /-- Several symbols are entered with a gap before each but the first, -/
  several : ∀ (before first : String) (rest : List (String × Symbol)) (after : String),
    Separating before → Separating after → Unbroken first → rest ≠ [] →
      (∀ part ∈ rest, part.1 ≠ "" ∧ Separating part.1 ∧ Unbroken part.2) →
        read (before ++ first ++ String.join (rest.map fun part => part.1 ++ part.2) ++ after) =
          first :: rest.map Prod.snd
  /-- one symbol is entered with a comma after it, -/
  one : ∀ before symbol between after : String,
    Separating before → Separating between → Separating after → Unbroken symbol →
      read (before ++ symbol ++ between ++ "," ++ after) = [symbol]
  /-- and symbols of one character are entered without gaps, with white space around them. -/
  plain : ∀ (before : String) (symbols : List Symbol) (after : String),
    Blank before → Blank after → (∀ symbol ∈ symbols, symbol.length = 1 ∧ Unbroken symbol) →
      read (before ++ String.join symbols ++ after) = symbols
  /-- So the unbroken symbols are those that can be entered, in any number and order. -/
  entered : ∀ symbols, (∃ text, read text = symbols) ↔ ∀ symbol ∈ symbols, Unbroken symbol

section Symbols

variable {text before after : String} {symbol : Symbol}

/-- The symbols of an input are its words if a separator is left when it is trimmed, and its
characters if none is. -/
theorem inputSymbols_eq (text : String) :
    inputSymbols text =
      if (Text.trim text.toList).any isSeparator then (words text.toList).map String.ofList
      else (Text.trim text.toList).map fun c => String.ofList [c] := by
  rw [← words_trim]
  unfold inputSymbols
  dsimp only
  split
  · rfl
  · exact List.map_map

/-- The symbols of an input are its words if there are several, or a comma. -/
theorem inputSymbols_eq_words (several : 2 ≤ (words text.toList).length ∨ ',' ∈ text.toList) :
    inputSymbols text = (words text.toList).map String.ofList := by
  rw [inputSymbols_eq, if_pos (any_isSeparator_trim several)]

theorem unbroken_ofList {cs : List Char} :
    Unbroken (String.ofList cs) ↔ cs ≠ [] ∧ ∀ c ∈ cs, isSeparator c = false := by
  rw [Unbroken, String.toList_ofList, Ne, ← String.toList_eq_nil_iff, String.toList_ofList]

/-- Every symbol of an input can be set apart. -/
theorem unbroken_of_mem (member : symbol ∈ inputSymbols text) : Unbroken symbol := by
  rw [inputSymbols_eq] at member
  split at member
  · obtain ⟨word, inside, rfl⟩ := List.mem_map.mp member
    exact unbroken_ofList.mpr (mem_words inside)
  · next free =>
    obtain ⟨c, inside, rfl⟩ := List.mem_map.mp member
    have free : ∀ c ∈ Text.trim text.toList, isSeparator c = false := by simpa using free
    exact unbroken_ofList.mpr ⟨List.cons_ne_nil _ _, by simpa using free c inside⟩

theorem join_map_ofList (parts : List (List Char)) :
    String.join (parts.map String.ofList) = String.ofList parts.flatten := by
  rw [← String.toList_inj, String.toList_join, String.toList_ofList, List.flatMap_map]
  simp only [String.toList_ofList, List.flatMap_id']

/-- No character but a separator is lost, and the order is kept. -/
theorem join_inputSymbols (text : String) :
    String.join (inputSymbols text) = String.ofList (text.toList.filter (!isSeparator ·)) := by
  rw [inputSymbols_eq, ← flatten_words]
  split
  · exact join_map_ofList _
  · next free =>
    have all : (Text.trim text.toList).filter (!isSeparator ·) = Text.trim text.toList :=
      List.filter_eq_self.mpr (by simpa using free)
    have singles : (Text.trim text.toList).map (fun c => String.ofList [c]) =
        ((Text.trim text.toList).map fun c => [c]).map String.ofList := by
      rw [List.map_map]
      rfl
    rw [singles, join_map_ofList, ← words_trim, flatten_words, all, ← List.flatMap_def,
      List.flatMap_singleton']

theorem Unbroken.words_eq (unbroken : Unbroken symbol) :
    words symbol.toList = [symbol.toList] :=
  words_of_free unbroken.2 (mt String.toList_eq_nil_iff.mp unbroken.1)

/-- The words of symbols with gaps before them. -/
theorem words_append_join {rest : List (String × Symbol)}
    (apart : ∀ part ∈ rest, part.1 ≠ "" ∧ Separating part.1 ∧ Unbroken part.2) (cs : List Char) :
    words (cs ++ (String.join (rest.map fun part => part.1 ++ part.2)).toList) =
      words cs ++ rest.map (·.2.toList) := by
  induction rest generalizing cs with
  | nil => simp
  | cons part rest inductionHypothesis =>
    obtain ⟨gap, symbol⟩ := part
    obtain ⟨⟨nonempty, separating, unbroken⟩, apart⟩ := List.forall_mem_cons.mp apart
    have gapChars : gap.toList ≠ [] := mt String.toList_eq_nil_iff.mp nonempty
    rw [List.map_cons, String.join_cons, String.toList_append, String.toList_append,
      List.append_assoc, ← List.append_assoc cs, words_between separating gapChars,
      inductionHypothesis apart, unbroken.words_eq]
    rfl

/-- Several symbols with gaps between them are read back. -/
theorem inputSymbols_of_several {first : Symbol} {rest : List (String × Symbol)}
    (separatingBefore : Separating before) (separatingAfter : Separating after)
    (unbroken : Unbroken first) (more : rest ≠ [])
    (apart : ∀ part ∈ rest, part.1 ≠ "" ∧ Separating part.1 ∧ Unbroken part.2) :
    inputSymbols (before ++ first ++ String.join (rest.map fun part => part.1 ++ part.2) ++ after) =
      first :: rest.map Prod.snd := by
  have divided : words (before ++ first ++ String.join (rest.map fun part => part.1 ++ part.2) ++
      after).toList = first.toList :: rest.map (·.2.toList) := by
    simp only [String.toList_append]
    rw [words_after separatingAfter, List.append_assoc, words_before separatingBefore,
      words_append_join apart, unbroken.words_eq]
    rfl
  have several : 2 ≤ (first.toList :: rest.map (·.2.toList)).length := by
    simpa [Nat.succ_le_iff] using List.length_pos_iff.mpr more
  rw [inputSymbols_eq_words (.inl (divided ▸ several)), divided]
  simp

/-- One symbol with a comma after it is read back. -/
theorem inputSymbols_of_comma {between : String} (separatingBefore : Separating before)
    (separatingBetween : Separating between) (separatingAfter : Separating after)
    (unbroken : Unbroken symbol) :
    inputSymbols (before ++ symbol ++ between ++ "," ++ after) = [symbol] := by
  have separatingComma : Separating "," := by decide
  have divided : words (before ++ symbol ++ between ++ "," ++ after).toList = [symbol.toList] := by
    simp only [String.toList_append]
    rw [words_after separatingAfter, words_after separatingComma, words_after separatingBetween,
      words_before separatingBefore, unbroken.words_eq]
  have comma : ',' ∈ (before ++ symbol ++ between ++ "," ++ after).toList := by simp
  rw [inputSymbols_eq_words (.inr comma), divided]
  simp

theorem map_ofList_join {symbols : List Symbol} (single : ∀ symbol ∈ symbols, symbol.length = 1) :
    (String.join symbols).toList.map (fun c => String.ofList [c]) = symbols := by
  induction symbols with
  | nil => rfl
  | cons symbol rest inductionHypothesis =>
    obtain ⟨length, single⟩ := List.forall_mem_cons.mp single
    rw [← String.length_toList, List.length_eq_one_iff] at length
    obtain ⟨c, chars⟩ := length
    rw [String.join_cons, String.toList_append, List.map_append, inductionHypothesis single, chars,
      List.map_singleton, ← chars, String.ofList_toList]
    rfl

/-- Symbols of one character are read back from their characters. -/
theorem inputSymbols_of_characters {symbols : List Symbol} (blankBefore : Blank before)
    (blankAfter : Blank after)
    (single : ∀ symbol ∈ symbols, symbol.length = 1 ∧ Unbroken symbol) :
    inputSymbols (before ++ String.join symbols ++ after) = symbols := by
  have free : ∀ c ∈ (String.join symbols).toList, isSeparator c = false := by
    intro c member
    rw [String.toList_join] at member
    obtain ⟨symbol, listed, inside⟩ := List.mem_flatMap.mp member
    exact (single symbol listed).2.2 c inside
  have kept : ∀ c ∈ (String.join symbols).toList, Text.isBlank c = false := fun c member =>
    (Bool.or_eq_false_iff.mp (free c member)).1
  have trimmed : Text.trim (before ++ String.join symbols ++ after).toList =
      (String.join symbols).toList := by
    rw [String.toList_append, String.toList_append]
    exact Text.stripped_append blankBefore blankAfter kept
  have none : (String.join symbols).toList.any isSeparator = false :=
    List.any_eq_false.mpr fun c member => by simp [free c member]
  rw [inputSymbols_eq, trimmed, none, if_neg Bool.false_ne_true,
    map_ofList_join fun symbol listed => (single symbol listed).1]

/-- Unbroken symbols can be entered with commas, after the symbol if it is the only one, and between
them if there are more. -/
theorem exists_input {symbols : List Symbol} (unbroken : ∀ symbol ∈ symbols, Unbroken symbol) :
    ∃ text, inputSymbols text = symbols := by
  have nothing : Separating "" := by decide
  match symbols with
  | [] => exact ⟨"", rfl⟩
  | [symbol] =>
    have alone := unbroken symbol List.mem_cons_self
    exact ⟨_, inputSymbols_of_comma nothing nothing nothing alone⟩
  | first :: second :: rest =>
    obtain ⟨unbrokenFirst, unbrokenRest⟩ := List.forall_mem_cons.mp unbroken
    have comma : "," ≠ "" ∧ Separating "," := by decide
    have apart : ∀ part ∈ (second :: rest).map (Prod.mk ","),
        part.1 ≠ "" ∧ Separating part.1 ∧ Unbroken part.2 := by
      intro part member
      obtain ⟨symbol, listed, rfl⟩ := List.mem_map.mp member
      exact ⟨comma.1, comma.2, unbrokenRest symbol listed⟩
    have entered := inputSymbols_of_several nothing nothing unbrokenFirst
      (List.cons_ne_nil _ _) apart
    have same : ((second :: rest).map (Prod.mk ",")).map Prod.snd = second :: rest := by
      rw [List.map_map]
      exact List.map_id _
    exact ⟨_, entered.trans (congrArg (first :: ·) same)⟩

/-- The symbols of inputs can be read back from what is entered. -/
theorem readsBack_inputSymbols : ReadsBack inputSymbols where
  unbroken _ _ := unbroken_of_mem
  complete := join_inputSymbols
  several _ _ _ _ := inputSymbols_of_several
  one _ _ _ _ := inputSymbols_of_comma
  plain _ _ _ := inputSymbols_of_characters
  entered _ := ⟨fun ⟨_, read⟩ _ member => unbroken_of_mem (read ▸ member), exists_input⟩

/-- The same symbols, entered in three ways, and a symbol of two characters. -/
theorem readsBack_four_symbols :
    inputSymbols "C A C 0" = ["C", "A", "C", "0"] ∧
      inputSymbols " ,C,, A\tC ,0," = ["C", "A", "C", "0"] ∧
      inputSymbols "\u00a0CAC0\n" = ["C", "A", "C", "0"] ∧ inputSymbols "q0 , " = ["q0"] := by
  have read := readsBack_inputSymbols
  refine ⟨?_, ?_, ?_, ?_⟩
  · exact read.several "" "C" [(" ", "A"), (" ", "C"), (" ", "0")] "" (by decide) (by decide)
      (by decide) (by decide) (by decide)
  · exact read.several " ," "C" [(",, ", "A"), ("\t", "C"), (" ,", "0")] "," (by decide)
      (by decide) (by decide) (by decide) (by decide)
  · exact read.plain "\u00a0" ["C", "A", "C", "0"] "\n" (by decide) (by decide) (by decide)
  · exact read.one "" "q0" " " " " (by decide) (by decide) (by decide) (by decide)

end Symbols

end Acceptor
