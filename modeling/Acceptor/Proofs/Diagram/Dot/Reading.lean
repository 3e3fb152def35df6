import Acceptor.Diagram.Dot.Statement
import Acceptor.Proofs.Diagram.Dot.Lexing

/-!
# Reading graph texts

A reader for the part of the DOT language that drawings are written in: a directed graph without a
name whose statements stand in lines, each with one list of attributes, and with the label in front
of the attributes of nodes and edges. Markup is no text, so nothing is read where it stands for a
value. The reader is exact on tokens (`readGraph_eq_some_iff`), so a
written graph is read back as its statements exactly if its words are (`read_renderGraph_iff`).
-/

namespace Acceptor.Dot

/-! ### Tokens and statements -/

/-- The kinds of things that have attributes to start from. -/
def defaultKinds : List String := ["graph", "node", "edge"]

/-- Attributes to start from are set for a kind of things. -/
def Statement.Known : Statement → Prop
  | .defaults kind _ => kind ∈ defaultKinds
  | .setting _ | .node .. | .edge .. => True

/-- The words of an attribute, which are written with `quote`. -/
def Attribute.words (pair : Attribute) : List String :=
  [pair.name, pair.value]

/-- The words of a statement. -/
def Statement.words : Statement → List String
  | .setting value => value.words
  | .defaults _ attributes => attributes.flatMap Attribute.words
  | .node id label attributes =>
    id :: (⟨"label", label⟩ :: attributes).flatMap Attribute.words
  | .edge tail head label attributes =>
    tail :: head :: (⟨"label", label⟩ :: attributes).flatMap Attribute.words

/-- The tokens of an attribute. -/
def Attribute.tokens (pair : Attribute) : List Token :=
  [.text pair.name, .sign .equals, .text pair.value]

/-- The tokens of attributes in brackets. -/
def attributeTokens (attributes : List Attribute) : List Token :=
  .sign .openBracket :: (attributes.flatMap Attribute.tokens ++ [.sign .closeBracket])

/-- The tokens of a statement. -/
def Statement.tokens : Statement → List Token
  | .setting value => value.tokens
  | .defaults kind attributes => .keyword kind :: attributeTokens attributes
  | .node id label attributes => .text id :: attributeTokens (⟨"label", label⟩ :: attributes)
  | .edge tail head label attributes =>
    .text tail :: .arrow :: .text head :: attributeTokens (⟨"label", label⟩ :: attributes)

/-- The tokens of a graph. -/
def graphTokens (statements : List Statement) : List Token :=
  .keyword "digraph" :: .sign .openBrace ::
    (statements.flatMap Statement.tokens ++ [.sign .closeBrace])

/-- Reads attributes up to the closing bracket. -/
def readAttributes : List Token → Option (List Attribute × List Token)
  | .sign .closeBracket :: rest => some ([], rest)
  | .text name :: .sign .equals :: .text value :: rest =>
    (readAttributes rest).map fun (attributes, rest) => (⟨name, value⟩ :: attributes, rest)
  | _ => none

/-- Reads attributes that a label leads. -/
def readLabelled (tokens : List Token) : Option (String × List Attribute × List Token) :=
  match readAttributes tokens with
  | some (⟨"label", label⟩ :: attributes, rest) => some (label, attributes, rest)
  | _ => none

/-- Reads a statement. -/
def readStatement : List Token → Option (Statement × List Token)
  | .text name :: .sign .equals :: .text value :: rest => some (.setting ⟨name, value⟩, rest)
  | .keyword kind :: .sign .openBracket :: rest =>
    if kind ∈ defaultKinds then
      (readAttributes rest).map fun (attributes, rest) => (.defaults kind attributes, rest)
    else none
  | .text id :: .sign .openBracket :: rest =>
    (readLabelled rest).map fun (label, attributes, rest) => (.node id label attributes, rest)
  | .text tail :: .arrow :: .text head :: .sign .openBracket :: rest =>
    (readLabelled rest).map fun (label, attributes, rest) =>
      (.edge tail head label attributes, rest)
  | _ => none

theorem readAttributes_eq_some_iff {tokens rest : List Token} {attributes : List Attribute} :
    readAttributes tokens = some (attributes, rest) ↔
      tokens = attributes.flatMap Attribute.tokens ++ .sign .closeBracket :: rest := by
  constructor
  · intro read
    fun_induction readAttributes tokens generalizing attributes with
    | case1 rest =>
      obtain ⟨rfl, rfl⟩ := Prod.mk.inj (Option.some.inj read)
      rfl
    | case2 name value others inductionHypothesis =>
      obtain ⟨⟨more, left⟩, readMore, same⟩ := Option.map_eq_some_iff.mp read
      obtain ⟨rfl, rfl⟩ := Prod.mk.inj same
      rw [inductionHypothesis readMore]
      rfl
    | case3 => cases read
  · rintro rfl
    induction attributes with
    | nil => rfl
    | cons first others inductionHypothesis =>
      simp [Attribute.tokens, readAttributes, inductionHypothesis]

theorem readLabelled_eq_some_iff {tokens rest : List Token} {label : String}
    {attributes : List Attribute} :
    readLabelled tokens = some (label, attributes, rest) ↔
      tokens = (⟨"label", label⟩ :: attributes).flatMap Attribute.tokens ++
        .sign .closeBracket :: rest := by
  rw [← readAttributes_eq_some_iff, readLabelled]
  split
  · next read => simp [read, and_assoc]
  · next others =>
    constructor
    · nofun
    · intro read
      exact absurd read (others _ _ _)

/-- A statement is read exactly from its tokens. -/
theorem readStatement_eq_some_iff {tokens rest : List Token} {statement : Statement} :
    readStatement tokens = some (statement, rest) ↔
      statement.Known ∧ tokens = statement.tokens ++ rest := by
  constructor
  · intro read
    unfold readStatement at read
    split at read
    · obtain ⟨rfl, rfl⟩ := Prod.mk.inj (Option.some.inj read)
      exact ⟨trivial, rfl⟩
    · split_ifs at read with known
      obtain ⟨⟨attributes, left⟩, readMore, same⟩ := Option.map_eq_some_iff.mp read
      obtain ⟨rfl, rfl⟩ := Prod.mk.inj same
      rw [readAttributes_eq_some_iff.mp readMore]
      exact ⟨known, by simp [Statement.tokens, attributeTokens]⟩
    · obtain ⟨⟨label, attributes, left⟩, readMore, same⟩ := Option.map_eq_some_iff.mp read
      obtain ⟨rfl, rfl⟩ := Prod.mk.inj same
      rw [readLabelled_eq_some_iff.mp readMore]
      exact ⟨trivial, by simp [Statement.tokens, attributeTokens]⟩
    · obtain ⟨⟨label, attributes, left⟩, readMore, same⟩ := Option.map_eq_some_iff.mp read
      obtain ⟨rfl, rfl⟩ := Prod.mk.inj same
      rw [readLabelled_eq_some_iff.mp readMore]
      exact ⟨trivial, by simp [Statement.tokens, attributeTokens]⟩
    · cases read
  · rintro ⟨known, rfl⟩
    cases statement with
    | setting value => rfl
    | defaults kind attributes =>
      have read : readAttributes (attributes.flatMap Attribute.tokens ++
          .sign .closeBracket :: rest) = some (attributes, rest) :=
        readAttributes_eq_some_iff.mpr rfl
      have known : kind ∈ defaultKinds := known
      simp [Statement.tokens, attributeTokens, readStatement, known, read]
    | node id label attributes =>
      have read : readLabelled ((⟨"label", label⟩ :: attributes).flatMap Attribute.tokens ++
          .sign .closeBracket :: rest) = some (label, attributes, rest) :=
        readLabelled_eq_some_iff.mpr rfl
      simpa [Statement.tokens, attributeTokens, readStatement] using read
    | edge tail head label attributes =>
      have read : readLabelled ((⟨"label", label⟩ :: attributes).flatMap Attribute.tokens ++
          .sign .closeBracket :: rest) = some (label, attributes, rest) :=
        readLabelled_eq_some_iff.mpr rfl
      simpa [Statement.tokens, attributeTokens, readStatement] using read

theorem readStatement_tokens {statement : Statement} (known : statement.Known)
    (rest : List Token) : readStatement (statement.tokens ++ rest) = some (statement, rest) :=
  readStatement_eq_some_iff.mpr ⟨known, rfl⟩

/-- No statement begins with a sign. -/
theorem tokens_ne_sign (statement : Statement) (sign : Sign) (rest others : List Token) :
    statement.tokens ++ rest ≠ .sign sign :: others := by
  cases statement <;> simp [Statement.tokens, Attribute.tokens]

theorem tokens_ne_nil (statement : Statement) : statement.tokens ≠ [] := by
  cases statement <;> simp [Statement.tokens, Attribute.tokens]

theorem length_lt_of_readStatement {tokens rest : List Token} {statement : Statement}
    (read : readStatement tokens = some (statement, rest)) : rest.length < tokens.length := by
  have filled := List.length_pos_iff.mpr (tokens_ne_nil statement)
  rw [(readStatement_eq_some_iff.mp read).2, List.length_append]
  omega

/-- Reads statements up to the closing brace. -/
def readStatements (tokens : List Token) : Option (List Statement) :=
  if tokens = [.sign .closeBrace] then some []
  else
    match read : readStatement tokens with
    | none => none
    | some (statement, rest) =>
      have : rest.length < tokens.length := length_lt_of_readStatement read
      (readStatements rest).map (statement :: ·)
  termination_by tokens.length

/-- Reads a graph without a name. -/
def readGraph : List Token → Option (List Statement)
  | .keyword "digraph" :: .sign .openBrace :: rest => readStatements rest
  | _ => none

/-- The statements of a graph text. -/
def read (text : String) : Option (List Statement) :=
  (tokens? text).bind readGraph

theorem readStatements_eq_some_iff {tokens : List Token} {statements : List Statement} :
    readStatements tokens = some statements ↔
      (∀ statement ∈ statements, statement.Known) ∧
        tokens = statements.flatMap Statement.tokens ++ [.sign .closeBrace] := by
  constructor
  · intro read
    fun_induction readStatements tokens generalizing statements with
    | case1 =>
      obtain rfl := Option.some.inj read
      exact ⟨nofun, rfl⟩
    | case2 => cases read
    | case3 tokens notClosed statement rest readFirst shorter inductionHypothesis =>
      obtain ⟨others, readOthers, rfl⟩ := Option.map_eq_some_iff.mp read
      obtain ⟨known, rfl⟩ := readStatement_eq_some_iff.mp readFirst
      obtain ⟨knownOthers, rfl⟩ := inductionHypothesis readOthers
      exact ⟨List.forall_mem_cons.mpr ⟨known, knownOthers⟩, by simp⟩
  · rintro ⟨known, rfl⟩
    induction statements with
    | nil => simp [readStatements]
    | cons first others inductionHypothesis =>
      obtain ⟨knownFirst, knownOthers⟩ := List.forall_mem_cons.mp known
      have readFirst := readStatement_tokens knownFirst
        (others.flatMap Statement.tokens ++ [.sign .closeBrace])
      rw [List.flatMap_cons, List.append_assoc, readStatements,
        if_neg (tokens_ne_sign first .closeBrace _ _)]
      split
      · next unread =>
        rw [readFirst] at unread
        cases unread
      · next readAgain =>
        obtain ⟨rfl, rfl⟩ := Prod.mk.inj (Option.some.inj (readFirst.symm.trans readAgain))
        rw [inductionHypothesis knownOthers]
        rfl

/-- A graph is read exactly from its tokens. -/
theorem readGraph_eq_some_iff {tokens : List Token} {statements : List Statement} :
    readGraph tokens = some statements ↔
      (∀ statement ∈ statements, statement.Known) ∧ tokens = graphTokens statements := by
  unfold readGraph graphTokens
  split
  · rw [readStatements_eq_some_iff, List.cons.injEq, List.cons.injEq]
    simp only [true_and]
  · next others =>
    constructor
    · nofun
    · rintro ⟨-, rfl⟩
      exact absurd rfl (others _)

/-! ### From characters to tokens -/

/-- A text that is read as some tokens if its words are: it goes on from piece to piece, and every
piece is either no word, and read in any case, or a word before a character that ends it. -/
inductive Laid : List Char → List Token → List String → Prop
  | nil : Laid [] [] []
  | piece {before cs tokens words} (read : List Token)
      (scanned : scan .between before = (scan .between cs).map (read ++ ·))
      (laid : Laid cs tokens words) : Laid before (read ++ tokens) words
  | word {text c cs tokens words} (oneLine : '\n' ∉ text.toList) (ends : endsWord c = true)
      (laid : Laid (c :: cs) tokens words) :
      Laid ((quote text).toList ++ c :: cs) (.text text :: tokens) (text :: words)

namespace Laid

variable {cs : List Char} {tokens : List Token} {words : List String} {c : Char}

/-- The words decide whether a text is read as its tokens. -/
theorem scan_eq_some_iff (laid : Laid cs tokens words) :
    scan .between cs = some tokens ↔ ∀ word ∈ words, Verbatim word := by
  induction laid with
  | nil => simp [scan, finish]
  | piece read scanned laid inductionHypothesis =>
    rw [scanned, ← inductionHypothesis, Option.map_eq_some_iff]
    simp
  | @word text c cs tokens words oneLine ends laid inductionHypothesis =>
    rw [List.forall_mem_cons]
    by_cases verbatim : Verbatim text
    · rw [scan_quote verbatim oneLine ends, ← inductionHypothesis, Option.map_eq_some_iff]
      simp [verbatim]
    · simp only [verbatim, false_and, iff_false]
      exact scan_quote_ne verbatim oneLine _ _

theorem space (blank : isSpace c = true) (laid : Laid cs tokens words) :
    Laid (c :: cs) tokens words := by
  refine piece [] ?_ laid
  have skipped : begin? c = some ([], .between) := by
    have among : c = ' ' ∨ c = '\t' ∨ c = '\n' ∨ c = '\x0d' := by
      simpa [isSpace, or_assoc] using blank
    rcases among with rfl | rfl | rfl | rfl <;> decide
  simp [scan, step.eq_1, skipped]

theorem sign (sign : Sign) (laid : Laid cs tokens words) :
    Laid (sign.char :: cs) (.sign sign :: tokens) words := by
  refine piece [.sign sign] ?_ laid
  have begun : begin? sign.char = some ([.sign sign], .between) := by
    cases sign <;> decide
  simp [scan, step.eq_1, begun]

theorem arrow (laid : Laid cs tokens words) : Laid ('-' :: '>' :: cs) (.arrow :: tokens) words := by
  refine piece [.arrow] ?_ laid
  have begun : step .between '-' = some ([], .minus) := by decide
  have ended : step .minus '>' = some ([.arrow], .between) := by decide
  rw [scan_onward begun, scan, ended]
  rfl

theorem keyword (word : String) (known : word ∈ "digraph" :: defaultKinds)
    (ends : endsWord c = true) (laid : Laid (c :: cs) tokens words) :
    Laid (word.toList ++ c :: cs) (.keyword word :: tokens) words := by
  refine piece [.keyword word] ?_ laid
  have name : isWord word.toList = true ∧ nameToken word.toList = .keyword word := by
    rcases List.mem_cons.mp known with rfl | known
    · decide +kernel
    · revert word
      decide +kernel
  rw [scan_word name.1 ends, name.2]
  rfl

/-- A comment up to the end of its line. -/
theorem comment (title : List Char) (oneLine : '\n' ∉ title) (laid : Laid cs tokens words) :
    Laid ('/' :: '/' :: (title ++ '\n' :: cs)) tokens words := by
  refine piece [] ?_ laid
  have begun : step .between '/' = some ([], .slash) := by decide
  have passed : scan .lineComment (title ++ '\n' :: cs) = scan .between cs := by
    clear laid
    induction title with
    | nil => simp [scan, step]
    | cons d title inductionHypothesis =>
      have notLineFeed := (List.ne_of_not_mem_cons oneLine).symm
      have onward := inductionHypothesis (List.not_mem_of_not_mem_cons oneLine)
      simpa [scan, step, notLineFeed] using onward
  rw [scan_onward begun, scan_onward rfl, passed]
  exact Option.map_id'.symm

theorem pair {pair : Attribute} (oneLine : ∀ word ∈ pair.words, '\n' ∉ word.toList)
    (ends : endsWord c = true) (laid : Laid (c :: cs) tokens words) :
    Laid ((pair.render quote).toList ++ c :: cs) (pair.tokens ++ tokens) (pair.words ++ words) := by
  have value := word (oneLine pair.value (by simp [Attribute.words])) ends laid
  have equals := value.sign .equals
  have name := word (oneLine pair.name (by simp [Attribute.words])) (by decide) equals
  simpa [Attribute.render, Attribute.tokens, Attribute.words, Sign.char] using name

/-- Attributes are told apart by the blanks between them. -/
theorem bracketed {attributes : List Attribute}
    (oneLine : ∀ word ∈ attributes.flatMap Attribute.words, '\n' ∉ word.toList)
    (laid : Laid cs tokens words) :
    Laid ((renderAttributes quote attributes).toList ++ cs) (attributeTokens attributes ++ tokens)
      (attributes.flatMap Attribute.words ++ words) := by
  have inner : Laid ([' '].intercalate (attributes.map fun pair => (pair.render quote).toList) ++ ']' :: cs)
      (attributes.flatMap Attribute.tokens ++ .sign .closeBracket :: tokens)
      (attributes.flatMap Attribute.words ++ words) := by
    have closed : Laid (']' :: cs) (.sign .closeBracket :: tokens) words := laid.sign .closeBracket
    induction attributes with
    | nil => exact closed
    | cons first others inductionHypothesis =>
      rw [List.flatMap_cons] at oneLine
      have oneLineFirst := fun word member => oneLine word (List.mem_append_left _ member)
      have rest := inductionHypothesis fun word member =>
        oneLine word (List.mem_append_right _ member)
      cases others with
      | nil => simpa using Laid.pair oneLineFirst (by decide) closed
      | cons second others =>
        have spaced := rest.space (c := ' ') (by decide)
        simpa [List.intercalate_cons_cons] using Laid.pair oneLineFirst (by decide) spaced
  have opened := inner.sign .openBracket
  simpa [renderAttributes, attributeTokens, Sign.char, Function.comp_def] using opened

theorem statement {statement : Statement} (known : statement.Known)
    (oneLine : ∀ word ∈ statement.words, '\n' ∉ word.toList) (laid : Laid cs tokens words) :
    Laid ((statement.render quote).toList ++ '\n' :: cs) (statement.tokens ++ tokens)
      (statement.words ++ words) := by
  have ended := laid.space (c := '\n') (by decide)
  cases statement with
  | setting value => exact Laid.pair oneLine (by decide) ended
  | defaults kind attributes =>
    have listed := (bracketed oneLine ended).space (c := ' ') (by decide)
    have kind := listed.keyword kind (List.mem_cons_of_mem _ known) (by decide)
    simpa [Statement.render, Statement.tokens, Statement.words] using kind
  | node id label attributes =>
    obtain ⟨oneLineId, oneLineRest⟩ := List.forall_mem_cons.mp oneLine
    have listed := (bracketed oneLineRest ended).space (c := ' ') (by decide)
    have named := word oneLineId (by decide) listed
    simpa [Statement.render, Statement.tokens, Statement.words] using named
  | edge tail head label attributes =>
    obtain ⟨oneLineTail, oneLineRest⟩ := List.forall_mem_cons.mp oneLine
    obtain ⟨oneLineHead, oneLineRest⟩ := List.forall_mem_cons.mp oneLineRest
    have listed := (bracketed oneLineRest ended).space (c := ' ') (by decide)
    have pointed := (word oneLineHead (by decide) listed).space (c := ' ') (by decide)
    have named := word oneLineTail (by decide) (pointed.arrow.space (c := ' ') (by decide))
    simpa [Statement.render, Statement.tokens, Statement.words] using named

theorem statements {statements : List Statement}
    (known : ∀ statement ∈ statements, statement.Known)
    (oneLine : ∀ word ∈ statements.flatMap Statement.words, '\n' ∉ word.toList)
    (laid : Laid cs tokens words) :
    Laid (statements.flatMap (fun statement => '\t' :: ((statement.render quote).toList ++ ['\n'])) ++ cs)
      (statements.flatMap Statement.tokens ++ tokens)
      (statements.flatMap Statement.words ++ words) := by
  induction statements with
  | nil => exact laid
  | cons first others inductionHypothesis =>
    obtain ⟨knownFirst, knownOthers⟩ := List.forall_mem_cons.mp known
    rw [List.flatMap_cons] at oneLine
    have rest := inductionHypothesis knownOthers fun word member =>
      oneLine word (List.mem_append_right _ member)
    have line := statement knownFirst (fun word member =>
      oneLine word (List.mem_append_left _ member)) rest
    simpa using line.space (c := '\t') (by decide)

/-- The text of a graph. -/
theorem graph {title : String} {statements : List Statement} (titleOneLine : '\n' ∉ title.toList)
    (known : ∀ statement ∈ statements, statement.Known)
    (oneLine : ∀ word ∈ statements.flatMap Statement.words, '\n' ∉ word.toList) :
    Laid (renderGraph quote title statements).toList (graphTokens statements)
      (statements.flatMap Statement.words) := by
  have closed := (nil.space (c := '\n') (by decide)).sign .closeBrace
  have inner := (Laid.statements known oneLine closed).space (c := '\n') (by decide)
  have opened := (inner.sign .openBrace).space (c := ' ') (by decide)
  have named := opened.keyword "digraph" (by decide) (by decide)
  have commented := named.comment (' ' :: title.toList) (by simpa using titleOneLine)
  simpa [renderGraph, graphTokens, Sign.char, List.flatMap_map] using commented

end Laid

/-- A written graph is read back as its statements exactly if all its words are verbatim. -/
theorem read_renderGraph_iff {write : String → String} (rule : QuotingRule write) {title : String}
    {statements : List Statement} (titleOneLine : '\n' ∉ title.toList) (known : ∀ statement ∈ statements, statement.Known)
    (oneLine : ∀ word ∈ statements.flatMap Statement.words, '\n' ∉ word.toList) :
    read (renderGraph write title statements) = some statements ↔
      ∀ word ∈ statements.flatMap Statement.words, Verbatim word := by
  rw [rule.eq_quote, ← (Laid.graph titleOneLine known oneLine).scan_eq_some_iff, read, Option.bind_eq_some_iff]
  simp only [readGraph_eq_some_iff, tokens?]
  constructor
  · rintro ⟨tokens, scanned, -, rfl⟩
    exact scanned
  · exact fun scanned => ⟨_, scanned, known, rfl⟩

end Acceptor.Dot
