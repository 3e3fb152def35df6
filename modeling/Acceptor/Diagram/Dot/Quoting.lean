/-!
# Words of the DOT language

How a text is written as an identifier or attribute value of the graph language DOT: as it is where
the language allows it, otherwise in double quotes. A text in angle brackets is written as it is
too, and is then markup to a reader rather than text.

The program leaves the writing to the package `graphviz`, so whatever writes words is a parameter of
the drawings, and what is granted of it is `QuotingRule`. The program draws with `quote`. The rule
leaves no choice: whatever follows it writes what `quote` writes (`QuotingRule.eq_quote`).
-/

namespace Acceptor.Dot

/-- The characters a bare word can start with. -/
def isWordStart (c : Char) : Bool :=
  c.isAlpha || c == '_'

/-- A bare word: letters, digits and underscores of ASCII, no digit first. -/
def isWord : List Char → Bool
  | [] => false
  | c :: cs => isWordStart c && cs.all fun d => isWordStart d || d.isDigit

/-- Digits, at least one. -/
def isDigits (cs : List Char) : Bool :=
  !cs.isEmpty && cs.all Char.isDigit

/-- A number without a sign: digits, a point and digits, or digits and a point with any digits. -/
def isUnsignedNumeral (cs : List Char) : Bool :=
  let whole := cs.takeWhile Char.isDigit
  match cs.dropWhile Char.isDigit with
  | [] => !whole.isEmpty
  | '.' :: fraction =>
    if whole.isEmpty then isDigits fraction else fraction.all Char.isDigit
  | _ => false

/-- A number, which a minus sign may lead. -/
def isNumeral : List Char → Bool
  | '-' :: cs => isUnsignedNumeral cs
  | cs => isUnsignedNumeral cs

/-- The words with a meaning of their own, in lower case. -/
def keywords : List String :=
  ["node", "edge", "graph", "digraph", "subgraph", "strict"]

/-- A word with a meaning of its own, in any case. -/
def isKeyword (cs : List Char) : Bool :=
  keywords.contains (String.ofList (cs.map Char.toLower))

/-- A text in angle brackets. -/
def isMarkup : List Char → Bool
  | '<' :: cs => cs.getLast? == some '>'
  | _ => false

/-- A text that is written without quotes. -/
def isBare (cs : List Char) : Bool :=
  (isWord cs || isNumeral cs) && !isKeyword cs

/-- A text as it stands between double quotes. `pending` backslashes have been read but not
written: before a double quote an odd one among them is dropped, so that the quote is escaped by
exactly the backslash written for it; elsewhere they stay as they are. -/
def escapeQuotes (pending : Nat) : List Char → List Char
  | [] => List.replicate pending '\\'
  | '\\' :: cs => escapeQuotes (pending + 1) cs
  | '"' :: cs => List.replicate (pending - pending % 2) '\\' ++ '\\' :: '"' :: escapeQuotes 0 cs
  | c :: cs => List.replicate pending '\\' ++ c :: escapeQuotes 0 cs

/-- A text as an identifier or attribute value. -/
def quote (text : String) : String :=
  let cs := text.toList
  if isMarkup cs || isBare cs then text
  else String.ofList ('"' :: escapeQuotes 0 cs ++ ['"'])

/-- A text with a backslash before each double quote that is not escaped already. An odd number of
backslashes escapes what follows them, and `escaped` says that the text follows such a number. -/
def escapeUnescaped (escaped : Bool) : List Char → List Char
  | [] => []
  | '\\' :: cs => '\\' :: escapeUnescaped (!escaped) cs
  | '"' :: cs => (if escaped then ['"'] else ['\\', '"']) ++ escapeUnescaped false cs
  | c :: cs => c :: escapeUnescaped false cs

/-- What is granted of a writer of words. -/
structure QuotingRule (write : String → String) : Prop where
  /-- A text in angle brackets is left as it is, -/
  markup : ∀ text, isMarkup text.toList = true → write text = text
  /-- an identifier or number that is no keyword is written bare, -/
  bare : ∀ text, isBare text.toList = true → write text = text
  /-- and any other text stands in double quotes, where no more than its unescaped quotes is
  escaped. -/
  quoted : ∀ text, isMarkup text.toList = false → isBare text.toList = false →
    (write text).toList = '"' :: (escapeUnescaped false text.toList ++ ['"'])

/-- Backslashes that are kept back until it is known what follows them are written all the same. -/
theorem escapeQuotes_eq (pending : Nat) (cs : List Char) :
    escapeQuotes pending cs =
      List.replicate pending '\\' ++ escapeUnescaped (pending % 2 == 1) cs := by
  fun_induction escapeQuotes pending cs with
  | case1 pending => rw [escapeUnescaped, List.append_nil]
  | case2 pending cs inductionHypothesis =>
    have parity : ((pending + 1) % 2 == 1) = !(pending % 2 == 1) := by
      rcases Nat.mod_two_eq_zero_or_one pending with even | odd
      · simp [Nat.add_mod, even]
      · simp [Nat.add_mod, odd]
    rw [inductionHypothesis, parity, escapeUnescaped, List.replicate_succ', List.append_assoc,
      List.singleton_append]
  | case3 pending cs inductionHypothesis =>
    have rest : escapeQuotes 0 cs = escapeUnescaped false cs := inductionHypothesis
    rw [rest, escapeUnescaped]
    rcases Nat.mod_two_eq_zero_or_one pending with even | odd
    · simp [even]
    · -- The last one of an odd number of backslashes is the one that escapes the quote.
      obtain ⟨before, rfl⟩ : ∃ before, pending = before + 1 := ⟨pending - 1, by omega⟩
      simp [odd, List.replicate_succ']
  | case4 pending c cs notBackslash notQuote inductionHypothesis =>
    have rest : escapeQuotes 0 cs = escapeUnescaped false cs := inductionHypothesis
    rw [rest, escapeUnescaped]
    · exact notBackslash
    · exact notQuote

theorem quotingRule_quote : QuotingRule quote where
  markup text markup := if_pos (Bool.or_eq_true_iff.mpr (.inl markup))
  bare text bare := if_pos (Bool.or_eq_true_iff.mpr (.inr bare))
  quoted text notMarkup notBare := by
    have escaped : escapeQuotes 0 text.toList = escapeUnescaped false text.toList :=
      escapeQuotes_eq 0 text.toList
    rw [quote, if_neg (by simp [notMarkup, notBare]), String.toList_ofList, escaped,
      List.cons_append]

/-- Whatever follows the rule writes every word in the same way. -/
theorem QuotingRule.eq_quote {write : String → String} (rule : QuotingRule write) :
    write = quote := by
  funext text
  cases markup : isMarkup text.toList with
  | true => rw [rule.markup text markup, quotingRule_quote.markup text markup]
  | false =>
    cases bare : isBare text.toList with
    | true => rw [rule.bare text bare, quotingRule_quote.bare text bare]
    | false =>
      apply String.toList_inj.mp
      rw [rule.quoted text markup bare, quotingRule_quote.quoted text markup bare]

end Acceptor.Dot
