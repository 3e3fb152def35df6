import Acceptor.Proofs.Diagram.Dot.Token
import Mathlib.Tactic.SplitIfs

/-!
# Reading written words

What the reader of tokens makes of a text that was written with `quote`. It comes back exactly if it
is `Verbatim`; otherwise what is read in its place is markup, a text that has lost a backslash, or
the beginning of something longer (`scan_quote`, `scan_quote_ne`). Bare words, which hold neither
quotes nor backslashes, always come back.
-/

namespace Acceptor.Dot

/-- Whether an even number of backslashes stands before each double quote and at the end, given how
many stand before the text. -/
def keepsPairs (pending : Nat) : List Char → Bool
  | [] => pending % 2 == 0
  | '\\' :: cs => keepsPairs (pending + 1) cs
  | '"' :: cs => pending % 2 == 0 && keepsPairs 0 cs
  | _ :: cs => keepsPairs 0 cs

/-- A text that is read back as it is: it does not stand in angle brackets, and before each double
quote and at its end the number of backslashes is even. -/
def Verbatim (text : String) : Prop :=
  isMarkup text.toList = false ∧ keepsPairs 0 text.toList = true

instance (text : String) : Decidable (Verbatim text) :=
  inferInstanceAs (Decidable (_ ∧ _))

/-- A character that ends no token is read with what has been begun. -/
theorem scan_onward {mode next : Mode} {c : Char} (begun : step mode c = some ([], next))
    (rest : List Char) : scan mode (c :: rest) = scan next rest := by
  rw [scan, begun]
  exact Option.map_id'

/-! ### Texts in double quotes -/

section Quoted

variable {read cs rest : List Char} {pending : Nat} {c : Char} {tokens : List Token}

/-- Pairs of backslashes stay pairs. -/
theorem scan_pairs (count : Nat) (read rest : List Char) :
    scan (.quoted read) (List.replicate (2 * count) '\\' ++ rest) =
      scan (.quoted (read ++ List.replicate (2 * count) '\\')) rest := by
  induction count generalizing read with
  | zero => simp
  | succ count inductionHypothesis =>
    have pair : scan (.quoted read) ('\\' :: '\\' :: (List.replicate (2 * count) '\\' ++ rest)) =
        scan (.quoted (read ++ ['\\', '\\'])) (List.replicate (2 * count) '\\' ++ rest) := by
      rw [scan_onward rfl, scan_onward rfl]
    rw [Nat.mul_succ, List.replicate_succ, List.replicate_succ, List.cons_append, List.cons_append,
      pair, inductionHypothesis, List.append_assoc]
    rfl

theorem scan_even (even : pending % 2 = 0) (read rest : List Char) :
    scan (.quoted read) (List.replicate pending '\\' ++ rest) =
      scan (.quoted (read ++ List.replicate pending '\\')) rest := by
  obtain ⟨count, rfl⟩ := Nat.dvd_of_mod_eq_zero even
  exact scan_pairs count read rest

/-- The last one of an odd number of backslashes escapes what follows. -/
theorem scan_odd (odd : pending % 2 = 1) (read rest : List Char) :
    scan (.quoted read) (List.replicate pending '\\' ++ rest) =
      scan (.escape (read ++ List.replicate (pending - 1) '\\')) rest := by
  obtain ⟨before, rfl⟩ : ∃ before, pending = before + 1 := ⟨pending - 1, by omega⟩
  rw [List.replicate_succ', List.append_assoc, scan_even (by omega), List.singleton_append,
    scan_onward rfl]
  rfl

/-- Backslashes before anything but a quote, a backslash or a line feed stand for themselves. -/
theorem scan_plain (notQuote : c ≠ '"') (notBackslash : c ≠ '\\') (notLineFeed : c ≠ '\n')
    (pending : Nat) (read rest : List Char) :
    scan (.quoted read) (List.replicate pending '\\' ++ c :: rest) =
      scan (.quoted (read ++ List.replicate pending '\\' ++ [c])) rest := by
  rcases Nat.mod_two_eq_zero_or_one pending with even | odd
  · rw [scan_even even]
    simp [scan, step, notQuote, notBackslash]
  · rw [scan_odd odd]
    obtain ⟨before, rfl⟩ : ∃ before, pending = before + 1 := ⟨pending - 1, by omega⟩
    simp [scan, step, notQuote, notLineFeed, List.replicate_succ']

/-- A quote that was escaped by the backslash written for it. -/
theorem scan_escapedQuote (pending : Nat) (read rest : List Char) :
    scan (.quoted read) (List.replicate (pending - pending % 2) '\\' ++ '\\' :: '"' :: rest) =
      scan (.quoted (read ++ List.replicate (pending - pending % 2) '\\' ++ ['"'])) rest := by
  rw [scan_even (by omega), scan_onward rfl, scan_onward rfl]

/-- What has been read within quotes stays the beginning of what they hold. -/
theorem text_of_scan_quoted (scanned : scan (.quoted read) cs = some tokens ∨
      scan (.escape read) cs = some tokens) :
    ∃ more others, tokens = .text (String.ofList (read ++ more)) :: others := by
  induction cs generalizing read tokens with
  | nil => rcases scanned with scanned | scanned <;> cases scanned
  | cons c cs inductionHypothesis =>
    have onward {next : List Char} (scanned : scan (.quoted (read ++ next)) cs = some tokens) :
        ∃ more others, tokens = .text (String.ofList (read ++ more)) :: others := by
      obtain ⟨more, others, rfl⟩ := inductionHypothesis (.inl scanned)
      exact ⟨next ++ more, others, by rw [List.append_assoc]⟩
    rcases scanned with scanned | scanned
    · simp only [scan, step] at scanned
      split_ifs at scanned with isQuote isBackslash
      · obtain ⟨others, -, rfl⟩ := Option.map_eq_some_iff.mp scanned
        exact ⟨[], others, by simp⟩
      · exact inductionHypothesis (.inr (by simpa using scanned))
      · exact onward (by simpa using scanned)
    · simp only [scan, step] at scanned
      split_ifs at scanned with isQuote isLineFeed
      · exact onward (by simpa using scanned)
      · exact inductionHypothesis (.inl (by simpa using scanned))
      · exact onward (by simpa using scanned)

/-- A text that keeps its pairs is read to its end. -/
theorem scan_escapeQuotes (keeps : keepsPairs pending cs = true) (oneLine : '\n' ∉ cs)
    (read rest : List Char) :
    scan (.quoted read) (escapeQuotes pending cs ++ '"' :: rest) =
      (scan .between rest).map
        (.text (String.ofList (read ++ List.replicate pending '\\' ++ cs)) :: ·) := by
  fun_induction escapeQuotes pending cs generalizing read with
  | case1 pending =>
    rw [scan_even (by simpa [keepsPairs] using keeps)]
    simp [scan, step]
  | case2 pending cs inductionHypothesis =>
    rw [inductionHypothesis (by simpa [keepsPairs] using keeps) (by simp_all)]
    simp [List.replicate_succ']
  | case3 pending cs inductionHypothesis =>
    obtain ⟨even, keeps⟩ : pending % 2 = 0 ∧ keepsPairs 0 cs = true := by
      simpa [keepsPairs] using keeps
    rw [List.append_assoc, List.cons_append, List.cons_append, scan_escapedQuote,
      inductionHypothesis keeps (by simp_all)]
    simp [even]
  | case4 pending c cs notBackslash notQuote inductionHypothesis =>
    have notLineFeed := (List.ne_of_not_mem_cons oneLine).symm
    have oneLine := List.not_mem_of_not_mem_cons oneLine
    rw [List.append_assoc, List.cons_append, scan_plain notQuote notBackslash notLineFeed,
      inductionHypothesis (by simpa [keepsPairs, notBackslash, notQuote] using keeps) oneLine]
    simp

/-- Once a backslash has been lost before a quote, what is read is another text. -/
theorem scan_lost_ne (odd : pending % 2 = 1) (read cs rest : List Char) (others : List Token) :
    scan (.quoted (read ++ List.replicate (pending - 1) '\\' ++ ['"'])) rest ≠
      some (.text (String.ofList (read ++ List.replicate pending '\\' ++ cs)) :: others) := by
  intro scanned
  obtain ⟨more, _, same⟩ := text_of_scan_quoted (.inl scanned)
  obtain ⟨before, rfl⟩ : ∃ before, pending = before + 1 := ⟨pending - 1, by omega⟩
  have texts := String.ofList_injective (Token.text.inj (List.cons.inj same).1)
  simp [List.replicate_succ'] at texts

/-- A text that breaks a pair is read as another one. -/
theorem scan_escapeQuotes_ne (breaks : keepsPairs pending cs = false) (oneLine : '\n' ∉ cs)
    (read rest : List Char) (others : List Token) :
    scan (.quoted read) (escapeQuotes pending cs ++ '"' :: rest) ≠
      some (.text (String.ofList (read ++ List.replicate pending '\\' ++ cs)) :: others) := by
  fun_induction escapeQuotes pending cs generalizing read with
  | case1 pending =>
    have odd : pending % 2 = 1 := by simpa [keepsPairs] using breaks
    have lost : scan (.escape (read ++ List.replicate (pending - 1) '\\')) ('"' :: rest) =
        scan (.quoted (read ++ List.replicate (pending - 1) '\\' ++ ['"'])) rest := by
      simp [scan, step]
    rw [scan_odd odd, lost]
    exact scan_lost_ne odd read [] rest others
  | case2 pending cs inductionHypothesis =>
    have onward := inductionHypothesis (by simpa [keepsPairs] using breaks) (by simp_all) read
    simpa [List.replicate_succ'] using onward
  | case3 pending cs inductionHypothesis =>
    rw [List.append_assoc, List.cons_append, List.cons_append, scan_escapedQuote]
    rcases Nat.mod_two_eq_zero_or_one pending with even | odd
    · have keeps : keepsPairs 0 cs = false := by simpa [keepsPairs, even] using breaks
      simpa [even] using inductionHypothesis keeps (by simp_all) (read ++ _ ++ ['"'])
    · rw [odd]
      exact scan_lost_ne odd read _ _ others
  | case4 pending c cs notBackslash notQuote inductionHypothesis =>
    have notLineFeed := (List.ne_of_not_mem_cons oneLine).symm
    have oneLine := List.not_mem_of_not_mem_cons oneLine
    rw [List.append_assoc, List.cons_append, scan_plain notQuote notBackslash notLineFeed]
    have keeps : keepsPairs 0 cs = false := by
      simpa [keepsPairs, notBackslash, notQuote] using breaks
    simpa using inductionHypothesis keeps oneLine (read ++ _ ++ [c])

end Quoted

/-! ### Bare words -/

/-- A character that belongs to no bare word. -/
def endsWord (c : Char) : Bool :=
  !isNameStart c && !isNumeralChar c

section Bare

variable {read cs rest : List Char} {c : Char}

/-- No name starts with a digit or a point. -/
theorem not_isNameStart (numeral : isNumeralChar c = true) : isNameStart c = false := by
  rw [isNumeralChar, Bool.or_eq_true] at numeral
  rcases numeral with digit | point
  · have notUnderscore : c ≠ '_' := by
      rintro rfl
      cases digit
    simp [Char.isDigit, UInt32.le_iff_toNat_le] at digit
    have letter : c.isAlpha = (decide (65 ≤ c.val ∧ c.val ≤ 90) ||
        (decide (97 ≤ c.val) && decide (c.val ≤ 122))) := rfl
    simp [isNameStart, isWordStart, letter, UInt32.le_iff_toNat_le, notUnderscore]
    omega
  · obtain rfl := eq_of_beq point
    rfl

theorem scan_endBefore (token : Token) (c : Char) (rest : List Char) :
    ((endBefore token c).bind fun (tokens, next) => (scan next rest).map (tokens ++ ·)) =
      (scan .between (c :: rest)).map (token :: ·) := by
  simp only [endBefore, scan, step]
  cases begin? c <;> simp [Option.map_map, Function.comp_def]

/-- A name goes on to the first character that does not belong to it. -/
theorem scan_name (inside : ∀ d ∈ cs, isWordStart d = true ∨ d.isDigit = true)
    (ends : endsWord c = true) (read rest : List Char) :
    scan (.name read) (cs ++ c :: rest) =
      (scan .between (c :: rest)).map (nameToken (read ++ cs) :: ·) := by
  induction cs generalizing read with
  | nil =>
    obtain ⟨notStart, notNumeral⟩ : isNameStart c = false ∧ isNumeralChar c = false := by
      simpa [endsWord] using ends
    have notDigit : c.isDigit = false := (Bool.or_eq_false_iff.mp notNumeral).1
    rw [List.nil_append, List.append_nil, ← scan_endBefore]
    simp [scan, step, notStart, notDigit]
  | cons d cs inductionHypothesis =>
    obtain ⟨first, inside⟩ := List.forall_mem_cons.mp inside
    have goesOn : (isNameStart d || d.isDigit) = true := by
      rcases first with letter | digit
      · simp [isNameStart, letter]
      · simp [digit]
    have next := inductionHypothesis inside (read ++ [d])
    simp only [List.cons_append, scan, step, goesOn, if_true, Option.bind_some, List.nil_append,
      Option.map_id', next, List.append_assoc]

/-- A numeral goes on to the first character that does not belong to it. -/
theorem scan_numeral (inside : ∀ d ∈ cs, isNumeralChar d = true) (ends : endsWord c = true)
    (read rest : List Char) (numeral : isNumeral (read ++ cs) = true) :
    scan (.numeral read) (cs ++ c :: rest) =
      (scan .between (c :: rest)).map (.text (String.ofList (read ++ cs)) :: ·) := by
  induction cs generalizing read with
  | nil =>
    obtain ⟨-, notNumeral⟩ : isNameStart c = false ∧ isNumeralChar c = false := by
      simpa [endsWord] using ends
    rw [List.append_nil] at numeral
    rw [List.nil_append, List.append_nil, ← scan_endBefore]
    simp [scan, step, notNumeral, numeral]
  | cons d cs inductionHypothesis =>
    obtain ⟨goesOn, inside⟩ := List.forall_mem_cons.mp inside
    have next := inductionHypothesis inside (read ++ [d]) (by simpa using numeral)
    simp only [List.cons_append, scan, step, goesOn, if_true, Option.bind_some, List.nil_append,
      Option.map_id', next, List.append_assoc]

/-- A number without a sign has digits and a point at most. -/
theorem chars_of_isUnsignedNumeral (numeral : isUnsignedNumeral cs = true) :
    cs ≠ [] ∧ ∀ d ∈ cs, isNumeralChar d = true := by
  have digit {d : Char} (isDigit : d.isDigit = true) : isNumeralChar d = true := by
    simp [isNumeralChar, isDigit]
  have whole : ∀ d ∈ cs.takeWhile Char.isDigit, isNumeralChar d = true :=
    fun d member => digit (List.all_eq_true.mp List.all_takeWhile d member)
  have parts := List.takeWhile_append_dropWhile (p := Char.isDigit) (l := cs)
  unfold isUnsignedNumeral at numeral
  split at numeral
  · next noFraction =>
    rw [noFraction, List.append_nil] at parts
    rw [parts] at whole numeral
    exact ⟨by simpa using numeral, whole⟩
  · next fraction rest =>
    have digits : fraction.all Char.isDigit = true := by
      dsimp only at numeral
      split at numeral
      · exact (Bool.and_eq_true_iff.mp numeral).2
      · exact numeral
    refine ⟨fun empty => by simp [empty] at rest, fun d member => ?_⟩
    rw [← parts, rest, List.mem_append, List.mem_cons] at member
    rcases member with front | rfl | back
    · exact whole d front
    · rfl
    · exact digit (List.all_eq_true.mp digits d back)
  · cases numeral

/-- A digit or a point begins a numeral, also behind a minus sign. -/
theorem begin?_of_isNumeralChar (numeral : isNumeralChar c = true) :
    begin? c = some ([], .numeral [c]) := by
  simp [begin?, not_isNameStart numeral, numeral]

theorem step_minus (numeral : isNumeralChar c = true) :
    step .minus c = some ([], .numeral ['-', c]) := by
  have notArrow : c ≠ '>' := by
    rintro rfl
    cases numeral
  have notLine : c ≠ '-' := by
    rintro rfl
    cases numeral
  simp [step, notArrow, notLine, numeral]

/-- A name is read as a keyword or as it is. -/
theorem scan_word (word : isWord cs = true) (ends : endsWord c = true) (rest : List Char) :
    scan .between (cs ++ c :: rest) = (scan .between (c :: rest)).map (nameToken cs :: ·) := by
  cases cs with
  | nil => cases word
  | cons first others =>
    obtain ⟨starts, inside⟩ : isWordStart first = true ∧
        ∀ d ∈ others, isWordStart d = true ∨ d.isDigit = true := by
      simpa [isWord] using word
    have read := scan_name inside ends [first] rest
    simpa [scan, step, begin?, isNameStart, starts] using read

theorem scan_isNumeral (numeral : isNumeral cs = true) (ends : endsWord c = true) :
    scan .between (cs ++ c :: rest) =
      (scan .between (c :: rest)).map (.text (String.ofList cs) :: ·) := by
  have onward (read : List Char) {first : Char} {others : List Char}
      (inside : ∀ d ∈ first :: others, isNumeralChar d = true)
      (same : cs = read ++ first :: others) :
      scan (.numeral (read ++ [first])) (others ++ c :: rest) =
        (scan .between (c :: rest)).map (.text (String.ofList cs) :: ·) := by
    have whole : read ++ [first] ++ others = cs := by simp [same]
    rw [scan_numeral (List.forall_mem_cons.mp inside).2 ends _ _ (whole ▸ numeral), whole]
  unfold isNumeral at numeral
  split at numeral
  · next digits =>
    obtain ⟨filled, inside⟩ := chars_of_isUnsignedNumeral numeral
    obtain ⟨first, others, rfl⟩ := List.exists_cons_of_ne_nil filled
    have minus : step .between '-' = some ([], .minus) := by decide
    rw [List.cons_append, List.cons_append, scan_onward minus,
      scan_onward (step_minus (inside first List.mem_cons_self))]
    exact onward ['-'] inside rfl
  · obtain ⟨filled, inside⟩ := chars_of_isUnsignedNumeral numeral
    obtain ⟨first, others, rfl⟩ := List.exists_cons_of_ne_nil filled
    have begun : step .between first = some ([], .numeral [first]) :=
      begin?_of_isNumeralChar (inside first List.mem_cons_self)
    rw [List.cons_append, scan_onward begun]
    exact onward [] inside rfl

/-- A bare word is read as it is. -/
theorem scan_bare (bare : isBare cs = true) (ends : endsWord c = true) :
    scan .between (cs ++ c :: rest) =
      (scan .between (c :: rest)).map (.text (String.ofList cs) :: ·) := by
  obtain ⟨wordOrNumeral, notKeyword⟩ : (isWord cs = true ∨ isNumeral cs = true) ∧
      isKeyword cs = false := by
    simpa [isBare] using bare
  rcases wordOrNumeral with word | numeral
  · have token : nameToken cs = .text (String.ofList cs) := by simp [nameToken, notKeyword]
    rw [scan_word word ends, token]
  · exact scan_isNumeral numeral ends

/-- Bare words hold no backslash. -/
theorem backslash_not_mem_bare (bare : isBare cs = true) : '\\' ∉ cs := by
  intro member
  obtain ⟨wordOrNumeral, -⟩ : (isWord cs = true ∨ isNumeral cs = true) ∧
      isKeyword cs = false := by
    simpa [isBare] using bare
  rcases wordOrNumeral with word | numeral
  · cases cs with
    | nil => cases word
    | cons first others =>
      simp only [isWord, Bool.and_eq_true, List.all_eq_true] at word
      rcases List.mem_cons.mp member with rfl | member
      · cases word.1
      · cases word.2 _ member
  · unfold isNumeral at numeral
    split at numeral
    · next digits =>
      have member : '\\' ∈ digits := by simpa using member
      cases (chars_of_isUnsignedNumeral numeral).2 _ member
    · cases (chars_of_isUnsignedNumeral numeral).2 _ member

end Bare

/-! ### What was written -/

theorem keepsPairs_of_no_backslash {cs : List Char} (none : '\\' ∉ cs) :
    keepsPairs 0 cs = true := by
  induction cs with
  | nil => rfl
  | cons c cs inductionHypothesis =>
    have notBackslash := (List.ne_of_not_mem_cons none).symm
    have onward := inductionHypothesis (List.not_mem_of_not_mem_cons none)
    by_cases isQuote : c = '"'
    · subst isQuote
      simp [keepsPairs, onward]
    · simpa [keepsPairs, notBackslash, isQuote] using onward

/-- What begins with an angle bracket is markup if it is anything. -/
theorem markup_of_scan {depth : Nat} {read cs : List Char} {tokens : List Token}
    (scanned : scan (.markup depth read) cs = some tokens) :
    ∃ value others, tokens = .markup value :: others := by
  induction cs generalizing depth read with
  | nil => cases scanned
  | cons c cs inductionHypothesis =>
    simp only [scan, step] at scanned
    split_ifs at scanned with opens closes
    · exact inductionHypothesis (by simpa using scanned)
    · cases depth with
      | zero =>
        obtain ⟨others, -, rfl⟩ := Option.map_eq_some_iff.mp scanned
        exact ⟨_, others, rfl⟩
      | succ outer => exact inductionHypothesis (by simpa using scanned)
    · exact inductionHypothesis (by simpa using scanned)

section Written

variable {text : String} {c : Char} {rest : List Char}

theorem quote_eq_self (unquoted : isMarkup text.toList = true ∨ isBare text.toList = true) :
    quote text = text :=
  if_pos (Bool.or_eq_true_iff.mpr unquoted)

theorem toList_quote (notMarkup : isMarkup text.toList = false)
    (notBare : isBare text.toList = false) :
    (quote text).toList = '"' :: (escapeQuotes 0 text.toList ++ ['"']) := by
  rw [quote, if_neg (by simp [notMarkup, notBare]), String.toList_ofList, List.cons_append]

theorem scan_openQuote (cs : List Char) : scan .between ('"' :: cs) = scan (.quoted []) cs := by
  have opened : begin? '"' = some ([], .quoted []) := by decide
  simp [scan, step.eq_1, opened]

/-- A verbatim text is read back as it is, whatever follows behind a character that ends words. -/
theorem scan_quote (verbatim : Verbatim text) (oneLine : '\n' ∉ text.toList)
    (ends : endsWord c = true) :
    scan .between ((quote text).toList ++ c :: rest) =
      (scan .between (c :: rest)).map (.text text :: ·) := by
  obtain ⟨notMarkup, keeps⟩ := verbatim
  cases bare : isBare text.toList with
  | true => rw [quote_eq_self (.inr bare), scan_bare bare ends, String.ofList_toList]
  | false =>
    rw [toList_quote notMarkup bare, List.cons_append, List.append_assoc, scan_openQuote,
      List.singleton_append, scan_escapeQuotes keeps oneLine]
    simp

/-- A text that is not verbatim is not read back. -/
theorem scan_quote_ne (notVerbatim : ¬Verbatim text) (oneLine : '\n' ∉ text.toList)
    (rest : List Char) (others : List Token) :
    scan .between ((quote text).toList ++ rest) ≠ some (.text text :: others) := by
  cases markup : isMarkup text.toList with
  | true =>
    intro scanned
    rw [quote_eq_self (.inl markup)] at scanned
    unfold isMarkup at markup
    split at markup
    · next cs written =>
      have opened : begin? '<' = some ([], .markup 0 []) := by decide
      have scanned : scan (.markup 0 []) (cs ++ rest) = some (.text text :: others) := by
        simpa [written, scan, step.eq_1, opened] using scanned
      obtain ⟨value, _, same⟩ := markup_of_scan scanned
      cases same
    · cases markup
  | false =>
    have breaks : keepsPairs 0 text.toList = false :=
      Bool.eq_false_iff.mpr fun keeps => notVerbatim ⟨markup, keeps⟩
    have notBare : isBare text.toList = false := by
      refine Bool.eq_false_iff.mpr fun bare => ?_
      rw [keepsPairs_of_no_backslash (backslash_not_mem_bare bare)] at breaks
      cases breaks
    rw [toList_quote markup notBare, List.cons_append, List.append_assoc, scan_openQuote,
      List.singleton_append]
    simpa using scan_escapeQuotes_ne breaks oneLine [] rest others

end Written

end Acceptor.Dot
