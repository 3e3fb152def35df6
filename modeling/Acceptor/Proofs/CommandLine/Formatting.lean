import Acceptor.Proofs.CommandLine.Agreement
import Acceptor.Proofs.Spec.RoundTrip

/-!
# Formatted specifications

What the command that formats a specification prints is a specification again, of the same automaton
with its transitions in the same order, and every command does the same with it as with the text it
comes from (`standsFor_of_format`). Line ends are unified whenever a text is read, and this changes
nothing in what has been printed: nothing that is written holds a carriage return, since no label
and no symbol may hold one. The text passes through an automaton in between, which is read back
exactly because only canonical automata are ever read.

The built-in specification is not spoken about, as it is no text that anyone supplies. Neither are
lines that are logged: that nothing at all is on standard error is said only where nothing is logged
(`Silent`).
-/

namespace Acceptor

namespace Text

/-- Nothing changes in a text without carriage returns. -/
theorem unifyLineEndsIn_of_not_mem {cs : List Char} (unified : '\r' ∉ cs) :
    unifyLineEndsIn cs = cs := by
  fun_induction unifyLineEndsIn cs with
  | case1 => exact absurd List.mem_cons_self unified
  | case2 => exact absurd List.mem_cons_self unified
  | case3 c rest _ _ inductionHypothesis =>
    rw [inductionHypothesis fun later => unified (List.mem_cons_of_mem c later)]
  | case4 => rfl

/-- A text without carriage returns. -/
def Unified (text : String) : Prop :=
  '\r' ∉ text.toList

instance (text : String) : Decidable (Unified text) :=
  inferInstanceAs (Decidable ('\r' ∉ text.toList))

variable {text left right : String}

theorem Unified.unifyLineEnds (unified : Unified text) : unifyLineEnds text = text := by
  rw [Text.unifyLineEnds, unifyLineEndsIn_of_not_mem unified, String.ofList_toList]

@[simp]
theorem unified_append : Unified (left ++ right) ↔ Unified left ∧ Unified right := by
  simp [Unified]

theorem Unified.intercalate (separates : Unified left) {parts : List String}
    (each : ∀ part ∈ parts, Unified part) : Unified (left.intercalate parts) := by
  induction parts with
  | nil => exact List.not_mem_nil
  | cons first rest inductionHypothesis =>
    obtain ⟨here, others⟩ := List.forall_mem_cons.mp each
    cases rest with
    | nil => simpa using here
    | cons =>
      rw [String.intercalate_cons_cons, unified_append, unified_append]
      exact ⟨⟨here, separates⟩, inductionHypothesis others⟩

end Text

namespace Spec

open Text (Unified unified_append)

variable {model : Automaton} {text : String}

/-- A written literal holds no carriage return, as the text in it may hold none. -/
theorem unified_of_writeLiteral {content : String} (done : writeLiteral content = .ok text) :
    Unified text := by
  obtain ⟨passed, quoted⟩ := check_eq_ok_iff.mp done
  obtain ⟨-, -, unbroken, -⟩ := literalFault?_eq_none_iff.mp (requireLiteral_eq_ok_iff.mp passed)
  have quotes : Unified (if content.toList.contains '\'' then "\"" else "'") := by
    unfold Unified
    split <;> decide
  obtain rfl := pure_eq_ok_iff.mp quoted
  exact unified_append.mpr ⟨unified_append.mpr ⟨quotes, unbroken⟩, quotes⟩

theorem unified_of_writeList {items : List String} (done : writeList items = .ok text) :
    Unified text := by
  obtain ⟨literals, written, joined⟩ := bind_eq_ok_iff.mp done
  have each := forall_mem_of_mapM (fun _ _ => unified_of_writeLiteral) written
  have separates : Unified ", " := by decide
  split at joined
  · obtain rfl := pure_eq_ok_iff.mp joined
    decide
  · obtain rfl := pure_eq_ok_iff.mp joined
    have opening : Unified "\x7b" := by decide
    have closing : Unified "\x7d" := by decide
    simp [opening, closing, separates.intercalate each]

theorem unified_of_writeTransition {transition : Transition}
    (done : writeTransition model transition = .ok text) : Unified text := by
  obtain ⟨_, -, done⟩ := bind_eq_ok_iff.mp done
  obtain ⟨source, sourceWritten, done⟩ := bind_eq_ok_iff.mp done
  obtain ⟨symbol, symbolWritten, done⟩ := bind_eq_ok_iff.mp done
  obtain ⟨_, -, done⟩ := bind_eq_ok_iff.mp done
  obtain ⟨target, targetWritten, done⟩ := bind_eq_ok_iff.mp done
  obtain rfl := pure_eq_ok_iff.mp done
  simp only [unified_append, unified_of_writeLiteral sourceWritten,
    unified_of_writeLiteral symbolWritten, unified_of_writeLiteral targetWritten]
  decide

theorem unified_of_writeTable {lines : List String} (done : writeTable model = .ok lines) :
    ∀ line ∈ lines, Unified line := by
  unfold writeTable at done
  split at done
  · obtain rfl := pure_eq_ok_iff.mp done
    decide
  · obtain ⟨entries, written, joined⟩ := bind_eq_ok_iff.mp done
    obtain rfl := pure_eq_ok_iff.mp joined
    have each := forall_mem_of_mapM (fun _ _ => unified_of_writeTransition) written
    simp only [List.forall_mem_append]
    exact ⟨⟨by decide, each⟩, by decide⟩

/-- A written specification holds no carriage return. -/
theorem unified_of_write (done : write model = .ok text) : Unified text := by
  obtain ⟨lines, written, joined⟩ := bind_eq_ok_iff.mp done
  obtain rfl := pure_eq_ok_iff.mp joined
  have separates : Unified "\n" := by decide
  refine separates.intercalate ?_
  obtain ⟨alphabet, alphabetWritten, written⟩ := bind_eq_ok_iff.mp written
  obtain ⟨states, statesWritten, written⟩ := bind_eq_ok_iff.mp written
  obtain ⟨_, -, written⟩ := bind_eq_ok_iff.mp written
  obtain ⟨initial, initialWritten, written⟩ := bind_eq_ok_iff.mp written
  obtain ⟨accepting, acceptingWritten, written⟩ := bind_eq_ok_iff.mp written
  obtain ⟨table, tableWritten, written⟩ := bind_eq_ok_iff.mp written
  obtain rfl := pure_eq_ok_iff.mp written
  refine List.forall_mem_append.mpr ⟨List.forall_mem_append.mpr
    ⟨?_, unified_of_writeTable tableWritten⟩, by decide⟩
  simp only [List.forall_mem_cons, unified_append, unified_of_writeList alphabetWritten,
    unified_of_writeList statesWritten, unified_of_writeLiteral initialWritten,
    unified_of_writeList acceptingWritten]
  decide

/-- A written automaton that is canonical is read back, also if a line end follows and after line
ends have been unified. -/
theorem parse_of_write (canonical : model.Canonical) (valid : model.Valid)
    (done : write model = .ok text) : parse (Text.unifyLineEnds (text ++ "\n")) = .ok model := by
  have lineEnd : Unified "\n" := by decide
  have unified : Unified (text ++ "\n") := unified_append.mpr ⟨unified_of_write done, lineEnd⟩
  obtain ⟨written, same, spells⟩ := write_spells valid
  obtain rfl : written = text := Except.ok.inj (same.symm.trans done)
  have spellsNothing : Spells "\n" [] := spells_signs rfl
  have spellsAll := spells.append spellsNothing
  rw [List.append_nil] at spellsAll
  rw [unified.unifyLineEnds]
  exact parse_of_spells canonical valid spellsAll

end Spec

namespace CommandLine

/-- A text that has been put into a file or on standard input, as it stands there. -/
def Supplies (surroundings : Surroundings) (text : String) : SpecSource → Prop
  | .default => False
  | .standardInput => surroundings.input = text
  | .file name => surroundings.folder.read name = .ok text

/-- What is asked for, about a specification from another source. -/
def Request.about (source : SpecSource) : Request → Request
  | .check _ inputs => .check source inputs
  | .animate _ input delay => .animate source input delay
  | .dot _ => .dot source
  | .format _ => .format source

@[simp]
theorem Request.spec_about (source : SpecSource) (request : Request) :
    (request.about source).spec = source := by
  cases request <;> rfl

variable {surroundings : Surroundings} {args : List String} {request : Request}
  {source : SpecSource} {text : String} {model : Automaton}

/-- The line ends of a text that has been supplied are unified. -/
theorem read_of_supplies (supplied : Supplies surroundings text source) :
    surroundings.read source = .ok (Text.unifyLineEnds text) := by
  cases source with
  | default => exact supplied.elim
  | standardInput =>
    obtain rfl : surroundings.input = text := supplied
    rfl
  | file name =>
    have there : surroundings.folder.read name = .ok text := supplied
    rw [Surroundings.read, there]
    rfl

/-- A command line about a supplied text asks for something about it with its line ends unified. -/
theorem asks_of_supplies (requested : requestOf args = .ok request)
    (supplied : Supplies surroundings text request.spec) :
    Asks surroundings args request (Text.unifyLineEnds text) :=
  ⟨requested, read_of_supplies supplied⟩

/-- It does not matter for what a command does where its specification comes from. -/
theorem carryOut_about (bench : Workbench) (source : SpecSource) (request : Request) :
    carryOut bench (request.about source) = carryOut bench request := by
  cases request with
  | animate _ _ delay => cases delay <;> rfl
  | check | dot | format => rfl

/-- Texts that specify the same automaton are concluded alike. -/
theorem conclude_about {text' : String} (read : Spec.parse text = .ok model)
    (read' : Spec.parse text' = .ok model) (source : SpecSource) (request : Request) :
    conclude (request.about source) (.ok text') = conclude request (.ok text) := by
  unfold conclude
  rw [execute_of_parse read, execute_of_parse read', carryOut_about]

/-- Formatting a text that specifies an automaton prints what is written for it. -/
theorem conclude_format (read : Spec.parse text = .ok model) {written : String}
    (done : Spec.write model = .ok written) (source : SpecSource) :
    conclude (.format source) (.ok text) = .finished ⟨0, [.line written], none⟩ := by
  refine conclude_of_parse read (mapError_eq_ok_iff.mpr (map_eq_ok_iff.mpr ⟨written, ?_, rfl⟩))
  rw [Workbench.exportSpec, commit_newBench, done]
  rfl

/-- A line is printed with a line end behind it. -/
theorem standardOutput_line (exitCode : Nat) (line : String) (complaint : Option String) :
    Report.standardOutput ⟨exitCode, [.line line], complaint⟩ = line ++ "\n" := by
  simp [Report.standardOutput, String.join]

/-- A text that specifies an automaton is formatted, and what is printed specifies the same
automaton where it is read again. -/
theorem exists_formatted (read : Spec.parse text = .ok model) :
    ∃ report, (∀ source, conclude (.format source) (.ok text) = .finished report) ∧
      report.exitCode = 0 ∧ report.complaint = none ∧
      Spec.parse (Text.unifyLineEnds report.standardOutput) = .ok model := by
  have valid := (Spec.orderly_of_parse read).toValid
  obtain ⟨written, done, -⟩ := Spec.write_spells valid
  refine ⟨⟨0, [.line written], none⟩, conclude_format read done, rfl, rfl, ?_⟩
  rw [standardOutput_line]
  exact Spec.parse_of_write (Spec.canonical_of_parse read) valid done

/-- Nothing is logged at the level of a command line. -/
def Silent (args : List String) : Prop :=
  ∃ arguments level, readArguments args = .ok arguments ∧ levelOf arguments.level = .ok level ∧
    level ∉ loggingLevels

/-- A printed text that can be used in place of the one it comes from. -/
structure StandsFor (printed text : String) : Prop where
  /-- Formatting it succeeds, prints it again and complains about nothing, so that standard error
  stays empty where nothing is logged. -/
  again : ∀ surroundings args source, requestOf args = .ok (.format source) →
    Supplies surroundings printed source → ∃ report, run surroundings args = .finished report ∧
      report.exitCode = 0 ∧ report.standardOutput = printed ∧ report.complaint = none ∧
        (Silent args → report.standardError = "")
  /-- Every command line ends on it as the one that asks for the same ends on the other text. -/
  alike : ∀ surroundings surroundings' args args' request source,
    requestOf args = .ok request → Supplies surroundings text request.spec →
      requestOf args' = .ok (request.about source) → Supplies surroundings' printed source →
        run surroundings' args' = run surroundings args

/-- What a formatted text has been turned into stands for it: formatting it again changes nothing,
and all other commands exit and print alike. -/
theorem standsFor_of_format {report : Report} (requested : requestOf args = .ok (.format source))
    (supplied : Supplies surroundings text source)
    (finished : run surroundings args = .finished report) (succeeded : report.exitCode = 0) :
    StandsFor report.standardOutput text := by
  rw [(asks_of_supplies requested supplied).run_eq] at finished
  rcases Spec.parse_ok_or_reading (Text.unifyLineEnds text) with ⟨model, read⟩ | ⟨error, unread⟩
  · obtain ⟨formatted, concluded, exitCode, uncomplaining, readAgain⟩ := exists_formatted read
    obtain rfl : formatted = report := Ending.finished.inj ((concluded source).symm.trans finished)
    constructor
    · intro surroundings' args' source' requested' supplied'
      have nothing : formatted.standardError = "" := by
        rw [Report.standardError, uncomplaining]
      refine ⟨formatted, ?_, exitCode, rfl, uncomplaining, fun _ => nothing⟩
      rw [(asks_of_supplies requested' supplied').run_eq, ← concluded source]
      exact conclude_about read readAgain source' (.format source)
    · intro surroundings₁ surroundings₂ args₁ args₂ request source₂ requested₁ supplied₁ requested₂
        supplied₂
      have supplied₂' : Supplies surroundings₂ formatted.standardOutput
          (request.about source₂).spec := by
        rwa [Request.spec_about]
      rw [(asks_of_supplies requested₁ supplied₁).run_eq,
        (asks_of_supplies requested₂ supplied₂').run_eq]
      exact conclude_about read readAgain source₂ request
  · rw [conclude_of_unreadable unread] at finished
    obtain rfl := Ending.finished.inj finished
    cases succeeded

/-- A specification with carriage returns, a repetition and text around it. -/
def handwritten : String :=
  "#\r\nSPEC_DFA=\x7b'alphabet':set(),\r'states':\x7b'q','q'\x7d,'initial_state':'q'," ++
    "'accepting_states':set()\x7d+\r"

/-- The automaton that it specifies. -/
def solitary : Automaton where
  states := [⟨1, "q", false⟩]
  alphabet := []
  transitions := []
  initial := 1

/-- The line that is printed for it. -/
def tidied : String :=
  "SPEC_DFA = \x7b\n    'alphabet': set(),\n    'states': \x7b'q'\x7d,\n" ++
    "    'initial_state': 'q',\n    'accepting_states': set(),\n    'transitions': \x7b\x7d\n\x7d"

/-- Comment, repetition and the text around are gone in it, and it stands for the other one. -/
theorem standsFor_of_format_handwritten :
    run ⟨handwritten, []⟩ ["format", "-"] = .finished ⟨0, [.line tidied], none⟩ ∧
      StandsFor (tidied ++ "\n") handwritten := by
  have requested : requestOf ["format", "-"] = .ok (.format .standardInput) := by decide
  have supplied : Supplies ⟨handwritten, []⟩ handwritten .standardInput := rfl
  have read : Spec.parse (Text.unifyLineEnds handwritten) = .ok solitary := by
    rw [Spec.parse, Spec.tokens, Text.unifyLineEnds, String.toList_ofList]
    decide +kernel
  have done : Spec.write solitary = .ok tidied := by decide +kernel
  have finished : run ⟨handwritten, []⟩ ["format", "-"] =
      .finished ⟨0, [.line tidied], none⟩ := by
    rw [(asks_of_supplies requested supplied).run_eq]
    exact conclude_format read done .standardInput
  have standsFor := standsFor_of_format requested supplied finished rfl
  rw [standardOutput_line] at standsFor
  exact ⟨finished, standsFor⟩

end CommandLine

end Acceptor
