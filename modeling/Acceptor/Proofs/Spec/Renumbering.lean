import Acceptor.Proofs.Automaton.Renaming
import Acceptor.Proofs.Spec.RoundTrip

/-!
# Saving an automaton under arbitrary identifiers

A specification names states by their labels, so the identifiers of an automaton are lost when it is
written. What is read back has the places of the states as identifiers: as a canonical automaton
with the same description it is the only one that the text can specify. It accepts what the first
one accepted, in the same number of steps and with the same reasons. An automaton with repeated
labels or symbols, or with a symbol outside its alphabet, is not spoken about here.
-/

namespace Acceptor.Spec

/-- An automaton whose labels and symbols can be told apart is read back with the places of its
states for their identifiers, and comes to the same verdicts on these. -/
theorem parse_write_renumbered {model : Automaton} (valid : model.Valid)
    (labelsDistinct : model.labels.Nodup) (alphabetDistinct : model.alphabet.Nodup)
    (symbolsListed : ∀ transition ∈ model.transitions, transition.symbol ∈ model.alphabet) :
    ∃ text, write model = .ok text ∧ parse text = .ok (model.rename model.place) ∧
      (∀ index (bound : index < model.states.length),
        model.place model.states[index].id = (index : Int) + 1) ∧
      ∀ emptyAccepts symbols, (model.rename model.place).check emptyAccepts symbols =
        (model.check emptyAccepts symbols).rename model.place := by
  have apart := model.keepsApart_place
  obtain ⟨text, written, spells⟩ := write_spells valid
  -- The text is also one that the renumbered automaton is written as.
  rw [← Automaton.listing_rename valid apart] at spells
  have canonical := Automaton.canonical_rename_place valid labelsDistinct alphabetDistinct
    symbolsListed
  have read := parse_of_spells canonical (valid.rename apart) spells
  exact ⟨text, written, read, fun _ bound => Automaton.place_getElem valid.idsDistinct bound,
    Automaton.check_rename valid apart⟩

/-- An automaton with a negative and a large identifier in no order. -/
def scattered : Automaton where
  states := [⟨12, "b", false⟩, ⟨-3, "it's", true⟩, ⟨4294967296, "\\\"", false⟩]
  alphabet := ["y", "x"]
  transitions := [⟨-3, "y", 4294967296⟩, ⟨4294967296, "x", 12⟩, ⟨4294967296, "y", -3⟩]
  initial := 4294967296

/-- A run through all states of an automaton gets stuck at the same symbol after it was saved. -/
theorem parse_write_scattered :
    ∃ text parsed, write scattered = .ok text ∧ parse text = .ok parsed ∧
      parsed.ids = [1, 2, 3] ∧ parsed.initial = 3 ∧
      scattered.check true ["y", "y", "x", "y"] = ⟨.stuck 3 "y", 12,
        [⟨4294967296, "y", -3⟩, ⟨-3, "y", 4294967296⟩, ⟨4294967296, "x", 12⟩]⟩ ∧
      parsed.check true ["y", "y", "x", "y"] =
        ⟨.stuck 3 "y", 1, [⟨3, "y", 2⟩, ⟨2, "y", 3⟩, ⟨3, "x", 1⟩]⟩ := by
  have accepted : Automaton.ofParts scattered.states scattered.alphabet scattered.transitions
      scattered.initial = .ok scattered := rfl
  have valid := Automaton.valid_of_ofParts accepted
  obtain ⟨text, written, read, -, same⟩ :=
    parse_write_renumbered valid (by decide) (by decide) (by decide)
  refine ⟨text, _, written, read, by decide, by decide, by decide, ?_⟩
  rw [same]
  decide

end Acceptor.Spec
