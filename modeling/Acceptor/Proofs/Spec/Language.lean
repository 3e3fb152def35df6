import Acceptor.Proofs.Automaton.Canonical
import Acceptor.Proofs.Spec.BlockLanguage
import Acceptor.Proofs.Spec.Content
import Acceptor.Proofs.Spec.Quotation

/-!
# The language of specifications

A text specifies an automaton exactly if its first block has a consistent content
(`listingOf_eq_ok_iff`), and then it is the automaton that this content describes, because what is
described in a text can always be built (`build_of_listingOf`). The reader refuses all other texts.
-/

namespace Acceptor.Spec

variable {text : String} {clauses : List Clause} {content : Content}

/-- What a list of the first block of a text contains can be a label or a symbol, if it is not
empty. -/
theorem usable_of_firstBlock (block : FirstBlock (tokens text) clauses) {which : ListSection}
    {key : Position} {items : List Literal} (listed : .list which key items ∈ clauses)
    {item : Literal} (member : item ∈ items) (filled : item.content ≠ "") :
    literalFault? item.content = none := by
  obtain ⟨part, inside, section_⟩ := block.exists_part listed
  obtain ⟨token, there, value, rfl⟩ := section_.exists_token member
  exact usable_of_mem_tokens (inside there) value.literal value.unbroken filled

/-- A consistent content of a text has a coherent description. -/
theorem Content.Consistent.coherent (consistent : content.Consistent)
    (ofClauses : content.OfClauses clauses) (block : FirstBlock (tokens text) clauses) :
    content.listing.Coherent where
  hasStates := by
    intro empty
    obtain ⟨label, rest, labels⟩ := List.exists_cons_of_ne_nil consistent.hasStates
    have member : label.content ∈ content.listing.states :=
      mem_distinct.mpr (by simp [Content.declared, labels])
    simp [empty] at member
  statesDistinct := nodup_distinct _
  labelsUsable := by
    intro name listed
    obtain ⟨label, member, rfl⟩ := List.mem_map.mp (mem_distinct.mp listed)
    obtain ⟨key, clause⟩ := ofClauses.states
    exact usable_of_firstBlock block clause member (consistent.labelsNamed label member)
  alphabetUsable := by
    intro name listed
    obtain ⟨symbol, member, rfl⟩ := List.mem_map.mp (mem_distinct.mp listed)
    obtain ⟨key, clause⟩ := ofClauses.alphabet
    exact usable_of_firstBlock block clause member (consistent.symbolsNamed symbol member)
  initialListed := mem_distinct.mpr consistent.initialDeclared
  acceptingListed := by
    intro name member
    obtain ⟨label, listed, rfl⟩ := List.mem_map.mp member
    exact mem_distinct.mpr (consistent.acceptingDeclared label listed)
  sourcesListed := by
    intro described member
    obtain ⟨entry, listed, rfl⟩ := List.mem_map.mp (mem_distinct.mp member)
    exact mem_distinct.mpr (consistent.sourcesDeclared entry listed)
  symbolsListed := by
    intro described member
    obtain ⟨entry, listed, rfl⟩ := List.mem_map.mp (mem_distinct.mp member)
    exact mem_distinct.mpr (consistent.symbolsDeclared entry listed)
  targetsListed := by
    intro described member
    obtain ⟨entry, listed, rfl⟩ := List.mem_map.mp (mem_distinct.mp member)
    exact mem_distinct.mpr (consistent.targetsDeclared entry listed)
  keysDistinct := by
    have deterministic := deterministic_map_described_iff.mpr consistent.deterministic
    refine List.Nodup.map_on (fun first firstMember second secondMember same => ?_)
      (nodup_distinct _)
    obtain ⟨sources, symbols⟩ := Prod.mk.inj same
    have targets := deterministic first (mem_distinct.mp firstMember) second
      (mem_distinct.mp secondMember) sources symbols
    exact Prod.ext sources (Prod.ext symbols targets)

/-- The description among the tokens of a text is that of a consistent content of its first
block. -/
theorem listingOf_eq_ok_iff {tokens : List Token} {described : Listing Label} :
    listingOf tokens = .ok described ↔ ∃ clauses content, FirstBlock tokens clauses ∧
      Content.OfClauses content clauses ∧ content.Consistent ∧ described = content.listing := by
  rw [listingOf, bind_eq_ok_iff]
  constructor
  · rintro ⟨clauses, read, checked⟩
    obtain ⟨block, nodup⟩ := readClauses_eq_ok_iff.mp read
    obtain ⟨content, ofClauses, consistent, rfl⟩ := (listing_eq_ok_iff nodup).mp checked
    exact ⟨clauses, content, block, ofClauses, consistent, rfl⟩
  · rintro ⟨clauses, content, block, ofClauses, consistent, rfl⟩
    have nodup := ofClauses.sectionsDistinct
    exact ⟨clauses, readClauses_eq_ok_iff.mpr ⟨block, nodup⟩,
      (listing_eq_ok_iff nodup).mpr ⟨content, ofClauses, consistent, rfl⟩⟩

/-- What is described in a text can be built. -/
theorem build_of_listingOf {described : Listing Label}
    (read : listingOf (tokens text) = .ok described) :
    described.Coherent ∧ described.alphabet.Nodup ∧ described.build = .ok described.automaton := by
  obtain ⟨clauses, content, block, ofClauses, consistent, rfl⟩ := listingOf_eq_ok_iff.mp read
  have coherent := consistent.coherent ofClauses block
  exact ⟨coherent, nodup_distinct _, Listing.build_of_coherent coherent⟩

/-- Reading a text succeeds exactly if a description can be read from its tokens. -/
theorem parse_eq_ok_iff_listingOf {model : Automaton} :
    parse text = .ok model ↔
      ∃ described, listingOf (tokens text) = .ok described ∧ model = described.automaton := by
  unfold parse automatonOf
  cases read : listingOf (tokens text) with
  | error error => simp
  | ok described =>
    obtain ⟨-, -, built⟩ := build_of_listingOf read
    rw [mapError_eq_ok_iff, built]
    simp [eq_comm]

/-- A text specifies an automaton exactly if its first block has a consistent content, and then it
is the automaton that the content describes: its declared labels, numbered from 1 in the order of
their first mention, its distinct symbols and its distinct transitions in that order, the initial
state that it names, and the states that it names as accepting. -/
theorem parse_eq_ok_iff (text : String) (model : Automaton) :
    parse text = .ok model ↔ ∃ clauses content, FirstBlock (tokens text) clauses ∧
      Content.OfClauses content clauses ∧ content.Consistent ∧
        model = content.listing.automaton := by
  rw [parse_eq_ok_iff_listingOf]
  constructor
  · rintro ⟨described, read, rfl⟩
    obtain ⟨clauses, content, block, ofClauses, consistent, rfl⟩ := listingOf_eq_ok_iff.mp read
    exact ⟨clauses, content, block, ofClauses, consistent, rfl⟩
  · rintro ⟨clauses, content, block, ofClauses, consistent, rfl⟩
    exact ⟨_, listingOf_eq_ok_iff.mpr ⟨clauses, content, block, ofClauses, consistent, rfl⟩, rfl⟩

/-- The result of reading a text is that of reading its description. Building the automaton adds no
refusal. -/
theorem parse_eq_listingOf (text : String) :
    parse text = ((listingOf (tokens text)).map Listing.automaton).mapError .reading := by
  unfold parse automatonOf
  cases read : listingOf (tokens text) with
  | error error => rfl
  | ok described =>
    obtain ⟨-, -, built⟩ := build_of_listingOf read
    simp only [built]
    rfl

/-- A text that does not specify an automaton is refused by the reader. -/
theorem parse_ok_or_reading (text : String) :
    (∃ model, parse text = .ok model) ∨ ∃ error, parse text = .error (.reading error) := by
  rw [parse_eq_listingOf]
  cases listingOf (tokens text) with
  | error error => exact .inr ⟨error, rfl⟩
  | ok described => exact .inl ⟨described.automaton, rfl⟩

end Acceptor.Spec
