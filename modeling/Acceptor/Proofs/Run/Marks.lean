import Acceptor.Proofs.Distinct
import Acceptor.Run.Frame

/-!
# Marks that follow a path

Marks are set one by one. If every place of a path is marked as active when it is reached, the
marks are the places of the path in the order of their first occurrences (`put_active`), and
marking one of them anew changes neither their number nor their order (`put_of_mem`).
-/

namespace Acceptor

/-- Places marked as active in the order in which they first occur. -/
def activeMarks {α : Type} [BEq α] (places : List α) : Marks α :=
  (distinct places).map fun place => (place, .active)

/-- Marks in which one place is marked anew. -/
def recoloured {α : Type} [BEq α] (marks : Marks α) (place : α) (highlight : Highlight) :
    Marks α :=
  marks.map fun mark => if mark.1 == place then (place, highlight) else mark

variable {α : Type} [BEq α] [LawfulBEq α]

theorem any_activeMarks {places : List α} {place : α} :
    (activeMarks places).any (·.1 == place) = true ↔ place ∈ places := by
  simp [activeMarks, mem_distinct]

/-- Marking a place that is marked already keeps its place. -/
theorem put_of_mem {places : List α} {place : α} (member : place ∈ places)
    (highlight : Highlight) :
    Marks.put (activeMarks places) place highlight =
      recoloured (activeMarks places) place highlight := by
  unfold Marks.put
  rw [if_pos (any_activeMarks.mpr member)]
  rfl

/-- Marking one more place as active puts it at the end, unless it is marked already. -/
theorem put_active (places : List α) (place : α) :
    Marks.put (activeMarks places) place .active = activeMarks (places ++ [place]) := by
  by_cases member : place ∈ places
  · rw [put_of_mem member, recoloured, activeMarks, activeMarks, distinct_concat, if_pos member,
      List.map_map]
    refine List.map_congr_left fun other _ => ?_
    by_cases same : other = place <;> simp [same]
  · have absent : ¬(activeMarks places).any (·.1 == place) = true :=
      fun marked => member (any_activeMarks.mp marked)
    unfold Marks.put
    rw [if_neg absent, activeMarks, activeMarks, distinct_concat, if_neg member, List.map_append]
    rfl

section Looking

variable {α : Type} [DecidableEq α]

/-- The first mark of a place is the one that counts. -/
theorem at?_cons (mark : α × Highlight) (rest : Marks α) (place : α) :
    Marks.at? (mark :: rest) place = if place = mark.1 then some mark.2 else rest.at? place := by
  rw [Marks.at?, List.lookup_cons]
  by_cases same : place = mark.1
  · simp [same]
  · have apart : (place == mark.1) = false := beq_eq_false_iff_ne.mpr same
    rw [apart, if_neg same]
    rfl

/-- The places of a path are marked as active, and no other ones are marked. -/
theorem at?_activeMarks (places : List α) (place : α) :
    (activeMarks places).at? place = if place ∈ places then some .active else none := by
  have looked (others : List α) : Marks.at? (others.map fun other => (other, .active)) place =
      if place ∈ others then some .active else none := by
    induction others with
    | nil => rfl
    | cons other rest inductionHypothesis =>
      rw [List.map_cons, at?_cons, inductionHypothesis]
      by_cases same : place = other <;> simp [same]
  simp only [activeMarks, looked, mem_distinct]

/-- Where a place is marked anew, the mark of this place changes if there is one, and no other. -/
theorem at?_recoloured (marks : Marks α) (place other : α) (highlight : Highlight) :
    (recoloured marks place highlight).at? other =
      if other = place then (marks.at? other).map fun _ => highlight else marks.at? other := by
  unfold recoloured
  induction marks with
  | nil => simp [Marks.at?]
  | cons mark rest inductionHypothesis =>
    rw [List.map_cons, at?_cons, at?_cons, inductionHypothesis]
    by_cases here : mark.1 = place
    · by_cases same : other = place <;> simp [here, same]
    · by_cases same : other = mark.1 <;> simp [here, same]

end Looking

end Acceptor
