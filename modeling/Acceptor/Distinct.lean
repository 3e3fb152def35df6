/-!
# Lists without repetitions

The entries of a list in the order of their first occurrences, each once.
-/

namespace Acceptor

/-- The entries of a list without the later repetitions of each. -/
def distinct {α : Type} [BEq α] : List α → List α
  | [] => []
  | first :: rest => first :: (distinct rest).filter (· != first)

theorem mem_distinct {α : Type} [BEq α] [LawfulBEq α] {entry : α} {entries : List α} :
    entry ∈ distinct entries ↔ entry ∈ entries := by
  induction entries with
  | nil => simp [distinct]
  | cons first rest inductionHypothesis =>
    simp only [distinct, List.mem_cons, List.mem_filter, inductionHypothesis, bne_iff_ne]
    by_cases same : entry = first <;> simp [same]

theorem nodup_distinct {α : Type} [BEq α] [LawfulBEq α] (entries : List α) :
    (distinct entries).Nodup := by
  induction entries with
  | nil => simp [distinct]
  | cons first rest inductionHypothesis =>
    simp only [distinct, List.nodup_cons, List.mem_filter, bne_iff_ne]
    exact ⟨fun member => member.2 rfl, inductionHypothesis.filter _⟩

end Acceptor
