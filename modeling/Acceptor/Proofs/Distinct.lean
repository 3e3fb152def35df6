import Acceptor.Distinct

/-!
# Leaving out repetitions

How `distinct` goes together with filtering, appending and renaming, in which order it leaves the
entries, and that it changes nothing where nothing is repeated.
-/

namespace Acceptor

variable {α : Type} [BEq α] [LawfulBEq α]

/-- A list without repetitions keeps all its entries. -/
theorem distinct_of_nodup {entries : List α} (nodup : entries.Nodup) :
    distinct entries = entries := by
  induction entries with
  | nil => rfl
  | cons first rest inductionHypothesis =>
    obtain ⟨fresh, nodup⟩ := List.nodup_cons.mp nodup
    rw [distinct, inductionHypothesis nodup, List.filter_eq_self.mpr]
    intro entry member
    have different : entry ≠ first := fun same => fresh (same ▸ member)
    simpa using different

/-- Entries can be filtered before or after repetitions are left out. -/
theorem filter_distinct (keep : α → Bool) (entries : List α) :
    (distinct entries).filter keep = distinct (entries.filter keep) := by
  induction entries with
  | nil => rfl
  | cons first rest inductionHypothesis =>
    have swapped : ((distinct rest).filter (· != first)).filter keep =
        (distinct (rest.filter keep)).filter (· != first) := by
      rw [← inductionHypothesis, List.filter_filter, List.filter_filter]
      exact List.filter_congr fun entry _ => Bool.and_comm _ _
    by_cases kept : keep first = true
    · simp only [distinct, List.filter_cons_of_pos kept, swapped]
    · rw [distinct, List.filter_cons_of_neg kept, List.filter_cons_of_neg kept, swapped]
      refine List.filter_eq_self.mpr ?_
      intro entry member
      have kept' := (List.mem_filter.mp (mem_distinct.mp member)).2
      have different : entry ≠ first := fun same => kept (same ▸ kept')
      simpa using different

/-- In two lists one after the other, the second contributes what the first does not have. -/
theorem distinct_append (left right : List α) :
    distinct (left ++ right) = distinct left ++ distinct (right.filter (!left.contains ·)) := by
  induction left with
  | nil =>
    rw [List.filter_eq_self.mpr (by simp)]
    rfl
  | cons first rest inductionHypothesis =>
    rw [List.cons_append, distinct, inductionHypothesis, List.filter_append, filter_distinct _
      (right.filter _), List.filter_filter, distinct, List.cons_append]
    congr 3
    refine List.filter_congr ?_
    intro entry _
    simp [bne]

/-- Repetitions can be left out of a first part beforehand. -/
theorem distinct_distinct_append (left right : List α) :
    distinct (distinct left ++ right) = distinct (left ++ right) := by
  rw [distinct_append, distinct_append, distinct_of_nodup (nodup_distinct left)]
  simp [mem_distinct]

/-- One more entry stands at the end, unless it is there already. -/
theorem distinct_concat (entries : List α) (entry : α) :
    distinct (entries ++ [entry]) =
      if entry ∈ entries then distinct entries else distinct entries ++ [entry] := by
  rw [distinct_append]
  split
  · next member => simp [member, distinct]
  · next absent => simp [absent, distinct]

/-- Entries can be renamed before or after repetitions are left out, if none of them get the same
name. -/
theorem distinct_map {β : Type} [BEq β] [LawfulBEq β] {entries : List α} {rename : α → β}
    (apart : ∀ entry ∈ entries, ∀ other ∈ entries, rename entry = rename other → entry = other) :
    distinct (entries.map rename) = (distinct entries).map rename := by
  induction entries with
  | nil => rfl
  | cons first rest inductionHypothesis =>
    have apartRest := inductionHypothesis fun entry member other member' =>
      apart entry (List.mem_cons_of_mem _ member) other (List.mem_cons_of_mem _ member')
    rw [List.map_cons, distinct, apartRest, distinct, List.map_cons, List.filter_map]
    congr 2
    refine List.filter_congr fun entry member => ?_
    have member := List.mem_cons_of_mem first (mem_distinct.mp member)
    rw [Bool.eq_iff_iff, Function.comp_apply, bne_iff_ne, bne_iff_ne]
    exact not_congr ⟨apart entry member first List.mem_cons_self, congrArg rename⟩

/-- The entries stand in the order of their first occurrences. -/
theorem pairwise_idxOf_distinct (entries : List α) :
    (distinct entries).Pairwise fun left right => entries.idxOf left < entries.idxOf right := by
  induction entries with
  | nil => exact List.Pairwise.nil
  | cons first rest inductionHypothesis =>
    have later (entry : α) (kept : entry ∈ (distinct rest).filter (· != first)) :
        (first :: rest).idxOf entry = rest.idxOf entry + 1 := by
      have different : first ≠ entry := (bne_iff_ne.mp (List.mem_filter.mp kept).2).symm
      rw [List.idxOf_cons, beq_eq_false_iff_ne.mpr different, cond_false]
    refine List.pairwise_cons.mpr ⟨?_, ?_⟩
    · intro entry kept
      rw [List.idxOf_cons_self, later entry kept]
      exact Nat.succ_pos _
    · refine (inductionHypothesis.filter _).imp_of_mem ?_
      intro left right leftKept rightKept before
      rw [later left leftKept, later right rightKept]
      exact Nat.succ_lt_succ before

end Acceptor
