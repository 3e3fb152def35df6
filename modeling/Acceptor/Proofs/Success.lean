/-!
# When steps that can be refused succeed

A chain of steps succeeds exactly if every step does. The lemmas take a successful chain apart, so
that later proofs speak about the results of its steps and not about how they are joined. Two chains
match if both are refused for the same reason or both succeed with results that are related.
-/

namespace Acceptor

variable {ε ε' α β : Type}

/-- Two steps succeed exactly if the first does and the second does with its result. -/
theorem bind_eq_ok_iff {step : Except ε α} {next : α → Except ε β} {result : β} :
    step >>= next = .ok result ↔ ∃ value, step = .ok value ∧ next value = .ok result := by
  cases step <;> simp [bind, Except.bind]

/-- Two steps are refused exactly if the first is, or the second is after it. -/
theorem bind_eq_error_iff {step : Except ε α} {next : α → Except ε β} {error : ε} :
    step >>= next = .error error ↔
      step = .error error ∨ ∃ value, step = .ok value ∧ next value = .error error := by
  cases step <;> simp [bind, Except.bind]

/-- A check before a step succeeds exactly if both do. -/
theorem check_eq_ok_iff {check : Except ε Unit} {next : Unit → Except ε β} {result : β} :
    check >>= next = .ok result ↔ check = .ok () ∧ next () = .ok result := by
  rw [bind_eq_ok_iff]
  constructor
  · rintro ⟨⟨⟩, passed, onward⟩
    exact ⟨passed, onward⟩
  · rintro ⟨passed, onward⟩
    exact ⟨(), passed, onward⟩

/-- A step behind a refusal is reached only if the refusal's condition fails. -/
theorem refuseIf_eq_ok_iff {condition : Prop} [Decidable condition] {error : ε}
    {next : α → Except ε β} {rest : Except ε β} {result : β} :
    (if condition then throw error >>= next else rest) = .ok result ↔
      ¬condition ∧ rest = .ok result := by
  by_cases holds : condition
  · simp [holds, throw, throwThe, MonadExceptOf.throw, bind, Except.bind]
  · simp [holds]

theorem pure_eq_ok_iff {value result : α} :
    (pure value : Except ε α) = .ok result ↔ value = result := by
  simp [pure, Except.pure]

theorem map_eq_ok_iff {step : Except ε α} {change : α → β} {result : β} :
    step.map change = .ok result ↔ ∃ value, step = .ok value ∧ change value = result := by
  cases step <;> simp [Except.map]

theorem discard_eq_ok_iff {step : Except ε α} :
    discard step = .ok () ↔ ∃ value, step = .ok value := by
  cases step with
  | ok value => exact ⟨fun _ => ⟨value, rfl⟩, fun _ => rfl⟩
  | error error => exact ⟨nofun, nofun⟩

/-- The second half of a result is the same after a change of the first half. -/
theorem map_snd_eq_map_map {γ : Type} (step : Except ε (α × β)) (change : α × β → γ × β)
    (keeps : ∀ result, (change result).2 = result.2) :
    step.map (·.2) = (step.map change).map (·.2) := by
  cases step with
  | ok result => exact congrArg Except.ok (keeps result).symm
  | error error => rfl

theorem eq_map_snd_map_pair (step : Except ε β) (value : α) :
    step = (step.map fun result => (value, result)).map (·.2) := by
  cases step <;> rfl

theorem mapError_eq_ok_iff {step : Except ε α} {change : ε → ε'} {result : α} :
    step.mapError change = .ok result ↔ step = .ok result := by
  cases step with
  | ok value =>
    constructor
    · intro same
      exact congrArg Except.ok (Except.ok.inj same)
    · intro same
      exact congrArg Except.ok (Except.ok.inj same)
  | error error => exact ⟨nofun, nofun⟩

/-- A check of all entries succeeds exactly if it succeeds on each. -/
theorem forM_eq_ok_iff {entries : List α} {check : α → Except ε Unit} :
    entries.forM check = .ok () ↔ ∀ entry ∈ entries, check entry = .ok () := by
  induction entries with
  | nil => simp [pure, Except.pure]
  | cons first rest inductionHypothesis =>
    simp only [List.forM_eq_forM] at inductionHypothesis
    simp only [List.forM_eq_forM, List.forM_cons, check_eq_ok_iff, inductionHypothesis,
      List.forall_mem_cons]

/-- A step taken on all entries succeeds exactly if it does on each, with the results in order. -/
theorem mapM_eq_ok_iff {entries : List α} {step : α → Except ε β} {results : List β} :
    entries.mapM step = .ok results ↔ entries.map step = results.map .ok := by
  induction entries generalizing results with
  | nil => cases results <;> simp [pure, Except.pure]
  | cons first rest inductionHypothesis =>
    simp only [List.mapM_cons, bind_eq_ok_iff, pure_eq_ok_iff, inductionHypothesis, List.map_cons]
    constructor
    · rintro ⟨here, taken, later, others, rfl⟩
      rw [taken, others, List.map_cons]
    · intro same
      cases results with
      | nil => cases same
      | cons here later =>
        obtain ⟨taken, others⟩ := List.cons.inj same
        exact ⟨here, taken, later, others, rfl⟩

theorem exists_mapM_eq_ok {entries : List α} {step : α → Except ε β}
    (each : ∀ entry ∈ entries, ∃ result, step entry = .ok result) :
    ∃ results, entries.mapM step = .ok results := by
  induction entries with
  | nil => exact ⟨[], rfl⟩
  | cons first rest inductionHypothesis =>
    obtain ⟨⟨here, taken⟩, others⟩ := List.forall_mem_cons.mp each
    obtain ⟨later, onward⟩ := inductionHypothesis others
    refine ⟨here :: later, mapM_eq_ok_iff.mpr ?_⟩
    rw [List.map_cons, taken, mapM_eq_ok_iff.mp onward, List.map_cons]

/-- What holds of every result of a step holds of all results of the step taken on some entries. -/
theorem forall_mem_of_mapM {entries : List α} {step : α → Except ε β} {results : List β}
    {holds : β → Prop} (each : ∀ entry result, step entry = .ok result → holds result)
    (done : entries.mapM step = .ok results) : ∀ result ∈ results, holds result := by
  intro result member
  have there : (.ok result : Except ε β) ∈ entries.map step :=
    mapM_eq_ok_iff.mp done ▸ List.mem_map_of_mem member
  obtain ⟨entry, -, here⟩ := List.mem_map.mp there
  exact each entry result here

/-- Two steps are refused alike or succeed with related results. -/
inductive Matching (related : α → β → Prop) : Except ε α → Except ε β → Prop
  | ok {left right} (alike : related left right) : Matching related (.ok left) (.ok right)
  | error (error : ε) : Matching related (.error error) (.error error)

namespace Matching

variable {γ δ : Type} {related : α → β → Prop} {onward : γ → δ → Prop} {left : Except ε α}
  {right : Except ε β}

/-- Matching steps can be followed by steps that match on related results. -/
theorem bind {next : α → Except ε γ} {next' : β → Except ε δ} (first : Matching related left right)
    (follow : ∀ value value', left = .ok value → related value value' →
      Matching onward (next value) (next' value')) :
    Matching onward (left >>= next) (right >>= next') := by
  cases first with
  | ok alike => exact follow _ _ rfl alike
  | error error => exact .error error

/-- The same step on both sides is followed with the same result. -/
theorem bind_same {step : Except ε α} {next : α → Except ε γ} {next' : α → Except ε δ}
    (follow : ∀ value, step = .ok value → Matching onward (next value) (next' value)) :
    Matching onward (step >>= next) (step >>= next') := by
  cases step with
  | ok value => exact follow value rfl
  | error error => exact .error error

theorem map {change : α → γ} {change' : β → δ} (first : Matching related left right)
    (follow : ∀ value value', related value value' → onward (change value) (change' value')) :
    Matching onward (left.map change) (right.map change') := by
  cases first with
  | ok alike => exact .ok (follow _ _ alike)
  | error error => exact .error error

theorem mapError (first : Matching related left right) (change : ε → ε') :
    Matching related (left.mapError change) (right.mapError change) := by
  cases first with
  | ok alike => exact .ok alike
  | error error => exact .error (change error)

end Matching

end Acceptor
