/-
Computations that leave notes, taken apart.

Statements about an answer start from `outcome = .ok a` and go backwards
through the steps that led to it. Each step is a bind, a map or a choice; the
equivalences here undo one each.

# Runs

A run over a list does one step per element and puts together what the steps
give, so `List.flatten <$> xs.mapM f`. It answers only if every step does, and
then it has what the steps gave and nothing else (`outcome_run_spec`).
-/
import ApiCommands.Outcome.Note

namespace ApiCommands.Noted

universe u

variable {α β : Type u}

/-- A sequence answers exactly if its first part answers and its second part does so with that. -/
theorem outcome_bind_eq_ok_iff {x : Noted α} {f : α → Noted β} {b : β} :
    (x >>= f).outcome = .ok b ↔ ∃ a, x.outcome = .ok a ∧ (f a).outcome = .ok b := by
  rw [outcome_bind]
  cases x.outcome with
  | error e => simp [Except.bind]
  | ok a => simp [Except.bind]

/-- A mapped computation answers exactly if the computation does. -/
theorem outcome_map_eq_ok_iff {x : Noted α} {f : α → β} {b : β} :
    (f <$> x).outcome = .ok b ↔ ∃ a, x.outcome = .ok a ∧ f a = b := by
  rw [map_eq_pure_bind, outcome_bind_eq_ok_iff]
  constructor
  · rintro ⟨a, ha, hb⟩
    exact ⟨a, ha, by simpa using hb⟩
  · rintro ⟨a, ha, rfl⟩
    exact ⟨a, ha, rfl⟩

/-- A sequence fails exactly if its first part fails, or answers and its second part fails with
that. -/
theorem outcome_bind_eq_error_iff {x : Noted α} {f : α → Noted β} {e : Error} :
    (x >>= f).outcome = .error e
      ↔ x.outcome = .error e ∨ ∃ a, x.outcome = .ok a ∧ (f a).outcome = .error e := by
  rw [outcome_bind]
  cases x.outcome with
  | error e' => simp [Except.bind]
  | ok a => simp [Except.bind]

/-- Of a sequence only those continuations count that follow an answer. -/
theorem bind_congr {x : Noted α} {f g : α → Noted β}
    (h : ∀ r, x.outcome = .ok r → f r = g r) : x >>= f = x >>= g := by
  show Noted.bind x f = Noted.bind x g
  unfold Noted.bind
  cases hx : x.outcome with
  | error e => rfl
  | ok r =>
      dsimp only
      rw [h r hx]

/-- A sequence comes out the same if its parts do, whatever notes they leave. -/
theorem outcome_bind_congr {x y : Noted α} {f g : α → Noted β} (hfirst : x.outcome = y.outcome)
    (hthen : ∀ r, (f r).outcome = (g r).outcome) : (x >>= f).outcome = (y >>= g).outcome := by
  rw [outcome_bind, outcome_bind, hfirst]
  exact congrArg y.outcome.bind (funext hthen)

/-- What a mapped computation gives is what the computation gives, mapped. -/
theorem outcome_map (x : Noted α) (f : α → β) : (f <$> x).outcome = x.outcome.map f := by
  rw [map_eq_pure_bind, outcome_bind]
  cases x.outcome <;> rfl

/-- A mapped computation fails exactly if the computation does. -/
theorem outcome_map_eq_error_iff {x : Noted α} {f : α → β} {e : Error} :
    (f <$> x).outcome = .error e ↔ x.outcome = .error e := by
  rw [map_eq_pure_bind, outcome_bind_eq_error_iff]
  simp

-- ====================================================== runs

section Runs

variable {ι : Type _} {f : ι → Noted (List β)}

/-- A run does the first step and goes on with the rest. -/
theorem run_cons (x : ι) (rest : List ι) :
    List.flatten <$> (x :: rest).mapM f
      = (do
          let found ← f x
          return found ++ (← List.flatten <$> rest.mapM f)) := by
  rw [List.mapM_cons]
  simp only [map_eq_pure_bind, bind_assoc, pure_bind, List.flatten_cons]

/-- Two runs in a row are one. -/
theorem outcome_run_append_eq_ok_iff {xs more : List ι} {ys : List β} :
    (List.flatten <$> (xs ++ more).mapM f).outcome = .ok ys
      ↔ ∃ first second, (List.flatten <$> xs.mapM f).outcome = .ok first
          ∧ (List.flatten <$> more.mapM f).outcome = .ok second ∧ ys = first ++ second := by
  have happend : List.flatten <$> (xs ++ more).mapM f
      = (do
          let first ← List.flatten <$> xs.mapM f
          let second ← List.flatten <$> more.mapM f
          return first ++ second) := by
    rw [List.mapM_append]
    simp only [map_eq_pure_bind, bind_assoc, pure_bind, List.flatten_append]
  rw [happend]
  simp only [outcome_bind_eq_ok_iff, outcome_pure, Except.ok.injEq]
  constructor
  · rintro ⟨first, hfirst, second, hsecond, rfl⟩
    exact ⟨first, second, hfirst, hsecond, rfl⟩
  · rintro ⟨first, second, hfirst, hsecond, rfl⟩
    exact ⟨first, hfirst, second, hsecond, rfl⟩

/-- In a run that answers every step answers, and what the run has is what the steps gave. -/
theorem outcome_run_spec {xs : List ι} {ys : List β}
    (h : (List.flatten <$> xs.mapM f).outcome = .ok ys) :
    (∀ x ∈ xs, ∃ found, (f x).outcome = .ok found)
      ∧ ∀ y, y ∈ ys ↔ ∃ x ∈ xs, ∃ found, (f x).outcome = .ok found ∧ y ∈ found := by
  induction xs generalizing ys with
  | nil =>
      obtain rfl := Except.ok.inj h
      simp
  | cons x rest ih =>
      rw [run_cons] at h
      simp only [outcome_bind_eq_ok_iff, outcome_pure, Except.ok.injEq] at h
      obtain ⟨found, hfound, others, hothers, rfl⟩ := h
      obtain ⟨hanswer, hmem⟩ := ih hothers
      constructor
      · exact List.forall_mem_cons.mpr ⟨⟨found, hfound⟩, hanswer⟩
      · intro y
        simp only [List.mem_append, hmem, List.mem_cons, exists_eq_or_imp, hfound,
          Except.ok.injEq, exists_eq_left']

end Runs

end ApiCommands.Noted
