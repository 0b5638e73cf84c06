/-
Answers or errors in sequence, taken apart.

A sequence answers only if all of its parts do (`bind_eq_ok_iff`). So a run that
answers has done so for each of its elements (`eq_map_of_mapM`), and what
every step of a run preserves where it answers is preserved by the run
(`foldlM_preserves`). Where it is known what each step goes on with, the run is
the plain one that goes on with that (`foldlM_eq_ok_iff`).
-/
import Mathlib.Data.List.Forall2

namespace ApiCommands

/-- What follows for each of the second list from its partner in the first. -/
theorem forall_mem_of_forall₂ {α β : Type} {R : α → β → Prop} {p : β → Prop} {as : List α}
    {bs : List β} (hp : ∀ a b, R a b → p b) (h : List.Forall₂ R as bs) : ∀ b ∈ bs, p b := by
  induction h with
  | nil => exact List.forall_mem_nil _
  | cons hfirst _ ih => exact List.forall_mem_cons.mpr ⟨hp _ _ hfirst, ih⟩

namespace Except

variable {ε α β γ : Type _}

/-- A sequence answers exactly if its first part answers and its second part does so with that. -/
theorem bind_eq_ok_iff {x : Except ε α} {f : α → Except ε β} {b : β} :
    (x >>= f) = .ok b ↔ ∃ a, x = .ok a ∧ f a = .ok b := by
  cases x with
  | error e => simp [bind, Except.bind]
  | ok a => simp [bind, Except.bind]

/-- A sequence answers if its first part does and its second part does with whatever comes out of
the first. -/
theorem exists_bind_eq_ok {x : Except ε α} {f : α → Except ε β} (hx : ∃ a, x = .ok a)
    (hf : ∀ a, ∃ b, f a = .ok b) : ∃ b, (x >>= f) = .ok b := by
  obtain ⟨a, ha⟩ := hx
  obtain ⟨b, hb⟩ := hf a
  exact ⟨b, bind_eq_ok_iff.mpr ⟨a, ha, hb⟩⟩

/-- A run whose steps all answer gives their answers. -/
theorem mapM_eq_ok_map {f : α → Except ε β} {g : α → β} {items : List α}
    (h : ∀ a ∈ items, f a = .ok (g a)) : items.mapM f = .ok (items.map g) := by
  induction items with
  | nil => rfl
  | cons a rest ih =>
      obtain ⟨hfirst, hrest⟩ := List.forall_mem_cons.mp h
      rw [List.mapM_cons, hfirst, ih hrest]
      rfl

/-- A run answers exactly if every step does, with the answers of the steps in order. -/
theorem mapM_eq_ok_iff {f : α → Except ε β} {items : List α} {results : List β} :
    items.mapM f = .ok results ↔ List.Forall₂ (fun a b => f a = .ok b) items results := by
  induction items generalizing results with
  | nil => simp [pure, Except.pure, eq_comm]
  | cons a rest ih =>
      rw [List.mapM_cons, bind_eq_ok_iff, List.forall₂_cons_left_iff]
      constructor
      · rintro ⟨first, hfirst, h⟩
        obtain ⟨others, hothers, h⟩ := bind_eq_ok_iff.mp h
        exact ⟨first, others, hfirst, ih.mp hothers, (Except.ok.inj h).symm⟩
      · rintro ⟨first, others, hfirst, hothers, rfl⟩
        exact ⟨first, hfirst, bind_eq_ok_iff.mpr ⟨others, ih.mpr hothers, rfl⟩⟩

theorem length_mapM {f : α → Except ε β} {items : List α} {results : List β}
    (h : items.mapM f = .ok results) : results.length = items.length :=
  (mapM_eq_ok_iff.mp h).length_eq.symm

/-- Each answer of a run is that of the step for the element at its place. -/
theorem mapM_getElem? {f : α → Except ε β} {items : List α} {results : List β}
    (h : items.mapM f = .ok results) {k : Nat} {a : α} (ha : items[k]? = some a) :
    ∃ b, f a = .ok b ∧ results[k]? = some b := by
  obtain ⟨hk, rfl⟩ := List.getElem?_eq_some_iff.mp ha
  have hk' : k < results.length := by rwa [length_mapM h]
  exact ⟨results[k], (mapM_eq_ok_iff.mp h).get hk hk', List.getElem?_eq_getElem hk'⟩

/-- So each answer is that of a step. -/
theorem exists_of_mem_mapM {f : α → Except ε β} {items : List α} {results : List β} {b : β}
    (h : items.mapM f = .ok results) (hb : b ∈ results) : ∃ a ∈ items, f a = .ok b := by
  obtain ⟨k, hk, rfl⟩ := List.getElem_of_mem hb
  have hk' : k < items.length := by rwa [← length_mapM h]
  exact ⟨items[k], List.getElem_mem hk', (mapM_eq_ok_iff.mp h).get hk' hk⟩

/-- A run answers as soon as every step does. -/
theorem exists_mapM_eq_ok_iff {f : α → Except ε β} {items : List α} :
    (∃ results, items.mapM f = .ok results) ↔ ∀ a ∈ items, ∃ b, f a = .ok b := by
  induction items with
  | nil => exact iff_of_true ⟨[], rfl⟩ (List.forall_mem_nil _)
  | cons a rest ih =>
      rw [List.forall_mem_cons, ← ih]
      simp only [mapM_eq_ok_iff, List.forall₂_cons_left_iff]
      constructor
      · rintro ⟨results, first, others, hfirst, hothers, rfl⟩
        exact ⟨⟨first, hfirst⟩, others, hothers⟩
      · rintro ⟨⟨first, hfirst⟩, others, hothers⟩
        exact ⟨_, first, others, hfirst, hothers, rfl⟩

/-- Where the steps keep what is read off them, so does the run. -/
theorem map_eq_of_mapM {f : α → Except ε β} {g : β → γ} {h : α → γ} {items : List α}
    {results : List β} (hstep : ∀ a b, f a = .ok b → g b = h a)
    (hrun : items.mapM f = .ok results) : results.map g = items.map h := by
  induction items generalizing results with
  | nil =>
      obtain rfl := Except.ok.inj hrun
      rfl
  | cons a rest ih =>
      rw [List.mapM_cons] at hrun
      obtain ⟨first, hfirst, hrun⟩ := bind_eq_ok_iff.mp hrun
      obtain ⟨others, hothers, hrun⟩ := bind_eq_ok_iff.mp hrun
      obtain rfl := Except.ok.inj hrun
      rw [List.map_cons, List.map_cons, hstep a first hfirst, ih hothers]

/-- A sequence fails with the error of its first part, or with that of its second. -/
theorem bind_eq_error {x : Except ε α} {f : α → Except ε β} {e : ε} (h : (x >>= f) = .error e) :
    x = .error e ∨ ∃ a, f a = .error e := by
  cases x with
  | error _ => exact Or.inl (congrArg Except.error (Except.error.inj h))
  | ok a => exact Or.inr ⟨a, h⟩

/-- A run fails with the error of one of its steps. -/
theorem exists_of_mapM_eq_error {f : α → Except ε β} {items : List α} {e : ε}
    (h : items.mapM f = .error e) : ∃ a ∈ items, f a = .error e := by
  induction items with
  | nil => cases h
  | cons a rest ih =>
      rw [List.mapM_cons] at h
      rcases bind_eq_error h with hfirst | ⟨_, h⟩
      · exact ⟨a, List.mem_cons_self, hfirst⟩
      · rcases bind_eq_error h with hrest | ⟨_, h⟩
        · obtain ⟨a', ha', herror⟩ := ih hrest
          exact ⟨a', List.mem_cons_of_mem _ ha', herror⟩
        · cases h

/-- A mapped answer is the answer, mapped. -/
theorem map_eq_ok_iff {x : Except ε α} {f : α → β} {b : β} :
    f <$> x = .ok b ↔ ∃ a, x = .ok a ∧ f a = b := by
  cases x with
  | error e => simp [Functor.map, Except.map]
  | ok a => simp [Functor.map, Except.map]

/-- Telling an error in other terms changes no answer. -/
theorem mapError_eq_ok_iff {ε' : Type _} {x : Except ε α} {f : ε → ε'} {a : α} :
    x.mapError f = .ok a ↔ x = .ok a := by
  cases x with
  | error e => simp [Except.mapError]
  | ok a => simp [Except.mapError]

/-- Where it is known what each element can give, a run of answers gives that for all of them. -/
theorem eq_map_of_mapM {f : α → Except ε β} {g : α → β} {items : List α} {results : List β}
    (hg : ∀ a b, f a = .ok b → b = g a) (h : items.mapM f = .ok results) :
    results = items.map g ∧ ∀ a ∈ items, f a = .ok (g a) := by
  induction items generalizing results with
  | nil =>
      cases h
      exact ⟨rfl, fun a ha => by cases ha⟩
  | cons a rest ih =>
      rw [List.mapM_cons, bind_eq_ok_iff] at h
      obtain ⟨first, hfirst, h⟩ := h
      obtain ⟨others, hothers, h⟩ := bind_eq_ok_iff.mp h
      obtain rfl := hg a first hfirst
      obtain ⟨rfl, hrest⟩ := ih hothers
      exact ⟨(Except.ok.inj h).symm, List.forall_mem_cons.mpr ⟨hfirst, hrest⟩⟩

/-- So a run of answers is a row of values that the steps answer. -/
theorem exists_eq_map_of_mapM [Inhabited β] {f : α → Except ε β} {items : List α}
    {results : List β} (h : items.mapM f = .ok results) :
    ∃ g : α → β, results = items.map g ∧ ∀ a ∈ items, f a = .ok (g a) := by
  refine ⟨fun a => (f a).toOption.getD default, eq_map_of_mapM (fun a b hb => ?_) h⟩
  rw [hb]
  rfl

/-- What every step of a run preserves is preserved by the run. -/
theorem foldlM_preserves {I : β → Prop} {f : β → α → Except ε β} {items : List α} {b r : β}
    (hstep : ∀ a ∈ items, ∀ b b', f b a = .ok b' → I b → I b') (h : items.foldlM f b = .ok r)
    (hb : I b) : I r := by
  induction items generalizing b with
  | nil =>
      cases h
      exact hb
  | cons a rest ih =>
      rw [List.foldlM_cons, bind_eq_ok_iff] at h
      obtain ⟨next, hfirst, hrest⟩ := h
      have hnext : I next := hstep a List.mem_cons_self b next hfirst hb
      exact ih (fun a ha => hstep a (List.mem_cons_of_mem _ ha)) hrest hnext

/-- If a step answers exactly by going on with something that its element stands for, the run
answers exactly by going on with such things one after the other. -/
theorem foldlM_eq_ok_iff {f : β → α → Except ε β} {standsFor : α → γ → Prop} {next : β → γ → β}
    (hstep : ∀ b a b', f b a = .ok b' ↔ ∃ c, standsFor a c ∧ b' = next b c) {items : List α}
    {b r : β} :
    items.foldlM f b = .ok r ↔ ∃ cs, List.Forall₂ standsFor items cs ∧ r = cs.foldl next b := by
  induction items generalizing b with
  | nil => simp [pure, Except.pure, eq_comm]
  | cons a rest ih =>
      rw [List.foldlM_cons, bind_eq_ok_iff]
      constructor
      · rintro ⟨b', hfirst, hrest⟩
        obtain ⟨c, hc, rfl⟩ := (hstep b a b').mp hfirst
        obtain ⟨cs, hcs, rfl⟩ := ih.mp hrest
        exact ⟨c :: cs, .cons hc hcs, rfl⟩
      · rintro ⟨_, hforall, rfl⟩
        cases hforall with
        | cons hc hcs => exact ⟨_, (hstep b a _).mpr ⟨_, hc, rfl⟩, ih.mpr ⟨_, hcs, rfl⟩⟩

end Except

end ApiCommands
