/-
Checks that find a value: what a check without issues says of its parts.

A check is `valid a` if it has no issue and gives `a`. For each way of putting
checks together there is one equivalence that takes a valid one apart
(`map_eq_valid_iff`, `seq_eq_valid_iff`, `all_eq_valid_iff`), and from these one for
every kind of value: rows (`items_eq_valid_iff`) and mappings (`dict_eq_valid_iff`).

# Each key once

Of the pairs of a mapping one is kept for each key (`nodup_oncePerKey`). Pairs whose
keys are all different are left as they are (`oncePerKey_of_nodup`).
-/
import ApiCommands.Proofs.Document.Entries
import ApiCommands.Proofs.Naming.Grouping
import ApiCommands.Proofs.Text.LoweredTwice
import ApiCommands.Validation.Checked

namespace ApiCommands.Checked

variable {α β : Type}

-- ====================================================== checks put together

theorem eq_valid_iff {x : Checked α} {a : α} :
    x = valid a ↔ x.issues = [] ∧ x.value? = some a := by
  cases x
  simp [valid]

theorem valid_inj {a b : α} (h : valid a = valid b) : a = b :=
  Option.some.inj (eq_valid_iff.mp h).2

theorem result_eq_ok_iff {x : Checked α} {model : String} {a : α} :
    x.result model = .ok a ↔ x = valid a := by
  rw [eq_valid_iff]
  obtain ⟨issues, value?⟩ := x
  cases issues <;> cases value? <;> simp [result]

theorem map_eq_valid_iff {f : α → β} {x : Checked α} {b : β} :
    f <$> x = valid b ↔ ∃ a, x = valid a ∧ f a = b := by
  simp only [eq_valid_iff]
  show x.issues = [] ∧ x.value?.map f = some b ↔ _
  simp [Option.map_eq_some_iff, and_assoc]

theorem seq_eq_valid_iff {f : Checked (α → β)} {x : Checked α} {b : β} :
    f <*> x = valid b ↔ ∃ g a, f = valid g ∧ x = valid a ∧ g a = b := by
  simp only [eq_valid_iff]
  show f.issues ++ x.issues = [] ∧ (f.value?.bind fun g => x.value?.map g) = some b ↔ _
  rw [List.append_eq_nil_iff, Option.bind_eq_some_iff]
  simp only [Option.map_eq_some_iff]
  constructor
  · rintro ⟨⟨hf, hx⟩, g, hg, a, ha, hb⟩
    exact ⟨g, a, ⟨hf, hg⟩, ⟨hx, ha⟩, hb⟩
  · rintro ⟨g, a, ⟨hf, hg⟩, ⟨hx, ha⟩, hb⟩
    exact ⟨⟨hf, hx⟩, g, hg, a, ha, hb⟩

theorem under_eq_valid_iff {x : Checked α} {step : PathStep} {a : α} :
    x.under step = valid a ↔ x = valid a := by
  simp [eq_valid_iff, under]

/-- Checks of several items are valid together if each is valid. -/
theorem all_eq_valid_iff {xs : List (Checked α)} {as : List α} :
    all xs = valid as ↔ xs = as.map valid := by
  induction xs generalizing as with
  | nil =>
      constructor
      · intro h
        obtain rfl := valid_inj h
        rfl
      · intro h
        obtain rfl := List.map_eq_nil_iff.mp h.symm
        rfl
  | cons x rest ih =>
      rw [all, seq_eq_valid_iff]
      simp only [map_eq_valid_iff, ih]
      constructor
      · rintro ⟨_, as, ⟨a, rfl, rfl⟩, rfl, rfl⟩
        rfl
      · intro h
        obtain ⟨a, as', rfl, rfl, rfl⟩ := List.map_eq_cons_iff.mp h.symm
        exact ⟨_, as', ⟨a, rfl, rfl⟩, rfl, rfl⟩

-- ====================================================== rows and sets

/-- Items below their indexes are valid if they are valid themselves. -/
theorem itemsFrom_eq_map_valid_iff {check : Value → Checked α} {n : Nat} {vs : List Value}
    {as : List α} : itemsFrom check n vs = as.map valid ↔ vs.map check = as.map valid := by
  induction vs generalizing n as with
  | nil => exact Iff.rfl
  | cons v rest ih =>
      cases as with
      | nil => simp [itemsFrom]
      | cons a as =>
          rw [itemsFrom, List.map_cons, List.map_cons, List.cons.injEq, List.cons.injEq,
            under_eq_valid_iff, ih]

theorem items_eq_valid_iff {kind : IssueKind} {check : Value → Checked α} {v : Value}
    {as : List α} :
    items kind check v = valid as ↔ ∃ vs, v = .list vs ∧ vs.map check = as.map valid := by
  constructor
  · intro h
    unfold items at h
    split at h
    · next vs => exact ⟨vs, rfl, itemsFrom_eq_map_valid_iff.mp (all_eq_valid_iff.mp h)⟩
    · cases (eq_valid_iff.mp h).2
  · rintro ⟨vs, rfl, hvs⟩
    exact all_eq_valid_iff.mpr (itemsFrom_eq_map_valid_iff.mpr hvs)

/-- A row written as texts is read back if each item is. -/
theorem items_texts (kind : IssueKind) {check : Value → Checked α} {written : α → String}
    {as : List α} (h : ∀ a ∈ as, check (.text (written a)) = valid a) :
    items kind check (.texts (as.map written)) = valid as := by
  refine items_eq_valid_iff.mpr ⟨_, rfl, ?_⟩
  rw [List.map_map, List.map_map]
  exact List.map_congr_left h

theorem items_text_texts (kind : IssueKind) (texts : List String) :
    items kind text (.texts texts) = valid texts := by
  have h : items kind text (.texts (texts.map id)) = valid texts := items_texts kind fun _ _ => rfl
  rwa [List.map_id] at h

theorem nodup_of_textSet {v : Value} {texts : List String} (h : textSet v = valid texts) :
    texts.Nodup := by
  obtain ⟨_, -, rfl⟩ := map_eq_valid_iff.mp h
  exact nodup_eraseDups _

/-- A set of texts that are all different is read back. -/
theorem textSet_texts {texts : List String} (h : texts.Nodup) :
    textSet (.texts texts) = valid texts :=
  map_eq_valid_iff.mpr ⟨texts, items_text_texts _ texts, eraseDups_of_nodup h⟩

/-- Texts in lower case, no two of them the same. -/
structure AreLow (texts : List String) : Prop where
  nodup : texts.Nodup
  lowered : ∀ s ∈ texts, Text.lowered s = s

/-- Texts are in lower case and all different if their characters are. -/
theorem areLow_map_ofList {texts : List (List Char)} (hnodup : texts.Nodup)
    (hlow : ∀ s ∈ texts, Text.lower s = s) : AreLow (texts.map String.ofList) where
  nodup := hnodup.map fun _ _ h => String.ofList_injective h
  lowered := by
    rw [List.forall_mem_map]
    intro s hs
    unfold Text.lowered
    rw [String.toList_ofList, hlow s hs]

/-- Texts and their characters. -/
inductive Spells : List (List Char) → List String → Prop where
  | nil : Spells [] []
  | cons {s : List Char} {more : List (List Char)} {texts : List String}
      (h : Spells more texts) : Spells (s :: more) (String.ofList s :: texts)

theorem Spells.eq_map {spelled : List (List Char)} {texts : List String}
    (h : Spells spelled texts) : texts = spelled.map String.ofList := by
  induction h with
  | nil => rfl
  | cons _ ih => rw [ih, List.map_cons]

/-- Texts are in lower case and all different if their characters are. -/
theorem Spells.areLow {spelled : List (List Char)} {texts : List String}
    (h : Spells spelled texts) (hlow : spelled.Nodup ∧ ∀ s ∈ spelled, Text.lower s = s) :
    AreLow texts := by
  rw [h.eq_map]
  exact areLow_map_ofList hlow.1 hlow.2

-- ====================================================== mappings

section Pairs

variable {κ : Type} [DecidableEq κ]

theorem map_fst_putPair (p : κ × α) (kept : List (κ × α)) :
    (putPair p kept).map Prod.fst
      = if p.1 ∈ kept.map Prod.fst then kept.map Prod.fst else kept.map Prod.fst ++ [p.1] := by
  induction kept with
  | nil => rfl
  | cons q rest ih =>
      rw [putPair]
      by_cases hq : q.1 = p.1
      · rw [if_pos hq, List.map_cons, List.map_cons, if_pos (hq ▸ List.mem_cons_self), hq]
      · have hiff : p.1 ∈ (q :: rest).map Prod.fst ↔ p.1 ∈ rest.map Prod.fst := by
          rw [List.map_cons, List.mem_cons, or_iff_right (Ne.symm hq)]
        rw [if_neg hq, List.map_cons, ih]
        simp only [hiff]
        split <;> rfl

theorem putPair_of_not_mem {p : κ × α} {kept : List (κ × α)} (h : p.1 ∉ kept.map Prod.fst) :
    putPair p kept = kept ++ [p] := by
  induction kept with
  | nil => rfl
  | cons q rest ih =>
      rw [List.map_cons, List.mem_cons, not_or] at h
      rw [putPair, if_neg (Ne.symm h.1), ih h.2, List.cons_append]

theorem nodup_putPair {p : κ × α} {kept : List (κ × α)} (h : (kept.map Prod.fst).Nodup) :
    ((putPair p kept).map Prod.fst).Nodup := by
  rw [map_fst_putPair]
  split
  · exact h
  · next hnew =>
    rw [List.nodup_append]
    refine ⟨h, List.nodup_singleton _, fun k hk k' hk' heq => hnew ?_⟩
    rw [← List.mem_singleton.mp hk', ← heq]
    exact hk

theorem nodup_oncePerKey (pairs : List (κ × α)) : ((oncePerKey pairs).map Prod.fst).Nodup := by
  have hgeneral : ∀ kept : List (κ × α), (kept.map Prod.fst).Nodup →
      ((pairs.foldl (fun kept p => putPair p kept) kept).map Prod.fst).Nodup := by
    induction pairs with
    | nil => exact fun _ hkept => hkept
    | cons p rest ih => exact fun kept hkept => ih _ (nodup_putPair hkept)
  exact hgeneral [] List.nodup_nil

theorem oncePerKey_of_nodup {pairs : List (κ × α)} (h : (pairs.map Prod.fst).Nodup) :
    oncePerKey pairs = pairs := by
  have hgeneral : ∀ (front back : List (κ × α)), ((front ++ back).map Prod.fst).Nodup →
      back.foldl (fun kept p => putPair p kept) front = front ++ back := by
    intro front back hnodup
    induction back generalizing front with
    | nil => rw [List.foldl_nil, List.append_nil]
    | cons p rest ih =>
        have hnew : p.1 ∉ front.map Prod.fst := by
          rw [List.map_append, List.map_cons] at hnodup
          exact fun hmem => (List.nodup_append.mp hnodup).2.2 _ hmem _ List.mem_cons_self rfl
        have hsame : front ++ p :: rest = front ++ [p] ++ rest := by simp
        rw [List.foldl_cons, putPair_of_not_mem hnew, hsame]
        exact ih _ (hsame ▸ hnodup)
  exact hgeneral [] pairs h

/-- What a mapping is checked as: its entries, with one pair for each key. -/
theorem dict_eq_valid_iff {checkKey : Scalar → Checked κ}
    {checkValue : Value → Checked α} {v : Value} {pairs : List (κ × α)} :
    dict checkKey checkValue v = valid pairs
      ↔ ∃ es read, v = .map es
        ∧ List.Forall₂ (fun e p => checkKey e.1 = valid p.1 ∧ checkValue e.2 = valid p.2) es read
        ∧ oncePerKey read = pairs := by
  have hentry : ∀ (e : Scalar × Value) (p : κ × α),
      entry checkKey checkValue e = valid p
        ↔ checkKey e.1 = valid p.1 ∧ checkValue e.2 = valid p.2 := by
    rintro ⟨k, v⟩ ⟨key, a⟩
    unfold entry
    simp [seq_eq_valid_iff, map_eq_valid_iff, under_eq_valid_iff]
  have hentries : ∀ (es : Entries) (read : List (κ × α)),
      es.map (entry checkKey checkValue) = read.map valid
        ↔ List.Forall₂ (fun e p => checkKey e.1 = valid p.1 ∧ checkValue e.2 = valid p.2)
            es read := by
    intro es read
    rw [← List.forall₂_eq_eq_eq, List.forall₂_map_left_iff, List.forall₂_map_right_iff]
    simp only [hentry]
  constructor
  · intro h
    unfold dict at h
    split at h
    · next es =>
      obtain ⟨read, hread, rfl⟩ := map_eq_valid_iff.mp h
      exact ⟨es, read, rfl, (hentries es read).mp (all_eq_valid_iff.mp hread), rfl⟩
    · cases (eq_valid_iff.mp h).2
  · rintro ⟨es, read, rfl, hes, rfl⟩
    exact map_eq_valid_iff.mpr ⟨read, all_eq_valid_iff.mpr ((hentries es read).mpr hes), rfl⟩

end Pairs

-- ====================================================== fields

theorem field?_eq {es : Entries} {name : String} {check : Value → Checked α} :
    field? es name check
      = (es.find? (.text name)).map fun v => (check v).under (.name name) := rfl

/-- No entry is too much exactly if every key is a field. -/
theorem noExtras_eq_valid_iff {es : Entries} {fields : List String} {u : Unit} :
    noExtras es fields = valid u ↔ es.Keyed (· ∈ fields) := by
  rw [eq_valid_iff]
  unfold noExtras Entries.Keyed
  simp only [and_true, List.filterMap_eq_nil_iff, List.forall_mem_map]
  refine forall₂_congr fun e _ => ?_
  obtain ⟨k, v⟩ := e
  cases k <;> simp

end ApiCommands.Checked
