/-
Grouping loses nothing and doubles nothing, and sorting by a key is sorting.

# Groups

Operations are grouped by tag and branches by domain, and both times the
groups are sorted afterwards. So the facts here are stated for any
rearrangement of the groups of a list: their keys are all different
(`pairwise_key_ne`), the items of a group have its key (`key_eq_of_mem`), and
all groups together are the list again, up to the order
(`flatMap_perm_of_perm_grouped`).

The last one is an induction on the keys. With the keys `k :: rest` the items
whose key is among them fall into those of `k` and those of `rest`; as no key
stands twice, no item is counted twice. Inside a group nothing is rearranged
at all (`filter_flatMap_of_perm_grouped`), which is another induction on the
keys.

# First occurrences

The keys of a list are its keys without repetitions, each where it occurs first.
What a list says of first occurrences it says item by item from its end
(`eraseDups_concat`): they stand in the order of their first places
(`pairwise_idxOf_eraseDups`), and picking some of the keys commutes with it
(`eraseDups_filter`).

# Orders

Every order in the program is a sort key in a linear order: a text, a pair of
texts, a pair of a number and a text. So there is one fact on sorting, that the
keys come out in order (`pairwise_le_mergeSort`), and strictly so if they are
all different (`pairwise_lt_mergeSort`). Where they increase strictly, the list
is known by its elements (`eq_of_pairwise_lt`).
-/
import ApiCommands.Naming.Grouping
import Mathlib.Data.List.Induction
import Mathlib.Data.List.Nodup
import Mathlib.Data.List.Perm.Basic
import Mathlib.Data.List.Sort
import Mathlib.Data.Prod.Lex
import Mathlib.Data.String.Basic

namespace ApiCommands

variable {κ : Type _} [BEq κ] [LawfulBEq κ] {α : Type _} {key : α → κ} {xs : List α}

-- ====================================================== keys

/-- Of several occurrences one is left. -/
theorem nodup_eraseDups : ∀ ks : List κ, ks.eraseDups.Nodup
  | [] => by simp
  | k :: rest => by
      rw [List.eraseDups_cons, List.nodup_cons]
      refine ⟨fun hmem => ?_, nodup_eraseDups (rest.filter fun other => !other == k)⟩
      have hk := (List.mem_filter.mp (List.mem_eraseDups.mp hmem)).2
      simp at hk
termination_by ks => ks.length
decreasing_by
  have := List.length_filter_le (fun other => !other == k) rest
  simp only [List.length_cons]
  omega

/-- Keys that are all different are left as they are. -/
theorem eraseDups_of_nodup {ks : List κ} (h : ks.Nodup) : ks.eraseDups = ks := by
  induction ks with
  | nil => rfl
  | cons k rest ih =>
      obtain ⟨hk, hrest⟩ := List.nodup_cons.mp h
      have hkept : rest.filter (fun other => !other == k) = rest := by
        refine List.filter_eq_self.mpr fun other hother => ?_
        simpa using ne_of_mem_of_not_mem hother hk
      rw [List.eraseDups_cons, hkept, ih hrest]

/-- What comes last is left if it has not occurred before. -/
theorem eraseDups_concat (front : List κ) (k : κ) :
    (front ++ [k]).eraseDups
      = if front.contains k then front.eraseDups else front.eraseDups ++ [k] := by
  rw [List.eraseDups_append]
  by_cases hk : k ∈ front
  · have hnone : [k].removeAll front = [] := by simp [List.removeAll, hk]
    rw [hnone, List.eraseDups_nil, List.append_nil, if_pos (List.contains_iff_mem.mpr hk)]
  · have hone : ([k].removeAll front).eraseDups = [k] := by
      simp [List.removeAll, hk, List.eraseDups_cons]
    rw [hone, if_neg (by simpa using hk)]

/-- First occurrences can be picked before or after. -/
theorem eraseDups_filter (p : κ → Bool) (ks : List κ) :
    (ks.filter p).eraseDups = ks.eraseDups.filter p := by
  induction ks using List.reverseRecOn with
  | nil => simp
  | append_singleton front k ih =>
      rw [List.filter_append, eraseDups_concat]
      cases hp : p k with
      | false =>
          rw [List.filter_cons_of_neg (by simp [hp]), List.filter_nil, List.append_nil, ih]
          split
          · rfl
          · rw [List.filter_append, List.filter_cons_of_neg (by simp [hp]), List.filter_nil,
              List.append_nil]
      | true =>
          have hcontains : (front.filter p).contains k = front.contains k := by
            simp [hp]
          rw [List.filter_cons_of_pos hp, List.filter_nil, eraseDups_concat, hcontains, ih]
          split
          · rfl
          · rw [List.filter_append, List.filter_cons_of_pos hp, List.filter_nil]

/-- What is left stands in the order of the first occurrences. -/
theorem pairwise_idxOf_eraseDups (ks : List κ) :
    ks.eraseDups.Pairwise fun a b => ks.idxOf a < ks.idxOf b := by
  induction ks using List.reverseRecOn with
  | nil => simp
  | append_singleton front k ih =>
      have hfront : ∀ a ∈ front, (front ++ [k]).idxOf a = front.idxOf a :=
        fun a ha => List.idxOf_append_of_mem ha
      have hbefore : front.eraseDups.Pairwise fun a b =>
          (front ++ [k]).idxOf a < (front ++ [k]).idxOf b := by
        refine ih.imp_of_mem fun ha hb hlt => ?_
        rwa [hfront _ (List.mem_eraseDups.mp ha), hfront _ (List.mem_eraseDups.mp hb)]
      rw [eraseDups_concat]
      split
      · exact hbefore
      · next hk =>
        rw [List.pairwise_append]
        refine ⟨hbefore, List.pairwise_singleton _ _, fun a ha b hb => ?_⟩
        obtain rfl := List.mem_singleton.mp hb
        have hmem := List.mem_eraseDups.mp ha
        rw [hfront a hmem, List.idxOf_append_of_notMem (by simpa using hk)]
        have := List.idxOf_lt_length_iff.mpr hmem
        omega

/-- The keys are those that some item has. -/
theorem mem_keysOf {k : κ} : k ∈ keysOf key xs ↔ ∃ x ∈ xs, key x = k := by
  unfold keysOf
  rw [List.mem_eraseDups, List.mem_map]

/-- A group is a key that occurs with all its items, in order. -/
theorem mem_grouped {group : κ × List α} :
    group ∈ grouped key xs
      ↔ (∃ x ∈ xs, key x = group.1) ∧ group.2 = xs.filter fun x => key x == group.1 := by
  unfold grouped
  rw [List.mem_map]
  constructor
  · rintro ⟨k, hk, rfl⟩
    exact ⟨mem_keysOf.mp hk, rfl⟩
  · rintro ⟨hk, hitems⟩
    exact ⟨group.1, mem_keysOf.mpr hk, Prod.ext rfl hitems.symm⟩

/-- The items of a group have its key. -/
theorem key_eq_of_mem {group : κ × List α} (hgroup : group ∈ grouped key xs) {x : α}
    (hx : x ∈ group.2) : key x = group.1 := by
  rw [(mem_grouped.mp hgroup).2] at hx
  simpa using (List.mem_filter.mp hx).2

-- ====================================================== sorted groups

variable {groups : List (κ × List α)}

/-- No two groups have the same key. -/
theorem nodup_key (h : groups.Perm (grouped key xs)) : (groups.map Prod.fst).Nodup := by
  have hkeys : (grouped key xs).map Prod.fst = keysOf key xs := by
    unfold grouped
    rw [List.map_map]
    exact List.map_id (keysOf key xs)
  rw [(h.map Prod.fst).nodup_iff, hkeys]
  exact nodup_eraseDups _

/-- No two groups have the same key, pair by pair. -/
theorem pairwise_key_ne (h : groups.Perm (grouped key xs)) :
    groups.Pairwise fun g g' => g.1 ≠ g'.1 :=
  List.pairwise_map.mp (nodup_key h)

/-- What is made of the groups is each time made of a key that occurs and of all its items. -/
theorem mem_map_iff_of_perm_grouped (h : groups.Perm (grouped key xs)) {β : Type _}
    {f : κ × List α → β} {y : β} :
    y ∈ groups.map f
      ↔ ∃ k, (∃ x ∈ xs, key x = k) ∧ y = f (k, xs.filter fun x => key x == k) := by
  rw [List.mem_map]
  constructor
  · rintro ⟨⟨k, items⟩, hgroup, rfl⟩
    obtain ⟨hocc, hitems⟩ := mem_grouped.mp (h.mem_iff.mp hgroup)
    dsimp only at hocc hitems
    exact ⟨k, hocc, by rw [← hitems]⟩
  · rintro ⟨k, hocc, rfl⟩
    exact ⟨(k, _), h.mem_iff.mpr (mem_grouped.mpr ⟨hocc, rfl⟩), rfl⟩

/-- The items with one of the keys, key by key, are the items with one of the keys. -/
theorem flatMap_filter_perm (key : α → κ) (xs : List α) {keys : List κ}
    (hnodup : keys.Nodup) :
    (keys.flatMap fun k => xs.filter fun x => key x == k).Perm
      (xs.filter fun x => keys.contains (key x)) := by
  induction keys with
  | nil => simp
  | cons k rest ih =>
      obtain ⟨hk, hrest⟩ := List.nodup_cons.mp hnodup
      have hfirst : ((xs.filter fun x => (k :: rest).contains (key x)).filter
          fun x => key x == k) = xs.filter fun x => key x == k := by
        rw [List.filter_filter]
        refine List.filter_congr fun x _ => ?_
        by_cases hx : key x = k <;> simp [hx]
      have hothers : ((xs.filter fun x => (k :: rest).contains (key x)).filter
          fun x => !(key x == k)) = xs.filter fun x => rest.contains (key x) := by
        rw [List.filter_filter]
        refine List.filter_congr fun x _ => ?_
        by_cases hx : key x = k
        · simp [hx, hk]
        · simp [hx]
      have hsplit := List.filter_append_perm (fun x => key x == k)
        (xs.filter fun x => (k :: rest).contains (key x))
      rw [hfirst, hothers] at hsplit
      rw [List.flatMap_cons]
      exact ((ih hrest).append_left _).trans hsplit

/-- All groups together are the grouped list, up to the order. -/
theorem flatMap_perm_of_perm_grouped (h : groups.Perm (grouped key xs)) :
    (groups.flatMap Prod.snd).Perm xs := by
  have hall : (xs.filter fun x => (keysOf key xs).contains (key x)) = xs := by
    refine List.filter_eq_self.mpr fun x hx => ?_
    simpa using mem_keysOf.mpr ⟨x, hx, rfl⟩
  have hgrouped : ((grouped key xs).flatMap Prod.snd).Perm xs := by
    unfold grouped
    rw [List.flatMap_map]
    have hperm := flatMap_filter_perm key xs (nodup_eraseDups (xs.map key))
    rwa [show (xs.map key).eraseDups = keysOf key xs from rfl, hall] at hperm
  exact (h.flatMap_right Prod.snd).trans hgrouped

-- ====================================================== order inside a group

/-- Of the items key by key, those with one key stand as they stood before. -/
theorem filter_flatMap_filter (key : α → κ) (xs : List α) {keys : List κ} (hnodup : keys.Nodup)
    {k : κ} (hk : k ∈ keys) :
    ((keys.flatMap fun k' => xs.filter fun x => key x == k').filter fun x => key x == k)
      = xs.filter fun x => key x == k := by
  induction keys with
  | nil => cases hk
  | cons first rest ih =>
      obtain ⟨hfirst, hrest⟩ := List.nodup_cons.mp hnodup
      rw [List.flatMap_cons, List.filter_append]
      by_cases heq : first = k
      · subst heq
        have hothers : ((rest.flatMap fun k' => xs.filter fun x => key x == k').filter
            fun x => key x == first) = [] := by
          refine List.filter_eq_nil_iff.mpr fun x hx hkey => hfirst ?_
          obtain ⟨k', hk', hmem⟩ := List.mem_flatMap.mp hx
          have hx' : key x = k' := beq_iff_eq.mp (List.mem_filter.mp hmem).2
          rwa [← beq_iff_eq.mp hkey, hx']
        rw [hothers, List.append_nil, List.filter_filter]
        simp
      · have hnone : (xs.filter fun x => key x == first).filter (fun x => key x == k) = [] := by
          refine List.filter_eq_nil_iff.mpr fun x hx hkey => heq ?_
          rw [← beq_iff_eq.mp (List.mem_filter.mp hx).2, beq_iff_eq.mp hkey]
        rw [hnone, List.nil_append]
        exact ih hrest ((List.mem_cons.mp hk).resolve_left fun h => heq h.symm)

/-- The items of one key stand in the groups in their order. -/
theorem filter_flatMap_of_perm_grouped (h : groups.Perm (grouped key xs)) (k : κ) :
    ((groups.flatMap Prod.snd).filter fun x => key x == k) = xs.filter fun x => key x == k := by
  have hitems : groups.flatMap Prod.snd
      = (groups.map Prod.fst).flatMap fun k' => xs.filter fun x => key x == k' := by
    rw [List.flatMap_map]
    exact List.flatMap_congr fun group hgroup => (mem_grouped.mp (h.mem_iff.mp hgroup)).2
  by_cases hk : ∃ x ∈ xs, key x = k
  · have hmem : k ∈ groups.map Prod.fst := by
      refine List.mem_map.mpr ⟨(k, xs.filter fun x => key x == k), ?_, rfl⟩
      exact h.mem_iff.mpr (mem_grouped.mpr ⟨hk, rfl⟩)
    rw [hitems]
    exact filter_flatMap_filter key xs (nodup_key h) hmem
  · have hnone : (xs.filter fun x => key x == k) = [] :=
      List.filter_eq_nil_iff.mpr fun x hx hkey => hk ⟨x, hx, beq_iff_eq.mp hkey⟩
    rw [hnone]
    refine List.filter_eq_nil_iff.mpr fun x hx hkey => hk ⟨x, ?_, beq_iff_eq.mp hkey⟩
    exact (flatMap_perm_of_perm_grouped h).mem_iff.mp hx

-- ====================================================== sorting by a key

section Sorting

variable {β : Type _} [LinearOrder β] {le : α → α → Bool} {sortKey : α → β}

/-- Sorting puts the sort keys in order. -/
theorem pairwise_le_mergeSort (hle : ∀ x y, le x y = true ↔ sortKey x ≤ sortKey y)
    (xs : List α) : (xs.mergeSort le).Pairwise fun x y => sortKey x ≤ sortKey y := by
  have hsorted : (xs.mergeSort le).Pairwise fun x y => le x y = true :=
    List.pairwise_mergeSort
      (fun x y z hxy hyz => (hle x z).mpr (((hle x y).mp hxy).trans ((hle y z).mp hyz)))
      (fun x y => by
        rw [Bool.or_eq_true, hle, hle]
        exact le_total _ _) xs
  exact hsorted.imp fun h => (hle _ _).mp h

/-- Sort keys that are all different increase strictly. -/
theorem pairwise_lt_mergeSort (hle : ∀ x y, le x y = true ↔ sortKey x ≤ sortKey y)
    (hnodup : (xs.map sortKey).Nodup) :
    (xs.mergeSort le).Pairwise fun x y => sortKey x < sortKey y := by
  have hne : (xs.mergeSort le).Pairwise fun x y => sortKey x ≠ sortKey y :=
    List.pairwise_map.mp (((List.mergeSort_perm xs le).map sortKey).nodup_iff.mpr hnodup)
  exact ((pairwise_le_mergeSort hle xs).and hne).imp fun h => lt_of_le_of_ne h.1 h.2

/-- Two lists with increasing sort keys that have the same elements are one list. -/
theorem eq_of_pairwise_lt {ys : List α} (hxs : xs.Pairwise fun x y => sortKey x < sortKey y)
    (hys : ys.Pairwise fun x y => sortKey x < sortKey y) (hmem : ∀ x, x ∈ xs ↔ x ∈ ys) :
    xs = ys := by
  have hasymm : Std.Asymm fun x y => sortKey x < sortKey y := ⟨fun _ _ => lt_asymm⟩
  exact hxs.eq_of_mem_iff hys hmem

/-- The order of pairs of texts is the lexicographic one. -/
theorem pairLe_iff {a b : String × String} : pairLe a b = true ↔ toLex a ≤ toLex b := by
  unfold pairLe
  rw [Prod.Lex.toLex_le_toLex]
  simp

end Sorting

end ApiCommands
