/-
How far a claim looks: at no more candidates than there are taken names and
five.

# Trying one name after the other

What a claim does to the taken names it does name by name: a name that is taken
changes nothing, the first one that is free is added and ends the trying
(`tryEach_append_of_taken`, `tryEach_cons_of_free`). So names that are tried
in vain leave the taken names as they were (`snd_tryEach_of_none`), however many
there are.

# The place of the first free candidate

An endless chain is tried through its fronts `c.take k`. By
`claim_isFirstFree` a claim gives the first candidate that is free; where it
stands, all in front of it are taken (`IsFirstFree.exists_take`). For a preferred
one that place is its place among these. For a numbered one it is the number of the preferred
candidates and of the smaller numbers, and of those there are at most as many as taken
names, since they differ in lower case (`le_count_of_taken`). That preferred
candidates may be the same as numbered ones, or as each other, does not matter: only
the numbered ones are counted.

# The chains of the generator

Each chain that names are claimed from has at most four preferred candidates
(`Generated.length_preferred_le`): those for commands have the most.
-/
import ApiCommands.Artifact.Handler
import ApiCommands.Naming.CommandName
import ApiCommands.Naming.MethodName
import ApiCommands.Proofs.Naming.Taken

namespace ApiCommands

namespace Taken

variable (t : Taken)

-- ====================================================== trying names

theorem add_of_taken {name : String} (h : t.contains name = true) : t.add name = (false, t) :=
  if_pos h

theorem add_of_free {name : String} (h : t.contains name = false) :
    t.add name = (true, t.insert name) := by
  unfold add insert
  rw [h]
  rfl

/-- Taken names in front are passed over. -/
theorem tryEach_append_of_taken {front : List String} (rest : List String)
    (h : ∀ name ∈ front, t.contains name = true) :
    t.tryEach (front ++ rest) = t.tryEach rest := by
  induction front with
  | nil => rfl
  | cons name front ih =>
      obtain ⟨hname, hfront⟩ := List.forall_mem_cons.mp h
      rw [List.cons_append, tryEach, t.add_of_taken hname]
      exact ih hfront

/-- Names that are all taken are tried in vain. -/
theorem tryEach_of_taken {names : List String} (h : ∀ name ∈ names, t.contains name = true) :
    t.tryEach names = (none, t) := by
  rw [← List.append_nil names, t.tryEach_append_of_taken [] h]
  rfl

/-- A free name is given and taken, and what is behind it is not tried. -/
theorem tryEach_cons_of_free {name : String} (rest : List String)
    (h : t.contains name = false) : t.tryEach (name :: rest) = (some name, t.insert name) := by
  rw [tryEach, t.add_of_free h]

/-- Names are tried in vain exactly if all of them are taken. -/
theorem fst_tryEach_eq_none_iff {names : List String} :
    (t.tryEach names).1 = none ↔ ∀ name ∈ names, t.contains name = true := by
  refine ⟨fun hnone => ?_, fun htaken => by rw [t.tryEach_of_taken htaken]⟩
  induction names with
  | nil => simp
  | cons name rest ih =>
      cases hname : t.contains name with
      | false =>
          rw [t.tryEach_cons_of_free rest hname] at hnone
          cases hnone
      | true =>
          rw [tryEach, t.add_of_taken hname] at hnone
          exact List.forall_mem_cons.mpr ⟨hname, ih hnone⟩

/-- Names that are tried in vain leave the taken names as they are. -/
theorem snd_tryEach_of_none {names : List String} (h : (t.tryEach names).1 = none) :
    (t.tryEach names).2 = t := by
  rw [t.tryEach_of_taken (t.fst_tryEach_eq_none_iff.mp h)]

/-- A free name that is taken adds its lower case to the keys, and nothing else. -/
theorem mem_keys_insert_iff {name : String} (h : t.contains name = false) (key : String) :
    key ∈ (t.insert name).keys ↔ key = Text.lowered name ∨ key ∈ t.keys := by
  unfold insert
  rw [if_neg (by simp [h]), List.mem_cons]

end Taken

namespace Candidates

-- ====================================================== fronts of chains

/-- The chain up to the `i`-th numbered candidate. -/
theorem take_length_add (c : Candidates) (i : Nat) :
    c.take (c.preferred.length + i) = c.withTail i := by
  unfold take withTail
  rw [List.take_length_add_append, ← List.map_take, List.take_range,
    Nat.min_eq_left (Nat.le_add_left i _)]

/-- The chain up to the `n`-th preferred candidate. -/
theorem take_of_le (c : Candidates) {n : Nat} (h : n ≤ c.preferred.length) :
    c.take n = c.preferred.take n :=
  List.take_append_of_le_length h

@[simp]
theorem length_take (c : Candidates) (n : Nat) : (c.take n).length = n := by
  simp [take, withTail]

/-- The first free candidate has only taken ones in front of it, no more than there are preferred
ones and taken names. -/
theorem IsFirstFree.exists_take {c : Candidates} {t : Taken} {name : String}
    (h : c.IsFirstFree t name) :
    ∃ k ≤ c.preferred.length + t.count,
      c.take (k + 1) = c.take k ++ [name] ∧ ∀ other ∈ c.take k, t.contains other = true := by
  cases h with
  | @preferred front back name hsplit hfront hfree =>
      have hlen : c.preferred.length = front.length + (back.length + 1) := by
        rw [hsplit, List.length_append, List.length_cons]
      have hfronts : c.take front.length = front := by
        rw [c.take_of_le (by omega), hsplit, List.take_left]
      have hnext : c.take (front.length + 1) = front ++ [name] := by
        rw [c.take_of_le (by omega), hsplit, List.take_length_add_append]
        rfl
      refine ⟨front.length, by omega, by rw [hnext, hfronts], ?_⟩
      rwa [hfronts]
  | @numbered i hpreferred hsmaller hfree =>
      have hle := t.le_count_of_taken c hsmaller
      refine ⟨c.preferred.length + i, by omega, ?_, ?_⟩
      · rw [Nat.add_assoc, c.take_length_add, c.take_length_add]
        unfold withTail
        rw [List.range_succ, List.map_append, List.append_assoc]
        rfl
      · rw [c.take_length_add]
        intro other hother
        rcases List.mem_append.mp hother with hother | hother
        · exact hpreferred other hother
        · obtain ⟨j, hj, rfl⟩ := List.mem_map.mp hother
          exact hsmaller j (List.mem_range.mp hj)

-- ====================================================== the chains of the generator

/-- The chains that names are claimed from: for commands, for methods and handlers, for flags, and
the numbered ones for parameters, fields, models and branches. -/
inductive Generated : Candidates → Prop where
  | command (n : Namer) (name : String) (op : Operation) (isPrefixed : Bool) :
      Generated (n.commandCandidates name op isPrefixed)
  | method (tables : Tables) (id path : String) (method : Method) :
      Generated (tables.methodCandidates id path method)
  | flag (front flag : String) : Generated (Handler.flagCandidates front flag)
  | numbered (base separator : String) : Generated (.numbered base separator)

/-- A command has itself, its parent, its method and its operation id to be told by; everything
else has less. -/
theorem Generated.length_preferred_le {c : Candidates} (h : c.Generated) :
    c.preferred.length ≤ 4 := by
  cases h with
  | command n name op isPrefixed => exact Offers.length_made_le _
  | method tables id path method => simp [Tables.methodCandidates]
  | flag front flag => simp [Handler.flagCandidates]
  | numbered base separator => simp [Candidates.numbered]

end Candidates

namespace Taken

/-- A claim that gives `name` after `k` candidates in vain: those are taken, the next one is `name`,
which is free and is taken then, by its lower case alone. -/
structure ClaimsAfter (t : Taken) (c : Candidates) (k : Nat) (name : String) (t' : Taken) : Prop
    where
  length_front : (c.take k).length = k
  front_in_vain : t.tryEach (c.take k) = (none, t)
  next : c.take (k + 1) = c.take k ++ [name]
  found : t.tryEach (c.take (k + 1)) = (some name, t')
  claim_eq : t.claim c = (name, t')
  free : t.contains name = false
  mem_keys_iff : ∀ key, key ∈ t'.keys ↔ key = Text.lowered name ∨ key ∈ t.keys

/-- A claim of any chain ends, after no more candidates than are preferred, one for each taken name
and one. -/
theorem exists_claimsAfter (t : Taken) (c : Candidates) :
    ∃ k name t', k + 1 ≤ t.count + c.preferred.length + 1 ∧ t.ClaimsAfter c k name t' := by
  obtain ⟨name, hfirst, hclaim⟩ := t.claim_isFirstFree c
  obtain ⟨k, hk, hnext, htaken⟩ := hfirst.exists_take
  have hfound : t.tryEach (c.take (k + 1)) = (some name, t.insert name) := by
    rw [hnext, t.tryEach_append_of_taken [name] htaken, t.tryEach_cons_of_free [] hfirst.free]
  exact ⟨k, name, t.insert name, by omega, {
    length_front := c.length_take k
    front_in_vain := t.tryEach_of_taken htaken
    next := hnext
    found := hfound
    claim_eq := hclaim
    free := hfirst.free
    mem_keys_iff := t.mem_keys_insert_iff hfirst.free }⟩

/-- Whatever names are taken, a claim of a chain of the generator ends after at most five more
candidates than there are taken names; it gives a name that was free and takes it by its lower case
alone. A list of names that are tried in vain leaves the taken names unchanged. -/
theorem claim_ends_within_count_add_five (t : Taken) :
    (∀ c : Candidates, c.Generated →
      ∃ k name t', k + 1 ≤ t.count + 5 ∧ t.ClaimsAfter c k name t')
    ∧ ∀ names : List String, (t.tryEach names).1 = none → (t.tryEach names).2 = t := by
  refine ⟨fun c hc => ?_, fun names => t.snd_tryEach_of_none⟩
  obtain ⟨k, name, t', hk, hclaims⟩ := t.exists_claimsAfter c
  have hle := hc.length_preferred_le
  exact ⟨k, name, t', by omega, hclaims⟩

/-- A flag whose first three candidates are taken, one of them in other letters, gets the fourth;
names that are all taken are tried in vain. -/
theorem claim_behind_three_taken :
    (∃ k name t', k + 1 ≤ 3 + 5
      ∧ (ofList ["Total", "param-total", "PARAM-TOTAL-2"]).ClaimsAfter
        (Handler.flagCandidates "param" "total") k name t')
    ∧ ((ofList ["Total", "param-total", "PARAM-TOTAL-2"]).claim
        (Handler.flagCandidates "param" "total")).1 = "param-total-3"
    ∧ ((ofList ["Total", "param-total"]).tryEach ["total", "TOTAL"]).2
      = ofList ["Total", "param-total"] :=
  ⟨(claim_ends_within_count_add_five (ofList ["Total", "param-total", "PARAM-TOTAL-2"])).1 _
      (.flag "param" "total"),
    by decide,
    (claim_ends_within_count_add_five (ofList ["Total", "param-total"])).2 ["total", "TOTAL"]
      (by decide)⟩

end Taken

end ApiCommands
