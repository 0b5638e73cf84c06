/-
Assignments: what they are read as, and what they set.

# Reading

The key is what stands in front of the first `=`, without blanks around it, and
its steps are its parts between points. There is one step at least, and the
first is the field the assignment is about (`steps_eq_field_cons`), as it is
written in front of the `=` (`topOf_eq_some_field`). A key that is
made of a name leads to the entry of this name only if nothing of the name is
read in another way: `IsOwnKey` lists what can be, and
`steps_eq_singleton_iff` says that nothing else is in the way; the assignment is
then read as the name and the value (`IsOwnKey.read_eq_ok`).

# Setting

Of the keys of a mapping an assignment adds its field at most
(`mem_keys_assign`). In an empty mapping it leaves a single entry, which is
itself a mapping if there is more than one step (`assign_nil_eq_singleton`).

# Finding again

An assignment sets one entry (`assign_cons`), and a path goes on in the mapping at
its first step (`at?_cons`). So by induction on the path it is told what an
assignment does at its path, below, above, and anywhere else (`Assigns`,
`assign_assigns`). In a row of assignments those that are apart from a path do nothing
to it, so the last one that is not decides (`LastDecides`,
`assignAll_lastDecides`).

# Checking

A list of assignments passes the check exactly if all can be read and are about
allowed fields (`requireAllowed_eq_ok_iff`).
-/
import ApiCommands.Body.Assignment
import ApiCommands.Proofs.Document.Entries
import ApiCommands.Proofs.Text.Pieces

namespace ApiCommands

namespace Assignment

variable {pair : String} {a : Assignment}

-- ====================================================== reading

/-- What an assignment is read as. -/
theorem read_eq_ok_iff :
    read pair = .ok a
      ↔ ∃ front, pair.toList = front ++ '=' :: a.value.toList ∧ '=' ∉ front
          ∧ a.key = String.ofList (Text.trim front) ∧ a.steps ≠ [] := by
  obtain ⟨key, value⟩ := a
  unfold read steps
  cases hcut : Text.cutAt '=' pair.toList with
  | none =>
      constructor
      · intro h
        cases h
      · intro h
        obtain ⟨front, hpair, -⟩ := h
        refine absurd ?_ (Text.cutAt_eq_none_iff.mp hcut)
        rw [hpair]
        exact List.mem_append_right _ List.mem_cons_self
  | some halves =>
      obtain ⟨front, back⟩ := halves
      obtain ⟨hpair, hfront⟩ := Text.cutAt_eq_some_iff.mp hcut
      dsimp only
      by_cases hsteps : stepsOf (String.ofList (Text.trim front)) = []
      · rw [if_pos hsteps]
        constructor
        · intro h
          cases h
        · intro h
          obtain ⟨front', hpair', hfront', rfl, hne⟩ := h
          have hcut' := Text.cutAt_eq_some_iff.mpr ⟨hpair', hfront'⟩
          rw [hcut] at hcut'
          obtain ⟨rfl, -⟩ := Prod.mk.inj (Option.some.inj hcut')
          exact absurd hsteps hne
      · rw [if_neg hsteps]
        constructor
        · intro h
          obtain ⟨rfl, rfl⟩ := Assignment.mk.inj (Except.ok.inj h)
          exact ⟨front, by rw [String.toList_ofList]; exact hpair, hfront, rfl, hsteps⟩
        · intro h
          obtain ⟨front', hpair', hfront', rfl, -⟩ := h
          have hcut' := Text.cutAt_eq_some_iff.mpr ⟨hpair', hfront'⟩
          rw [hcut] at hcut'
          obtain ⟨rfl, rfl⟩ := Prod.mk.inj (Option.some.inj hcut')
          rw [String.ofList_toList]

/-- An assignment has a step, and the first is the field it is about. -/
theorem steps_eq_field_cons (h : read pair = .ok a) : ∃ rest, a.steps = a.field :: rest := by
  obtain ⟨-, -, -, -, hne⟩ := read_eq_ok_iff.mp h
  obtain ⟨step, rest, hsteps⟩ := List.exists_cons_of_ne_nil hne
  refine ⟨rest, ?_⟩
  unfold field
  rw [hsteps]
  rfl

/-- The field that an assignment names as it is written: the first part, between points, of what
stands in front of the first `=`, without blanks around it. -/
def topOf (pair : String) : Option String :=
  ((Text.partsOn '.' (Text.trim (pair.toList.takeWhile (· != '=')))).head?).map String.ofList

/-- An assignment that can be read is about the field it names. -/
theorem topOf_eq_some_field (h : read pair = .ok a) : topOf pair = some a.field := by
  obtain ⟨front, hpair, hfront, hkey, hne⟩ := read_eq_ok_iff.mp h
  have htake : pair.toList.takeWhile (· != '=') = front := by
    rw [hpair, List.takeWhile_append_of_pos fun c hc => by
      simpa using fun heq : c = '=' => hfront (heq ▸ hc)]
    simp
  have hsteps : a.steps = (Text.partsOn '.' (Text.trim front)).map String.ofList := by
    unfold steps stepsOf
    rw [hkey, String.toList_ofList]
  obtain ⟨step, rest, hcons⟩ := List.exists_cons_of_ne_nil hne
  unfold topOf field
  rw [htake, ← List.head?_map, ← hsteps, hcons]
  rfl

-- ====================================================== names as keys

/-- The name, written as a key, is read as this name and nothing else: it is not cut, not split and
not trimmed. -/
structure IsOwnKey (name : String) : Prop where
  noEquals : '=' ∉ name.toList
  noPoint : '.' ∉ name.toList
  trimmed : Text.trim name.toList = name.toList
  nonempty : name ≠ ""

instance (name : String) : Decidable (IsOwnKey name) :=
  decidable_of_iff ('=' ∉ name.toList ∧ '.' ∉ name.toList ∧ Text.trim name.toList = name.toList
      ∧ name ≠ "")
    ⟨fun h => ⟨h.1, h.2.1, h.2.2.1, h.2.2.2⟩,
      fun h => ⟨h.noEquals, h.noPoint, h.trimmed, h.nonempty⟩⟩

/-- The steps of a key are the name alone exactly if the key is the name, and the name has one part. -/
theorem stepsOf_eq_singleton_iff {key name : String} :
    stepsOf key = [name] ↔ Text.partsOn '.' key.toList = [name.toList] := by
  unfold stepsOf
  constructor
  · intro h
    obtain ⟨part, hparts, hname⟩ := List.map_eq_singleton_iff.mp h
    rw [hparts, ← hname, String.toList_ofList]
  · intro h
    rw [h, List.map_singleton, String.ofList_toList]

/-- An assignment under a name that is its own key is read as the name and the value. -/
theorem IsOwnKey.read_eq_ok {name : String} (h : IsOwnKey name) (value : String) :
    read (name ++ "=" ++ value) = .ok ⟨name, value⟩ ∧ stepsOf name = [name] := by
  have hne : name.toList ≠ [] := fun hnil => h.nonempty (String.toList_injective hnil)
  have hsteps : stepsOf name = [name] :=
    stepsOf_eq_singleton_iff.mpr (Text.partsOn_eq_singleton_iff.mpr ⟨h.noPoint, hne⟩)
  refine ⟨read_eq_ok_iff.mpr ⟨name.toList, by simp, h.noEquals, ?_, ?_⟩, hsteps⟩
  · show name = String.ofList (Text.trim name.toList)
    rw [h.trimmed, String.ofList_toList]
  · show stepsOf name ≠ []
    rw [hsteps]
    exact List.cons_ne_nil _ _

/-- An assignment under a name is about the entry of this name exactly if the name is its own key. -/
theorem steps_eq_singleton_iff {name value : String} :
    (∃ a, read (name ++ "=" ++ value) = .ok a ∧ a.steps = [name]) ↔ IsOwnKey name := by
  have hpair : (name ++ "=" ++ value).toList = name.toList ++ '=' :: value.toList := by
    simp
  constructor
  · intro h
    obtain ⟨a, hread, hsteps⟩ := h
    obtain ⟨front, hfront, hequals, hkey, -⟩ := read_eq_ok_iff.mp hread
    have hparts := stepsOf_eq_singleton_iff.mp hsteps
    rw [hkey, String.toList_ofList] at hparts
    -- the characters of the name are among those in front of the first `=`
    have hname : name.toList.Sublist front :=
      (Text.sublist_of_partsOn_eq_singleton hparts).trans (Text.trim_sublist front)
    have hnoEquals : '=' ∉ name.toList := fun hmem => hequals (hname.subset hmem)
    -- so this `=` is the one behind the name
    obtain ⟨rfl, -⟩ : name.toList = front ∧ value.toList = a.value.toList := by
      have hcut := Text.cutAt_eq_some_iff.mpr ⟨hpair, hnoEquals⟩
      rw [Text.cutAt_eq_some_iff.mpr ⟨hfront, hequals⟩] at hcut
      obtain ⟨heq, heq'⟩ := Prod.mk.inj (Option.some.inj hcut)
      exact ⟨heq.symm, heq'.symm⟩
    -- and nothing of the name was lost on the way
    have htrim : Text.trim name.toList = name.toList :=
      (Text.trim_sublist name.toList).eq_of_length_le
        (Text.sublist_of_partsOn_eq_singleton hparts).length_le
    rw [htrim] at hparts
    obtain ⟨hpoint, hne⟩ := Text.partsOn_eq_singleton_iff.mp hparts
    exact ⟨hnoEquals, hpoint, htrim, fun hnil => hne (by rw [hnil]; rfl)⟩
  · intro h
    obtain ⟨hread, hsteps⟩ := h.read_eq_ok value
    exact ⟨⟨name, value⟩, hread, hsteps⟩

end Assignment

-- ====================================================== setting

namespace Entries

variable {es : Entries} {key k : Scalar} {v : Value}

/-- Setting an entry adds no key but its own. -/
theorem mem_keys_insert (h : key ∈ (es.insert k v).map Prod.fst) :
    key = k ∨ key ∈ es.map Prod.fst := by
  induction es with
  | nil => exact Or.inl (List.mem_singleton.mp h)
  | cons e rest ih =>
      obtain ⟨j, w⟩ := e
      rw [insert] at h
      by_cases hjk : j.sameKey k = true
      · rw [if_pos hjk] at h
        exact Or.inr h
      · rw [if_neg hjk, List.map_cons, List.mem_cons] at h
        rcases h with heq | hrest
        · exact Or.inr (List.mem_cons.mpr (Or.inl heq))
        · rcases ih hrest with hk | hmem
          · exact Or.inl hk
          · exact Or.inr (List.mem_cons_of_mem _ hmem)

/-- An assignment adds no key but its first step. -/
theorem mem_keys_assign {step : String} {rest : List String}
    (h : key ∈ (es.assign v (step :: rest)).map Prod.fst) :
    key = .text step ∨ key ∈ es.map Prod.fst := by
  cases rest with
  | nil => exact mem_keys_insert h
  | cons next more => exact mem_keys_insert h

/-- In an empty mapping an assignment makes a single entry. That is the value itself if it is no
mapping. -/
theorem assign_nil_eq_singleton {steps : List String} {name : String} {w : Value}
    (hw : w.isMap = false) (h : assign [] v steps = [(.text name, w)]) :
    steps = [name] ∧ v = w := by
  match steps with
  | [] => cases h
  | [step] =>
      obtain ⟨hstep, hvalue⟩ := Prod.mk.inj (List.cons.inj h).1
      exact ⟨by rw [Scalar.text.inj hstep], hvalue⟩
  | step :: next :: rest =>
      obtain ⟨-, hvalue⟩ := Prod.mk.inj (List.cons.inj h).1
      rw [← hvalue] at hw
      cases hw

-- ====================================================== finding again

/-- A path of several steps goes on in the mapping at the first one. -/
theorem at?_cons (es : Entries) (step : String) {rest : List String} (h : rest ≠ []) :
    es.at? (step :: rest) = (ofValue? (es.find? (.text step))).at? rest := by
  obtain ⟨next, more, rfl⟩ := List.exists_cons_of_ne_nil h
  have hnone : at? [] (next :: more) = none := by cases more <;> rfl
  rw [at?]
  · unfold ofValue?
    split
    · rfl
    · exact hnone.symm
  · exact h

/-- What a path leads to depends on what is found under its first step. -/
theorem at?_congr {es es' : Entries} {step : String}
    (h : es.find? (.text step) = es'.find? (.text step)) (rest : List String) :
    es.at? (step :: rest) = es'.at? (step :: rest) := by
  by_cases hrest : rest = []
  · subst hrest
    exact h
  · rw [at?_cons es step hrest, at?_cons es' step hrest, h]

/-- An assignment sets one entry: under the first step the value, or the mapping there with the
rest assigned. -/
theorem assign_cons (es : Entries) (v : Value) (step : String) (rest : List String) :
    es.assign v (step :: rest)
      = es.insert (.text step)
          (if rest = [] then v else .map ((ofValue? (es.find? (.text step))).assign v rest)) := by
  cases rest with
  | nil => rfl
  | cons next more => rfl

/-- So that is found under the first step, and under any other name what was there. -/
theorem find?_assign (es : Entries) (v : Value) (step : String) (rest : List String)
    (name : String) :
    (es.assign v (step :: rest)).find? (.text name)
      = if step = name then
          some (if rest = [] then v else .map ((ofValue? (es.find? (.text step))).assign v rest))
        else es.find? (.text name) := by
  rw [assign_cons, find?_insert]
  simp only [Scalar.sameKey_text_iff, Scalar.text.injEq]

/-- Of two paths none leads on from the other. -/
def Apart (path other : List String) : Prop := ¬path <+: other ∧ ¬other <+: path

/-- What an assignment makes of a mapping, told by what is found before it and after it. -/
structure Assigns (before : Entries) (path : List String) (v : Value) (after : Entries) :
    Prop where
  /-- At its path there is the value. -/
  own : after.at? path = some v
  /-- Paths below lead on in the value. -/
  below : ∀ rest ≠ [], after.at? (path ++ rest) = (ofValue? (some v)).at? rest
  /-- On the way there are mappings: the one that was there, if any, with the rest assigned. -/
  above : ∀ front ≠ [], ∀ rest ≠ [], path = front ++ rest →
    after.at? front = some (.map ((ofValue? (before.at? front)).assign v rest))
  /-- Nothing else changes. -/
  apart : ∀ other, Apart path other → after.at? other = before.at? other
  /-- Keys that were there stay in their places. -/
  keys : before.map Prod.fst <+: after.map Prod.fst
  /-- So they do in the mappings inside, but for those that the value takes the place of. -/
  innerKeys : ∀ other inner, ¬path <+: other → before.at? other = some (.map inner) →
    ∃ inner', after.at? other = some (.map inner') ∧ inner.map Prod.fst <+: inner'.map Prod.fst

theorem at?_assign_self {path : List String} (h : path ≠ []) (es : Entries) (v : Value) :
    (es.assign v path).at? path = some v := by
  induction path generalizing es with
  | nil => exact absurd rfl h
  | cons step rest ih =>
      by_cases hrest : rest = []
      · subst hrest
        rw [at?, find?_assign, if_pos rfl, if_pos rfl]
      · rw [at?_cons _ _ hrest, find?_assign, if_pos rfl, if_neg hrest]
        exact ih hrest _

theorem at?_assign_append {path rest : List String} (h : path ≠ []) (hrest : rest ≠ [])
    (es : Entries) (v : Value) :
    (es.assign v path).at? (path ++ rest) = (ofValue? (some v)).at? rest := by
  induction path generalizing es with
  | nil => exact absurd rfl h
  | cons step more ih =>
      rw [List.cons_append, at?_cons _ _ (List.append_ne_nil_of_right_ne_nil _ hrest), find?_assign,
        if_pos rfl]
      by_cases hmore : more = []
      · subst hmore
        rw [if_pos rfl, List.nil_append]
      · rw [if_neg hmore]
        exact ih hmore _

theorem at?_assign_front {front rest : List String} (h : front ≠ []) (hrest : rest ≠ [])
    (es : Entries) (v : Value) :
    (es.assign v (front ++ rest)).at? front
      = some (.map ((ofValue? (es.at? front)).assign v rest)) := by
  induction front generalizing es with
  | nil => exact absurd rfl h
  | cons step more ih =>
      by_cases hmore : more = []
      · subst hmore
        rw [List.singleton_append, at?, find?_assign, if_pos rfl, if_neg hrest]
        rfl
      · rw [List.cons_append, at?_cons _ _ hmore, at?_cons _ _ hmore, find?_assign, if_pos rfl,
          if_neg (List.append_ne_nil_of_right_ne_nil _ hrest)]
        exact ih hmore _

theorem at?_assign_of_apart {path other : List String} (h : Apart path other) (es : Entries)
    (v : Value) : (es.assign v path).at? other = es.at? other := by
  induction path generalizing es other with
  | nil => exact absurd List.nil_prefix h.1
  | cons step rest ih =>
      cases other with
      | nil => exact absurd List.nil_prefix h.2
      | cons name more =>
          by_cases hname : step = name
          · -- the paths part further on
            subst hname
            obtain ⟨hfront, hback⟩ := h
            rw [List.cons_prefix_cons, and_iff_right rfl] at hfront hback
            have hrest : rest ≠ [] := fun hnil => hfront (hnil ▸ List.nil_prefix)
            have hmore : more ≠ [] := fun hnil => hback (hnil ▸ List.nil_prefix)
            rw [at?_cons _ _ hmore, at?_cons _ _ hmore, find?_assign, if_pos rfl, if_neg hrest]
            exact ih ⟨hfront, hback⟩ _
          · refine at?_congr ?_ more
            rw [find?_assign, if_neg hname]

/-- Keys that are there stay in their places, and one comes behind them at most. -/
theorem map_fst_prefix_assign (es : Entries) (v : Value) (path : List String) :
    es.map Prod.fst <+: (es.assign v path).map Prod.fst := by
  cases path with
  | nil => exact List.prefix_rfl
  | cons step rest =>
      rw [assign_cons, map_fst_insert]
      split
      · exact List.prefix_rfl
      · exact List.prefix_append _ _

/-- An assignment does what is said. -/
theorem assign_assigns {path : List String} (h : path ≠ []) (es : Entries) (v : Value) :
    es.Assigns path v (es.assign v path) where
  own := at?_assign_self h es v
  below := fun _ hrest => at?_assign_append h hrest es v
  above := by
    rintro front hfront rest hrest rfl
    exact at?_assign_front hfront hrest es v
  apart := fun _ hother => at?_assign_of_apart hother es v
  keys := map_fst_prefix_assign es v path
  innerKeys := by
    intro other inner hpath hinner
    by_cases hon : other <+: path
    · -- a mapping on the way
      obtain ⟨rest, rfl⟩ := hon
      have hother : other ≠ [] := by
        rintro rfl
        cases hinner
      have hrest : rest ≠ [] := by
        rintro rfl
        exact hpath (by simp)
      refine ⟨_, at?_assign_front hother hrest es v, ?_⟩
      rw [hinner]
      exact map_fst_prefix_assign inner v rest
    · rw [at?_assign_of_apart ⟨hpath, hon⟩ es v]
      exact ⟨inner, hinner, List.prefix_rfl⟩

-- ====================================================== assignments in a row

/-- Assignments, each a path and a value, carried out one after the other. -/
def assignAll (es : Entries) (sets : List (List String × Value)) : Entries :=
  sets.foldl (fun entries s => entries.assign s.2 s.1) es

theorem assignAll_append (es : Entries) (sets more : List (List String × Value)) :
    es.assignAll (sets ++ more) = (es.assignAll sets).assignAll more :=
  List.foldl_append

/-- Assignments change nothing at a path that is apart from all of theirs. -/
theorem at?_assignAll_of_apart {sets : List (List String × Value)} {path : List String}
    (h : ∀ s ∈ sets, Apart s.1 path) (es : Entries) :
    (es.assignAll sets).at? path = es.at? path := by
  induction sets generalizing es with
  | nil => rfl
  | cons s rest ih =>
      obtain ⟨hfirst, hrest⟩ := List.forall_mem_cons.mp h
      exact (ih hrest _).trans (at?_assign_of_apart hfirst es s.2)

/-- The last assignment that is not apart from a path decides what is there. -/
theorem at?_assignAll_of_last {front back : List (List String × Value)}
    {s : List String × Value} {path : List String} (h : ∀ later ∈ back, Apart later.1 path)
    (es : Entries) :
    (es.assignAll (front ++ s :: back)).at? path
      = ((es.assignAll front).assign s.2 s.1).at? path := by
  rw [assignAll_append]
  exact at?_assignAll_of_apart h _

/-- What assignments in a row make of a mapping: at each path the last one decides that is not apart
from it. -/
structure LastDecides (before : Entries) (sets : List (List String × Value)) (after : Entries) :
    Prop where
  /-- Where there is none, nothing changes. -/
  apart : ∀ path, (∀ s ∈ sets, Apart s.1 path) → after.at? path = before.at? path
  /-- Assigned at the path itself, its value is there. -/
  own : ∀ front s back, sets = front ++ s :: back → (∀ later ∈ back, Apart later.1 s.1) →
    after.at? s.1 = some s.2
  /-- Assigned above, its value is gone into. -/
  below : ∀ front s back, sets = front ++ s :: back →
    ∀ rest ≠ [], (∀ later ∈ back, Apart later.1 (s.1 ++ rest)) →
      after.at? (s.1 ++ rest) = (ofValue? (some s.2)).at? rest
  /-- Assigned below, there is the mapping of before with the rest assigned. -/
  above : ∀ front s back, sets = front ++ s :: back →
    ∀ path ≠ [], ∀ rest ≠ [], s.1 = path ++ rest → (∀ later ∈ back, Apart later.1 path) →
      after.at? path
        = some (.map ((ofValue? ((before.assignAll front).at? path)).assign s.2 rest))

theorem assignAll_lastDecides {sets : List (List String × Value)} (h : ∀ s ∈ sets, s.1 ≠ [])
    (es : Entries) : es.LastDecides sets (es.assignAll sets) := by
  -- each of them does to what the ones before it left what an assignment does
  have hassigns : ∀ front s back, sets = front ++ s :: back →
      (es.assignAll front).Assigns s.1 s.2 ((es.assignAll front).assign s.2 s.1) := by
    intro front s back hsets
    have hmem : s ∈ sets := by
      rw [hsets]
      exact List.mem_append_right _ List.mem_cons_self
    exact assign_assigns (h s hmem) _ _
  refine ⟨fun _ hpath => at?_assignAll_of_apart hpath es, ?_, ?_, ?_⟩
  · intro front s back hsets hback
    rw [hsets, at?_assignAll_of_last hback]
    exact (hassigns front s back hsets).own
  · intro front s back hsets rest hrest hback
    rw [hsets, at?_assignAll_of_last hback]
    exact (hassigns front s back hsets).below rest hrest
  · intro front s back hsets path hpath rest hrest heq hback
    rw [hsets, at?_assignAll_of_last hback]
    exact (hassigns front s back hsets).above path hpath rest hrest heq

end Entries

-- ====================================================== checking

section Check

variable {allowed pairs : List String}

/-- The assignment is about one of these fields, whatever the case. -/
def Assignment.IsAbout (fields : List String) (a : Assignment) : Prop :=
  ∃ name ∈ fields, Text.lowered a.field = Text.lowered name

/-- An assignment that can be read passes the check exactly if it is about an allowed field. -/
theorem contains_lowered_iff {a : Assignment} :
    (allowed.map Text.lowered).contains (Text.lowered a.field) = true ↔ a.IsAbout allowed := by
  rw [List.contains_iff_mem, List.mem_map]
  constructor
  · intro h
    obtain ⟨name, hname, heq⟩ := h
    exact ⟨name, hname, heq.symm⟩
  · intro h
    obtain ⟨name, hname, heq⟩ := h
    exact ⟨name, hname, heq.symm⟩

/-- The check goes through the assignments one by one. -/
theorem requireAllowed_cons (pair : String) (rest : List String) :
    requireAllowed allowed (pair :: rest)
      = (Assignment.read pair).bind fun a =>
          if (allowed.map Text.lowered).contains (Text.lowered a.field) then
            requireAllowed allowed rest
          else .error (.unknownField a.field (allowed.mergeSort fun a b => decide (a ≤ b))) := by
  unfold requireAllowed
  simp only [List.forM_eq_forM, List.forM_cons]
  cases Assignment.read pair with
  | error e => rfl
  | ok a =>
      show (if _ then Except.ok () else _) >>= _ = if _ then _ else _
      split
      · rfl
      · rfl

/-- Assignments pass the check exactly if all of them can be read and are about allowed fields. -/
theorem requireAllowed_eq_ok_iff :
    requireAllowed allowed pairs = .ok ()
      ↔ ∀ pair ∈ pairs, ∃ a, Assignment.read pair = .ok a ∧ a.IsAbout allowed := by
  induction pairs with
  | nil => simp [requireAllowed, pure, Except.pure]
  | cons pair rest ih =>
      rw [requireAllowed_cons, List.forall_mem_cons, ← ih]
      cases hread : Assignment.read pair with
      | error e => simp [Except.bind]
      | ok a =>
          show (if _ then _ else _) = _ ↔ _
          by_cases habout : a.IsAbout allowed
          · rw [if_pos (contains_lowered_iff.mpr habout)]
            constructor
            · intro h
              exact ⟨⟨a, rfl, habout⟩, h⟩
            · intro h
              exact h.2
          · rw [if_neg fun h => habout (contains_lowered_iff.mp h)]
            constructor
            · intro h
              cases h
            · intro h
              obtain ⟨⟨a', heq, habout'⟩, -⟩ := h
              rw [← Except.ok.inj heq] at habout'
              exact absurd habout' habout

end Check

end ApiCommands
