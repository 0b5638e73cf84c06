/-
The disk: what stands where, and how a path gets there.

# Entries

An entry that is set or removed is seen at its place and changes nothing at any
other (`get?_set`, `get?_remove`). Anchors are directories whatever the entries
say, and no place behind a name is one (`isAnchor_concat`).

# Walks

A row of parts leads through places that depend on the parts alone
(`destination`). A walk follows it if every place it goes through is a directory
(`Passes`), and it goes on so whatever else comes on the disk, as long as
directories stay directories (`Passes.mono`). Where missing directories are made,
everything that was there stays, and the parts can be passed
(`makeFrom_spec`). The induction is on the parts; a step back (`..`) makes no
check of its own, so it needs that all places in front of the current one are
directories (`Stands`), which every step keeps.
-/
import ApiCommands.Storage.Disk
import Mathlib.Data.List.Infix

namespace ApiCommands.Disk

variable {d d' : Disk} {place p here : DiskPlace} {entry e : DiskEntry}

-- ====================================================== entries

/-- The first entry is what is at its place. -/
theorem lookup_cons_ite (q p : DiskPlace) (f : DiskEntry) (rest : List (DiskPlace × DiskEntry)) :
    ((q, f) :: rest).lookup p = if p = q then some f else rest.lookup p := by
  rw [List.lookup_cons]
  by_cases h : p = q
  · simp [h]
  · rw [if_neg h, beq_false_of_ne h]

/-- Entries with one set have it at its place, and all others as before. -/
theorem lookup_setIn (place p : DiskPlace) (entry : DiskEntry)
    (entries : List (DiskPlace × DiskEntry)) :
    (setIn place entry entries).lookup p
      = if p = place then some entry else entries.lookup p := by
  induction entries with
  | nil => exact lookup_cons_ite place p entry []
  | cons head rest ih =>
      obtain ⟨q, f⟩ := head
      unfold setIn
      by_cases hq : q = place
      · rw [if_pos hq, hq, lookup_cons_ite, lookup_cons_ite]
        by_cases h : p = place
        · rw [if_pos h, if_pos h]
        · rw [if_neg h, if_neg h, if_neg h]
      · rw [if_neg hq, lookup_cons_ite, lookup_cons_ite, ih]
        by_cases h : p = place
        · rw [if_neg (by rw [h]; exact Ne.symm hq), if_pos h, if_pos h]
        · rw [if_neg h, if_neg h]

/-- Entries without a place have nothing there, and all others as before. -/
theorem lookup_filter_ne (place p : DiskPlace) (entries : List (DiskPlace × DiskEntry)) :
    (entries.filter fun (q, _) => q != place).lookup p
      = if p = place then none else entries.lookup p := by
  induction entries with
  | nil => simp
  | cons head rest ih =>
      obtain ⟨q, f⟩ := head
      rw [lookup_cons_ite]
      by_cases hq : q = place
      · rw [List.filter_cons_of_neg (by simpa using hq), ih, hq]
        by_cases h : p = place
        · rw [if_pos h, if_pos h]
        · rw [if_neg h, if_neg h, if_neg h]
      · rw [List.filter_cons_of_pos (by simpa using hq), lookup_cons_ite, ih]
        by_cases h : p = place
        · rw [if_neg (by rw [h]; exact Ne.symm hq), if_pos h, if_pos h]
        · rw [if_neg h, if_neg h]

/-- What is at a place after an entry was set. -/
theorem get?_set (h : isAnchor place = false) :
    (d.set place entry).get? p = if p = place then some entry else d.get? p := by
  unfold get? set
  dsimp only
  rw [lookup_setIn]
  by_cases hp : p = place
  · simp [hp, h]
  · simp [hp]

/-- What is at a place after an entry was removed. -/
theorem get?_remove (h : isAnchor place = false) :
    (d.remove place).get? p = if p = place then none else d.get? p := by
  unfold get? remove
  dsimp only
  rw [lookup_filter_ne]
  by_cases hp : p = place
  · simp [hp, h]
  · simp [hp]

/-- An anchor is a directory. -/
theorem get?_of_isAnchor (h : isAnchor p = true) : d.get? p = some .directory := by
  unfold get?
  rw [if_pos h]

/-- A place where nothing is is no anchor. -/
theorem isAnchor_of_get?_eq_none (h : d.get? p = none) : isAnchor p = false := by
  by_contra hanchor
  rw [Bool.not_eq_false] at hanchor
  rw [get?_of_isAnchor hanchor] at h
  cases h

/-- No place behind a name is an anchor. -/
theorem isAnchor_concat {name : String} (hup : name ≠ "..") (hroot : name ≠ "/") :
    isAnchor (here ++ [name]) = false := by
  unfold isAnchor
  rw [Bool.or_eq_false_iff]
  constructor
  · rw [beq_eq_false_iff_ne]
    intro heq
    have hlast := congrArg List.getLast? heq
    rw [List.getLast?_concat] at hlast
    exact hroot (Option.some.inj hlast)
  · rw [List.all_append]
    simp [hup]

/-- Everything on the first disk is on the second. -/
def Extends (d d' : Disk) : Prop := ∀ p e, d.get? p = some e → d'.get? p = some e

theorem Extends.refl : Extends d d := fun _ _ h => h

theorem Extends.trans {d'' : Disk} (h : Extends d d') (h' : Extends d' d'') : Extends d d'' :=
  fun p e hp => h' p e (h p e hp)

/-- An entry where nothing was takes nothing away. -/
theorem extends_set (h : d.get? place = none) : Extends d (d.set place entry) := by
  intro p e hp
  rw [get?_set (isAnchor_of_get?_eq_none h), if_neg]
  · exact hp
  · intro heq
    rw [heq, h] at hp
    cases hp

-- ====================================================== walks

/-- A place and all places in front of it are directories. -/
def Stands (d : Disk) (here : DiskPlace) : Prop := ∀ p, p <+: here → d.get? p = some .directory

namespace Stands

theorem get? (h : d.Stands here) : d.get? here = some .directory := h here (List.prefix_refl _)

theorem mono (h : d.Stands here) (hd : Extends d d') : d'.Stands here :=
  fun p hp => hd p _ (h p hp)

/-- The start of a path stands. -/
theorem start (d : Disk) (q : DiskPath) : d.Stands (startOf q) := by
  intro p hp
  apply get?_of_isAnchor
  unfold startOf at hp
  split at hp
  · rcases List.prefix_cons_iff.mp hp with rfl | ⟨rest, rfl, hrest⟩
    · rfl
    · obtain rfl := List.prefix_nil.mp hrest
      rfl
  · obtain rfl := List.prefix_nil.mp hp
    rfl

/-- What is around a place that stands does so. -/
theorem around (h : d.Stands here) : d.Stands (around here) := by
  unfold Disk.around
  split
  · exact h
  · split
    · -- among directories around the working directory
      next hup =>
      intro p hp
      apply get?_of_isAnchor
      unfold isAnchor
      rw [Bool.or_eq_true]
      refine Or.inr (List.all_eq_true.mpr fun name hname => ?_)
      rcases List.mem_append.mp (hp.subset hname) with hin | hlast
      · exact List.all_eq_true.mp hup name hin
      · rw [List.mem_singleton.mp hlast]
        rfl
    · exact fun p hp => h p (hp.trans (List.dropLast_prefix _))

/-- A directory in a place that stands does so. -/
theorem concat {name : String} (h : d.Stands here)
    (hname : d.get? (here ++ [name]) = some .directory) : d.Stands (here ++ [name]) := by
  intro p hp
  rcases List.prefix_concat_iff.mp hp with rfl | hin
  · exact hname
  · exact h p hin

end Stands

/-- The place that parts lead to. -/
def destination (here : DiskPlace) : List String → DiskPlace
  | [] => here
  | part :: rest => destination (if part = ".." then around here else here ++ [part]) rest

/-- The parts lead through directories, and to one. -/
def Passes (d : Disk) (here : DiskPlace) : List String → Prop
  | [] => d.get? here = some .directory
  | part :: rest =>
    d.get? here = some .directory
      ∧ if part = ".." then Passes d (around here) rest
        else isTooLong part = false ∧ Passes d (here ++ [part]) rest

/-- Parts can be passed as long as directories stay directories. -/
theorem Passes.mono (hd : ∀ p, d.get? p = some .directory → d'.get? p = some .directory)
    {parts : List String} (h : d.Passes here parts) : d'.Passes here parts := by
  induction parts generalizing here with
  | nil => exact hd here h
  | cons part rest ih =>
      obtain ⟨hhere, hrest⟩ := h
      refine ⟨hd here hhere, ?_⟩
      by_cases hup : part = ".."
      · rw [if_pos hup] at hrest ⊢
        exact ih hrest
      · rw [if_neg hup] at hrest ⊢
        exact ⟨hrest.1, ih hrest.2⟩

/-- Parts that can be passed lead to a directory. -/
theorem Passes.get?_destination {parts : List String} (h : d.Passes here parts) :
    d.get? (destination here parts) = some .directory := by
  induction parts generalizing here with
  | nil => exact h
  | cons part rest ih =>
      obtain ⟨-, hrest⟩ := h
      unfold destination
      by_cases hup : part = ".."
      · rw [if_pos hup] at hrest ⊢
        exact ih hrest
      · rw [if_neg hup] at hrest ⊢
        exact ih hrest.2

/-- A walk passes the parts that can be passed, and goes on from where they lead. -/
theorem walk_append_of_passes {parts : List String} (h : d.Passes here parts)
    (more : List String) :
    d.walk here (parts ++ more) = d.walk (destination here parts) more := by
  induction parts generalizing here with
  | nil => rfl
  | cons part rest ih =>
      obtain ⟨hhere, hrest⟩ := h
      rw [List.cons_append, walk, hhere]
      unfold destination
      by_cases hup : part = ".."
      · rw [if_pos hup] at hrest ⊢
        rw [if_pos hup]
        exact ih hrest
      · rw [if_neg hup] at hrest ⊢
        obtain ⟨hshort, hpasses⟩ := hrest
        have hnext : ∃ e, d.get? (here ++ [part]) = some e := by
          cases rest with
          | nil => exact ⟨_, hpasses⟩
          | cons next others => exact ⟨_, hpasses.1⟩
        obtain ⟨e, he⟩ := hnext
        simp only [hup, if_false, hshort, Bool.false_eq_true, he]
        exact ih hpasses

/-- Where missing directories are made, all that was there stays, and the parts can be passed. -/
theorem makeFrom_spec {refusal : DiskPlace → Option FileError} {parts : List String}
    (h : d.Stands here) (hmade : d.makeFrom refusal here parts = (d', .ok place)) :
    Extends d d' ∧ place = destination here parts ∧ d'.Passes here parts := by
  induction parts generalizing d here with
  | nil =>
      obtain ⟨rfl, hplace⟩ := Prod.mk.inj hmade
      exact ⟨.refl, (Except.ok.inj hplace).symm, h.get?⟩
  | cons part rest ih =>
      unfold makeFrom at hmade
      unfold destination Passes
      by_cases hup : part = ".."
      · rw [if_pos hup] at hmade ⊢
        rw [if_pos hup]
        obtain ⟨hext, hplace, hpasses⟩ := ih h.around hmade
        exact ⟨hext, hplace, hext _ _ h.get?, hpasses⟩
      · rw [if_neg hup] at hmade ⊢
        rw [if_neg hup]
        split at hmade
        · cases hmade
        · next hshort =>
          rw [Bool.not_eq_true] at hshort
          split at hmade
          · -- the directory is there
            next hnext =>
            obtain ⟨hext, hplace, hpasses⟩ := ih (h.concat hnext) hmade
            exact ⟨hext, hplace, hext _ _ h.get?, hshort, hpasses⟩
          · cases hmade
          · next hnone =>
            split at hmade
            · cases hmade
            · -- it is made
              have hset : Extends d (d.set (here ++ [part]) .directory) := extends_set hnone
              have hnew : (d.set (here ++ [part]) .directory).get? (here ++ [part])
                  = some .directory := by
                rw [get?_set (isAnchor_of_get?_eq_none hnone), if_pos rfl]
              have hstands : (d.set (here ++ [part]) .directory).Stands (here ++ [part]) :=
                (h.mono hset).concat hnew
              obtain ⟨hext, hplace, hpasses⟩ := ih hstands hmade
              have hall := hset.trans hext
              exact ⟨hall, hplace, hall _ _ h.get?, hshort, hpasses⟩

/-- The directory of a path that is made with all around it can be reached, and all that was there
stays. -/
theorem makeAllowed_spec {refusal : DiskPlace → Option FileError} {q : DiskPath}
    (h : d.makeAllowed refusal q = (d', .ok place)) :
    Extends d d' ∧ place = destination (startOf q) q.parts
      ∧ d'.Passes (startOf q) q.parts := by
  unfold makeAllowed at h
  split at h
  · cases h
  · obtain ⟨hdisk, hmade⟩ := Prod.mk.inj h
    cases hfrom : (d.makeFrom refusal (startOf q) q.parts).2 with
    | error e =>
        rw [hfrom] at hmade
        cases hmade
    | ok reached =>
        rw [hfrom] at hmade
        obtain rfl := Except.ok.inj hmade
        exact makeFrom_spec (.start d q) (Prod.ext hdisk hfrom)

end ApiCommands.Disk
