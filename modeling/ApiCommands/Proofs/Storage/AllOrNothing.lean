/-
Writing files all at once: all or nothing for each file, not for a run.

# Places

A write touches three kinds of places: its target, its scratch file, and the
directories on the way to both, which it makes where they are missing
(`keptOrMade_makeFrom`). Every other place is kept, whatever is refused and
wherever it happens; so for each place it is enough to ask how the write ended
(`atomicWrite_cases`). What two steps keep or make, both in a row do
(`KeptOrMade.trans`).

# The target

If the write succeeds, its path leads to the text; if it fails, all that was there
still is, and what is new are directories on the way only
(`atomicWrite_all_or_nothing`). A target that was missing and that its own path
leads through is one of these directories, and a scratch file that the system does
not let go stays behind (`failed_write_leaves_traces`).

# Runs

A run of writes has no way back: it ends with the first write that fails, and the
files written before it are new (`writeArtifacts_up_to_failure`). The induction is
on the artifacts; what the later writes do comes behind the first one
(`WroteFirst.cons`), whose file they leave alone unless they have the same target.
So files of two generations may stand side by side
(`failed_run_mixes_generations`).
-/
import ApiCommands.Proofs.Storage.ArtifactFiles

namespace ApiCommands

namespace Disk

variable {trouble : Trouble} {refusal : DiskPlace → Option FileError} {d d' mid : Disk}
  {p : DiskPath} {here place : DiskPlace} {parts : List String} {text : String}
  {way way' : DiskPlace → Prop}

-- ====================================================== directories on the way

/-- The place is as it was, or nothing was there and it is a directory on the way now. -/
def KeptOrMade (way : DiskPlace → Prop) (d d' : Disk) (place : DiskPlace) : Prop :=
  d'.get? place = d.get? place
    ∨ d.get? place = none ∧ d'.get? place = some .directory ∧ way place

namespace KeptOrMade

theorem refl : KeptOrMade way d d place := .inl rfl

/-- What is there stays. -/
theorem get?_eq_some {entry : DiskEntry} (h : KeptOrMade way d d' place)
    (hentry : d.get? place = some entry) : d'.get? place = some entry := by
  rcases h with hkept | ⟨hnone, -, -⟩
  · rw [hkept, hentry]
  · rw [hnone] at hentry
    cases hentry

/-- Where nothing is afterwards, nothing was. -/
theorem get?_eq_none (h : KeptOrMade way d d' place) (hnone : d'.get? place = none) :
    d.get? place = none := by
  rcases h with hkept | ⟨hbefore, -, -⟩
  · rw [← hkept, hnone]
  · exact hbefore

/-- It is enough to know more directories that are on the way. -/
theorem mono (h : KeptOrMade way d d' place) (hway : ∀ q, way q → way' q) :
    KeptOrMade way' d d' place :=
  h.imp_right fun ⟨hnone, hmade, hon⟩ => ⟨hnone, hmade, hway place hon⟩

/-- What is kept or made by one step and by the next is so by both. -/
theorem trans (h : KeptOrMade way d mid place) (h' : KeptOrMade way mid d' place) :
    KeptOrMade way d d' place := by
  rcases h with hkept | ⟨hnone, hmade, hon⟩
  · unfold KeptOrMade at h' ⊢
    rwa [hkept] at h'
  · exact .inr ⟨hnone, h'.get?_eq_some hmade, hon⟩

/-- A directory made on the way, where nothing was. -/
theorem set {new : DiskPlace} (hfree : d.get? new = none) (hon : way new) :
    KeptOrMade way d (d.set new .directory) place := by
  by_cases hnew : place = new
  · refine .inr ⟨by rw [hnew, hfree], ?_, by rw [hnew]; exact hon⟩
    rw [get?_set (isAnchor_of_get?_eq_none hfree), if_pos hnew]
  · refine .inl ?_
    rw [get?_set (isAnchor_of_get?_eq_none hfree), if_neg hnew]

end KeptOrMade

/-- The first parts lead to the place. -/
def OnWay (here : DiskPlace) (parts : List String) (place : DiskPlace) : Prop :=
  ∃ n, place = destination here (parts.take n)

/-- What is on the way of the later parts is on the way of all. -/
theorem OnWay.cons {part : String} {rest : List String}
    (h : OnWay (if part = ".." then around here else here ++ [part]) rest place) :
    OnWay here (part :: rest) place := by
  obtain ⟨n, hplace⟩ := h
  exact ⟨n + 1, by rw [List.take_succ_cons, destination, hplace]⟩

/-- Where missing directories are made, every place is kept or made on the way. -/
theorem keptOrMade_makeFrom (refusal : DiskPlace → Option FileError) (d : Disk) (here : DiskPlace)
    (parts : List String) (place : DiskPlace) :
    KeptOrMade (OnWay here parts) d (d.makeFrom refusal here parts).1 place := by
  induction parts generalizing d here with
  | nil => exact .refl
  | cons part rest ih =>
      have hcons : ∀ q, OnWay (if part = ".." then around here else here ++ [part]) rest q →
          OnWay here (part :: rest) q := fun _ => OnWay.cons
      unfold makeFrom
      by_cases hup : part = ".."
      · rw [if_pos hup] at hcons ⊢
        exact (ih d _).mono hcons
      · rw [if_neg hup] at hcons ⊢
        split
        · exact .refl
        · split
          · exact (ih d _).mono hcons
          · exact .refl
          · next hfree =>
            split
            · exact .refl
            · -- the first directory is made
              have hon : OnWay here (part :: rest) (here ++ [part]) := hcons _ ⟨0, rfl⟩
              exact (KeptOrMade.set hfree hon).trans ((ih _ _).mono hcons)

/-- So it is on the way of a path. -/
theorem keptOrMade_makeAllowed (refusal : DiskPlace → Option FileError) (d : Disk) (p : DiskPath)
    (place : DiskPlace) :
    KeptOrMade (OnWay (startOf p) p.parts) d (d.makeAllowed refusal p).1 place := by
  unfold makeAllowed
  split
  · exact .refl
  · exact keptOrMade_makeFrom refusal d _ _ _

-- ====================================================== the place of a path

/-- The place that a path leads to if it can be followed, whatever is on the disk. -/
def placeOf (p : DiskPath) : DiskPlace := destination (startOf p) p.parts

/-- The place is one that a path leads through. -/
def IsAround (p : DiskPath) : DiskPlace → Prop := OnWay (startOf p) p.parent.parts

/-- The last part leads on from where the parts in front of it lead. -/
theorem destination_concat (here : DiskPlace) (parts : List String) (last : String) :
    destination here (parts ++ [last])
      = if last = ".." then around (destination here parts)
        else destination here parts ++ [last] := by
  induction parts generalizing here with
  | nil => rfl
  | cons part rest ih =>
      rw [List.cons_append, destination, destination]
      exact ih _

/-- What it takes that a walk goes one part further. -/
theorem walk_cons_eq_ok_iff {part : String} {rest : List String} :
    d.walk here (part :: rest) = .ok place
      ↔ d.get? here = some .directory
        ∧ (part = ".." ∧ d.walk (around here) rest = .ok place
          ∨ part ≠ ".." ∧ isTooLong part = false ∧ (∃ entry, d.get? (here ++ [part]) = some entry)
            ∧ d.walk (here ++ [part]) rest = .ok place) := by
  rw [walk]
  cases d.get? here with
  | none => simp
  | some entry =>
      cases entry with
      | file bytes => simp
      | directory =>
          by_cases hup : part = ".."
          · simp [hup]
          · cases hlong : isTooLong part with
            | true => simp [hup]
            | false => cases d.get? (here ++ [part]) <;> simp [hup]

/-- A walk ends where its parts lead to. -/
theorem eq_destination_of_walk (h : d.walk here parts = .ok place) :
    place = destination here parts := by
  induction parts generalizing here with
  | nil => exact (Except.ok.inj h).symm
  | cons part rest ih =>
      unfold destination
      obtain ⟨-, ⟨hup, hrest⟩ | ⟨hname, -, -, hrest⟩⟩ := walk_cons_eq_ok_iff.mp h
      · rw [if_pos hup]
        exact ih hrest
      · rw [if_neg hname]
        exact ih hrest

/-- A walk goes the same way if more is on the disk. -/
theorem walk_mono (hd : Extends d d') (h : d.walk here parts = .ok place) :
    d'.walk here parts = .ok place := by
  induction parts generalizing here with
  | nil => exact h
  | cons part rest ih =>
      obtain ⟨hhere, ⟨hup, hrest⟩ | ⟨hname, hshort, ⟨entry, hentry⟩, hrest⟩⟩ :=
        walk_cons_eq_ok_iff.mp h
      · exact walk_cons_eq_ok_iff.mpr ⟨hd _ _ hhere, .inl ⟨hup, ih hrest⟩⟩
      · exact walk_cons_eq_ok_iff.mpr
          ⟨hd _ _ hhere, .inr ⟨hname, hshort, ⟨entry, hd _ _ hentry⟩, ih hrest⟩⟩

/-- Something is found by a path exactly if the path can be followed and it is at its place. -/
theorem find_eq_ok_iff {entry : DiskEntry} :
    d.find p = .ok entry
      ↔ p.flaw? = none ∧ d.walk (startOf p) p.parts = .ok (placeOf p)
        ∧ d.get? (placeOf p) = some entry := by
  unfold find place
  cases p.flaw? with
  | some f => exact ⟨fun h => (by cases h), fun h => (by cases h.1)⟩
  | none =>
      cases hwalk : d.walk (startOf p) p.parts with
      | error e => exact ⟨fun h => (by cases h), fun h => (by cases h.2.1)⟩
      | ok place =>
          obtain rfl : place = placeOf p := eq_destination_of_walk hwalk
          dsimp only [bind, Except.bind, Except.mapError]
          cases d.get? (placeOf p) with
          | none => exact ⟨fun h => (by cases h), fun h => (by cases h.2.2)⟩
          | some e =>
              refine ⟨fun h => ⟨rfl, rfl, ?_⟩, fun h => ?_⟩
              · rw [Except.ok.inj h]
              · rw [Option.some.inj h.2.2]
                rfl

/-- What is found on a disk is found on one with more. -/
theorem find_mono {entry : DiskEntry} (hd : Extends d d') (h : d.find p = .ok entry) :
    d'.find p = .ok entry := by
  obtain ⟨hflaw, hwalk, hentry⟩ := find_eq_ok_iff.mp h
  exact find_eq_ok_iff.mpr ⟨hflaw, walk_mono hd hwalk, hd _ _ hentry⟩

/-- The place of a written path that ends in a name is that of the name in the directory around
it. -/
theorem placeOf_eq_target (hp : p.IsWritten) (hname : p.name ≠ "" ∧ p.name ≠ "..") :
    placeOf p = target p.parent p.name := by
  obtain ⟨hplain, hchild⟩ := hp.parent_child_name hname.1 hname.2
  have hparts : p.parent.parts ++ [p.name] = p.parts := by
    rw [p.parent.child_of_plain hplain] at hchild
    exact congrArg DiskPath.parts hchild
  unfold placeOf
  rw [← hparts, destination_concat, if_neg hname.2]
  rfl

-- ====================================================== the ends of a write

/-- A scratch file for the target of a path has stayed after a failure. Nothing was at its place. -/
def LeftBehind (trouble : Trouble) (p : DiskPath) (text : String) (d : Disk) (place : DiskPlace) :
    Prop :=
  KeepsScratch trouble text ∧ d.get? place = none
    ∧ ∃ n, place = destination (startOf p) p.parent.parts ++ [scratchName p.name n]

/-- Where a write is given up, only the scratch file may be new, besides directories on the way. -/
theorem keptOrLeft_of_givenUp {made : Disk} (hway : KeptOrMade (IsAround p) d made place)
    (hgiven : GivenUp trouble made d'
      (made.scratchPlace (destination (startOf p) p.parent.parts) p.name) text) :
    KeptOrMade (IsAround p) d d' place ∨ LeftBehind trouble p text d place := by
  obtain ⟨-, hfree, n, hscratch⟩ :=
    made.scratchPlace_spec (destination (startOf p) p.parent.parts) p.name
  by_cases hplace : place = made.scratchPlace (destination (startOf p) p.parent.parts) p.name
  · have hbefore : d.get? place = none := hway.get?_eq_none (by rw [hplace, hfree])
    by_cases hkeeps : KeepsScratch trouble text
    · exact .inr ⟨hkeeps, hbefore, n, by rw [hplace, hscratch]⟩
    · exact .inl (.inl (by rw [hbefore, hplace, hgiven.discarded hkeeps]))
  · exact .inl (hway.trans (.inl (hgiven.others place hplace)))

/-- How a write ends. It succeeds and its target, which has a name, is the only place that is
neither kept nor made on the way; or it fails and there is no such place, but for a scratch file
that has stayed. -/
theorem atomicWrite_cases {r : Except Fault Unit} (h : d.atomicWrite trouble p text = (d', r)) :
    (r = .ok () ∧ Text.hasBytes text.toList = true ∧ (p.name ≠ "" ∧ p.name ≠ "..")
        ∧ ∀ place, place ≠ target p.parent p.name → KeptOrMade (IsAround p) d d' place)
      ∨ (∃ f, r = .error f)
        ∧ ∀ place, KeptOrMade (IsAround p) d d' place ∨ LeftBehind trouble p text d place := by
  have hway : ∀ place, KeptOrMade (IsAround p) d
      (d.makeAllowed (fun place => trouble (.makeDirectory place)) p.parent).1 place :=
    keptOrMade_makeAllowed (fun place => trouble (.makeDirectory place)) d p.parent
  unfold atomicWrite at h
  split at h
  · next made f hmade =>
    rw [hmade] at hway
    obtain ⟨rfl, rfl⟩ := Prod.mk.inj h
    exact .inr ⟨⟨_, rfl⟩, fun place => .inl (hway place)⟩
  · next made directory hmade =>
    obtain ⟨-, hdirectory, -⟩ := makeAllowed_spec hmade
    rw [hmade] at hway
    split at h
    · obtain ⟨rfl, rfl⟩ := Prod.mk.inj h
      exact .inr ⟨⟨_, rfl⟩, fun place => .inl (hway place)⟩
    · obtain ⟨rfl, rfl⟩ := Prod.mk.inj h
      exact .inr ⟨⟨_, rfl⟩, fun place => .inl (hway place)⟩
    · rcases replaceBy_cases h with ⟨hok, hbytes, hname, hreplaced⟩ | ⟨hfailed, hgiven⟩
      · refine .inl ⟨hok, hbytes, hname, fun place hplace => (hway place).trans (.inl ?_)⟩
        refine hreplaced.others place ?_
        rw [hdirectory]
        exact hplace
      · rw [hdirectory] at hgiven
        exact .inr ⟨hfailed, fun place => keptOrLeft_of_givenUp (hway place) hgiven⟩

/-- The write gets as far as a scratch file: the directories are there, and one may be created. -/
def MakesScratch (trouble : Trouble) (d : Disk) (p : DiskPath) : Prop :=
  (∃ made directory,
      d.makeAllowed (fun place => trouble (.makeDirectory place)) p.parent = (made, .ok directory))
    ∧ trouble .createScratch = none ∧ scratchFlaw? p.parent p.name = none

/-- A write that fails leaves nothing but directories on the way exactly if it does not come to a
scratch file that stays. -/
theorem forall_keptOrMade_iff {f : Fault}
    (h : d.atomicWrite trouble p text = (d', .error f)) :
    (∀ place, KeptOrMade (IsAround p) d d' place)
      ↔ ¬(MakesScratch trouble d p ∧ KeepsScratch trouble text) := by
  have hway : ∀ place, KeptOrMade (IsAround p) d
      (d.makeAllowed (fun place => trouble (.makeDirectory place)) p.parent).1 place :=
    keptOrMade_makeAllowed (fun place => trouble (.makeDirectory place)) d p.parent
  unfold atomicWrite at h
  split at h
  · next made f' hmade =>
    rw [hmade] at hway
    obtain ⟨rfl, -⟩ := Prod.mk.inj h
    refine iff_of_true hway ?_
    rintro ⟨⟨⟨_, _, hother⟩, -, -⟩, -⟩
    rw [hmade] at hother
    cases hother
  · next made directory hmade =>
    obtain ⟨-, hdirectory, -⟩ := makeAllowed_spec hmade
    rw [hmade] at hway
    split at h
    · next e _ hcreate =>
      obtain ⟨rfl, -⟩ := Prod.mk.inj h
      refine iff_of_true hway ?_
      rintro ⟨⟨-, hnone, -⟩, -⟩
      rw [hcreate] at hnone
      cases hnone
    · next f' _ hflaw =>
      obtain ⟨rfl, -⟩ := Prod.mk.inj h
      refine iff_of_true hway ?_
      rintro ⟨⟨-, -, hnone⟩, -⟩
      rw [hflaw] at hnone
      cases hnone
    · next hcreate hflaw =>
      rcases replaceBy_cases h with ⟨hok, -⟩ | ⟨-, hgiven⟩
      · cases hok
      · have hmakes : MakesScratch trouble d p := ⟨⟨made, directory, hmade⟩, hcreate, hflaw⟩
        obtain ⟨-, hfree, -⟩ := made.scratchPlace_spec directory p.name
        rw [and_iff_right hmakes]
        constructor
        · intro hall hkeeps
          have hstays := hgiven.stays hkeeps
          rcases hall (made.scratchPlace directory p.name) with hkept | ⟨-, hmade', -⟩
          · rw [(hway _).get?_eq_none hfree, hstays] at hkept
            cases hkept
          · rw [hstays] at hmade'
            cases hmade'
        · intro hkeeps place
          rw [hdirectory] at hgiven
          exact (keptOrLeft_of_givenUp (hway place) hgiven).resolve_right fun hleft =>
            hkeeps hleft.1

/-- What is around a place is no file of the name of a scratch file in it. -/
theorem around_ne_scratch (name : String) (n : Nat) :
    around here ≠ here ++ [scratchName name n] := by
  intro heq
  have hlength := congrArg List.length heq
  rw [List.length_append, List.length_singleton] at hlength
  unfold around at heq hlength
  split at hlength
  · omega
  · split at hlength
    · next hroot hup =>
      rw [if_neg hroot, if_pos hup] at heq
      exact scratchName_ne name n (by decide)
        (List.cons.inj (List.append_cancel_left heq)).1.symm
    · rw [List.length_dropLast] at hlength
      omega

/-- Nothing is wrong with a scratch file whose name is short and whose path is sound. -/
theorem scratchFlaw?_eq_none (hshort : isTooLong (scratchName p.name 0) = false)
    (hflaw : (p.parent.child (scratchName p.name 0)).flaw? = none) :
    scratchFlaw? p.parent p.name = none := by
  unfold scratchFlaw?
  dsimp only
  rw [hshort, hflaw]
  rfl

/-- A write for which the directory is made gets as far as the scratch file, if nothing is wrong
with that. -/
theorem atomicWrite_eq_replaceBy {made : Disk} {directory : DiskPlace}
    (hmade : d.makeAllowed (fun place => trouble (.makeDirectory place)) p.parent
      = (made, .ok directory))
    (hcreate : trouble .createScratch = none) (hscratch : scratchFlaw? p.parent p.name = none)
    (text : String) :
    d.atomicWrite trouble p text = made.replaceBy trouble directory p.name text := by
  unfold atomicWrite
  rw [hmade, hcreate, hscratch]

/-- A scratch file is never at the place of the path itself. -/
theorem not_leftBehind_placeOf : ¬ LeftBehind trouble p text d (placeOf p) := by
  intro h
  obtain ⟨-, hfree, n, hplace⟩ := h
  rcases List.eq_nil_or_concat p.parts with hnil | ⟨front, last, hparts⟩
  · -- the path leads to an anchor, where a directory is
    have hanchor : isAnchor (placeOf p) = true := by
      unfold placeOf startOf
      rw [hnil]
      unfold destination
      split <;> rfl
    rw [get?_of_isAnchor hanchor] at hfree
    cases hfree
  · rw [List.concat_eq_append] at hparts
    have hfront : p.parent.parts = front := by
      unfold DiskPath.parent
      rw [hparts, List.dropLast_concat]
    unfold placeOf at hplace
    rw [hparts, destination_concat, hfront] at hplace
    split at hplace
    · exact around_ne_scratch _ n hplace
    · have hname : p.name = last := by
        unfold DiskPath.name
        rw [hparts, List.getLast?_concat]
        rfl
      rw [hname] at hplace
      exact scratchName_ne_name last n (List.cons.inj (List.append_cancel_left hplace)).1.symm

/-- A text that is held is found by the path. -/
theorem find_of_holds (hp : p.IsWritten) (hname : p.name ≠ "" ∧ p.name ≠ "..")
    (h : d.Holds p.parent p.name text) : d.find p = .ok (.file text.toUTF8) := by
  obtain ⟨hplain, hchild⟩ := hp.parent_child_name hname.1 hname.2
  have hfound := h.find hplain
  rwa [hchild] at hfound

/-- A write that succeeds leaves its text at the place of its path, which was no directory. -/
theorem holds_of_atomicWrite (hp : p.IsWritten)
    (hdone : d.atomicWrite trouble p text = (d', .ok ())) :
    (p.name ≠ "" ∧ p.name ≠ "..") ∧ d'.Holds p.parent p.name text
      ∧ d.get? (placeOf p) ≠ some .directory := by
  rcases atomicWrite_cases hdone with ⟨-, -, hname, -⟩ | ⟨⟨f, hf⟩, -⟩
  · obtain ⟨hplain, hchild⟩ := hp.parent_child_name hname.1 hname.2
    obtain ⟨hheld, hdirectory, -⟩ := atomicWrite_spec hplain (by rw [hchild]; exact hdone)
    exact ⟨hname, hheld, by rwa [placeOf_eq_target hp hname]⟩
  · cases hf

/-- A write that fails takes nothing away. -/
theorem extends_of_atomicWrite_eq_error {f : Fault}
    (hfailed : d.atomicWrite trouble p text = (d', .error f)) : Extends d d' := by
  intro place entry hentry
  rcases atomicWrite_cases hfailed with ⟨hok, -⟩ | ⟨-, hplaces⟩
  · cases hok
  · rcases hplaces place with hkept | ⟨-, hnone, -⟩
    · exact hkept.get?_eq_some hentry
    · rw [hnone] at hentry
      cases hentry

/-- How far a write is all or nothing. If it succeeds, its path leads to a file with the bytes of the
text, and every other place is as before or a directory made on the way; if it fails, all that was
found by its path still is, and every place, that of the path too, is as before or a directory made
on the way, but for a scratch file that has stayed. One has stayed exactly if the write came to a
scratch file, and the system refused to discard it, or to close it when it could not be filled. -/
theorem atomicWrite_all_or_nothing (hp : p.IsWritten) :
    (∀ d', d.atomicWrite trouble p text = (d', .ok ()) →
        Text.hasBytes text.toList = true ∧ d'.find p = .ok (.file text.toUTF8)
        ∧ ∀ place, place ≠ placeOf p → KeptOrMade (IsAround p) d d' place)
      ∧ ∀ d' f, d.atomicWrite trouble p text = (d', .error f) →
        (∀ entry, d.find p = .ok entry → d'.find p = .ok entry)
        ∧ KeptOrMade (IsAround p) d d' (placeOf p)
        ∧ (∀ place, KeptOrMade (IsAround p) d d' place ∨ LeftBehind trouble p text d place)
        ∧ ((∀ place, KeptOrMade (IsAround p) d d' place)
          ↔ ¬(MakesScratch trouble d p ∧ KeepsScratch trouble text)) := by
  constructor
  · intro d' hdone
    rcases atomicWrite_cases hdone with ⟨-, hbytes, hname, hothers⟩ | ⟨⟨f, hf⟩, -⟩
    · have hheld := (holds_of_atomicWrite hp hdone).2.1
      rw [placeOf_eq_target hp hname]
      exact ⟨hbytes, find_of_holds hp hname hheld, hothers⟩
    · cases hf
  · intro d' f hfailed
    rcases atomicWrite_cases hfailed with ⟨hok, -⟩ | ⟨-, hplaces⟩
    · cases hok
    · exact ⟨fun entry => find_mono (extends_of_atomicWrite_eq_error hfailed),
        (hplaces (placeOf p)).resolve_right not_leftBehind_placeOf, hplaces,
        forall_keptOrMade_iff hfailed⟩

end Disk

-- ====================================================== what may be left

namespace WriteTraces

/-- A file in the working directory. -/
def plain : DiskPath := ⟨.workingDirectory, ["a"]⟩

/-- The same file, by a path that leads through its own place. -/
def throughItself : DiskPath := ⟨.workingDirectory, ["a", "..", "a"]⟩

/-- A system that has no space left when the text gets to the disk, be it by a flush or by closing
the file. -/
def full : Trouble := fun
  | .flush | .close => some .noSpace
  | _ => none

/-- A system that refuses to rename. -/
def noRename : Trouble := fun
  | .rename => some .busy
  | _ => none

/-- The disk with the directory that was missing. -/
def made : Disk := ⟨[(["a"], .directory)]⟩

theorem flaw?_throughItself : throughItself.flaw? = none :=
  throughItself.flaw?_eq_none_iff.mpr (by decide)

/-- There is nothing to make around the plain path. -/
theorem makeAllowed_plain (trouble : Trouble) :
    Disk.empty.makeAllowed (fun place => trouble (.makeDirectory place)) plain.parent
      = (Disk.empty, .ok []) := by
  unfold Disk.makeAllowed
  rw [plain.parent.flaw?_eq_none_iff.mpr (by decide)]
  rfl

theorem scratchFlaw?_plain : Disk.scratchFlaw? plain.parent plain.name = none :=
  Disk.scratchFlaw?_eq_none (by decide)
    ((DiskPath.flaw?_eq_none_iff _).mpr (by decide))

/-- A write to the plain path gets as far as the scratch file, whatever happens then. -/
theorem atomicWrite_plain (trouble : Trouble) (h : trouble .createScratch = none) (text : String) :
    Disk.empty.atomicWrite trouble plain text
      = Disk.empty.replaceBy trouble [] plain.name text :=
  Disk.atomicWrite_eq_replaceBy (makeAllowed_plain trouble) h scratchFlaw?_plain text

theorem makesScratch_plain (trouble : Trouble) (h : trouble .createScratch = none) :
    Disk.MakesScratch trouble Disk.empty plain :=
  ⟨⟨_, _, makeAllowed_plain trouble⟩, h, scratchFlaw?_plain⟩

/-- A write to the path that leads through itself makes its own target. -/
theorem atomicWrite_throughItself (text : String) :
    Disk.empty.atomicWrite .none throughItself text
      = made.replaceBy .none [] throughItself.name text := by
  have hflaw : throughItself.parent.flaw? = none :=
    throughItself.parent.flaw?_eq_none_iff.mpr (by decide)
  have hscratch : Disk.scratchFlaw? throughItself.parent throughItself.name = none :=
    Disk.scratchFlaw?_eq_none (by decide)
      ((DiskPath.flaw?_eq_none_iff _).mpr (by decide))
  refine Disk.atomicWrite_eq_replaceBy ?_ rfl hscratch text
  unfold Disk.makeAllowed
  rw [hflaw]
  rfl

end WriteTraces

/-- A file is there after a write that the system lets pass, nothing is new after one that ends
with a refused renaming, and something is after one that finds the disk full. -/
theorem Disk.plain_write_all_or_nothing :
    WriteTraces.plain.IsWritten
      ∧ (∃ d', Disk.empty.atomicWrite .none WriteTraces.plain "x" = (d', .ok ())
        ∧ d'.find WriteTraces.plain = .ok (.file "x".toUTF8))
      ∧ (∃ d' f, Disk.empty.atomicWrite WriteTraces.noRename WriteTraces.plain "x" = (d', .error f)
        ∧ ∀ place, KeptOrMade (IsAround WriteTraces.plain) Disk.empty d' place)
      ∧ ∃ d' f, Disk.empty.atomicWrite WriteTraces.full WriteTraces.plain "x" = (d', .error f)
        ∧ ¬ ∀ place, KeptOrMade (IsAround WriteTraces.plain) Disk.empty d' place := by
  have hwritten : WriteTraces.plain.IsWritten := by decide
  have hdone := (WriteTraces.atomicWrite_plain .none rfl "x").trans rfl
  have hfailed := (WriteTraces.atomicWrite_plain WriteTraces.noRename rfl "x").trans rfl
  have hfull := (WriteTraces.atomicWrite_plain WriteTraces.full rfl "x").trans rfl
  refine ⟨hwritten, ⟨_, hdone, ((atomicWrite_all_or_nothing hwritten).1 _ hdone).2.1⟩,
    ⟨_, .file .busy, hfailed, ?_⟩, ⟨_, .file .noSpace, hfull, ?_⟩⟩
  · refine ((atomicWrite_all_or_nothing hwritten).2 _ _ hfailed).2.2.2.mpr ?_
    rintro ⟨-, hdiscard | ⟨-, hclose⟩⟩
    · exact hdiscard rfl
    · exact hclose rfl
  · rw [((atomicWrite_all_or_nothing hwritten).2 _ _ hfull).2.2.2, not_not]
    exact ⟨WriteTraces.makesScratch_plain WriteTraces.full rfl, .inr ⟨⟨_, rfl⟩, Option.some_ne_none _⟩⟩

/-- A failed write may leave more than missing directories beside its target: where nothing was
found, a directory is, for the path leads through it; and a scratch file stays, although the system
would let it go, if closing it fails as filling it did. -/
theorem Disk.failed_write_leaves_traces :
    (∃ d' f, Disk.empty.atomicWrite .none WriteTraces.throughItself "x" = (d', .error f)
        ∧ Disk.empty.find WriteTraces.throughItself = .error (.file .notFound)
        ∧ d'.find WriteTraces.throughItself = .ok .directory)
      ∧ ∃ d' f, Disk.empty.atomicWrite WriteTraces.full WriteTraces.plain "x" = (d', .error f)
        ∧ WriteTraces.full .discard = none
        ∧ d'.get? [".a.00000000.tmp"] = some (.file "x".toUTF8) := by
  constructor
  · refine ⟨_, .file .isDirectory, (WriteTraces.atomicWrite_throughItself "x").trans rfl, ?_, ?_⟩
    · unfold find place
      rw [WriteTraces.flaw?_throughItself]
      rfl
    · unfold find place
      rw [WriteTraces.flaw?_throughItself]
      rfl
  · exact ⟨_, .file .noSpace,
      (WriteTraces.atomicWrite_plain WriteTraces.full rfl "x").trans rfl, rfl, rfl⟩

-- ====================================================== runs

namespace Disk

variable {trouble : ArtifactTrouble} {d d' next : Disk} {p : DiskPath} {place : DiskPlace}
  {a : Artifact} {artifacts rest : List Artifact} {k : Nat}

/-- The place is one that the path of some artifact leads through. -/
def IsAroundSome (p : DiskPath) (artifacts : List Artifact) (place : DiskPlace) : Prop :=
  ∃ a ∈ artifacts, IsAround (p.child a.name) place

/-- The first `k` artifacts are written: each of them has its text, unless a later one of them has
the same place, and every other place is as before or a directory made on the way, but for a scratch
file of the next one that has stayed. -/
structure WroteFirst (trouble : ArtifactTrouble) (p : DiskPath) (artifacts : List Artifact)
    (k : Nat) (d d' : Disk) : Prop where
  written : ∀ front a back, artifacts.take k = front ++ a :: back →
    (∀ b ∈ back, placeOf (p.child b.name) ≠ placeOf (p.child a.name)) →
    d'.find (p.child a.name) = .ok (.file a.text.toUTF8)
  directories : ∀ place, d.get? place = some .directory → d'.get? place = some .directory
  others : ∀ place, (∀ a ∈ artifacts.take k, place ≠ placeOf (p.child a.name)) →
    KeptOrMade (IsAroundSome p (artifacts.take (k + 1))) d d' place
      ∨ ∃ a, artifacts[k]? = some a
        ∧ LeftBehind (trouble a.name) (p.child a.name) a.text d place

namespace WroteFirst

/-- Without artifacts nothing is written. -/
theorem nil : WroteFirst trouble p [] 0 d d where
  written front a back h := by simp at h
  directories _ h := h
  others _ _ := .inl .refl

/-- Where the first write fails, nothing is written. -/
theorem of_error {f : Fault} (hp : p.IsWritten)
    (h : d.atomicWrite (trouble a.name) (p.child a.name) a.text = (d', .error f)) :
    WroteFirst trouble p (a :: rest) 0 d d' where
  written front b back htake := by simp at htake
  directories place := extends_of_atomicWrite_eq_error h place _
  others place _ := by
    obtain ⟨-, -, hplaces, -⟩ := (atomicWrite_all_or_nothing (hp.child a.name)).2 d' f h
    refine (hplaces place).imp (fun hkept => ?_) fun hleft => ⟨a, rfl, hleft⟩
    exact hkept.mono fun q hq => ⟨a, List.mem_cons_self, hq⟩

/-- Where the first write succeeds, it comes in front of those that follow it. -/
theorem cons (hp : p.IsWritten)
    (hfirst : d.atomicWrite (trouble a.name) (p.child a.name) a.text = (next, .ok ()))
    (h : WroteFirst trouble p rest k next d') :
    WroteFirst trouble p (a :: rest) (k + 1) d d' := by
  have hwritten := hp.child a.name
  obtain ⟨-, -, hothers⟩ := (atomicWrite_all_or_nothing hwritten).1 next hfirst
  obtain ⟨hname, hheld, hfile⟩ := holds_of_atomicWrite hwritten hfirst
  refine ⟨fun front b back htake hlast => ?_, fun place hplace => ?_, fun place hplace => ?_⟩
  · rw [List.take_succ_cons] at htake
    rcases List.cons_eq_append_iff.mp htake with ⟨rfl, hback⟩ | ⟨others, rfl, hrest⟩
    · -- the first artifact itself, whose place no later one has
      obtain ⟨rfl, rfl⟩ := List.cons.inj hback
      refine find_of_holds hwritten hname (hheld.mono h.directories fun entry hentry => ?_)
      rw [← placeOf_eq_target hwritten hname] at hentry ⊢
      rcases h.others _ fun c hc => (hlast c hc).symm with hkept | ⟨_, -, -, hnone, -⟩
      · exact hkept.get?_eq_some hentry
      · rw [hnone] at hentry
        cases hentry
    · exact h.written others b back hrest hlast
  · refine h.directories place ((hothers place ?_).get?_eq_some hplace)
    intro heq
    exact hfile (by rw [← heq]; exact hplace)
  · rw [List.take_succ_cons, List.forall_mem_cons] at hplace
    have hstep : KeptOrMade (IsAroundSome p ((a :: rest).take (k + 1 + 1))) d next place :=
      (hothers place hplace.1).mono fun q hq => ⟨a, List.mem_cons_self, hq⟩
    rcases h.others place hplace.2 with hkept | ⟨b, hb, hkeeps, hnone, hscratch⟩
    · refine .inl (hstep.trans (hkept.mono fun q hq => ?_))
      obtain ⟨b, hb, hq⟩ := hq
      exact ⟨b, List.mem_cons_of_mem a hb, hq⟩
    · exact .inr ⟨b, hb, hkeeps, hstep.get?_eq_none hnone, hscratch⟩

end WroteFirst

/-- A run of writes gets as far as the first that fails. All before it are made, and nothing else;
it returns exactly if there is none that fails. -/
theorem writeArtifacts_up_to_failure (trouble : ArtifactTrouble) (d : Disk) (hp : p.IsWritten)
    (artifacts : List Artifact) :
    ∃ k, WroteFirst trouble p artifacts k d (d.writeArtifacts trouble p artifacts).1
      ∧ (k = artifacts.length
          ∧ (d.writeArtifacts trouble p artifacts).2.outcome
            = .ok (artifacts.map fun a => p.child a.name)
        ∨ ∃ a f, artifacts[k]? = some a
          ∧ ((d.writeArtifacts trouble p (artifacts.take k)).1.atomicWrite (trouble a.name)
              (p.child a.name) a.text).2 = Except.error f
          ∧ (d.writeArtifacts trouble p artifacts).2.outcome = .error (.fault f)) := by
  induction artifacts generalizing d with
  | nil => exact ⟨0, .nil, .inl ⟨rfl, rfl⟩⟩
  | cons a rest ih =>
      rcases hfirst : d.atomicWrite (trouble a.name) (p.child a.name) a.text with ⟨next, result⟩
      cases result with
      | error f =>
          rw [writeArtifacts]
          dsimp only
          rw [hfirst]
          exact ⟨0, .of_error hp hfirst, .inr ⟨a, f, rfl, congrArg Prod.snd hfirst, rfl⟩⟩
      | ok _ =>
          obtain ⟨hdisk, houtcome⟩ := writeArtifacts_of_first rest hfirst
          obtain ⟨k, hwrote, hend⟩ := ih next
          refine ⟨k + 1, by rw [hdisk]; exact hwrote.cons hp hfirst, ?_⟩
          rw [List.take_succ_cons, (writeArtifacts_of_first _ hfirst).1, houtcome]
          rcases hend with ⟨rfl, hok⟩ | ⟨b, f, hb, hwrite, hfailed⟩
          · exact .inl ⟨rfl, by rw [hok]; rfl⟩
          · exact .inr ⟨b, f, hb, hwrite, by rw [hfailed]; rfl⟩

end Disk

-- ====================================================== a run that ends halfway

namespace HalfRun

/-- The directory of the artifacts. -/
def directory : DiskPath := ⟨.workingDirectory, ["out"]⟩

/-- Two artifacts of one generation. -/
def first : Artifact := ⟨"a", "new"⟩

def second : Artifact := ⟨"b", "new"⟩

/-- The first artifact has a file of an older generation, and a directory stands where the second
one would be. -/
def disk (text : String) : Disk :=
  ⟨[(["out"], .directory), (["out", "a"], .file text.toUTF8), (["out", "b"], .directory)]⟩

theorem flaw?_directory : directory.flaw? = none :=
  directory.flaw?_eq_none_iff.mpr (by decide)

/-- Either artifact has a plain name, and nothing is wrong with its scratch file. -/
theorem plain_and_short : ∀ a ∈ [first, second], DiskPath.IsPlainName a.name
    ∧ Disk.isTooLong (Disk.scratchName a.name 0) = false := by
  decide

theorem flaw?_scratch : ∀ a ∈ [first, second],
    (directory.child (Disk.scratchName a.name 0)).flaw? = none := by
  intro a ha
  rw [DiskPath.flaw?_eq_none_iff]
  revert a
  decide

/-- A write of either artifact gets as far as the scratch file. -/
theorem atomicWrite_child (text : String) {a : Artifact} (ha : a ∈ [first, second]) :
    (disk text).atomicWrite .none (directory.child a.name) a.text
      = (disk text).replaceBy .none ["out"] a.name a.text := by
  obtain ⟨hplain, hshort⟩ := plain_and_short a ha
  have hmade : (disk text).makeAllowed (fun place => Trouble.none (.makeDirectory place)) directory
      = (disk text, .ok ["out"]) := by
    unfold Disk.makeAllowed
    rw [flaw?_directory]
    rfl
  rw [directory.child_of_plain hplain]
  exact Disk.atomicWrite_eq_replaceBy (p := ⟨.workingDirectory, ["out", a.name]⟩) hmade rfl
    (Disk.scratchFlaw?_eq_none hshort (flaw?_scratch a ha)) a.text

/-- The first artifact is written. -/
theorem atomicWrite_first :
    (disk "old").atomicWrite .none (directory.child first.name) first.text
      = (disk "new", .ok ()) := by
  rw [atomicWrite_child "old" (by decide)]
  rfl

/-- The second one is not. -/
theorem atomicWrite_second :
    (disk "new").atomicWrite .none (directory.child second.name) second.text
      = (disk "new", .error (.file .isDirectory)) := by
  rw [atomicWrite_child "new" (by decide)]
  rfl

/-- So a run ends with the first artifact. -/
theorem writeArtifacts_halfway :
    ((disk "old").writeArtifacts .none directory [first, second]).1 = disk "new"
      ∧ ((disk "old").writeArtifacts .none directory [first, second]).2.outcome
        = .error (.fault (.file .isDirectory)) := by
  have hsecond : ((disk "new").writeArtifacts .none directory [second]).1 = disk "new"
      ∧ ((disk "new").writeArtifacts .none directory [second]).2.outcome
        = .error (.fault (.file .isDirectory)) := by
    rw [Disk.writeArtifacts]
    dsimp only
    rw [show ArtifactTrouble.none second.name = Trouble.none from rfl, atomicWrite_second]
    exact ⟨rfl, rfl⟩
  have hfirst : (disk "old").atomicWrite (ArtifactTrouble.none first.name)
      (directory.child first.name) first.text = (disk "new", .ok ()) := atomicWrite_first
  obtain ⟨hdisk, houtcome⟩ := Disk.writeArtifacts_of_first [second] hfirst
  rw [hdisk, houtcome, hsecond.1, hsecond.2]
  exact ⟨rfl, rfl⟩

end HalfRun

namespace Disk

/-- A run that fails has got as far as one of its artifacts. -/
theorem halfRun_up_to_failure :
    HalfRun.directory.IsWritten
      ∧ ∃ k < 2, WroteFirst .none HalfRun.directory [HalfRun.first, HalfRun.second] k
        (HalfRun.disk "old") (HalfRun.disk "new") := by
  have hwritten : HalfRun.directory.IsWritten := by decide
  obtain ⟨hdisk, houtcome⟩ := HalfRun.writeArtifacts_halfway
  obtain ⟨k, hwrote, hend⟩ := writeArtifacts_up_to_failure .none (HalfRun.disk "old") hwritten
    [HalfRun.first, HalfRun.second]
  rw [hdisk] at hwrote
  refine ⟨hwritten, k, ?_, hwrote⟩
  rcases hend with ⟨-, hok⟩ | ⟨a, f, ha, -⟩
  · rw [houtcome] at hok
    cases hok
  · exact (List.getElem?_eq_some_iff.mp ha).1

/-- A run that fails may leave files of two generations side by side: the artifacts in front of the
one that failed are new. -/
theorem failed_run_mixes_generations :
    (HalfRun.disk "old").get? ["out", "a"] = some (.file "old".toUTF8)
      ∧ ((HalfRun.disk "old").writeArtifacts .none HalfRun.directory
          [HalfRun.first, HalfRun.second]).2.outcome = .error (.fault (.file .isDirectory))
      ∧ ((HalfRun.disk "old").writeArtifacts .none HalfRun.directory
          [HalfRun.first, HalfRun.second]).1.get? ["out", "a"] = some (.file "new".toUTF8) := by
  obtain ⟨hdisk, houtcome⟩ := HalfRun.writeArtifacts_halfway
  rw [hdisk]
  exact ⟨rfl, houtcome, rfl⟩

end Disk

end ApiCommands
