/-
Writing a file all at once: what is on the disk afterwards.

# The scratch file

Scratch names are numbered with digits that tell their number, so no two are the
same (`scratchName_injective`). Of one more of them than the disk has entries one
is free, and the scratch file gets a free one (`scratchPlace_spec`). So to put it
there and to take it away changes nothing else.

# The target

With the scratch file there, a write can end in two ways only: it has become the
target, or nothing but the scratch file is new (`replaceBy_cases`). A write that
succeeds leaves the text at the target, which was no directory, and everything
else as it was, but for directories that were missing (`atomicWrite_spec`). The
path of the target can then be followed: its directories are there, and its name,
being shorter than that of the scratch file, has no flaw.
-/
import ApiCommands.Proofs.Storage.Disk
import ApiCommands.Proofs.Storage.DiskPath
import ApiCommands.Proofs.Text.LetterCase
import ApiCommands.Storage.AtomicWrite
import Mathlib.Data.List.Nodup
import Mathlib.Data.List.Perm.Subperm

namespace ApiCommands.Disk

open DiskPath (IsPlainName)

variable {trouble : Trouble} {d d' : Disk} {directory : DiskPlace} {name text : String}

-- ====================================================== scratch names

/-- The digits of a number tell the number. -/
theorem eightDigits_injective {m n : Nat} (h : eightDigits m = eightDigits n) : m = n := by
  have hvalue : ∀ n : Nat, Nat.ofDigitChars 10 (eightDigits n).toList 0 = n := by
    intro n
    unfold eightDigits
    dsimp only
    rw [String.toList_append, String.toList_ofList, Nat.toString_eq_ofList_toDigits,
      String.toList_ofList, Nat.ofDigitChars_append, Nat.ofDigitChars_replicate_zero, Nat.mul_zero,
      Nat.ofDigitChars_ten_toDigits]
  rw [← hvalue m, ← hvalue n, h]

/-- The digits of a number are digits. -/
theorem isDigit_of_mem_eightDigits {n : Nat} {c : Char} (h : c ∈ (eightDigits n).toList) :
    c.isDigit = true := by
  unfold eightDigits at h
  rw [String.toList_append, String.toList_ofList] at h
  rcases List.mem_append.mp h with hzero | hdigit
  · rw [List.eq_of_mem_replicate hzero]
    rfl
  · exact Text.isDigit_of_mem_toString hdigit

/-- What a scratch name is made of. -/
theorem toList_scratchName (name : String) (n : Nat) :
    (scratchName name n).toList
      = '.' :: (name.toList ++ '.' :: ((eightDigits n).toList ++ ['.', 't', 'm', 'p'])) := by
  simp [scratchName]

/-- Scratch names of one target differ. -/
theorem scratchName_injective {m n : Nat} (h : scratchName name m = scratchName name n) :
    m = n := by
  have hlist := congrArg String.toList h
  rw [toList_scratchName, toList_scratchName] at hlist
  have hbehind := List.append_cancel_left (List.cons.inj hlist).2
  have hdigits := List.append_cancel_right (List.cons.inj hbehind).2
  exact eightDigits_injective (String.toList_injective hdigits)

/-- A scratch name ends in a letter, and so is no text without it. -/
theorem scratchName_ne {other : String} (name : String) (n : Nat) (h : 'p' ∉ other.toList) :
    scratchName name n ≠ other := by
  have hlast : 'p' ∈ (scratchName name n).toList := by
    rw [toList_scratchName]
    simp
  intro heq
  exact h (by rw [← heq]; exact hlast)

/-- A scratch name is longer than the name of its target. -/
theorem scratchName_ne_name (name : String) (n : Nat) : scratchName name n ≠ name := by
  intro heq
  have hlength := congrArg (fun s => s.toList.length) heq
  rw [toList_scratchName, List.length_cons, List.length_append] at hlength
  omega

/-- A scratch name is plain if that of the target is. -/
theorem isPlainName_scratchName (h : IsPlainName name) (n : Nat) :
    IsPlainName (scratchName name n) := by
  refine ⟨?_, scratchName_ne name n (by decide), scratchName_ne name n (by decide),
    scratchName_ne name n (by decide)⟩
  have hdigits : '/' ∉ (eightDigits n).toList := fun hmem =>
    absurd (isDigit_of_mem_eightDigits hmem) (by decide)
  rw [toList_scratchName]
  simp [h.noSlash, hdigits]

/-- A scratch name has the name of the target in it. -/
theorem sublist_scratchName (name : String) (n : Nat) :
    name.toList.Sublist (scratchName name n).toList := by
  rw [toList_scratchName]
  exact (List.sublist_append_left _ _).trans (List.sublist_cons_self _ _)

/-- A scratch name has at least the bytes of the name of its target. -/
theorem utf8ByteSize_le_scratchName (name : String) (n : Nat) :
    name.utf8ByteSize ≤ (scratchName name n).utf8ByteSize := by
  unfold scratchName
  simp only [String.utf8ByteSize_append]
  omega

/-- Where a scratch file can be, its target can be. -/
theorem target_of_scratchFlaw?_eq_none {p : DiskPath} (h : IsPlainName name)
    (hscratch : scratchFlaw? p name = none) :
    isTooLong name = false ∧ (p.child name).flaw? = none := by
  have hsize := utf8ByteSize_le_scratchName name 0
  unfold scratchFlaw? at hscratch
  dsimp only at hscratch
  split at hscratch
  · cases hscratch
  · next hshort =>
    constructor
    · unfold isTooLong at hshort ⊢
      rw [decide_eq_true_eq] at hshort
      exact decide_eq_false (by omega)
    · exact p.flaw?_child_eq_none h (isPlainName_scratchName h 0) (sublist_scratchName name 0)
        hsize hscratch

-- ====================================================== the scratch file

/-- What is listed at a place is listed among the places. -/
theorem mem_of_lookup_ne_none {entries : List (DiskPlace × DiskEntry)} {place : DiskPlace}
    (h : entries.lookup place ≠ none) : place ∈ entries.map Prod.fst := by
  induction entries with
  | nil => exact absurd rfl h
  | cons head rest ih =>
      obtain ⟨q, e⟩ := head
      rw [lookup_cons_ite] at h
      by_cases hq : place = q
      · rw [hq]
        exact List.mem_cons_self
      · rw [if_neg hq] at h
        exact List.mem_cons_of_mem _ (ih h)

/-- Some scratch name within reach is free: `n` entries take at most `n` of them. -/
theorem exists_free_scratchName (d : Disk) (directory : DiskPlace) (name : String) :
    ∃ n < d.entries.length + 1,
      d.entries.lookup (directory ++ [scratchName name n]) = none := by
  by_contra hnone
  push Not at hnone
  have hnodup : ((List.range (d.entries.length + 1)).map
      fun n => directory ++ [scratchName name n]).Nodup := by
    refine List.Nodup.map ?_ List.nodup_range
    intro m n heq
    exact scratchName_injective (List.cons.inj (List.append_cancel_left heq)).1
  have hsub : (List.range (d.entries.length + 1)).map
      (fun n => directory ++ [scratchName name n]) ⊆ d.entries.map Prod.fst := by
    intro place hplace
    obtain ⟨n, hn, rfl⟩ := List.mem_map.mp hplace
    exact mem_of_lookup_ne_none (hnone n (List.mem_range.mp hn))
  have hlength := (hnodup.subperm hsub).length_le
  rw [List.length_map, List.length_map, List.length_range] at hlength
  omega

/-- The scratch file gets a scratch name in the directory that nothing has, and that is no
anchor. -/
theorem scratchPlace_spec (d : Disk) (directory : DiskPlace) (name : String) :
    isAnchor (d.scratchPlace directory name) = false
      ∧ d.get? (d.scratchPlace directory name) = none
      ∧ ∃ n, d.scratchPlace directory name = directory ++ [scratchName name n] := by
  obtain ⟨n, hn, hfree⟩ := exists_free_scratchName d directory name
  have hplace : directory ++ [scratchName name n]
      ∈ (List.range (d.entries.length + 1)).map fun n => directory ++ [scratchName name n] :=
    List.mem_map.mpr ⟨n, List.mem_range.mpr hn, rfl⟩
  have hanchor : ∀ m, isAnchor (directory ++ [scratchName name m]) = false := fun m =>
    isAnchor_concat (scratchName_ne name m (by decide)) (scratchName_ne name m (by decide))
  have hfound : ∃ m, d.scratchPlace directory name = directory ++ [scratchName name m]
      ∧ d.entries.lookup (directory ++ [scratchName name m]) = none := by
    unfold scratchPlace
    dsimp only
    cases hfind : ((List.range (d.entries.length + 1)).map fun n =>
        directory ++ [scratchName name n]).find? fun place => (d.entries.lookup place).isNone with
    | none =>
        have hall := List.find?_eq_none.mp hfind _ hplace
        rw [hfree] at hall
        exact absurd rfl hall
    | some place =>
        obtain ⟨m, -, rfl⟩ := List.mem_map.mp (List.mem_of_find?_eq_some hfind)
        have hnone : (d.entries.lookup (directory ++ [scratchName name m])).isNone = true :=
          List.find?_some (p := fun place => (d.entries.lookup place).isNone) hfind
        exact ⟨m, rfl, Option.isNone_iff_eq_none.mp hnone⟩
  obtain ⟨m, hm, hnone⟩ := hfound
  refine ⟨by rw [hm]; exact hanchor m, ?_, m, hm⟩
  unfold get?
  rw [hm, hanchor m]
  exact hnone

/-- A scratch file that is discarded leaves all other places as they are, and its own empty if the
system lets it go, else as it is. -/
theorem get?_discard (trouble : Trouble) (d : Disk) {scratch : DiskPlace}
    (h : isAnchor scratch = false) :
    (∀ p, p ≠ scratch → (d.discard trouble scratch).get? p = d.get? p)
      ∧ (trouble .discard = none → (d.discard trouble scratch).get? scratch = none)
      ∧ (trouble .discard ≠ none → (d.discard trouble scratch).get? scratch = d.get? scratch) := by
  unfold discard
  cases htrouble : trouble .discard with
  | some e =>
      refine ⟨fun _ _ => rfl, fun hnone => ?_, fun _ => rfl⟩
      cases hnone
  | none =>
      refine ⟨fun p hp => ?_, fun _ => ?_, fun hrefused => absurd rfl hrefused⟩
      · show (d.remove scratch).get? p = d.get? p
        rw [get?_remove h, if_neg hp]
      · show (d.remove scratch).get? scratch = none
        rw [get?_remove h, if_pos rfl]

-- ====================================================== the target

/-- What was moved over something is there now, and that was no directory. -/
theorem moveOver_eq_ok {source : DiskPlace} (h : d.moveOver source directory name = .ok d') :
    (name ≠ "" ∧ name ≠ "..") ∧ d.get? (directory ++ [name]) ≠ some .directory
      ∧ ∃ entry, d.get? source = some entry
        ∧ d' = (d.remove source).set (directory ++ [name]) entry := by
  unfold moveOver at h
  split at h
  · cases h
  · next hname =>
    split at h
    · cases h
    · next entry hsource hdirectory =>
      exact ⟨not_or.mp hname, hdirectory, entry, hsource, (Except.ok.inj h).symm⟩
    · cases h

/-- A file was replaced: it holds the text, was no directory, and nothing else has changed. -/
structure Replaced (d d' : Disk) (place : DiskPlace) (text : String) : Prop where
  file : d'.get? place = some (.file text.toUTF8)
  noDirectory : d.get? place ≠ some .directory
  others : ∀ p, p ≠ place → d'.get? p = d.get? p

/-- The scratch file stays after a failure: the system refuses to discard it, or to close it when it
could not be filled. -/
def KeepsScratch (trouble : Trouble) (text : String) : Prop :=
  trouble .discard ≠ none ∨ (∃ f, fill trouble text = .error f) ∧ trouble .close ≠ none

/-- A write was given up: nothing has changed, but that the scratch file may have stayed. -/
structure GivenUp (trouble : Trouble) (d d' : Disk) (scratch : DiskPlace) (text : String) :
    Prop where
  others : ∀ p, p ≠ scratch → d'.get? p = d.get? p
  discarded : ¬ KeepsScratch trouble text → d'.get? scratch = none
  stays : KeepsScratch trouble text → d'.get? scratch = some (.file text.toUTF8)

/-- A scratch file moved to a place where no directory was has replaced what was there. -/
theorem replaced_of_moveOver {scratch : DiskPlace} (hanchor : isAnchor scratch = false)
    (hfree : d.get? scratch = none)
    (h : (d.set scratch (.file text.toUTF8)).moveOver scratch directory name = .ok d') :
    Replaced d d' (directory ++ [name]) text := by
  obtain ⟨-, hdirectory, entry, hentry, rfl⟩ := moveOver_eq_ok h
  rw [get?_set hanchor, if_pos rfl] at hentry
  obtain rfl := Option.some.inj hentry
  have htarget : isAnchor (directory ++ [name]) = false := by
    by_contra hanchored
    rw [Bool.not_eq_false] at hanchored
    exact hdirectory (get?_of_isAnchor hanchored)
  refine ⟨by rw [get?_set htarget, if_pos rfl], fun hwas => ?_, fun p hp => ?_⟩
  · have hne : directory ++ [name] ≠ scratch := by
      intro heq
      rw [heq, hfree] at hwas
      cases hwas
    rw [get?_set hanchor, if_neg hne] at hdirectory
    exact hdirectory hwas
  · rw [get?_set htarget, if_neg hp, get?_remove hanchor, get?_set hanchor]
    by_cases hscratch : p = scratch
    · rw [if_pos hscratch, hscratch, hfree]
    · rw [if_neg hscratch, if_neg hscratch]

/-- A scratch file that is discarded was all that was new. Where the file was filled, or closed all
the same, only a refusal keeps it. -/
theorem givenUp_discard {scratch : DiskPlace} (hanchor : isAnchor scratch = false)
    (hclosed : fill trouble text = .ok () ∨ trouble .close = none) :
    GivenUp trouble d ((d.set scratch (.file text.toUTF8)).discard trouble scratch) scratch
      text := by
  obtain ⟨hothers, hgone, hkept⟩ :=
    get?_discard trouble (d.set scratch (.file text.toUTF8)) hanchor
  refine ⟨fun p hp => ?_, fun hkeeps => hgone (not_not.mp fun h => hkeeps (.inl h)),
    fun hkeeps => ?_⟩
  · rw [hothers p hp, get?_set hanchor, if_neg hp]
  · have hrefused : trouble .discard ≠ none := by
      rcases hkeeps with hrefused | ⟨⟨f, hfill⟩, hclose⟩
      · exact hrefused
      · rcases hclosed with hfilled | hnone
        · rw [hfilled] at hfill
          cases hfill
        · exact absurd hnone hclose
    rw [hkept hrefused, get?_set hanchor, if_pos rfl]

/-- A text with which a scratch file could be filled has bytes. -/
theorem hasBytes_of_fill_eq_ok (h : fill trouble text = .ok ()) :
    Text.hasBytes text.toList = true := by
  unfold fill at h
  split at h
  · assumption
  · cases h

/-- How a write ends for which a scratch file could be created: the file is replaced, under a name
it can have, or it is given up. -/
theorem replaceBy_cases {r : Except Fault Unit}
    (h : d.replaceBy trouble directory name text = (d', r)) :
    (r = .ok () ∧ Text.hasBytes text.toList = true ∧ (name ≠ "" ∧ name ≠ "..")
        ∧ Replaced d d' (directory ++ [name]) text)
      ∨ (∃ f, r = .error f)
        ∧ GivenUp trouble d d' (d.scratchPlace directory name) text := by
  obtain ⟨hanchor, hfree, -⟩ := d.scratchPlace_spec directory name
  unfold replaceBy at h
  dsimp only at h
  split at h
  · -- the scratch file can neither be filled nor closed
    next f e hfill hclose =>
    obtain ⟨rfl, rfl⟩ := Prod.mk.inj h
    have hkeeps : KeepsScratch trouble text :=
      .inr ⟨⟨f, hfill⟩, by rw [hclose]; exact Option.some_ne_none e⟩
    refine .inr ⟨⟨_, rfl⟩, fun p hp => ?_, fun hnot => absurd hkeeps hnot, fun _ => ?_⟩
    · rw [get?_set hanchor, if_neg hp]
    · rw [get?_set hanchor, if_pos rfl]
  · next hclose =>
    obtain ⟨rfl, rfl⟩ := Prod.mk.inj h
    exact .inr ⟨⟨_, rfl⟩, givenUp_discard hanchor (.inr hclose)⟩
  · next hfill _ =>
    obtain ⟨rfl, rfl⟩ := Prod.mk.inj h
    exact .inr ⟨⟨_, rfl⟩, givenUp_discard hanchor (.inl hfill)⟩
  · next hfill hclose =>
    split at h
    · obtain ⟨rfl, rfl⟩ := Prod.mk.inj h
      exact .inr ⟨⟨_, rfl⟩, givenUp_discard hanchor (.inr hclose)⟩
    · split at h
      · next done hmove =>
        obtain ⟨rfl, rfl⟩ := Prod.mk.inj h
        exact .inl ⟨rfl, hasBytes_of_fill_eq_ok hfill, (moveOver_eq_ok hmove).1,
          replaced_of_moveOver hanchor hfree hmove⟩
      · obtain ⟨rfl, rfl⟩ := Prod.mk.inj h
        exact .inr ⟨⟨_, rfl⟩, givenUp_discard hanchor (.inr hclose)⟩

-- ====================================================== the path of the target

/-- The file of a name in a directory. -/
def target (p : DiskPath) (name : String) : DiskPlace := destination (startOf p) p.parts ++ [name]

/-- The path of a name in a directory leads to a file with a text. -/
structure Holds (d : Disk) (p : DiskPath) (name text : String) : Prop where
  passes : d.Passes (startOf p) p.parts
  short : isTooLong name = false
  sound : (p.child name).flaw? = none
  file : d.get? (target p name) = some (.file text.toUTF8)

/-- A write succeeds exactly if the directory is made, a scratch file can be created, and it is
filled and moved over the target. -/
theorem atomicWrite_eq_ok_iff {p : DiskPath} (h : IsPlainName name) :
    d.atomicWrite trouble (p.child name) text = (d', .ok ())
      ↔ ∃ made directory,
          d.makeAllowed (fun place => trouble (.makeDirectory place)) p = (made, .ok directory)
          ∧ trouble .createScratch = none ∧ scratchFlaw? p name = none
          ∧ made.replaceBy trouble directory name text = (d', .ok ()) := by
  unfold atomicWrite
  rw [p.parent_child h, p.name_child h]
  constructor
  · intro hdone
    split at hdone
    · cases hdone
    · next made directory hmade =>
      split at hdone
      · cases hdone
      · cases hdone
      · next hcreate hflaw => exact ⟨made, directory, hmade, hcreate, hflaw, hdone⟩
  · intro hsteps
    obtain ⟨made, directory, hmade, hcreate, hflaw, hwritten⟩ := hsteps
    simp only [hmade, hcreate, hflaw, hwritten]

/-- A text that is written is held by its file, which was no directory, and everything else is there
as before. -/
theorem atomicWrite_spec {p : DiskPath} (h : IsPlainName name)
    (hdone : d.atomicWrite trouble (p.child name) text = (d', .ok ())) :
    d'.Holds p name text
      ∧ d.get? (target p name) ≠ some .directory
      ∧ ∀ q e, q ≠ target p name → d.get? q = some e → d'.get? q = some e := by
  obtain ⟨made, directory, hmade, -, hflaw, hwritten⟩ := (atomicWrite_eq_ok_iff h).mp hdone
  obtain ⟨hextends, hplace, hpasses⟩ := makeAllowed_spec hmade
  obtain ⟨hshort, hsound⟩ := target_of_scratchFlaw?_eq_none h hflaw
  rcases replaceBy_cases hwritten with ⟨-, -, -, hreplaced⟩ | ⟨⟨f, hf⟩, -⟩
  · have htarget : directory ++ [name] = target p name := by
      rw [hplace]
      rfl
    rw [htarget] at hreplaced
    refine ⟨⟨hpasses.mono fun q hq => ?_, hshort, hsound, hreplaced.file⟩, fun hwas => ?_,
      fun q e hq he => ?_⟩
    · -- the target was no directory, so no directory has changed
      rw [hreplaced.others q fun heq => hreplaced.noDirectory (by rw [← heq]; exact hq)]
      exact hq
    · exact hreplaced.noDirectory (hextends _ _ hwas)
    · rw [hreplaced.others q hq]
      exact hextends q e he
  · cases hf

end ApiCommands.Disk
