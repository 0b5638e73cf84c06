/-
Artifacts that are compared with what was written.

# What is read

A file that holds a text gives it back, but for its line ends: a text file is read
with these unified, and written without any change. So right after a write a file
reads otherwise exactly if its artifact has a carriage return
(`isStale_of_holds`).

# Runs

Every write of a run leaves the files of the ones before it alone, for the names
are different; by induction all artifacts are held in the end
(`writeArtifacts_spec`). Of artifacts that are all held exactly those with a
carriage return are stale (`staleArtifacts_of_holds`).
-/
import ApiCommands.Proofs.Outcome.Note
import ApiCommands.Proofs.Outcome.Result
import ApiCommands.Proofs.Storage.AtomicWrite
import ApiCommands.Proofs.Text.Blank
import ApiCommands.Storage.ArtifactFiles

namespace ApiCommands

/-- The text has a carriage return. -/
def Artifact.hasReturn (a : Artifact) : Bool := a.text.toList.contains '\r'

namespace Disk

open DiskPath (IsPlainName)

variable {trouble : ArtifactTrouble} {d d' : Disk} {p : DiskPath} {name other text : String}

-- ====================================================== reading

/-- The bytes of a text are read as the text. -/
theorem fromUTF8?_toUTF8 (s : String) : String.fromUTF8? s.toUTF8 = some s := by
  unfold String.fromUTF8?
  exact dif_pos s.isValidUTF8

/-- The path of a file that holds a text leads to its place. -/
theorem Holds.place (hname : IsPlainName name) (h : d.Holds p name text) :
    d.place (p.child name) = .ok (target p name) := by
  have hfile : d.get? (destination (startOf p) p.parts ++ [name]) = some (.file text.toUTF8) :=
    h.file
  unfold Disk.place
  rw [h.sound, p.child_of_plain hname]
  show (d.walk (startOf p) (p.parts ++ [name])).mapError Fault.file = _
  rw [walk_append_of_passes h.passes]
  unfold walk
  rw [h.passes.get?_destination]
  simp only [hname.notAround, if_false, h.short, Bool.false_eq_true, hfile]
  rfl

/-- A file that holds a text is found where it was put. -/
theorem Holds.find (hname : IsPlainName name) (h : d.Holds p name text) :
    d.find (p.child name) = .ok (.file text.toUTF8) := by
  refine Except.bind_eq_ok_iff.mpr ⟨target p name, h.place hname, ?_⟩
  rw [h.file]
  rfl

/-- A file that holds a text is read as it was written. -/
theorem Holds.readRaw (hname : IsPlainName name) (h : d.Holds p name text) :
    d.readRaw (p.child name) = .ok text := by
  have hbytes : d.readBytes (p.child name) = .ok text.toUTF8 :=
    Except.bind_eq_ok_iff.mpr ⟨_, h.find hname, rfl⟩
  refine Except.bind_eq_ok_iff.mpr ⟨_, hbytes, ?_⟩
  rw [fromUTF8?_toUTF8]
  rfl

/-- Right after it was written, an artifact is stale exactly if it has a carriage return. -/
theorem isStale_of_holds {a : Artifact} (hname : IsPlainName a.name)
    (h : d.Holds p a.name a.text) : d.isStale p a = .ok a.hasReturn := by
  have hread : d.readText (p.child a.name)
      = .ok (String.ofList (Text.unifyLineEnds a.text.toList)) :=
    Except.bind_eq_ok_iff.mpr ⟨_, h.readRaw hname, rfl⟩
  unfold isStale Artifact.hasReturn
  rw [hread]
  show Except.ok (String.ofList (Text.unifyLineEnds a.text.toList) != a.text) = _
  by_cases hreturn : '\r' ∈ a.text.toList
  · have hne : String.ofList (Text.unifyLineEnds a.text.toList) ≠ a.text := by
      intro heq
      have hlist := congrArg String.toList heq
      rw [String.toList_ofList] at hlist
      exact Text.unifyLineEnds_eq_self_iff.mp hlist hreturn
    rw [List.contains_iff_mem.mpr hreturn, bne_iff_ne.mpr hne]
  · rw [Text.unifyLineEnds_eq_self_iff.mpr hreturn, String.ofList_toList, bne_self_eq_false]
    simp [hreturn]

-- ====================================================== runs

/-- Different names have different files. -/
theorem target_injective (h : target p name = target p other) : name = other :=
  (List.cons.inj (List.append_cancel_left h)).1

/-- A file holds its text as long as it and all directories stay. -/
theorem Holds.mono (h : d.Holds p name text)
    (hdirectories : ∀ q, d.get? q = some .directory → d'.get? q = some .directory)
    (hfile : ∀ e, d.get? (target p name) = some e → d'.get? (target p name) = some e) :
    d'.Holds p name text :=
  ⟨h.passes.mono hdirectories, h.short, h.sound, hfile _ h.file⟩

variable {a : Artifact} {artifacts : List Artifact} {paths : List DiskPath}

/-- A run goes on where its first write has led. -/
theorem writeArtifacts_of_first {next : Disk} (artifacts : List Artifact)
    (hfirst : d.atomicWrite (trouble a.name) (p.child a.name) a.text = (next, .ok ())) :
    (d.writeArtifacts trouble p (a :: artifacts)).1 = (next.writeArtifacts trouble p artifacts).1
      ∧ (d.writeArtifacts trouble p (a :: artifacts)).2.outcome
        = (next.writeArtifacts trouble p artifacts).2.outcome.map (p.child a.name :: ·) := by
  rw [writeArtifacts]
  dsimp only
  rw [hfirst]
  refine ⟨rfl, ?_⟩
  simp only [Noted.outcome_bind, Noted.outcome_note, Noted.outcome_pure]
  cases (next.writeArtifacts trouble p artifacts).2.outcome <;> rfl

/-- A run of writes that succeeds makes its first write, and goes on with the others. -/
theorem writeArtifacts_cons
    (hdone : (d.writeArtifacts trouble p (a :: artifacts)).2.outcome = .ok paths) :
    ∃ next more, d.atomicWrite (trouble a.name) (p.child a.name) a.text = (next, .ok ())
      ∧ (d.writeArtifacts trouble p (a :: artifacts)).1
        = (next.writeArtifacts trouble p artifacts).1
      ∧ (next.writeArtifacts trouble p artifacts).2.outcome = .ok more := by
  rcases hwrite : d.atomicWrite (trouble a.name) (p.child a.name) a.text with ⟨next, result⟩
  cases result with
  | error f =>
      rw [writeArtifacts] at hdone
      dsimp only at hdone
      rw [hwrite] at hdone
      cases hdone
  | ok _ =>
      obtain ⟨hdisk, houtcome⟩ := writeArtifacts_of_first artifacts hwrite
      rw [houtcome] at hdone
      cases hmore : (next.writeArtifacts trouble p artifacts).2.outcome with
      | error e =>
          rw [hmore] at hdone
          cases hdone
      | ok more => exact ⟨next, more, rfl, hdisk, hmore⟩

/-- What a run of writes does: every artifact is held in the end, directories stay, and so does
everything else that is no target. -/
theorem writeArtifacts_spec (hplain : ∀ a ∈ artifacts, IsPlainName a.name)
    (hdistinct : (artifacts.map (·.name)).Nodup)
    (hdone : (d.writeArtifacts trouble p artifacts).2.outcome = .ok paths) :
    (∀ a ∈ artifacts, (d.writeArtifacts trouble p artifacts).1.Holds p a.name a.text)
      ∧ (∀ q, d.get? q = some .directory →
          (d.writeArtifacts trouble p artifacts).1.get? q = some .directory)
      ∧ ∀ q e, (∀ a ∈ artifacts, q ≠ target p a.name) → d.get? q = some e →
          (d.writeArtifacts trouble p artifacts).1.get? q = some e := by
  induction artifacts generalizing d paths with
  | nil =>
      refine ⟨fun a ha => ?_, fun q hq => hq, fun q e _ he => he⟩
      cases ha
  | cons a rest ih =>
      obtain ⟨next, more, hwrite, hrun, hmore⟩ := writeArtifacts_cons hdone
      obtain ⟨hheld, hdirectory, hkept⟩ := atomicWrite_spec (hplain a List.mem_cons_self) hwrite
      rw [List.map_cons, List.nodup_cons] at hdistinct
      obtain ⟨hrest, hdirectories, hothers⟩ :=
        ih (fun b hb => hplain b (List.mem_cons_of_mem _ hb)) hdistinct.2 hmore
      rw [hrun]
      refine ⟨List.forall_mem_cons.mpr ⟨?_, hrest⟩, fun q hq => ?_, fun q e hq he => ?_⟩
      · -- the later targets are other files
        refine hheld.mono hdirectories fun e he => hothers _ e (fun b hb heq => ?_) he
        exact hdistinct.1 (List.mem_map.mpr ⟨b, hb, (target_injective heq).symm⟩)
      · refine hdirectories q (hkept q _ (fun heq => hdirectory ?_) hq)
        rw [← heq]
        exact hq
      · exact hothers q e (fun b hb => hq b (List.mem_cons_of_mem _ hb))
          (hkept q e (hq a List.mem_cons_self) he)

/-- Of artifacts that are all held those with a carriage return are stale. -/
theorem staleArtifacts_of_holds (hplain : ∀ a ∈ artifacts, IsPlainName a.name)
    (h : ∀ a ∈ artifacts, d.Holds p a.name a.text) :
    d.staleArtifacts p artifacts = .ok ((artifacts.filter (·.hasReturn)).map (·.name)) := by
  induction artifacts with
  | nil => rfl
  | cons a rest ih =>
      have hfirst := isStale_of_holds (hplain a List.mem_cons_self) (h a List.mem_cons_self)
      have hrest := ih (fun b hb => hplain b (List.mem_cons_of_mem _ hb))
        fun b hb => h b (List.mem_cons_of_mem _ hb)
      refine Except.bind_eq_ok_iff.mpr ⟨_, hfirst, Except.bind_eq_ok_iff.mpr ⟨_, hrest, ?_⟩⟩
      cases hreturn : a.hasReturn with
      | false => rw [List.filter_cons_of_neg (by simp [hreturn])]; rfl
      | true => rw [List.filter_cons_of_pos hreturn]; rfl

end Disk

end ApiCommands
