/-
Checks that follow a write.

A check complains about the artifacts that are stale, and right after a write
these are the ones with a carriage return, however the disk was before
(`check_after_write`).
-/
import ApiCommands.CommandLine.Run
import ApiCommands.Proofs.Storage.ArtifactFiles

namespace ApiCommands

namespace Machine

variable {d : Disk} {v : Voice} {g : Generation} {p : DiskPath}

-- ====================================================== what a check says

/-- A check complains about the stale artifacts, if there are any. -/
theorem outcome_compare {stale : List String} (h : d.staleArtifacts p g.artifacts = .ok stale) :
    (compare d v g p).outcome
      = if stale = [] then .ok () else .error (.staleArtifacts p.text stale) := by
  unfold compare
  rw [h]
  cases stale with
  | nil => rfl
  | cons name rest => rfl

/-- Where all artifacts are held, a check passes exactly if none has a carriage return. -/
theorem outcome_compare_of_holds (hplain : ∀ a ∈ g.artifacts, DiskPath.IsPlainName a.name)
    (h : ∀ a ∈ g.artifacts, d.Holds p a.name a.text) :
    (compare d v g p).outcome = .ok () ↔ ∀ a ∈ g.artifacts, '\r' ∉ a.text.toList := by
  have hreturn : (g.artifacts.filter (·.hasReturn)).map (·.name) = []
      ↔ ∀ a ∈ g.artifacts, '\r' ∉ a.text.toList := by
    rw [List.map_eq_nil_iff, List.filter_eq_nil_iff]
    simp [Artifact.hasReturn]
  rw [outcome_compare (Disk.staleArtifacts_of_holds hplain h), ← hreturn]
  constructor
  · intro hpasses
    by_contra hne
    rw [if_neg hne] at hpasses
    cases hpasses
  · intro hnil
    rw [if_pos hnil]

/-- What a check finds right after artifacts were written: those with a carriage return are stale,
and no others. So it passes exactly if there is no carriage return in any artifact. -/
theorem check_after_write (trouble : ArtifactTrouble) (d : Disk) (p : DiskPath)
    (artifacts : List Artifact) (paths : List DiskPath)
    (hplain : ∀ a ∈ artifacts, DiskPath.IsPlainName a.name)
    (hdistinct : (artifacts.map (·.name)).Nodup)
    (hdone : (d.writeArtifacts trouble p artifacts).2.outcome = .ok paths) :
    (d.writeArtifacts trouble p artifacts).1.staleArtifacts p artifacts
        = .ok ((artifacts.filter (·.hasReturn)).map (·.name))
      ∧ ∀ (v : Voice) (g : Generation), g.artifacts = artifacts →
          ((compare (d.writeArtifacts trouble p artifacts).1 v g p).outcome = .ok ()
            ↔ ∀ a ∈ artifacts, '\r' ∉ a.text.toList) := by
  obtain ⟨hholds, -, -⟩ := Disk.writeArtifacts_spec hplain hdistinct hdone
  refine ⟨Disk.staleArtifacts_of_holds hplain hholds, fun v g hg => ?_⟩
  subst hg
  exact outcome_compare_of_holds hplain hholds

end Machine

-- ====================================================== a text with a carriage return

namespace ReturnText

/-- A directory that is not there yet. -/
def directory : DiskPath := ⟨.workingDirectory, ["out"]⟩

/-- An artifact with a carriage return inside a line. -/
def artifact : Artifact := ⟨"a.py", "x\ry\n"⟩

/-- The disk with the directory. -/
def made : Disk := ⟨[(["out"], .directory)]⟩

/-- The artifact can be written. -/
theorem atomicWrite_empty :
    Disk.empty.atomicWrite .none (directory.child artifact.name) artifact.text
      = ((made.replaceBy .none ["out"] artifact.name artifact.text).1, .ok ()) := by
  have hplain : DiskPath.IsPlainName artifact.name := by decide
  have hdirectory : directory.flaw? = none := directory.flaw?_eq_none_iff.mpr (by decide)
  have hscratch : Disk.scratchFlaw? directory artifact.name = none := by
    unfold Disk.scratchFlaw?
    dsimp only
    rw [if_neg (by decide)]
    exact (DiskPath.flaw?_eq_none_iff _).mpr (by decide)
  have hmade : Disk.empty.makeAllowed (fun place => Trouble.none (.makeDirectory place)) directory
      = (made, .ok ["out"]) := by
    unfold Disk.makeAllowed
    rw [hdirectory]
    rfl
  exact (Disk.atomicWrite_eq_ok_iff hplain).mpr ⟨made, ["out"], hmade, rfl, hscratch, rfl⟩

/-- So it is written with all that is to be written. -/
theorem outcome_writeArtifacts :
    (Disk.empty.writeArtifacts .none directory [artifact]).2.outcome
      = .ok [⟨.workingDirectory, ["out", "a.py"]⟩] := by
  have hwrite := atomicWrite_empty
  rw [Disk.writeArtifacts]
  dsimp only
  rw [show ArtifactTrouble.none artifact.name = Trouble.none from rfl, hwrite]
  rfl

end ReturnText

/-- An artifact with a carriage return is stale as soon as it is written, and no check passes. -/
theorem Machine.returnText_stale :
    (∀ a ∈ [ReturnText.artifact], DiskPath.IsPlainName a.name)
      ∧ ([ReturnText.artifact].map (·.name)).Nodup
      ∧ (Disk.empty.writeArtifacts .none ReturnText.directory [ReturnText.artifact]).2.outcome
          = .ok [⟨.workingDirectory, ["out", "a.py"]⟩]
      ∧ (Disk.empty.writeArtifacts .none ReturnText.directory
          [ReturnText.artifact]).1.staleArtifacts ReturnText.directory [ReturnText.artifact]
          = .ok ["a.py"] := by
  have hplain : ∀ a ∈ [ReturnText.artifact], DiskPath.IsPlainName a.name := by decide
  have hdistinct : ([ReturnText.artifact].map (·.name)).Nodup := by decide
  have hdone := ReturnText.outcome_writeArtifacts
  exact ⟨hplain, hdistinct, hdone, (check_after_write _ _ _ _ _ hplain hdistinct hdone).1⟩

end ApiCommands
