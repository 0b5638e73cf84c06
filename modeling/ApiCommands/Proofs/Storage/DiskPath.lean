/-
Paths to files in a directory.

A plain name is a single part that is kept as it is, so a path that is continued
by it leads to a file of this name in the directory of the path
(`child_of_plain`), and a written path that ends in a name is such a one
(`IsWritten.parent_child_name`). The written path ends in the name, behind the same text for
all names (`exists_text_child`). A system can follow a path or not by its text
alone (`flaw?_eq_none_iff`), so whatever is wrong with the path of a name is wrong
with the path of any longer one that holds it (`flaw?_child_eq_none`).
-/
import ApiCommands.Proofs.Text.Pieces
import ApiCommands.Storage.DiskPath
import ApiCommands.Text.Half

namespace ApiCommands.DiskPath

/-- A name that a file can have: one part of a path that leads neither to the place itself nor
around it. -/
structure IsPlainName (name : String) : Prop where
  noSlash : '/' ∉ name.toList
  nonempty : name ≠ ""
  notHere : name ≠ "."
  notAround : name ≠ ".."

instance (name : String) : Decidable (IsPlainName name) :=
  decidable_of_iff ('/' ∉ name.toList ∧ name ≠ "" ∧ name ≠ "." ∧ name ≠ "..")
    ⟨fun h => ⟨h.1, h.2.1, h.2.2.1, h.2.2.2⟩,
      fun h => ⟨h.noSlash, h.nonempty, h.notHere, h.notAround⟩⟩

variable {name longer : String} (p : DiskPath)

namespace IsPlainName

theorem toList_ne_nil (h : IsPlainName name) : name.toList ≠ [] :=
  fun hnil => h.nonempty (String.toList_injective hnil)

end IsPlainName

/-- A plain name is read as one part. -/
theorem ofString_of_plain (h : IsPlainName name) : ofString name = ⟨.workingDirectory, [name]⟩ := by
  have hstart : PathStart.ofSlashes name.toList = .workingDirectory := by
    have hslash := h.noSlash
    cases hname : name.toList with
    | nil => rfl
    | cons c rest =>
        rw [hname] at hslash
        have hc : c ≠ '/' := fun heq => hslash (by rw [heq]; exact List.mem_cons_self)
        unfold PathStart.ofSlashes
        split
        · next heq => exact absurd (List.cons.inj heq).1 hc
        · next heq => exact absurd (List.cons.inj heq).1 hc
        · next heq => exact absurd (List.cons.inj heq).1 hc
        · rfl
  have hparts : partsOf name = [name] := by
    unfold partsOf
    rw [Text.partsOn_eq_singleton_iff.mpr ⟨h.noSlash, h.toList_ne_nil⟩, List.map_singleton,
      String.ofList_toList, List.filter_cons_of_pos (by simpa using h.notHere)]
    rfl
  unfold ofString
  rw [hstart, hparts]

/-- A path continued by a plain name has this name as its last part. -/
theorem child_of_plain (h : IsPlainName name) :
    p.child name = { p with parts := p.parts ++ [name] } := by
  unfold child
  rw [ofString_of_plain h]
  rfl

theorem parent_child (h : IsPlainName name) : (p.child name).parent = p := by
  rw [p.child_of_plain h]
  unfold parent
  rw [List.dropLast_concat]

theorem name_child (h : IsPlainName name) : (p.child name).name = name := by
  rw [p.child_of_plain h]
  unfold DiskPath.name
  rw [List.getLast?_concat]
  rfl

/-- The parts of the path are such as a written path has: none of them is empty, has a slash in it
or stands for the place itself. -/
def IsWritten (p : DiskPath) : Prop := ∀ part ∈ p.parts, '/' ∉ part.toList ∧ part ≠ "" ∧ part ≠ "."

instance (p : DiskPath) : Decidable p.IsWritten :=
  inferInstanceAs (Decidable (∀ part ∈ p.parts, '/' ∉ part.toList ∧ part ≠ "" ∧ part ≠ "."))

/-- A path that is read is written. -/
theorem isWritten_ofString (s : String) : (ofString s).IsWritten := by
  intro part hpart
  obtain ⟨hpart, hhere⟩ := List.mem_filter.mp (show part ∈ partsOf s from hpart)
  obtain ⟨piece, hpiece, rfl⟩ := List.mem_map.mp hpart
  obtain ⟨hsplit, hne⟩ := List.mem_filter.mp hpiece
  refine ⟨fun hslash => ?_, fun hempty => ?_, by simpa using hhere⟩
  · rw [String.toList_ofList] at hslash
    simpa using Text.not_isSep_of_mem_splitWhere hsplit '/' hslash
  · have hnil := congrArg String.toList hempty
    rw [String.toList_ofList] at hnil
    rw [hnil] at hne
    cases hne

namespace IsWritten

variable {p : DiskPath}

/-- A written path continued by another is written. -/
theorem child (h : p.IsWritten) (s : String) : (p.child s).IsWritten := by
  unfold DiskPath.child
  dsimp only
  split
  · exact isWritten_ofString s
  · intro part hpart
    rcases List.mem_append.mp hpart with hfront | hback
    · exact h part hfront
    · exact isWritten_ofString s part hback

/-- A written path that ends in a name is that of the name in the directory around it. -/
theorem parent_child_name (h : p.IsWritten) (hempty : p.name ≠ "") (haround : p.name ≠ "..") :
    IsPlainName p.name ∧ p.parent.child p.name = p := by
  have hne : p.parts ≠ [] := by
    intro hnil
    exact hempty (by unfold DiskPath.name; rw [hnil]; rfl)
  have hname : p.name = p.parts.getLast hne := by
    unfold DiskPath.name
    rw [List.getLast?_eq_some_getLast hne]
    rfl
  obtain ⟨hslash, -, hhere⟩ := h p.name (by rw [hname]; exact List.getLast_mem hne)
  have hplain : IsPlainName p.name := ⟨hslash, hempty, hhere, haround⟩
  refine ⟨hplain, ?_⟩
  rw [p.parent.child_of_plain hplain, hname]
  show (⟨p.start, p.parts.dropLast ++ [p.parts.getLast hne]⟩ : DiskPath) = p
  rw [List.dropLast_concat_getLast]

end IsWritten

/-- Pieces in a row end in the last one, behind the same text whatever that is. -/
theorem exists_joined_concat (sep : String) (parts : List String) :
    ∃ front, ∀ last, Text.joined sep (parts ++ [last]) = front ++ last := by
  unfold Text.joined
  by_cases hparts : parts = []
  · exact ⟨"", fun last => by simp [hparts]⟩
  · refine ⟨sep.intercalate parts ++ sep, fun last => ?_⟩
    rw [String.intercalate_append_of_ne_nil hparts (List.cons_ne_nil _ _)]
    simp

/-- Whatever plain name continues a path, the same is written in front of it. -/
theorem exists_text_child :
    ∃ front, ∀ name, IsPlainName name → (p.child name).text = front ++ name := by
  obtain ⟨front, hfront⟩ := exists_joined_concat "/" p.parts
  refine ⟨p.start.text ++ front, fun name h => ?_⟩
  rw [p.child_of_plain h]
  unfold text
  dsimp only
  rw [hfront, if_neg, String.append_assoc]
  intro hempty
  have hlist := congrArg String.toList hempty
  rw [String.toList_append, String.toList_append] at hlist
  exact h.toList_ne_nil (List.append_eq_nil_iff.mp (List.append_eq_nil_iff.mp hlist).2).2

-- ====================================================== flaws

/-- What it takes that a system can follow a path. -/
theorem flaw?_eq_none_iff :
    p.flaw? = none
      ↔ Text.hasBytes p.text.toList = true ∧ Char.ofNat 0 ∉ p.text.toList
        ∧ p.text.utf8ByteSize ≤ maxBytes := by
  unfold flaw?
  dsimp only
  rw [String.contains_char_eq]
  by_cases hbytes : Text.hasBytes p.text.toList = true
  · by_cases hzero : Char.ofNat 0 ∈ p.text.toList
    · simp [hbytes, hzero]
    · by_cases hlong : maxBytes < p.text.utf8ByteSize
      · simp [hbytes, hzero, hlong]
      · simp [hbytes, hzero, hlong, Nat.le_of_not_lt hlong]
  · simp [hbytes]

/-- If nothing is wrong with a path continued by a name, nothing is wrong with one that is continued
by a part of this name. -/
theorem flaw?_child_eq_none (h : IsPlainName name) (hlonger : IsPlainName longer)
    (hpart : name.toList.Sublist longer.toList) (hsize : name.utf8ByteSize ≤ longer.utf8ByteSize)
    (hflaw : (p.child longer).flaw? = none) : (p.child name).flaw? = none := by
  obtain ⟨front, hfront⟩ := p.exists_text_child
  have hsub : (front ++ name).toList.Sublist (front ++ longer).toList := by
    rw [String.toList_append, String.toList_append]
    exact (List.Sublist.refl _).append hpart
  rw [flaw?_eq_none_iff, hfront longer hlonger] at hflaw
  rw [flaw?_eq_none_iff, hfront name h]
  obtain ⟨hbytes, hzero, hshort⟩ := hflaw
  refine ⟨?_, fun hmem => hzero (hsub.subset hmem), ?_⟩
  · unfold Text.hasBytes at hbytes ⊢
    rw [List.all_eq_true] at hbytes ⊢
    exact fun c hc => hbytes c (hsub.subset hc)
  · rw [String.utf8ByteSize_append] at hshort ⊢
    omega

end ApiCommands.DiskPath
