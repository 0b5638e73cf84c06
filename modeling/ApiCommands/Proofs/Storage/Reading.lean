/-
Files that are read as texts and as JSON.

A reader of text files decodes the bytes and unifies the line ends, so what it
gives depends on the bytes alone (`textOf?`, `readText_of_find`), and bytes that
are no text are a fault. The same holds for what is read as JSON (`jsonOf`). That
comes to a value, or to a place where there is none, exactly if the bytes are a
text and no limit plays a part (`readsAsJson_iff`); in a short file none does
(`readsAsJson_iff_of_size_le`), for a text has no more characters than bytes.
-/
import ApiCommands.Outcome.Error
import ApiCommands.Proofs.Document.Json.Limits
import ApiCommands.Storage.Disk

namespace ApiCommands

-- ====================================================== bytes as texts

/-- The text that bytes are, as a reader of text files sees it. -/
def textOf? (bytes : ByteArray) : Option String :=
  (String.fromUTF8? bytes).map fun s => String.ofList (Text.unifyLineEnds s.toList)

/-- What bytes come to as JSON: a value, a place where they are none, or a fault if they are no text
or go beyond a limit. -/
def jsonOf (bytes : ByteArray) : Except Fault (Except Json.Misreading Value) :=
  match textOf? bytes with
  | none => .error .undecodable
  | some s =>
    match Json.parse s with
    | .ok v => .ok (.ok v)
    | .error (.misread m) => .ok (.error m)
    | .error (.beyond l) => .error (.ofLimit l)

/-- The bytes are a text, and no limit plays a part in reading it as JSON. -/
def ReadsAsJson (bytes : ByteArray) : Prop := ∃ s, textOf? bytes = some s ∧ Json.WithinLimits s

variable {bytes : ByteArray}

/-- The bytes that are a text are those in the encoding of texts. -/
theorem exists_textOf?_iff : (∃ s, textOf? bytes = some s) ↔ bytes.IsValidUTF8 := by
  unfold textOf? String.fromUTF8?
  by_cases h : bytes.IsValidUTF8
  · simp [h]
  · simp [h]

/-- Unifying line ends makes no text longer. -/
theorem Text.length_unifyLineEnds_le (s : List Char) : (unifyLineEnds s).length ≤ s.length := by
  induction s using unifyLineEnds.induct with
  | case1 => exact Nat.le_refl _
  | case2 rest ih =>
      rw [unifyLineEnds, List.length_cons, List.length_cons, List.length_cons]
      omega
  | case3 c rest hnot ih =>
      rw [unifyLineEnds.eq_3 c rest hnot, List.length_cons, List.length_cons]
      omega

/-- A text has no more characters than bytes. -/
theorem length_le_utf8ByteSize (s : String) : s.toList.length ≤ s.utf8ByteSize := by
  induction s using String.push_induction with
  | empty => exact Nat.le_refl _
  | push front c ih =>
      rw [String.toList_push, List.length_append, String.utf8ByteSize_push]
      exact Nat.add_le_add ih c.utf8Size_pos

/-- A text has no more characters than the bytes it was. -/
theorem length_le_size_of_textOf? {s : String} (h : textOf? bytes = some s) :
    s.toList.length ≤ bytes.size := by
  obtain ⟨decoded, hdecoded, rfl⟩ := Option.map_eq_some_iff.mp h
  have hsize : decoded.utf8ByteSize = bytes.size := by
    unfold String.fromUTF8? at hdecoded
    split at hdecoded
    · obtain rfl := Option.some.inj hdecoded
      rfl
    · cases hdecoded
  rw [String.toList_ofList, ← hsize]
  exact Nat.le_trans (Text.length_unifyLineEnds_le _) (length_le_utf8ByteSize _)

/-- No limit plays a part in a file with no more bytes than levels may be nested. -/
theorem readsAsJson_iff_of_size_le (h : bytes.size ≤ Json.maxDepth) :
    ReadsAsJson bytes ↔ bytes.IsValidUTF8 := by
  rw [← exists_textOf?_iff]
  refine exists_congr fun s => and_iff_left_of_imp fun hs => ?_
  exact Json.withinLimits_of_length_le (Nat.le_trans (length_le_size_of_textOf? hs) h)

/-- The bytes that can be read as JSON are those that come to a value, or to a place where they are
none. -/
theorem readsAsJson_iff : ReadsAsJson bytes ↔ ∃ r, jsonOf bytes = .ok r := by
  unfold ReadsAsJson jsonOf Json.WithinLimits
  cases textOf? bytes with
  | none => simp
  | some s =>
      cases hparse : Json.parse s with
      | ok v => simp [hparse]
      | error e => cases e <;> simp [hparse]

/-- Bytes that are no text come to nothing. -/
theorem jsonOf_of_not_isValidUTF8 (h : ¬bytes.IsValidUTF8) :
    jsonOf bytes = .error .undecodable := by
  have hnone : textOf? bytes = none := by
    rw [Option.eq_none_iff_forall_ne_some]
    exact fun s hs => h (exists_textOf?_iff.mp ⟨s, hs⟩)
  unfold jsonOf
  rw [hnone]

namespace Disk

variable {d : Disk} {p : DiskPath}

/-- What is found as a file is one. -/
theorem isFile_of_find (h : d.find p = .ok (.file bytes)) : d.isFile p = .ok true := by
  unfold isFile
  rw [h]

/-- The text of a file is what its bytes are. -/
theorem readText_of_find (h : d.find p = .ok (.file bytes)) :
    d.readText p = match textOf? bytes with
      | some s => .ok s
      | none => .error .undecodable := by
  have hbytes : d.readBytes p = .ok bytes := by
    unfold readBytes
    rw [h]
    rfl
  have hraw : d.readRaw p = match String.fromUTF8? bytes with
      | some s => .ok s
      | none => .error .undecodable := by
    unfold readRaw
    rw [hbytes]
    rfl
  unfold readText textOf?
  rw [hraw]
  cases String.fromUTF8? bytes <;> rfl

end Disk

end ApiCommands
