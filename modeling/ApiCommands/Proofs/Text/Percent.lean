/-
Percent-encoding read back.

# The alphabet

What is encoded is a row of unreserved characters and of escapes, each `%` with
two digits (`escaped_encode`). So it has no character that may delimit a part of
an address (`filter_mayDelimit_encode`), and only nothing is encoded as nothing
(`encode_eq_nil_iff`).

# The way back

An escape stands for its byte (`bytesOf_encodeByte_append`), and an unreserved
character for its own bytes, for it is no `%`. So the bytes of what is encoded
are the bytes of the text (`bytesOf_encode`), and it is read back
(`decode?_encode`).
-/
import ApiCommands.Text.Percent

namespace ApiCommands.Text.Percent

-- ====================================================== the alphabet

/-- A digit of an escape. -/
def isEscapeDigit (c : Char) : Bool := "0123456789ABCDEF".toList.contains c

/-- Unreserved characters and escapes, in a row. -/
inductive Escaped : List Char → Prop
  | nil : Escaped []
  | unreserved {c : Char} {rest : List Char} (h : isUnreserved c = true) (hrest : Escaped rest) :
      Escaped (c :: rest)
  | escape {high low : Char} {rest : List Char} (hhigh : isEscapeDigit high = true)
      (hlow : isEscapeDigit low = true) (hrest : Escaped rest) :
      Escaped ('%' :: high :: low :: rest)

/-- A character that may delimit a part of an address: it stands in no escape and is not
unreserved. -/
def mayDelimit (c : Char) : Bool := !isUnreserved c && c != '%'

variable {s t : List Char}

theorem digits_of_byte (b : UInt8) : b.toNat / 16 < 16 ∧ b.toNat % 16 < 16 := by
  have hb : b.toNat < 256 := UInt8.toNat_lt b
  omega

/-- What is written for a byte may stand in front of escapes. -/
theorem Escaped.encodeByte_append (h : Escaped t) (b : UInt8) : Escaped (encodeByte b ++ t) := by
  have hdigit : ∀ n < 16, isEscapeDigit (hexDigit n) = true := by decide
  obtain ⟨hhigh, hlow⟩ := digits_of_byte b
  exact .escape (hdigit _ hhigh) (hdigit _ hlow) h

theorem Escaped.flatMap_encodeByte_append (h : Escaped t) (bytes : List UInt8) :
    Escaped (bytes.flatMap encodeByte ++ t) := by
  induction bytes with
  | nil => exact h
  | cons b rest ih =>
      rw [List.flatMap_cons, List.append_assoc]
      exact ih.encodeByte_append b

theorem escaped_encode (s : List Char) : Escaped (encode s) := by
  induction s with
  | nil => exact .nil
  | cons c rest ih =>
      unfold encode at ih ⊢
      rw [List.flatMap_cons]
      split
      · next h => exact .unreserved h ih
      · exact ih.flatMap_encodeByte_append _

/-- No escape has a character that may delimit, and no unreserved character may. -/
theorem not_mayDelimit_of_mem_encode {c : Char} (h : c ∈ encode s) : mayDelimit c = false := by
  unfold encode at h
  obtain ⟨d, -, hd⟩ := List.mem_flatMap.mp h
  split at hd
  · next hunreserved =>
    rw [List.mem_singleton.mp hd]
    simp [mayDelimit, hunreserved]
  · obtain ⟨b, -, hb⟩ := List.mem_flatMap.mp hd
    rcases isUnreserved_or_percent_of_mem_encodeByte hb with hunreserved | rfl
    · simp [mayDelimit, hunreserved]
    · decide

theorem filter_mayDelimit_encode (s : List Char) : (encode s).filter mayDelimit = [] :=
  List.filter_eq_nil_iff.mpr fun _ hc => Bool.not_eq_true _ ▸ not_mayDelimit_of_mem_encode hc

theorem encode_eq_nil_iff : encode s = [] ↔ s = [] := by
  cases s with
  | nil => exact iff_of_true rfl rfl
  | cons c rest =>
      refine iff_of_false (fun h => ?_) (List.cons_ne_nil _ _)
      have hfirst := List.flatMap_eq_nil_iff.mp h c List.mem_cons_self
      split at hfirst
      · cases hfirst
      · obtain ⟨b, hb⟩ := List.exists_mem_of_ne_nil _ (String.utf8EncodeChar_ne_nil (c := c))
        cases List.flatMap_eq_nil_iff.mp hfirst b hb

-- ====================================================== the way back

/-- The text that escapes stand for, if their bytes are those of a text. -/
def decode? (s : List Char) : Option String := String.fromUTF8? (bytesOf s).toByteArray

theorem hexValue?_hexDigit : ∀ n < 16, hexValue? (hexDigit n) = some n := by
  decide

theorem bytesOf_encodeByte_append (b : UInt8) (t : List Char) :
    bytesOf (encodeByte b ++ t) = b :: bytesOf t := by
  obtain ⟨hhigh, hlow⟩ := digits_of_byte b
  have hbyte : UInt8.ofNat (16 * (b.toNat / 16) + b.toNat % 16) = b := by
    rw [Nat.div_add_mod, UInt8.ofNat_toNat]
  show bytesOf ('%' :: hexDigit (b.toNat / 16) :: hexDigit (b.toNat % 16) :: t) = _
  rw [bytesOf, hexValue?_hexDigit _ hhigh, hexValue?_hexDigit _ hlow]
  dsimp only
  rw [hbyte]

theorem bytesOf_flatMap_encodeByte_append (bytes : List UInt8) (t : List Char) :
    bytesOf (bytes.flatMap encodeByte ++ t) = bytes ++ bytesOf t := by
  induction bytes with
  | nil => rfl
  | cons b rest ih =>
      rw [List.flatMap_cons, List.append_assoc, bytesOf_encodeByte_append, ih, List.cons_append]

/-- A character that is no `%` stands for itself. -/
theorem bytesOf_cons {c : Char} (h : c ≠ '%') (t : List Char) :
    bytesOf (c :: t) = String.utf8EncodeChar c ++ bytesOf t := by
  rw [bytesOf.eq_2]
  exact fun a b rest hc _ => h hc

/-- What is encoded stands for the bytes of the text. -/
theorem bytesOf_encode (s : List Char) : bytesOf (encode s) = s.flatMap String.utf8EncodeChar := by
  induction s with
  | nil => rfl
  | cons c rest ih =>
      unfold encode at ih ⊢
      rw [List.flatMap_cons, List.flatMap_cons]
      split
      · next h =>
        have hc : c ≠ '%' := fun heq => absurd (heq ▸ h) (by decide)
        rw [List.singleton_append, bytesOf_cons hc, ih]
      · rw [encodeChar, bytesOf_flatMap_encodeByte_append, ih]

/-- What is encoded is read back. -/
theorem decode?_encode (s : List Char) : decode? (encode s) = some (String.ofList s) := by
  unfold decode?
  rw [bytesOf_encode]
  show String.fromUTF8? s.utf8Encode = some (String.ofList s)
  rw [← String.toByteArray_ofList]
  exact dif_pos (String.ofList s).isValidUTF8

/-- What is encoded alike is the same. -/
theorem encode_inj : encode s = encode t ↔ s = t := by
  refine ⟨fun h => ?_, fun h => congrArg encode h⟩
  have hdecoded := congrArg decode? h
  rw [decode?_encode, decode?_encode] at hdecoded
  exact String.ofList_injective (Option.some.inj hdecoded)

end ApiCommands.Text.Percent
