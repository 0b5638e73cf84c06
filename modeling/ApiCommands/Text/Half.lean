/-
Halves of pairs.

A character beyond the first 65536 can be written as a pair of code units, and a
text may hold one unit of a pair on its own. Such a half is no character; a private
character is held for it. Which ones are is a convention (`Halves`). By the one that
readers keep it is the character 0x100000 places after the half; by another one no
character is, and all texts are free of halves. A text with a half has no bytes.
-/

namespace ApiCommands.Text

/-- The code unit is half of a pair. -/
def isHalfUnit (n : Nat) : Bool := decide (0xD800 ≤ n) && decide (n < 0xE000)

/-- The first of the private characters beyond all scripts. -/
def firstPrivate : Nat := 0x100000

/-- Which characters are held for halves. Each is a private one, and is held for a single half. -/
class Halves where
  /-- The half that a character is held for. -/
  unit? : Char → Option Nat
  isHalfUnit_of_unit? : ∀ c n, unit? c = some n → isHalfUnit n = true
  firstPrivate_le_of_unit? : ∀ c n, unit? c = some n → firstPrivate ≤ c.toNat

/-- The character that readers hold for a half is as far from the first private one as the half is
from zero. -/
instance Halves.shifted : Halves where
  unit? c :=
    if 0x10D800 ≤ c.toNat ∧ c.toNat < 0x10E000 then some (c.toNat - 0x100000) else none
  isHalfUnit_of_unit? c n h := by
    split at h
    · next hrange =>
      rw [← Option.some.inj h]
      simp only [isHalfUnit, Bool.and_eq_true, decide_eq_true_eq]
      omega
    · cases h
  firstPrivate_le_of_unit? c n h := by
    split at h
    · next hrange => exact Nat.le_trans (by decide) hrange.1
    · cases h

/-- No character is held for a half: texts are rows of characters. -/
@[reducible]
def Halves.none : Halves where
  unit? _ := .none
  isHalfUnit_of_unit? _ _ h := by cases h
  firstPrivate_le_of_unit? _ _ h := by cases h

/-- What a text holds for a code unit on its own. -/
def unitChar (n : Nat) : Char := Char.ofNat (if isHalfUnit n then n + firstPrivate else n)

/-- The text is in ASCII. -/
def isAscii (s : List Char) : Bool := s.all (·.toNat < 128)

section

variable [Halves]

/-- The code unit that a character is held for, if it is half of a pair. -/
def half? (c : Char) : Option Nat := Halves.unit? c

/-- The text has bytes: it is free of halves. -/
def hasBytes (s : List Char) : Bool := s.all fun c => (half? c).isNone

end

/-- A character is made with its number. -/
theorem toNat_ofNat {n : Nat} (h : n.isValidChar) : (Char.ofNat n).toNat = n := by
  unfold Char.ofNat
  rw [dif_pos h]
  rfl

/-- A half keeps its code unit. -/
theorem half?_unitChar {n : Nat} (h : isHalfUnit n = true) : half? (unitChar n) = some n := by
  have hbounds := h
  simp only [isHalfUnit, Bool.and_eq_true, decide_eq_true_eq] at hbounds
  have hnat : (unitChar n).toNat = n + 0x100000 := by
    have hvalid : (n + 0x100000).isValidChar := by
      unfold Nat.isValidChar
      omega
    rw [unitChar, if_pos h, firstPrivate, toNat_ofNat hvalid]
  have hheld : ∀ c : Char, half? c
      = if 0x10D800 ≤ c.toNat ∧ c.toNat < 0x10E000 then some (c.toNat - 0x100000) else none :=
    fun _ => rfl
  rw [hheld, hnat, if_pos (by omega)]
  simp

/-- Where no character is held for a half, all texts have bytes. -/
theorem hasBytes_of_none (s : List Char) : @hasBytes Halves.none s = true :=
  List.all_eq_true.mpr fun _ _ => rfl

end ApiCommands.Text
