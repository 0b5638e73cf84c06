/-
What a literal shows.

Whatever a text holds, its literal is printable (`isPrintable_of_mem_quoted`): a
character that is not printable stands there as an escape, and escapes are a
backslash, a letter and digits. So a literal is on one line, and it has bytes.
-/
import ApiCommands.Text.Quoted
import Mathlib.Data.List.Basic

namespace ApiCommands.Text

variable {c mark : Char} {n : Nat}

theorem isPrintable_of_mem_hexadecimal {width : Nat} (h : c ∈ hexadecimal width n) :
    isPrintable c = true := by
  have hdigit : ∀ n < 16, isPrintable (hexDigit n) = true := by decide
  induction width generalizing n with
  | zero => cases h
  | succ w ih =>
      rw [hexadecimal, List.mem_append, List.mem_singleton] at h
      rcases h with hfront | rfl
      · exact ih hfront
      · exact hdigit _ (Nat.mod_lt _ (by decide))

theorem isPrintable_of_mem_pair (hmark : isPrintable mark = true) (h : c ∈ ['\\', mark]) :
    isPrintable c = true := by
  rcases List.mem_pair.mp h with rfl | rfl
  · decide
  · exact hmark

namespace Quoted

theorem isPrintable_of_mem_numericEscape (h : c ∈ numericEscape n) : isPrintable c = true := by
  have hescape : ∀ mark width, isPrintable mark = true → c ∈ '\\' :: mark :: hexadecimal width n →
      isPrintable c = true := by
    intro mark width hmark hc
    rcases List.mem_cons.mp hc with rfl | hc
    · decide
    · rcases List.mem_cons.mp hc with rfl | hdigit
      · exact hmark
      · exact isPrintable_of_mem_hexadecimal hdigit
  unfold numericEscape at h
  split at h
  · exact hescape 'x' 2 (by decide) h
  · split at h
    · exact hescape 'u' 4 (by decide) h
    · exact hescape 'U' 8 (by decide) h

theorem isPrintable_quoteFor (s : List Char) : isPrintable (quoteFor s) = true := by
  unfold quoteFor
  split
  · decide
  · decide

variable [Halves]

/-- What is written for a character inside of printable quotes is printable. -/
theorem isPrintable_of_mem_encodeChar {quote d : Char} (hquote : isPrintable quote = true)
    (h : d ∈ encodeChar quote c) : isPrintable d = true := by
  unfold encodeChar at h
  split at h
  · next hc =>
    refine isPrintable_of_mem_pair ?_ h
    rcases hc with rfl | rfl
    · exact hquote
    · decide
  · split at h
    · exact isPrintable_of_mem_pair (by decide) h
    · split at h
      · exact isPrintable_of_mem_pair (by decide) h
      · split at h
        · exact isPrintable_of_mem_pair (by decide) h
        · split at h
          · next hprintable =>
            rw [List.mem_singleton.mp h]
            exact hprintable
          · exact isPrintable_of_mem_numericEscape h

end Quoted

/-- A literal is printable, whatever it quotes. -/
theorem isPrintable_of_mem_quoted [Halves] {s : String} (h : c ∈ (quoted s).toList) :
    isPrintable c = true := by
  have hquote := Quoted.isPrintable_quoteFor s.toList
  rw [quoted, String.toList_ofList, Quoted.encode, List.mem_append, List.mem_cons,
    List.mem_singleton, List.mem_flatMap] at h
  rcases h with (rfl | ⟨d, -, hd⟩) | rfl
  · exact hquote
  · exact Quoted.isPrintable_of_mem_encodeChar hquote hd
  · exact hquote

end ApiCommands.Text
