/-
Blanks and lines.

A blank is any character that separates words and lines: the ASCII ones, the
information separators, and the spaces of other scripts. A text is blank when
it holds nothing else. Lines end at more characters than the line feed, and a
carriage return before a line feed belongs to the same line end.
-/
import ApiCommands.Text.CharRuns

namespace ApiCommands.Text

/-- Blanks of every script. -/
def blankRuns : List CharRun :=
  [⟨9, 13, 1⟩, ⟨28, 32, 1⟩, ⟨0x85, 0x85, 1⟩, ⟨0xA0, 0xA0, 1⟩, ⟨0x1680, 0x1680, 1⟩,
    ⟨0x2000, 0x200A, 1⟩, ⟨0x2028, 0x2029, 1⟩, ⟨0x202F, 0x202F, 1⟩, ⟨0x205F, 0x205F, 1⟩,
    ⟨0x3000, 0x3000, 1⟩]

/-- The character is a blank. -/
def isBlankChar (c : Char) : Bool := inRuns blankRuns c.toNat

/-- Nothing but blanks, the empty text included. -/
def isBlank (s : List Char) : Bool := s.all isBlankChar

/-- `s` without the characters of `p` at both ends. -/
def trimBy (p : Char → Bool) (s : List Char) : List Char :=
  ((s.dropWhile p).reverse.dropWhile p).reverse

/-- `s` without the blanks at both ends. -/
def trim (s : List Char) : List Char := trimBy isBlankChar s

/-- Characters that end a line. -/
def isLineBreak (c : Char) : Bool :=
  inRuns [⟨10, 13, 1⟩, ⟨28, 30, 1⟩, ⟨0x85, 0x85, 1⟩, ⟨0x2028, 0x2029, 1⟩] c.toNat

/-- The lines of a text, without their ends; a line end at the very end opens no further line. -/
def lines : List Char → List (List Char)
  | [] => []
  | '\r' :: '\n' :: rest => [] :: lines rest
  | c :: rest =>
    if isLineBreak c then [] :: lines rest
    else match lines rest with
      | [] => [[c]]
      | line :: more => (c :: line) :: more

/-- The first line that is not blank, trimmed. -/
def firstLine? (s : List Char) : Option (List Char) :=
  (lines s).findSome? fun line => if isBlank line then none else some (trim line)

/-- Line ends as a reader of text files sees them: `\r\n` and `\r` become `\n`. -/
def unifyLineEnds : List Char → List Char
  | [] => []
  | '\r' :: '\n' :: rest => '\n' :: unifyLineEnds rest
  | c :: rest => (if c = '\r' then '\n' else c) :: unifyLineEnds rest

/-- Core's white space is blank. -/
theorem isBlankChar_of_isWhitespace {c : Char} (h : c.isWhitespace = true) :
    isBlankChar c = true := by
  simp only [Char.isWhitespace, Bool.or_eq_true, decide_eq_true_eq, or_assoc] at h
  rcases h with rfl | rfl | rfl | rfl <;> decide

end ApiCommands.Text
