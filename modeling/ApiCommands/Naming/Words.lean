/-
Words: how a text falls into words, and the cases words are written in.

Two splittings follow each other. `splitWords` breaks at every character that
is no letter or digit, and between a lower-case letter and an upper-case one.
`fragments` splits a word without capitals further, into the fragments the
tables know: the longest fragment at the front of what remains is taken, again
and again, and a remainder no fragment starts stays one piece.

A fragment search that takes the empty fragment does not move on.
`fragmentsOf?` and `fragments?` say so by having no answer, and whatever is made of
fragments is not made then.
-/
import ApiCommands.Naming.Tables
import ApiCommands.Outcome.Error
import ApiCommands.Text.Alphanumeric
import ApiCommands.Text.Blank

namespace ApiCommands.Words

-- ====================================================== words

/-- A text cut where an upper-case letter follows a lower-case one. -/
def humps : List Char → List (List Char)
  | [] => []
  | [c] => [[c]]
  | c :: d :: rest =>
    if Text.isLower c && Text.isUpper d then [c] :: humps (d :: rest)
    else match humps (d :: rest) with
      | [] => [[c]]
      | word :: more => (c :: word) :: more

/-- The text after all replacements of the tables, in their order. -/
def prepared (t : Tables) (s : List Char) : List Char :=
  t.wordReplacements.foldl (fun s (old, new) => Text.replace old.toList new.toList s) s

/-- The words of a text that needs no replacement. -/
def ofPrepared (s : List Char) : List (List Char) :=
  (Text.runsWithout (fun c => !Text.isAlphanumeric c) s).flatMap humps

/-- The words of a text. -/
def splitWords (t : Tables) (s : List Char) : List (List Char) := ofPrepared (prepared t s)

-- ====================================================== fragments

/-- The fragments of the tables, longest first; equally long ones in their order. -/
def longestFirst (t : Tables) : List (List Char) :=
  (t.wordFragments.map String.toList).mergeSort fun a b => decide (b.length ≤ a.length)

/-- The first of `known` at the front of a text, with what remains after it. -/
def nextFragment? (known : List (List Char)) (remaining : List Char) :
    Option (List Char × List Char) :=
  (known.find? (·.isPrefixOf remaining)).map fun f => (f, remaining.drop f.length)

/-- The pieces of a text by the fragments of `known`, each the first at the front of what remains.
No answer if a step leaves the text as long as it was: the search would go on for ever. -/
def fragmentsOf? (known : List (List Char)) (remaining : List Char) :
    Option (List (List Char)) :=
  if remaining = [] then some []
  else match nextFragment? known remaining with
    | none => some [remaining]
    | some (piece, rest) =>
      if rest.length < remaining.length then (fragmentsOf? known rest).map (piece :: ·) else none
termination_by remaining.length

/-- The pieces of a word, if the search for them ends. A word with capitals stays whole, and so does
one the tables forbid to split. -/
def fragments? (t : Tables) (word : List Char) : Option (List (List Char)) :=
  if word.any Text.isUpper then some [word]
  else
    let low := Text.lower word
    if t.unsplittableWords.contains (String.ofList low) then some [low]
    else fragmentsOf? (longestFirst t) low

/-- The pieces of a word, unless the search for them goes on for ever. -/
def fragments (t : Tables) (word : List Char) : Except Fault (List (List Char)) :=
  match fragments? t word with
  | some pieces => .ok pieces
  | none => .error .endlessSearch

-- ====================================================== cases

/-- The first letter in upper case. -/
def capitalize : List Char → List Char
  | [] => []
  | c :: rest => Text.upperChar c ++ rest

/-- The words of a text with capitals, in one piece. A text without words stays as it is. -/
def pascal (t : Tables) (s : List Char) : List Char :=
  if Text.isBlank s then s
  else match splitWords t s with
    | [] => s
    | words => (words.map capitalize).flatten

/-- The fragments of all words of a text, in lower case with hyphens. A text without words is
lowered. -/
def kebab (t : Tables) (s : List Char) : Except Fault (List Char) :=
  if Text.isBlank s then .ok s
  else match splitWords t s with
    | [] => .ok (Text.lower s)
    | words => do
      let pieces ← words.mapM (fragments t)
      return Text.lower (Text.join ['-'] pieces.flatten)

/-- The words of a text in lower case, with `sep` between them. -/
def lowerWords (sep : Char) (t : Tables) (s : List Char) : List Char :=
  Text.join [sep] ((splitWords t s).map Text.lower)

/-- The words of a text in lower case with underscores. -/
def snake (t : Tables) (s : List Char) : List Char := lowerWords '_' t s

/-- The words of a text in lower case with hyphens, not split into fragments. -/
def wordKebab (t : Tables) (s : List Char) : List Char := lowerWords '-' t s

end ApiCommands.Words

namespace ApiCommands.Tables

/-- `Words.pascal` on strings. -/
def pascal (t : Tables) (s : String) : String := String.ofList (Words.pascal t s.toList)

/-- `Words.kebab` on strings. -/
def kebab (t : Tables) (s : String) : Except Fault String :=
  String.ofList <$> Words.kebab t s.toList

/-- `Words.snake` on strings. -/
def snake (t : Tables) (s : String) : String := String.ofList (Words.snake t s.toList)

/-- `Words.wordKebab` on strings. -/
def wordKebab (t : Tables) (s : String) : String := String.ofList (Words.wordKebab t s.toList)

end ApiCommands.Tables
