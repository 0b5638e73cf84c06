/-
Texts in pieces: splitting at a separator, joining, replacing.

All of it on character lists. `splitOn` keeps empty pieces, `partsOn` does not.
-/

namespace ApiCommands.Text

/-- The pieces of `s` between characters of `isSep`, empty ones included. -/
def splitWhere (isSep : Char → Bool) : List Char → List (List Char)
  | [] => [[]]
  | c :: rest =>
    if isSep c then [] :: splitWhere isSep rest
    else match splitWhere isSep rest with
      | [] => [[c]]
      | piece :: more => (c :: piece) :: more

/-- The pieces of `s` between occurrences of `sep`, empty ones included. -/
def splitOn (sep : Char) (s : List Char) : List (List Char) := splitWhere (· == sep) s

/-- The longest runs of `s` without characters of `isSep`. -/
def runsWithout (isSep : Char → Bool) (s : List Char) : List (List Char) :=
  (splitWhere isSep s).filter (!·.isEmpty)

/-- The non-empty pieces of `s` between occurrences of `sep`. -/
def partsOn (sep : Char) (s : List Char) : List (List Char) := runsWithout (· == sep) s

/-- `s` up to the first `sep` and after it, if there is one. -/
def cutAt (sep : Char) (s : List Char) : Option (List Char × List Char) :=
  match s.dropWhile (· != sep) with
  | [] => none
  | _ :: rest => some (s.takeWhile (· != sep), rest)

/-- The pieces in a row with `sep` between them. -/
def join (sep : List Char) (pieces : List (List Char)) : List Char := sep.intercalate pieces

/-- Every occurrence of `old` replaced by `new`, found from left to right without overlaps. -/
def replaceNonempty (old new : List Char) (s : List Char) : List Char :=
  match s with
  | [] => []
  | c :: rest =>
    if old.isPrefixOf (c :: rest) then new ++ replaceNonempty old new (rest.drop (old.length - 1))
    else c :: replaceNonempty old new rest
termination_by s.length
decreasing_by all_goals simp only [List.length_cons, List.length_drop]; omega

/-- Every occurrence of `old` replaced by `new`. The empty text occurs before, between and after
all characters. -/
def replace (old new : List Char) (s : List Char) : List Char :=
  if old.isEmpty then new ++ s.flatMap (fun c => c :: new) else replaceNonempty old new s

/-- `s` without the prefix `p`, if it has it. -/
def dropPrefix? (p s : List Char) : Option (List Char) :=
  if p.isPrefixOf s then some (s.drop p.length) else none

/-- The strings in a row with `sep` between them. -/
def joined (sep : String) (pieces : List String) : String := String.intercalate sep pieces

/-- The string between braces. -/
def braced (s : String) : String := String.singleton '{' ++ s ++ String.singleton '}'

@[simp]
theorem toList_braced (s : String) : (braced s).toList = '{' :: s.toList ++ ['}'] := by
  simp [braced]

/-- Lines as one text, each with its line feed. -/
def unlines (ls : List String) : String := String.join (ls.map (· ++ "\n"))

theorem splitWhere_ne_nil (isSep : Char → Bool) (s : List Char) : splitWhere isSep s ≠ [] := by
  cases s with
  | nil => simp [splitWhere]
  | cons c rest =>
    simp only [splitWhere]
    split
    · simp
    · split <;> simp

/-- The pieces hold, in order, all characters but the separators. -/
theorem flatten_splitWhere (isSep : Char → Bool) (s : List Char) :
    (splitWhere isSep s).flatten = s.filter (!isSep ·) := by
  induction s with
  | nil => rfl
  | cons c rest ih =>
    simp only [splitWhere]
    cases hs : splitWhere isSep rest with
    | nil => exact absurd hs (splitWhere_ne_nil isSep rest)
    | cons piece more =>
      rw [hs] at ih
      cases h : isSep c <;> simp_all

/-- No piece holds a separator. -/
theorem not_isSep_of_mem_splitWhere {isSep : Char → Bool} {s piece : List Char}
    (h : piece ∈ splitWhere isSep s) : ∀ c ∈ piece, isSep c = false := by
  intro c hc
  have hmem : c ∈ (splitWhere isSep s).flatten := List.mem_flatten.mpr ⟨piece, h, hc⟩
  rw [flatten_splitWhere] at hmem
  simpa using (List.mem_filter.mp hmem).2

/-- A text without separators is one piece. -/
theorem splitWhere_of_not_isSep {isSep : Char → Bool} {s : List Char}
    (h : ∀ c ∈ s, isSep c = false) : splitWhere isSep s = [s] := by
  induction s with
  | nil => rfl
  | cons c rest ih =>
    rw [splitWhere, h c List.mem_cons_self, ih fun d hd => h d (List.mem_cons_of_mem _ hd)]
    rfl

end ApiCommands.Text
