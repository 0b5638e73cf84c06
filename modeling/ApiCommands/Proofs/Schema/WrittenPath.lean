/-
References that are written for a place, or for a schema.

# Places

A reference written for moves leads where the moves lead: it falls into their
segments (`Pointer.segments_written`), and these are made one by one. The one
limit is on indexes, which are not read beyond a number of digits
(`resolve_reference_iff`). No list is so long. An index on the way to a node is
below the length of a list of the document (`lt_longest_of_target?`), and the
length of a list is the most that can be counted in a machine word
(`Value.maxItems`).

# Schemas

The name that a reference gives is what stands behind the start of all
references to schemas, unescaped, if that is anything (`refName?_eq_some_iff`).
So an escaped name is read back.
-/
import ApiCommands.Proofs.Schema.Reference

namespace ApiCommands

-- ====================================================== lists of a document

namespace Value

mutual

/-- The length of the longest list inside a value. -/
def longest : Value → Nat
  | scalar _ => 0
  | list items => max items.length (longestOfItems items)
  | map entries => longestOfEntries entries

/-- The same among the items of a list. -/
def longestOfItems : List Value → Nat
  | [] => 0
  | v :: rest => max (longest v) (longestOfItems rest)

/-- The same among the entries of a mapping. -/
def longestOfEntries : Entries → Nat
  | [] => 0
  | (_, v) :: rest => max (longest v) (longestOfEntries rest)

end

/-- How many items a list can have. -/
def maxItems : Nat := 2 ^ 63 - 1

theorem longest_le_of_mem {items : List Value} {v : Value} (h : v ∈ items) :
    v.longest ≤ longestOfItems items := by
  induction items with
  | nil => cases h
  | cons w rest ih =>
      rw [longestOfItems]
      rcases List.mem_cons.mp h with rfl | hrest
      · exact Nat.le_max_left _ _
      · exact Nat.le_trans (ih hrest) (Nat.le_max_right _ _)

theorem longest_le_of_find? {key : Scalar} {entries : Entries} {v : Value}
    (h : Entries.find? key entries = some v) : v.longest ≤ longestOfEntries entries := by
  induction entries with
  | nil => cases h
  | cons e rest ih =>
      obtain ⟨k, w⟩ := e
      rw [Entries.find?] at h
      rw [longestOfEntries]
      split at h
      · rw [Option.some.inj h]
        exact Nat.le_max_left _ _
      · exact Nat.le_trans (ih h) (Nat.le_max_right _ _)

end Value

namespace Pointer

variable {node part target : Value} {move : Move} {path : List Move}

/-- The lists of a part are lists of the node. -/
theorem longest_le_of_part? (h : move.part? node = some part) : part.longest ≤ node.longest := by
  obtain ⟨name, entries, -, rfl, hfind⟩ | ⟨i, items, -, rfl, hitem⟩ := Move.cases_of_part? h
  · rw [Value.longest.eq_3]
    exact Value.longest_le_of_find? hfind
  · rw [Value.longest.eq_2]
    exact Nat.le_trans (Value.longest_le_of_mem (List.mem_of_getElem? hitem)) (Nat.le_max_right _ _)

/-- The index of an item is below the length of a list. -/
theorem lt_longest_of_index {i : Nat} (h : (Move.index i).part? node = some part) :
    i < node.longest := by
  obtain ⟨name, entries, hkey, -⟩ | ⟨j, items, hindex, rfl, hitem⟩ := Move.cases_of_part? h
  · cases hkey
  · cases hindex
    rw [Value.longest.eq_2]
    exact Nat.lt_of_lt_of_le (List.getElem?_eq_some_iff.mp hitem).1 (Nat.le_max_left _ _)

/-- The indexes on the way to a place are below the length of a list. -/
theorem lt_longest_of_target? (h : target? path node = some target) {i : Nat}
    (hi : .index i ∈ path) : i < node.longest := by
  induction path generalizing node with
  | nil => cases hi
  | cons move path ih =>
      obtain ⟨part, hpart, hrest⟩ := Option.bind_eq_some_iff.mp h
      rcases List.mem_cons.mp hi with rfl | htail
      · exact lt_longest_of_index hpart
      · exact Nat.lt_of_lt_of_le (ih hrest htail) (longest_le_of_part? hpart)

/-- A list as long as can be has no index with too many digits. -/
theorem maxItems_le : Value.maxItems ≤ 10 ^ Numeral.maxDigits := by
  calc Value.maxItems ≤ 10 ^ 19 := by decide
    _ ≤ 10 ^ Numeral.maxDigits := Nat.pow_le_pow_right (by decide) (by decide)

/-- The reference that is written for moves. -/
def reference (path : List Move) : String := String.ofList ('#' :: '/' :: written path)

end Pointer

namespace Api

variable {a : Api} {node : Value} {ref name : String} {path : List Pointer.Move}

-- ====================================================== references to places

/-- The reference written for moves leads where they lead, exactly if no index on the way has too
many digits. -/
theorem resolve_reference_iff (hpath : path ≠ [])
    (h : Pointer.target? path a.document = some node) :
    a.resolve (Pointer.reference path) = pure (some node)
      ↔ ∀ i, .index i ∈ path → i < 10 ^ Numeral.maxDigits := by
  have href : (Pointer.reference path).toList = '#' :: '/' :: Pointer.written path :=
    String.toList_ofList
  rw [resolve_internal href, ofPointer_eq_pure_iff, Pointer.segments_written hpath,
    Pointer.follow_map_meant_eq_ok_iff h]

-- ====================================================== references to schemas

/-- The reference that is written for the schema of a name. -/
def schemaRef (name : String) : String :=
  schemaRefStart ++ String.ofList (Pointer.escape name.toList)

theorem refName?_eq_some_iff : refName? ref = some name
    ↔ ∃ written, ref.toList = schemaRefStart.toList ++ written
      ∧ Pointer.unescape written = name.toList ∧ name ≠ "" := by
  unfold refName?
  constructor
  · intro h
    split at h
    · cases h
    · next written hwritten =>
      dsimp only at h
      split at h
      · cases h
      · next hne =>
        obtain rfl := Option.some.inj h
        refine ⟨written, Text.dropPrefix?_eq_some_iff.mp hwritten, String.toList_ofList.symm, ?_⟩
        intro hempty
        exact hne (List.isEmpty_iff.mpr (String.ofList_eq_empty_iff.mp hempty))
  · rintro ⟨written, href, hname, hne⟩
    have hfilled : name.toList.isEmpty = false :=
      List.isEmpty_eq_false_iff.mpr fun hnil => hne (String.toList_eq_nil_iff.mp hnil)
    rw [Text.dropPrefix?_eq_some_iff.mpr href]
    dsimp only
    rw [hname, hfilled, String.ofList_toList]
    rfl

/-- The name of a schema is read off the reference that is written for it. -/
theorem refName?_schemaRef (h : name ≠ "") : refName? (schemaRef name) = some name := by
  refine refName?_eq_some_iff.mpr ⟨Pointer.escape name.toList, ?_, ?_, h⟩
  · rw [schemaRef, String.toList_append, String.toList_ofList]
  · exact Pointer.unescape_escape name.toList

-- ====================================================== reading back

/-- Moves that lead to a node are written as a reference that leads to this very node, without a
note, exactly if no index on the way has more digits than are read. That is so for all moves in a
document whose lists are no longer than lists can be. And the name of a schema is read off the
reference that is written for it. -/
theorem written_references_read_back (a : Api) :
    (∀ path node, path ≠ [] → Pointer.target? path a.document = some node →
        (a.resolve (Pointer.reference path) = pure (some node)
          ↔ ∀ i, .index i ∈ path → i < 10 ^ Numeral.maxDigits))
      ∧ (a.document.longest ≤ Value.maxItems →
        ∀ path node, path ≠ [] → Pointer.target? path a.document = some node →
          a.resolve (Pointer.reference path) = pure (some node))
      ∧ ∀ name, name ≠ "" → refName? (schemaRef name) = some name := by
  refine ⟨fun path node hpath hnode => resolve_reference_iff hpath hnode, ?_,
    fun name hname => refName?_schemaRef hname⟩
  intro hlists path node hpath hnode
  refine (resolve_reference_iff hpath hnode).mpr fun i hi => ?_
  have hbelow : i < a.document.longest := Pointer.lt_longest_of_target? hnode hi
  exact Nat.lt_of_lt_of_le hbelow (Nat.le_trans hlists Pointer.maxItems_le)

end Api

-- ====================================================== keys that need care

namespace OddKeys

/-- Keys with signs of the written form, a key of digits, and one that is empty. -/
def document : Value := .map
  [(.text "~1", .list [.null, .map [(.text "", .map [(.text "~01/~", .map [(.text "0", .int 7)])])]])]

def path : List Pointer.Move := [.key "~1", .index 1, .key "", .key "~01/~", .key "0"]

end OddKeys

/-- Every key is found again, and so is the name of a schema that looks like an escape. -/
theorem Api.oddKeys_read_back :
    Pointer.reference OddKeys.path = "#/~01/1//~001~1~0/0"
      ∧ OddKeys.document.longest ≤ Value.maxItems
      ∧ (Api.ofDocument OddKeys.document).resolve "#/~01/1//~001~1~0/0" = pure (some (.int 7))
      ∧ schemaRef "~1/Task" = "#/components/schemas/~01~1Task"
      ∧ refName? "#/components/schemas/~01~1Task" = some "~1/Task" := by
  have hreference : Pointer.reference OddKeys.path = "#/~01/1//~001~1~0/0" := by decide
  have hschemaRef : schemaRef "~1/Task" = "#/components/schemas/~01~1Task" := by decide
  have hlists : OddKeys.document.longest ≤ Value.maxItems := by decide
  have hpath : Pointer.target? OddKeys.path OddKeys.document = some (.int 7) := by cbv
  obtain ⟨-, hplaces, hnames⟩ := written_references_read_back (Api.ofDocument OddKeys.document)
  have hresolve := hplaces hlists OddKeys.path (.int 7) (List.cons_ne_nil _ _) hpath
  have hname := hnames "~1/Task" (by decide)
  rw [hreference] at hresolve
  rw [hschemaRef] at hname
  exact ⟨hreference, hlists, hresolve, hschemaRef, hname⟩

end ApiCommands
