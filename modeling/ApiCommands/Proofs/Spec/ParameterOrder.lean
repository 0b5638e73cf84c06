/-
The one order of path parameters.

The different placeholders of a path stand in the order of their first places
(`pairwise_idxOf_eraseDups`), and one declaration at most fills each. So what
stands at the front of the path parameters is in the order of the template
(`pairwise_firstPlace_matchedParameters`).

Where the declared names differ, a placeholder is filled by the one declaration
of its name, wherever that is declared (`filling?_eq_of_perm`). So the front
depends on the path and on what is declared, and not on the order of the
declarations (`matchedParameters_eq_of_perm`).
-/
import ApiCommands.Proofs.Spec.Operation

namespace ApiCommands

namespace Operation

variable {op other : Operation} {p : Parameter}

-- ====================================================== places of parameters

/-- A placeholder of the path names the parameter, whatever the case. -/
def fills (op : Operation) (p : Parameter) : Bool :=
  op.placeholders.any fun name => Text.lowered name == Text.lowered p.name

/-- The place, among the placeholders, of the first that names the parameter. -/
def firstPlace (op : Operation) (p : Parameter) : Nat :=
  op.placeholders.findIdx fun name => Text.lowered name == Text.lowered p.name

theorem fills_iff : op.fills p = true ↔ p.key ∈ op.placeholderKeys := by
  unfold fills
  rw [op.mem_placeholderKeys, List.any_eq_true]
  simp only [beq_iff_eq]
  rfl

theorem firstPlace_eq_idxOf :
    op.firstPlace p = (op.placeholders.map Text.lowered).idxOf p.key := by
  unfold firstPlace List.idxOf
  rw [List.findIdx_map]
  rfl

theorem unmatchedParameters_eq_filter :
    op.unmatchedParameters = op.declaredPath.filter fun p => !op.fills p := by
  unfold unmatchedParameters
  refine List.filter_congr fun p _ => ?_
  rw [Bool.not_inj_iff, Bool.eq_iff_iff, fills_iff, List.contains_iff_mem]

theorem fills_of_mem_matchedParameters (h : p ∈ op.matchedParameters) : op.fills p = true := by
  obtain ⟨key, hkey, hfill⟩ := List.mem_filterMap.mp h
  rw [fills_iff, (filling?_eq_some hfill).2]
  exact hkey

/-- The parameters at the front stand in the order of the placeholders. -/
theorem pairwise_firstPlace_matchedParameters :
    op.matchedParameters.Pairwise fun p q => op.firstPlace p < op.firstPlace q := by
  unfold matchedParameters
  rw [List.pairwise_filterMap]
  refine (pairwise_idxOf_eraseDups (op.placeholders.map Text.lowered)).imp ?_
  intro a b hlt p hp q hq
  rw [firstPlace_eq_idxOf, firstPlace_eq_idxOf, (filling?_eq_some hp).2, (filling?_eq_some hq).2]
  exact hlt

-- ====================================================== declarations in another order

/-- Of declarations with different names the same one fills a placeholder in every order. -/
theorem filling?_eq_of_perm (h : (op.declaredPath.map Parameter.key).Nodup)
    (hperm : other.declaredPath.Perm op.declaredPath) (key : String) :
    other.filling? key = op.filling? key := by
  have hother : (other.declaredPath.map Parameter.key).Nodup :=
    (hperm.map Parameter.key).nodup_iff.mpr h
  have hfilter := hperm.filter fun p => p.key == key
  rw [← toList_filling? h, ← toList_filling? hother] at hfilter
  cases hfound : op.filling? key with
  | none =>
      rw [hfound, Option.toList_none, List.perm_nil] at hfilter
      exact Option.toList_eq_nil_iff.mp hfilter
  | some p =>
      rw [hfound, Option.toList_some, List.perm_singleton] at hfilter
      exact Option.toList_eq_singleton_iff.mp hfilter

theorem matchedParameters_eq_of_perm (h : (op.declaredPath.map Parameter.key).Nodup)
    (hpath : other.path = op.path) (hperm : other.declaredPath.Perm op.declaredPath) :
    other.matchedParameters = op.matchedParameters := by
  have hkeys : other.placeholderKeys = op.placeholderKeys := by
    unfold placeholderKeys placeholders
    rw [hpath]
  unfold matchedParameters
  rw [hkeys]
  exact List.filterMap_congr fun key _ => filling?_eq_of_perm h hperm key

/-- Where the names of the path parameters differ, whatever the case, the path parameters are the
declared ones in this order: first those that placeholders name, by the first placeholder that does,
and then the others as they are declared. In whatever order all parameters are declared, the same
ones stand at the front. -/
theorem pathParameters_in_template_order
    (h : (op.declaredPath.map fun p => Text.lowered p.name).Nodup) :
    op.pathParameters.Perm op.declaredPath
      ∧ ∃ front, op.pathParameters = front ++ op.declaredPath.filter (fun p => !op.fills p)
        ∧ (∀ p ∈ front, op.fills p = true)
        ∧ front.Pairwise (fun p q => op.firstPlace p < op.firstPlace q)
        ∧ ∀ other : Operation, other.path = op.path → other.parameters.Perm op.parameters →
          other.pathParameters = front ++ other.declaredPath.filter fun p => !op.fills p := by
  refine ⟨pathParameters_perm h, op.matchedParameters, ?_,
    fun p hp => fills_of_mem_matchedParameters hp, pairwise_firstPlace_matchedParameters, ?_⟩
  · rw [pathParameters_eq, unmatchedParameters_eq_filter]
  · intro other hpath hperm
    have hfills : other.fills = op.fills := by
      unfold fills placeholders
      rw [hpath]
    rw [pathParameters_eq, unmatchedParameters_eq_filter, hfills,
      matchedParameters_eq_of_perm h hpath (hperm.filter _)]

end Operation

-- ====================================================== a path with a repeated placeholder

namespace SharedFile

/-- A path that names the user twice, and the file in between. -/
def path : String := "/users/{userId}/files/{fileId}.{USERID}"

def user : Parameter := { name := "UserID", location := .path, required := true }

def file : Parameter := { name := "fileId", location := .path, required := true }

/-- No placeholder has this name. -/
def part : Parameter := { name := "part", location := .path }

def page : Parameter := { name := "page", location := .query }

def operation (parameters : List Parameter) : Operation :=
  { tag := "Files", method := .get, path := path, id := "GetSharedFile",
    methodName := "GetSharedFile", parameters := parameters }

end SharedFile

/-- The user comes before the file and what no placeholder names comes last, in both orders. -/
theorem Operation.sharedFile_in_template_order :
    let op := SharedFile.operation
      [SharedFile.part, SharedFile.file, SharedFile.page, SharedFile.user]
    let other := SharedFile.operation
      [SharedFile.file, SharedFile.user, SharedFile.part, SharedFile.page]
    (op.declaredPath.map fun p => Text.lowered p.name).Nodup
      ∧ op.pathParameters = [SharedFile.user, SharedFile.file, SharedFile.part]
      ∧ op.pathParameters.Perm op.declaredPath
      ∧ ∃ front, op.pathParameters = front ++ op.declaredPath.filter (fun p => !op.fills p)
        ∧ (∀ p ∈ front, op.fills p = true)
        ∧ front.Pairwise (fun p q => op.firstPlace p < op.firstPlace q)
        ∧ other.pathParameters = front ++ other.declaredPath.filter fun p => !op.fills p := by
  intro op other
  have hnodup : (op.declaredPath.map fun p => Text.lowered p.name).Nodup := by decide
  have hperm : other.parameters.Perm op.parameters := by decide
  obtain ⟨hall, front, hfront, hfills, horder, hsame⟩ :=
    Operation.pathParameters_in_template_order hnodup
  exact ⟨hnodup, by decide +kernel, hall, front, hfront, hfills, horder, hsame other rfl hperm⟩

end ApiCommands
