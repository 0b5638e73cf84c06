/-
Paths that end in a name for the caller, and what is collected beside them.

A path such as `/users/me` is left out where its bare path `/me` is a key of
the paths too. The decision is made on the keys alone, so it can be told apart
from everything that is read under them: `Tables.Shadowed` says which paths are
left out, and what is collected is what the other paths offer
(`Api.exists_collected_iff`).

# Later paths

The keys are looked at as a whole, so a path may be left out for the sake of a
later one, but only for a bare one (`Tables.isShadowed_append`). Without new
bare paths the earlier paths are read as before, and names are claimed in the
order of the reading (`Tables.prefix_claimMethodNames_append`). So what was
collected is the beginning of what is collected with paths put behind.

# What is lost

A bare path is a slash and one segment, however it is spelled, so nothing
shadows it (`Tables.IsBareOf.not_shadowed`) and what it offers is collected. But
whether it offers anything has no part in the decision: an operation of a
shadowed path has its like among the collected ones exactly if a bare path
offers one of the same method, and else it is lost.
-/
import ApiCommands.Naming.Tables.Standard
import ApiCommands.Proofs.Spec.Collection

namespace ApiCommands

-- ====================================================== segments

namespace PathTemplate

/-- A segment has no slash. -/
theorem slash_not_mem_of_mem_segments {path segment : String} (h : segment ∈ segments path) :
    '/' ∉ segment.toList := by
  obtain ⟨piece, hpiece, rfl⟩ := List.mem_map.mp h
  have hsplit : piece ∈ Text.splitWhere (· == '/') path.toList := (List.mem_filter.mp hpiece).1
  intro hslash
  rw [String.toList_ofList] at hslash
  have hnot := Text.not_isSep_of_mem_splitWhere hsplit '/' hslash
  exact absurd hnot (by decide)

/-- A slash and a text without slashes are one segment at most. -/
theorem length_segments_le_one {path : String} {rest : List Char} (h : path.toList = '/' :: rest)
    (hrest : '/' ∉ rest) : (segments path).length ≤ 1 := by
  have hpiece : Text.splitWhere (· == '/') rest = [rest] :=
    Text.splitWhere_of_not_isSep fun c hc => beq_false_of_ne fun heq => hrest (heq ▸ hc)
  have hsplit : Text.splitWhere (· == '/') path.toList = [[], rest] := by
    rw [h, Text.splitWhere, hpiece]
    rfl
  unfold segments Text.partsOn Text.runsWithout
  rw [List.length_map, hsplit, List.filter_cons_of_neg (by simp)]
  exact List.length_filter_le _ _

end PathTemplate

-- ====================================================== shadowed paths

namespace Tables

/-- The path is a slash and a name for the caller, but for case. -/
def IsBareAlias (t : Tables) (path : String) : Prop :=
  ∃ name ∈ t.currentEntityAliases, Text.lowered path = "/" ++ name

instance (t : Tables) (path : String) : Decidable (t.IsBareAlias path) :=
  inferInstanceAs (Decidable (∃ name ∈ t.currentEntityAliases, Text.lowered path = "/" ++ name))

/-- The path ends in a name for the caller, and `bare` is a slash and this name, but for case. -/
def IsBareOf (t : Tables) (bare path : String) : Prop :=
  ∃ last, (PathTemplate.segments path).getLast? = some last ∧ t.isCurrentEntity last = true
    ∧ Text.lowered bare = Text.lowered ("/" ++ last)

/-- The path has more segments than a name for the caller at its end, and its bare path is a key
of the paths too. -/
def Shadowed (t : Tables) (paths : Entries) (path : String) : Prop :=
  2 ≤ (PathTemplate.segments path).length
    ∧ ∃ bare v, (.text bare, v) ∈ paths ∧ t.IsBareOf bare path

variable {t : Tables} {known : List String} {path : String}

/-- A path is left out for what its last segment is behind a slash. -/
theorem isShadowed_iff :
    t.isShadowed known path = true
      ↔ 2 ≤ (PathTemplate.segments path).length
        ∧ ∃ last, (PathTemplate.segments path).getLast? = some last
          ∧ t.isCurrentEntity last = true ∧ Text.lowered ("/" ++ last) ∈ known := by
  unfold isShadowed
  split
  · next first second more hsegments =>
    obtain ⟨last, hlast⟩ : ∃ last, (second :: more).getLast? = some last :=
      ⟨_, List.getLast?_eq_some_getLast (List.cons_ne_nil second more)⟩
    have hwhole : (first :: second :: more).getLast? = some last := by
      rw [List.getLast?_cons, hlast, Option.getD_some]
    simp [hsegments, hlast, hwhole]
  · next hsegments =>
    constructor
    · exact fun h => absurd h Bool.false_ne_true
    · rintro ⟨hlength, -⟩
      match hpath : PathTemplate.segments path with
      | [] | [_] => simp [hpath] at hlength
      | first :: second :: more => exact absurd hpath (hsegments first second more)

/-- Read by their names, the paths shadow what they shadow as a mapping. -/
theorem isShadowed_named_iff {paths : Entries} {named : List (String × Value)}
    (h : paths.named? = some named) :
    t.isShadowed (named.map fun (path, _) => Text.lowered path) path = true
      ↔ t.Shadowed paths path := by
  rw [isShadowed_iff]
  unfold Shadowed IsBareOf
  refine and_congr_right fun _ => ?_
  constructor
  · rintro ⟨last, hlast, hentity, hknown⟩
    obtain ⟨⟨bare, v⟩, hmem, hbare⟩ := List.mem_map.mp hknown
    exact ⟨bare, v, (Entries.mem_named?_iff h).mp hmem, last, hlast, hentity, hbare⟩
  · rintro ⟨bare, v, hmem, last, hlast, hentity, hbare⟩
    exact ⟨last, hlast, hentity,
      List.mem_map.mpr ⟨(bare, v), (Entries.mem_named?_iff h).mpr hmem, hbare⟩⟩

/-- Paths that are not bare shadow nothing. -/
theorem isShadowed_append {more : List String}
    (h : ∀ key ∈ more, ∀ name ∈ t.currentEntityAliases, key ≠ "/" ++ name) (path : String) :
    t.isShadowed (known ++ more) path = t.isShadowed known path := by
  have hmore : ∀ last, t.isCurrentEntity last = true → Text.lowered ("/" ++ last) ∉ more := by
    intro last hentity hmem
    have hname : Text.lowered last ∈ t.currentEntityAliases := List.contains_iff_mem.mp hentity
    exact h _ hmem _ hname (Text.lowered_slash_append last)
  rw [Bool.eq_iff_iff, isShadowed_iff, isShadowed_iff]
  refine and_congr_right fun _ => exists_congr fun last => and_congr_right fun _ => ?_
  refine and_congr_right fun hentity => ?_
  rw [List.mem_append, or_iff_left (hmore last hentity)]

/-- A bare path is shadowed by nothing. -/
theorem IsBareOf.not_shadowed {bare : String} (h : t.IsBareOf bare path) (paths : Entries) :
    ¬t.Shadowed paths bare := by
  obtain ⟨last, hlast, -, hbare⟩ := h
  have hslash : '/' ∉ last.toList :=
    PathTemplate.slash_not_mem_of_mem_segments (List.mem_of_getLast? hlast)
  have hlower : Text.lower bare.toList = '/' :: Text.lower last.toList := by
    rw [Text.lowered_slash_append] at hbare
    simpa [Text.lowered] using congrArg String.toList hbare
  obtain ⟨rest, hrest, hrestSlash⟩ := Text.exists_eq_slash_cons hlower
    fun hmem => hslash ((Text.mem_lowerAfter_iff (Or.inl rfl)).mp hmem)
  have hone := PathTemplate.length_segments_le_one hrest hrestSlash
  rintro ⟨htwo, -⟩
  omega

end Tables

-- ====================================================== paths for the caller

namespace CallerPaths

/-- A path item with one operation that says no more than its id. -/
def item (method : Method) (id : String) : Value :=
  .map [(.text method.name, .map [(.text "operationId", .text id)])]

/-- The operation that is read from it. -/
def operation (path : String) (method : Method) (id : String) : Operation :=
  { tag := Tables.standard.fallbackTag, method := method, path := path, id := id, methodName := id }

/-- Under a path that asks for no parameters the item is read as it stands. -/
theorem pathOperations_item {a : Api} {known : List String} {path id : String} (method : Method)
    (hshadowed : Tables.standard.isShadowed known path = false)
    (hid : Text.isBlank id.toList = false) (hpath : Parameter.complete path [] = []) :
    a.pathOperations Tables.standard known path (item method id)
      = pure [operation path method id] := by
  have hmethod : Method.ofName? (Text.lowered method.name) = some method := by
    cases method <;> decide +kernel
  have hfilled : (Value.map [(.text "operationId", .text id)]).filledText? "operationId"
      = some id := by
    show (some id).filter (fun s => !Text.isBlank s.toList) = some id
    simp [Option.filter, hid]
  have hshared : (item method id).itemsAt "parameters" = [] := by cases method <;> rfl
  unfold item at hshared ⊢
  rw [Api.pathOperations_of_single hshadowed hmethod hfilled rfl hshared rfl, hpath]
  rfl

/-- A path that ends in a name for the caller. -/
def earlier : Entries := [(.text "/users/me", item .get "getMe")]

/-- Another such path. -/
def later : Entries := [(.text "/teams/me", item .get "getMe")]

/-- The operations of both. -/
def operations : List Operation :=
  [operation "/users/me" .get "getMe",
    { operation "/teams/me" .get "getMe" with methodName := "getMeTeamsMeGET" }]

/-- They are collected. -/
theorem outcome_collect :
    ((Api.ofDocument .null).collect Tables.standard [] (earlier ++ later)).outcome
      = .ok operations := by
  rw [Api.outcome_collect_eq_ok_iff]
  refine ⟨[("/users/me", item .get "getMe"), ("/teams/me", item .get "getMe")],
    [operation "/users/me" .get "getMe", operation "/teams/me" .get "getMe"], rfl, ?_,
    by decide +kernel⟩
  rw [Api.readOperations_eq_run]
  rw [List.mapM_cons, List.mapM_cons, List.mapM_nil]
  rw [pathOperations_item .get (by decide) (by decide) (by decide),
    pathOperations_item .get (by decide) (by decide) (by decide)]
  rfl

/-- A bare path, and a path that ends in the same name and has another method. -/
def shadowed : Entries :=
  [(.text "/me", item .get "GetMe"), (.text "/users/me", item .delete "DeleteMe")]

/-- Only the operation of the bare path is collected. -/
theorem outcome_collect_shadowed :
    ((Api.ofDocument .null).collect Tables.standard [] shadowed).outcome
      = .ok [operation "/me" .get "GetMe"] := by
  rw [Api.outcome_collect_eq_ok_iff]
  refine ⟨[("/me", item .get "GetMe"), ("/users/me", item .delete "DeleteMe")],
    [operation "/me" .get "GetMe"], rfl, ?_, by decide⟩
  have hread : ∀ known, Tables.standard.isShadowed known "/me" = false →
      Tables.standard.isShadowed known "/users/me" = true →
      ((Api.ofDocument .null).readOperations Tables.standard known
        [("/me", item .get "GetMe"), ("/users/me", item .delete "DeleteMe")]).outcome
        = .ok [operation "/me" .get "GetMe"] := by
    intro known hfree hshadowed
    rw [Api.readOperations, Api.readOperations, Api.readOperations,
      pathOperations_item .get hfree (by decide) (by decide), pure_bind,
      Noted.outcome_bind, Noted.outcome_bind, Api.outcome_pathOperations_of_shadowed hshadowed]
    rfl
  exact hread _ (by decide) (by decide)

end CallerPaths

-- ====================================================== later paths

namespace Api

variable {a : Api} {t : Tables} {reserved : List String} {ops : List Operation}

/-- Paths put behind others change nothing of what was collected without them, unless one of the
new ones is bare: then too the collection answers, and with the beginning of what it answers
now. -/
theorem appended_paths_change_nothing {paths more : Entries}
    (h : (a.collect t reserved (paths ++ more)).outcome = .ok ops)
    (hmore : ∀ path v, (.text path, v) ∈ more → ¬t.IsBareAlias path) :
    ∃ before, (a.collect t reserved paths).outcome = .ok before ∧ before <+: ops := by
  obtain ⟨named, read, hnamed, hread, rfl⟩ := outcome_collect_eq_ok_iff.mp h
  obtain ⟨first, second, hfirst, hsecond, rfl⟩ := Entries.named?_append_eq_some_iff.mp hnamed
  -- the earlier paths are shadowed as they were
  have hshadowed : ∀ path,
      t.isShadowed ((first ++ second).map fun (path, _) => Text.lowered path) path
        = t.isShadowed (first.map fun (path, _) => Text.lowered path) path := by
    rw [List.map_append]
    refine Tables.isShadowed_append fun key hkey name hname heq => ?_
    obtain ⟨⟨path, v⟩, hmem, rfl⟩ := List.mem_map.mp hkey
    exact hmore path v ((Entries.mem_named?_iff hsecond).mp hmem) ⟨name, hname, heq⟩
  rw [readOperations_congr hshadowed, readOperations_eq_run] at hread
  obtain ⟨before, later, hbefore, -, rfl⟩ := Noted.outcome_run_append_eq_ok_iff.mp hread
  rw [← readOperations_eq_run] at hbefore
  exact ⟨t.claimMethodNames reserved before,
    outcome_collect_eq_ok_iff.mpr ⟨first, before, hfirst, hbefore, rfl⟩,
    Tables.prefix_claimMethodNames_append later⟩

/-- So it is with a second path for the caller whose operation has the id of the first: it is the
later one whose method gets another name. -/
theorem laterPaths_change_nothing :
    ((ofDocument .null).collect Tables.standard []
        (CallerPaths.earlier ++ CallerPaths.later)).outcome = .ok CallerPaths.operations
      ∧ (∀ path v, (.text path, v) ∈ CallerPaths.later → ¬Tables.standard.IsBareAlias path)
      ∧ ∃ before, ((ofDocument .null).collect Tables.standard [] CallerPaths.earlier).outcome
          = .ok before
        ∧ before <+: CallerPaths.operations := by
  have hlater : ∀ path v, (.text path, v) ∈ CallerPaths.later →
      ¬Tables.standard.IsBareAlias path := by
    intro path v hmem
    obtain ⟨hpath, -⟩ := Prod.mk.inj (List.mem_singleton.mp hmem)
    obtain rfl := Scalar.text.inj hpath
    decide
  exact ⟨CallerPaths.outcome_collect, hlater,
    appended_paths_change_nothing CallerPaths.outcome_collect hlater⟩

end Api

-- ====================================================== what is lost

/-- Under the path stands an operation of this method that has this id. -/
def Entries.Offers (paths : Entries) (path : String) (method : Method) (id : String) : Prop :=
  ∃ entries key node, (.text path, .map entries) ∈ paths ∧ (.text key, node) ∈ entries
    ∧ Method.ofName? (Text.lowered key) = some method
    ∧ node.filledText? "operationId" = some id

namespace Api

variable {a : Api} {t : Tables} {reserved : List String} {ops : List Operation}

/-- What is collected is what the paths that are not shadowed offer. -/
theorem exists_collected_iff {paths : Entries}
    (h : (a.collect t reserved paths).outcome = .ok ops) {path : String} {method : Method}
    {id : String} :
    (∃ op ∈ ops, op.path = path ∧ op.method = method ∧ op.id = id)
      ↔ paths.Offers path method id ∧ ¬t.Shadowed paths path := by
  obtain ⟨named, read, hnamed, hread, rfl⟩ := outcome_collect_eq_ok_iff.mp h
  obtain ⟨hanswer, hmem⟩ := outcome_readOperations_spec hread
  have hfree : t.isShadowed (named.map fun (path, _) => Text.lowered path) path = false
      ↔ ¬t.Shadowed paths path := by
    rw [← Tables.isShadowed_named_iff hnamed, Bool.not_eq_true]
  rw [Tables.exists_mem_claimMethodNames_iff fun _ _ => Iff.rfl, ← hfree]
  constructor
  · rintro ⟨op, hop, rfl, rfl, rfl⟩
    obtain ⟨path, entries, hitem, hfree, ⟨_, node⟩, hentry, hfound⟩ := (hmem op).mp hop
    obtain ⟨key, method, id, rfl, hkey, hid, hoperation⟩ :=
      exists_of_outcome_operation?_eq_some hfound
    obtain ⟨rfl, rfl, rfl, -⟩ := outcome_operation_eq_ok hoperation
    exact ⟨⟨entries, key, node, (Entries.mem_named?_iff hnamed).mp hitem, hentry, hkey, hid⟩, hfree⟩
  · rintro ⟨⟨entries, key, node, hitem, hentry, hkey, hid⟩, hfree⟩
    have hnamedItem := (Entries.mem_named?_iff hnamed).mpr hitem
    obtain ⟨found, hfound⟩ := hanswer path entries hnamedItem hfree _ hentry
    have hoffered := hfound
    rw [operation?_of_filled hkey hid] at hoffered
    obtain ⟨op, hop, rfl⟩ := Noted.outcome_map_eq_ok_iff.mp hoffered
    obtain ⟨hpath, hmethod, hopId, -⟩ := outcome_operation_eq_ok hop
    exact ⟨op, (hmem op).mpr ⟨path, entries, hnamedItem, hfree, _, hentry, hfound⟩,
      hpath, hmethod, hopId⟩

/-- An operation that is offered is collected exactly if its path is not shadowed. That it is
collected, or one of its method under its bare path, comes to this: if the path is shadowed, a bare
path of it offers an operation of the method. -/
theorem offered_collected_or_bare_iff {paths : Entries}
    (h : (a.collect t reserved paths).outcome = .ok ops) {path : String} {method : Method}
    {id : String} (hoffer : paths.Offers path method id) :
    ((∃ op ∈ ops, op.path = path ∧ op.method = method ∧ op.id = id) ↔ ¬t.Shadowed paths path)
      ∧ (((∃ op ∈ ops, op.path = path ∧ op.method = method)
            ∨ ∃ op ∈ ops, t.IsBareOf op.path path ∧ op.method = method)
          ↔ (t.Shadowed paths path →
              ∃ bare other, t.IsBareOf bare path ∧ paths.Offers bare method other)) := by
  have hcollected : (∃ op ∈ ops, op.path = path ∧ op.method = method ∧ op.id = id)
      ↔ ¬t.Shadowed paths path := by
    rw [exists_collected_iff h]
    exact and_iff_right hoffer
  refine ⟨hcollected, ?_⟩
  constructor
  · rintro (⟨op, hop, hpath, -⟩ | ⟨op, hop, hbare, hmethod⟩) hshadowed
    · have hfree := ((exists_collected_iff h).mp ⟨op, hop, hpath, rfl, rfl⟩).2
      exact absurd hshadowed hfree
    · have hoffered := ((exists_collected_iff h).mp ⟨op, hop, rfl, hmethod, rfl⟩).1
      exact ⟨op.path, op.id, hbare, hoffered⟩
  · intro hcovered
    by_cases hshadowed : t.Shadowed paths path
    · obtain ⟨bare, other, hbare, hoffered⟩ := hcovered hshadowed
      obtain ⟨op, hop, rfl, hmethod, -⟩ :=
        (exists_collected_iff h).mpr ⟨hoffered, hbare.not_shadowed paths⟩
      exact Or.inr ⟨op, hop, hbare, hmethod⟩
    · obtain ⟨op, hop, hpath, hmethod, -⟩ := hcollected.mpr hshadowed
      exact Or.inl ⟨op, hop, hpath, hmethod⟩

/-- The deletion under the longer path is lost: the bare path shadows it and offers no deletion. -/
theorem deleteMe_lost :
    ((ofDocument .null).collect Tables.standard [] CallerPaths.shadowed).outcome
        = .ok [CallerPaths.operation "/me" .get "GetMe"]
      ∧ CallerPaths.shadowed.Offers "/users/me" .delete "DeleteMe"
      ∧ (∀ op ∈ [CallerPaths.operation "/me" .get "GetMe"], op.method ≠ .delete)
      ∧ Tables.standard.Shadowed CallerPaths.shadowed "/users/me"
      ∧ ¬∃ bare other, Tables.standard.IsBareOf bare "/users/me"
          ∧ CallerPaths.shadowed.Offers bare .delete other := by
  have hoffer : CallerPaths.shadowed.Offers "/users/me" .delete "DeleteMe" :=
    ⟨_, _, _, List.mem_cons_of_mem _ List.mem_cons_self, List.mem_cons_self,
      by decide, by decide⟩
  have hnone : ∀ op ∈ [CallerPaths.operation "/me" .get "GetMe"], op.method ≠ .delete := by decide
  obtain ⟨-, hiff⟩ := offered_collected_or_bare_iff CallerPaths.outcome_collect_shadowed hoffer
  have hlost := mt hiff.mpr fun hkept => by
    rcases hkept with ⟨op, hop, -, hmethod⟩ | ⟨op, hop, -, hmethod⟩
    · exact hnone op hop hmethod
    · exact hnone op hop hmethod
  obtain ⟨hshadowed, hbare⟩ := Classical.not_imp.mp hlost
  exact ⟨CallerPaths.outcome_collect_shadowed, hoffer, hnone, hshadowed, hbare⟩

end Api

end ApiCommands
