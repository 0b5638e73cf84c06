/-
The word in front of a base name.

# Which rule decides

A row for one method is passed over by every other one, so behind the rows for
any method only those of the operation's own method count (`first?_standard`).
Among these the last accepts every shape: where a method has rows, one of them
decides (`exists_first?_ofMethod`), and the operation id is not asked.

# What it puts in front

A template is led by a word if it starts with the word, alone or with a hyphen
behind (`isLedBy`). The fields of the shape come after the hyphen. Whatever they
hold, the slug begins with that word (`head?_words_render`): the hyphen is no
letter of a word, and lowering a text does not reach across it.

The rows for reading are led by `get` or `list`, those for deleting by `delete`.
-/
import ApiCommands.Proofs.Naming.Alias
import ApiCommands.Proofs.Naming.CommandName

namespace ApiCommands

namespace Slug

variable {word : List Char}

theorem words_of_isWord (hword : IsWord word) : words word = [word] := by
  unfold words Text.runsWithout
  rw [hword.lower_eq, Text.splitWhere_of_not_isSep fun c hc => by simp [hword.2 c hc],
    List.filter_cons_of_pos (by simpa using hword.1), List.filter_nil]

/-- A slug falls into the words of its text at the hyphens. -/
theorem splitOn_slug {s : String} (h : words s.toList ≠ []) :
    Text.splitOn '-' (slug s).toList = words s.toList := by
  have hwords : ∀ word ∈ words s.toList, ∀ c ∈ word, (c == '-') = false := by
    intro word hword c hc
    have hchar := (Text.ne_nil_of_mem_runsWithout hword).2 c hc
    refine beq_eq_false_iff_ne.mpr fun heq => ?_
    rw [heq] at hchar
    exact absurd hchar (by decide)
  unfold slug ofChars
  rw [String.toList_ofList]
  exact Text.splitWhere_join h hwords (beq_self_eq_true _)

end Slug

-- ====================================================== templates

namespace NamePiece

/-- What a piece of a template stands for in a shape. -/
def textIn (s : PathShape) : NamePiece → String
  | .text written => written
  | .field read => read s

/-- The template starts with the word, alone or with a hyphen behind. -/
def isLedBy (word : String) : List NamePiece → Bool
  | .text written :: rest =>
    (written == word && rest.isEmpty) || (word.toList ++ ['-']).isPrefixOf written.toList
  | _ => false

end NamePiece

namespace Rule

variable {r : Rule} {rules : List Rule} {s : PathShape}

theorem toList_render (r : Rule) (s : PathShape) :
    (r.render s).toList = r.template.flatMap fun piece => (piece.textIn s).toList := by
  have hgeneral : ∀ (pieces : List NamePiece) (name : String),
      (pieces.foldl (fun name piece => name ++ match piece with
          | .text written => written
          | .field read => read s) name).toList
        = name.toList ++ pieces.flatMap fun piece => (piece.textIn s).toList := by
    intro pieces
    induction pieces with
    | nil => simp
    | cons piece rest ih =>
        intro name
        rw [List.foldl_cons, ih, String.toList_append, List.flatMap_cons, List.append_assoc]
        cases piece <;> rfl
  exact hgeneral r.template ""

/-- A template that a word leads gives a text with this word in front. -/
theorem head?_words_render {word : String} (hword : Slug.IsWord word.toList)
    (h : NamePiece.isLedBy word r.template = true) :
    (Slug.words (r.render s).toList).head? = some word.toList := by
  rw [toList_render]
  unfold NamePiece.isLedBy at h
  split at h
  · next written rest heq =>
    rw [heq, List.flatMap_cons, NamePiece.textIn]
    rw [Bool.or_eq_true, Bool.and_eq_true, beq_iff_eq, List.isEmpty_iff,
      List.isPrefixOf_iff_prefix] at h
    rcases h with ⟨rfl, rfl⟩ | ⟨more, hmore⟩
    · rw [List.flatMap_nil, List.append_nil, Slug.words_of_isWord hword, List.head?_cons]
    · rw [← hmore, List.append_assoc, List.append_assoc, List.singleton_append,
        Slug.words_append_hyphen, Slug.words_of_isWord hword, List.singleton_append,
        List.head?_cons]
  · cases h

-- ====================================================== the rule that decides

/-- The rows for a method. -/
def ofMethod : Method → List Rule
  | .get => forGet
  | .post => forPost
  | .put => forPut
  | .patch => forPatch
  | .delete => forDelete
  | .head | .options | .trace => []

theorem method_of_mem_ofMethod {m : Method} (h : r ∈ ofMethod m) : r.method = some m := by
  have hall : ∀ r ∈ ofMethod m, r.method = some m := by cases m <;> decide
  exact hall r h

/-- A row for one method accepts no shape of another. -/
theorem first?_ofMethod_of_ne {m : Method} (hne : m ≠ s.method) :
    first? (ofMethod m) s = none := by
  refine List.find?_eq_none.mpr fun r hr happlies => hne ?_
  unfold applies at happlies
  rw [method_of_mem_ofMethod hr, Option.all_some, Bool.and_eq_true, beq_iff_eq] at happlies
  exact happlies.1

/-- Behind the rows for any method the rows of the shape's own method decide. -/
theorem first?_standard (hany : first? forAny s = none) :
    first? standard s = first? (ofMethod s.method) s := by
  have hblocks : first? standard s
      = (((((first? forAny s).or (first? (ofMethod .get) s)).or (first? (ofMethod .post) s)).or
          (first? (ofMethod .put) s)).or (first? (ofMethod .patch) s)).or
          (first? (ofMethod .delete) s) := by
    unfold first? standard
    simp only [List.find?_append]
    rfl
  rw [hblocks, hany, Option.none_or]
  -- a method without rows is left with none
  cases hmethod : s.method <;> simp [first?_ofMethod_of_ne, hmethod] <;> rfl

/-- The rows for any method leave a shape alone that has segments and does not address the
caller. -/
theorem first?_forAny_eq_none (hcount : s.segmentCount ≠ 0)
    (hentity : s.isCurrentEntity = false) : first? forAny s = none := by
  simp [first?, forAny, applies, hcount, hentity]

/-- A method with rows has one that accepts every shape, so one of its rows decides. -/
theorem exists_first?_ofMethod (h : ofMethod s.method ≠ []) :
    ∃ r ∈ ofMethod s.method, first? (ofMethod s.method) s = some r := by
  have hlast : ∃ r ∈ ofMethod s.method, r.method = some s.method ∧ r.test = always := by
    cases hmethod : s.method with
    | get => exact ⟨forGet[11], by simp [ofMethod, forGet], rfl, rfl⟩
    | post => exact ⟨forPost[5], by simp [ofMethod, forPost], rfl, rfl⟩
    | put => exact ⟨forPut[5], by simp [ofMethod, forPut], rfl, rfl⟩
    | patch => exact ⟨forPatch[5], by simp [ofMethod, forPatch], rfl, rfl⟩
    | delete => exact ⟨forDelete[6], by simp [ofMethod, forDelete], rfl, rfl⟩
    | head | options | trace => exact absurd (by rw [hmethod, ofMethod]) h
  obtain ⟨r, hr, hmethod, htest⟩ := hlast
  have happlies : r.applies s = true := by
    unfold applies
    rw [hmethod, htest]
    simp [always]
  obtain ⟨found, hfound⟩ := Option.isSome_iff_exists.mp
    (List.find?_isSome (p := fun r : Rule => r.applies s) |>.mpr ⟨r, hr, happlies⟩)
  exact ⟨found, List.mem_of_find?_eq_some hfound, hfound⟩

theorem isLedBy_of_mem_forGet (h : r ∈ forGet) :
    NamePiece.isLedBy "get" r.template = true ∨ NamePiece.isLedBy "list" r.template = true := by
  have hall : ∀ r ∈ forGet, NamePiece.isLedBy "get" r.template = true
      ∨ NamePiece.isLedBy "list" r.template = true := by decide
  exact hall r h

theorem isLedBy_of_mem_forDelete (h : r ∈ forDelete) :
    NamePiece.isLedBy "delete" r.template = true := by
  have hall : ∀ r ∈ forDelete, NamePiece.isLedBy "delete" r.template = true := by decide
  exact hall r h

end Rule

-- ====================================================== base names

namespace Rule

/-- A rule with a word in front gives a name, and the name has this word in front. -/
theorem nameOf?_of_isLedBy {word : String} (hfirst : first? rules s = some r)
    (hword : Slug.IsWord word.toList) (hled : NamePiece.isLedBy word r.template = true) :
    ∃ name, nameOf? rules s = some (name, r.name)
      ∧ (Text.splitOn '-' name.toList).head? = some word.toList := by
  have hhead := head?_words_render (s := s) hword hled
  have hwords : Slug.words (r.render s).toList ≠ [] := by
    intro hnil
    rw [hnil] at hhead
    cases hhead
  have hsplit := Slug.splitOn_slug hwords
  have hne : slug (r.render s) ≠ "" := by
    intro hempty
    rw [hempty] at hsplit
    -- the empty text has one piece, which no word of a slug is
    have hpiece : [] ∈ Slug.words (r.render s).toList := by
      rw [← hsplit]
      exact List.mem_singleton_self _
    exact (Text.ne_nil_of_mem_runsWithout hpiece).1 rfl
  refine ⟨slug (r.render s), ?_, ?_⟩
  · unfold nameOf?
    rw [hfirst]
    exact if_neg hne
  · rw [hsplit, hhead]

/-- The words the standard rules put in front of what a method does. -/
def leads : Method → List String
  | .get => ["get", "list"]
  | .delete => ["delete"]
  | .post | .put | .patch | .head | .options | .trace => []

/-- What reads or deletes something that the rules for any method leave alone is named for doing
so. -/
theorem nameOf?_standard_of_leads (hany : first? forAny s = none) (hleads : leads s.method ≠ []) :
    ∃ name rule, nameOf? standard s = some (name, rule)
      ∧ ∃ word ∈ leads s.method, (Text.splitOn '-' name.toList).head? = some word.toList := by
  have hrows : ofMethod s.method ≠ [] := by
    cases hmethod : s.method with
    | get | post | put | patch | delete => exact List.cons_ne_nil _ _
    | head | options | trace => exact absurd (by rw [hmethod, leads]) hleads
  obtain ⟨r, hr, hfirst⟩ := exists_first?_ofMethod hrows
  rw [← first?_standard hany] at hfirst
  have hlead : ∃ word ∈ leads s.method, Slug.IsWord word.toList
      ∧ NamePiece.isLedBy word r.template = true := by
    cases hmethod : s.method with
    | get =>
        rw [hmethod] at hr
        rcases isLedBy_of_mem_forGet hr with hled | hled
        · exact ⟨"get", by decide, Slug.IsWord.of_all (by decide) (by decide), hled⟩
        · exact ⟨"list", by decide, Slug.IsWord.of_all (by decide) (by decide), hled⟩
    | delete =>
        rw [hmethod] at hr
        exact ⟨"delete", by decide, Slug.IsWord.of_all (by decide) (by decide),
          isLedBy_of_mem_forDelete hr⟩
    | post | put | patch | head | options | trace =>
        exact absurd (by rw [hmethod, leads]) hleads
  obtain ⟨word, hmem, hword, hled⟩ := hlead
  obtain ⟨name, hname, hhead⟩ := nameOf?_of_isLedBy hfirst hword hled
  exact ⟨name, r.name, hname, word, hmem, hhead⟩

end Rule

/-- What reads or deletes is named for doing so. Whatever vocabulary, path, tag and id there are: if
the path has segments and the last of them does not address the caller, the standard rules name a
reading operation `get` or `list` something, and a deleting one `delete` something, and never by its
id. There is a name if no fragment of the vocabulary is empty. -/
theorem Namer.base_name_led_by_verb (t : Tables) (collections : List String) {op : Operation}
    {last : String} (hmethod : op.method = .get ∨ op.method = .delete)
    (hlast : op.segments.getLast? = some last) (hentity : t.isCurrentEntity last = false) :
    ("" ∉ t.wordFragments →
        ∃ name, (Namer.mk t Rule.standard).baseName collections op = .ok name)
      ∧ ∀ name, (Namer.mk t Rule.standard).baseName collections op = .ok name →
        ∃ rule word : String,
          (Namer.mk t Rule.standard).ruleName? collections op = .ok (some (name, rule))
            ∧ (Text.splitOn '-' name.toList).head? = some word.toList
            ∧ (op.method = .get → word = "get" ∨ word = "list")
            ∧ (op.method = .delete → word = "delete") := by
  refine ⟨fun hfragments => exists_baseName_eq_ok (n := ⟨t, Rule.standard⟩) hfragments
    collections op, fun name h => ?_⟩
  obtain ⟨found?, hrule, hbase⟩ := Except.bind_eq_ok_iff.mp h
  obtain ⟨shape, hshape, hnameOf⟩ := Except.map_eq_ok_iff.mp hrule
  have hspec := Tables.shape_spec hshape
  have hcount : shape.segmentCount ≠ 0 := by
    rw [hspec.segmentCount]
    intro hzero
    rw [List.length_eq_zero_iff.mp hzero] at hlast
    cases hlast
  have hcaller : shape.isCurrentEntity = false := by
    rw [hspec.isCurrentEntity, hlast, Option.getD_some, hentity, Bool.and_false]
  have hleads : Rule.leads shape.method ≠ [] := by
    rw [hspec.method]
    rcases hmethod with h | h <;> rw [h] <;> exact List.cons_ne_nil _ _
  obtain ⟨ruled, rule, hruled, word, hword, hhead⟩ :=
    Rule.nameOf?_standard_of_leads (Rule.first?_forAny_eq_none hcount hcaller) hleads
  -- the name is that of the rule, since there is one
  obtain rfl : found? = some (ruled, rule) := hnameOf.symm.trans hruled
  obtain rfl : ruled = name := Except.ok.inj hbase
  rw [hspec.method] at hword
  refine ⟨rule, word, hrule, hhead, ?_, ?_⟩
  · intro hget
    rw [hget] at hword
    exact List.mem_pair.mp hword
  · intro hdelete
    rw [hdelete] at hword
    exact List.mem_singleton.mp hword

/-- Reading what a path calls a deletion, under a tag and an id that say something else again. -/
def deletedTags : Operation :=
  { tag := "CreateTasks", method := .get, path := "/tasks/{taskId}/deletetags",
    id := "PostTaskTags", methodName := "PostTaskTags" }

/-- It is named for reading all the same. -/
theorem Namer.deletedTags_led_by_verb :
    deletedTags.method = .get ∧ deletedTags.segments.getLast? = some "deletetags"
      ∧ Tables.standard.isCurrentEntity "deletetags" = false
      ∧ ∃ name rule word : String,
        (Namer.mk .standard Rule.standard).baseName [] deletedTags = .ok name
          ∧ (Namer.mk .standard Rule.standard).ruleName? [] deletedTags = .ok (some (name, rule))
          ∧ (Text.splitOn '-' name.toList).head? = some word.toList
          ∧ (deletedTags.method = .get → word = "get" ∨ word = "list")
          ∧ (deletedTags.method = .delete → word = "delete") := by
  have hlast : deletedTags.segments.getLast? = some "deletetags" := by decide
  have hentity : Tables.standard.isCurrentEntity "deletetags" = false := by decide
  obtain ⟨hanswers, hall⟩ :=
    Namer.base_name_led_by_verb .standard [] (Or.inl rfl) hlast hentity
  obtain ⟨name, hname⟩ := hanswers (by decide)
  obtain ⟨rule, word, hled⟩ := hall name hname
  exact ⟨rfl, hlast, hentity, name, rule, word, hname, hled⟩

end ApiCommands
