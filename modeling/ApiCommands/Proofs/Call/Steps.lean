/-
Steps in an expanded path.

# Steps

A piece `.` or `..` of a path is no name: the first stays where it is, the second
goes up. A client takes the steps of a path before it sends it. What it sends
has none (`not_hasSteps_normalPath`), so a path is sent as it is exactly if it has
none (`normalPath_eq_self_iff`).

# Pieces of a filled template

What stands for a placeholder has no slash. So the pieces of a filled template
are its segments, each of them filled (`splitOn_flatMap_textWith`).

# Points are not escaped

A point is unreserved, and so `.` and `..` are their own escapes, and of nothing
else. Every value that is no text is written with more than points. So a
placeholder that is a segment becomes a step where its value is one of these two
texts, and nowhere else (`isStep_escapesOf_iff`).
-/
import ApiCommands.Call.Address
import ApiCommands.Proofs.Call.Expansion
import ApiCommands.Proofs.Text.Pieces

namespace ApiCommands

namespace Address

variable {path base rest piece : List Char} {taken pieces : List (List Char)}

-- ====================================================== steps

/-- The piece of a path is a step, and not a name. -/
def IsStep (piece : List Char) : Prop := piece = ['.'] ∨ piece = ['.', '.']

/-- Some piece of the path is a step. -/
def HasSteps (path : List Char) : Prop := ∃ piece ∈ Text.splitOn '/' path, IsStep piece

theorem hasSteps_iff_contains : HasSteps path ↔ ((Text.splitOn '/' path).contains ['.']
    || (Text.splitOn '/' path).contains ['.', '.']) = true := by
  unfold HasSteps IsStep
  rw [Bool.or_eq_true, List.contains_iff_mem, List.contains_iff_mem]
  simp only [and_or_left, exists_or, exists_eq_right]

theorem not_hasSteps_nil : ¬HasSteps [] := hasSteps_iff_contains.not.mpr (by decide)

/-- On either side of a slash a path has its own steps. -/
theorem hasSteps_append_cons : HasSteps (base ++ '/' :: rest) ↔ HasSteps base ∨ HasSteps rest := by
  have hsplit : Text.splitOn '/' (base ++ '/' :: rest)
      = Text.splitOn '/' base ++ Text.splitOn '/' rest := Text.splitWhere_append rfl base rest
  unfold HasSteps
  simp only [hsplit, List.mem_append, or_and_right, exists_or]

/-- What is left of a path was there, and it is no step. -/
theorem mem_takeSteps (h : piece ∈ takeSteps taken pieces) :
    piece ∈ taken ∨ piece ∈ pieces ∧ ¬IsStep piece := by
  induction pieces generalizing taken with
  | nil => exact Or.inl h
  | cons first others ih =>
      rw [takeSteps] at h
      split at h
      · exact (ih h).imp_right (And.imp_left (List.mem_cons_of_mem _))
      · next hstay =>
        split at h
        · refine (ih h).imp (fun hmem => ?_) (And.imp_left (List.mem_cons_of_mem _))
          split at hmem
          · exact hmem
          · exact List.mem_of_mem_tail hmem
        · next hup =>
          rcases ih h with hmem | ⟨hmem, hname⟩
          · rcases List.mem_cons.mp hmem with rfl | htaken
            · exact Or.inr ⟨List.mem_cons_self, not_or.mpr ⟨hstay, hup⟩⟩
            · exact Or.inl htaken
          · exact Or.inr ⟨List.mem_cons_of_mem _ hmem, hname⟩

/-- A path has no steps once they are taken. -/
theorem not_hasSteps_normalPath (path : List Char) : ¬HasSteps (normalPath path) := by
  unfold normalPath
  dsimp only
  split
  · have hleft : ∀ piece ∈ (takeSteps [] (Text.splitOn '/' path)).reverse,
        piece ∈ Text.splitOn '/' path ∧ ¬IsStep piece := fun piece hpiece =>
      (mem_takeSteps (List.mem_reverse.mp hpiece)).resolve_left List.not_mem_nil
    generalize (takeSteps [] (Text.splitOn '/' path)).reverse = left at hleft
    by_cases hnone : left = []
    · rw [hnone]
      exact not_hasSteps_nil
    · have hback : Text.splitOn '/' (Text.join ['/'] left) = left :=
        Text.splitWhere_join hnone
          (fun piece hpiece => Text.not_isSep_of_mem_splitWhere (hleft piece hpiece).1) rfl
      rintro ⟨piece, hpiece, hstep⟩
      rw [hback] at hpiece
      exact (hleft piece hpiece).2 hstep
  · next hnone => exact hasSteps_iff_contains.not.mpr hnone

/-- Taking the steps changes a path exactly if it has some. -/
theorem normalPath_eq_self_iff : normalPath path = path ↔ ¬HasSteps path := by
  constructor
  · intro h
    rw [← h]
    exact not_hasSteps_normalPath path
  · exact fun h => if_neg (hasSteps_iff_contains.not.mp h)

end Address

open Address (IsStep HasSteps normalPath)

-- ====================================================== values that are steps

/-- Only the texts of a step are written as one. -/
theorem Value.isStep_iff_of_argumentText [Text.Halves] {v : Value} {written : String}
    (h : v.argumentText = .ok written) :
    IsStep written.toList ↔ v = text "." ∨ v = text ".." := by
  by_cases htext : ∃ s, v = text s
  · obtain ⟨s, rfl⟩ := htext
    obtain rfl : s = written := Except.ok.inj h
    have hstep : ∀ step : String, s.toList = step.toList ↔ text s = text step := fun step =>
      String.toList_inj.trans ⟨congrArg text, fun h => by cases h; rfl⟩
    exact or_congr (hstep ".") (hstep "..")
  · rw [not_exists] at htext
    refine iff_of_false (fun hstep => ?_) (not_or.mpr ⟨htext _, htext _⟩)
    obtain ⟨c, hc, hne⟩ := exists_ne_point_of_argumentText htext h
    rcases hstep with hstep | hstep
    · rw [hstep] at hc
      exact hne (List.mem_singleton.mp hc)
    · rw [hstep, List.mem_pair, or_self] at hc
      exact hne hc

/-- The arguments give a step for the name. -/
def Arguments.GivesStep (args : Arguments) (name : String) : Prop :=
  args.Gives name (.text ".") ∨ args.Gives name (.text "..")

namespace PathTemplate

variable {args : Arguments} {template name path : String} {v : Value} {f : String → List Char}

/-- Points are not escaped, so the escapes of an argument are a step where it is one. -/
theorem isStep_escapesOf_iff [Text.Halves] (h : args.Gives name v)
    (hescaped : v.escaped = .ok (escapesOf args name)) :
    IsStep (escapesOf args name) ↔ args.GivesStep name := by
  have hsame : ∀ s step : List Char, Text.Percent.encode step = step →
      (Text.Percent.encode s = step ↔ s = step) := by
    intro s step hstep
    conv_lhs => rw [← hstep]
    exact Text.Percent.encode_inj
  obtain ⟨written, hwritten, -, hescapes⟩ := Value.escaped_eq_ok_iff.mp hescaped
  have hgiven := Arguments.given?_eq_some_iff.mpr h
  unfold Arguments.GivesStep
  rw [← Arguments.given?_eq_some_iff, ← Arguments.given?_eq_some_iff, hgiven, Option.some.injEq,
    Option.some.injEq, ← Value.isStep_iff_of_argumentText hwritten, hescapes]
  exact or_congr (hsame _ ['.'] (by decide)) (hsame _ ['.', '.'] (by decide))

theorem slash_not_mem_escapesOf [Text.Halves] (args : Arguments) (name : String) :
    '/' ∉ escapesOf args name := by
  obtain ⟨s, hs⟩ := exists_escapesOf_eq_encode args name
  rw [hs]
  exact fun h => absurd (Text.Percent.not_mayDelimit_of_mem_encode h) (by decide)

-- ====================================================== segments of a template

/-- The segments of a template: its parts between slashes. -/
def partSegments (template : String) : List (List TemplatePart) :=
  (parts template.toList).splitOn (.literal '/')

/-- Every segment is one placeholder, or text that is no step. -/
def HasPlainSegments (template : String) : Prop :=
  ∀ segment ∈ partSegments template,
    (∃ name, segment = [.placeholder name]) ∨ ∃ s, segment = s.map .literal ∧ ¬IsStep s

/-- The segments have all parts but the slashes. -/
theorem flatten_partSegments (template : String) :
    (partSegments template).flatten
      = (parts template.toList).filter (· != .literal '/') := by
  unfold partSegments List.splitOn
  generalize parts template.toList = ps
  induction ps with
  | nil => rfl
  | cons part rest ih =>
      rw [List.splitOnP_cons_eq_if_modifyHead]
      by_cases hpart : part = .literal '/'
      · simp [hpart, ih]
      · cases hsegments : rest.splitOnP (· == .literal '/') with
        | nil => exact absurd hsegments (List.splitOnP_ne_nil _ _)
        | cons segment others =>
            rw [hsegments] at ih
            simp [hpart, ← ih]

/-- Each placeholder stands in one of them. -/
theorem mem_placeholders_iff : name ∈ placeholders template
    ↔ ∃ segment ∈ partSegments template, .placeholder name.toList ∈ segment := by
  rw [← List.mem_flatten, flatten_partSegments, List.mem_filter, placeholders_eq,
    List.mem_filterMap]
  constructor
  · rintro ⟨part, hpart, hname⟩
    cases part with
    | literal c => cases hname
    | placeholder written =>
        obtain rfl := Option.some.inj hname
        rw [String.toList_ofList]
        exact ⟨hpart, by simp⟩
  · rintro ⟨hpart, -⟩
    exact ⟨_, hpart, congrArg some String.ofList_toList⟩

theorem splitOn_append {front : List Char} (h : '/' ∉ front) (s : List Char) :
    (front ++ s).splitOn '/' = (s.splitOn '/').modifyHead (front ++ ·) := by
  unfold List.splitOn
  induction front with
  | nil => exact congrFun List.modifyHead_id.symm _
  | cons c rest ih =>
      rw [List.mem_cons, not_or] at h
      rw [List.cons_append, List.splitOnP_cons_eq_if_modifyHead, ih h.2,
        if_neg (by simpa using Ne.symm h.1), List.modifyHead_modifyHead]
      rfl

/-- The pieces of a filled template are its segments, each of them filled. -/
theorem splitOn_textWith (h : ∀ name, '/' ∉ f name) (template : String) :
    (textWith f template).splitOn '/'
      = (partSegments template).map (·.flatMap (TemplatePart.textWith f)) := by
  unfold textWith partSegments
  generalize parts template.toList = ps
  induction ps with
  | nil => rfl
  | cons part rest ih =>
      rw [List.flatMap_cons]
      by_cases hslash : part = .literal '/'
      · rw [hslash, TemplatePart.textWith, List.singleton_append]
        unfold List.splitOn at ih ⊢
        rw [List.splitOnP_cons_eq_if_modifyHead, List.splitOnP_cons_eq_if_modifyHead,
          if_pos (beq_self_eq_true _), if_pos (beq_self_eq_true _), ih]
        rfl
      · -- nothing of this part ends a piece, so it goes in front of the first one
        have hpart : '/' ∉ part.textWith f := by
          cases part with
          | literal c => exact fun hc => hslash (congrArg _ (List.mem_singleton.mp hc).symm)
          | placeholder name => exact h (String.ofList name)
        have hfirst : (part :: rest).splitOn (.literal '/')
            = (rest.splitOn (.literal '/')).modifyHead (List.cons part) := by
          unfold List.splitOn
          rw [List.splitOnP_cons_eq_if_modifyHead, if_neg (by simpa using hslash)]
        rw [splitOn_append hpart, ih, hfirst]
        cases rest.splitOn (.literal '/') <;> rfl

-- ====================================================== steps of an expanded path

/-- Where segments are plain, the steps of a filled template are those of placeholders. -/
theorem hasSteps_textWith_iff (hplain : HasPlainSegments template) (h : ∀ name, '/' ∉ f name) :
    HasSteps (textWith f template) ↔ ∃ name ∈ placeholders template, IsStep (f name) := by
  unfold HasSteps
  rw [Text.splitOn_eq_splitOn, splitOn_textWith h]
  constructor
  · rintro ⟨piece, hpiece, hstep⟩
    obtain ⟨segment, hsegment, rfl⟩ := List.mem_map.mp hpiece
    rcases hplain segment hsegment with ⟨name, rfl⟩ | ⟨s, rfl, hs⟩
    · refine ⟨String.ofList name, mem_placeholders_iff.mpr ⟨_, hsegment, ?_⟩, ?_⟩
      · rw [String.toList_ofList]
        exact List.mem_cons_self
      · rwa [List.flatMap_singleton] at hstep
    · have hsame : (s.map TemplatePart.literal).flatMap (TemplatePart.textWith f) = s := by
        rw [List.flatMap_map]
        exact List.flatMap_singleton' s
      rw [hsame] at hstep
      exact absurd hstep hs
  · rintro ⟨name, hname, hstep⟩
    obtain ⟨segment, hsegment, hmem⟩ := mem_placeholders_iff.mp hname
    rcases hplain segment hsegment with ⟨written, rfl⟩ | ⟨s, rfl, -⟩
    · refine ⟨_, List.mem_map.mpr ⟨_, hsegment, rfl⟩, ?_⟩
      rw [List.mem_singleton, TemplatePart.placeholder.injEq] at hmem
      rwa [List.flatMap_singleton, TemplatePart.textWith, ← hmem, String.ofList_toList]
    · obtain ⟨c, -, hc⟩ := List.mem_map.mp hmem
      cases hc

theorem exists_textWith_eq_cons (h : template.toList.head? = some '/') :
    ∃ rest, textWith f template = '/' :: rest := by
  obtain ⟨rest, hrest⟩ := List.head?_eq_some_iff.mp h
  unfold textWith
  rw [hrest, parts_of_none (if_neg (by decide)), List.flatMap_cons]
  exact ⟨_, rfl⟩

/-- A template of plain segments is expanded to a path with a step exactly if an argument that is
filled in is one. Behind a base without steps it is sent as it is in all other cases, and never in
this one. -/
theorem expand_hasSteps_iff [Text.Halves] (hplain : HasPlainSegments template)
    (h : expand template args = .ok path) :
    (HasSteps path.toList ↔ ∃ name ∈ placeholders template, args.GivesStep name)
      ∧ ∀ base, ¬HasSteps base → template.toList.head? = some '/' →
        (normalPath (base ++ path.toList) = base ++ path.toList
          ↔ ∀ name ∈ placeholders template, ¬args.GivesStep name) := by
  obtain ⟨rfl, hall⟩ := eq_textWith_of_expand h
  rw [String.toList_ofList]
  have hsteps : HasSteps (textWith (escapesOf args) template)
      ↔ ∃ name ∈ placeholders template, args.GivesStep name := by
    rw [hasSteps_textWith_iff hplain (slash_not_mem_escapesOf args)]
    refine exists_congr fun name => and_congr_right fun hname => ?_
    obtain ⟨v, hv, hescaped⟩ := hall name hname
    exact isStep_escapesOf_iff hv hescaped
  refine ⟨hsteps, fun base hbase hslash => ?_⟩
  obtain ⟨rest, hrest⟩ := exists_textWith_eq_cons (f := escapesOf args) hslash
  have hpath : HasSteps (base ++ '/' :: rest) ↔ HasSteps ('/' :: rest) := by
    rw [Address.hasSteps_append_cons, or_iff_right hbase, ← List.nil_append ('/' :: rest),
      Address.hasSteps_append_cons, or_iff_right Address.not_hasSteps_nil]
  rw [Address.normalPath_eq_self_iff, hrest, hpath, ← hrest, hsteps]
  simp only [not_exists, not_and]

end PathTemplate

-- ====================================================== a user called by two points

namespace ParentUser

def template : String := "/users/{id}"

def args : Arguments := [("id", .text "..")]

theorem gives_args : args.Gives "id" (.text "..") where
  last := ⟨[], "id", [], rfl, rfl, fun _ hentry => by cases hentry⟩
  notMissing := by decide

theorem writable_args : args.Writable where
  textsWhole := by
    intro entry hentry s hs
    rw [List.mem_singleton.mp hentry] at hs
    cases hs
    decide
  integersShort := fun entry hentry => by
    rw [List.mem_singleton.mp hentry]
    exact List.forall_mem_nil _

theorem hasPlainSegments : PathTemplate.HasPlainSegments template := by
  have hsegments : PathTemplate.partSegments template
      = ["".toList.map .literal, "users".toList.map .literal, [.placeholder "id".toList]] := by
    decide +kernel
  unfold PathTemplate.HasPlainSegments
  rw [hsegments, List.forall_mem_cons, List.forall_mem_cons, List.forall_mem_singleton]
  unfold IsStep
  exact ⟨Or.inr ⟨_, rfl, by decide⟩, Or.inr ⟨_, rfl, by decide⟩, Or.inl ⟨_, rfl⟩⟩

end ParentUser

/-- Two points are a step, and it leads out of all users. -/
theorem PathTemplate.parentUser_leaves_users :
    HasPlainSegments ParentUser.template
      ∧ expand ParentUser.template ParentUser.args = .ok "/users/.."
      ∧ HasSteps "/users/..".toList
      ∧ normalPath "/v1/users/..".toList = "/v1".toList := by
  have hnames : placeholders ParentUser.template = ["id"] := by decide +kernel
  have hall : ∀ name ∈ placeholders ParentUser.template, ¬ParentUser.args.Lacks name := by
    rw [hnames, List.forall_mem_singleton]
    exact fun hlacks => hlacks _ ParentUser.gives_args
  have hexpand := expand_eq_ok ParentUser.writable_args hall
  have hpath : String.ofList (textWith (escapesOf ParentUser.args) ParentUser.template)
      = "/users/.." := by decide +kernel
  rw [hpath] at hexpand
  obtain ⟨hsteps, -⟩ := expand_hasSteps_iff ParentUser.hasPlainSegments hexpand
  have hstep : HasSteps "/users/..".toList := by
    refine hsteps.mpr ⟨"id", ?_, Or.inr ParentUser.gives_args⟩
    rw [hnames]
    exact List.mem_cons_self
  exact ⟨ParentUser.hasPlainSegments, hexpand, hstep, by decide⟩

end ApiCommands
