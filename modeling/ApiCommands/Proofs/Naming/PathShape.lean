/-
Shapes of operations, and when there is one.

Most texts of a shape are written in lower case with hyphens, and for that the
search for fragments has to end. If no fragment is empty it always does
(`Tables.exists_kebab_eq_ok`), so every operation has a shape
(`Tables.exists_shape_eq_ok`). What is read off the path alone is the same in any
case (`Tables.shape_spec`).
-/
import ApiCommands.Naming.PathShape
import ApiCommands.Proofs.Naming.Words

namespace ApiCommands

/-- The literals of the path. -/
def Operation.literals (op : Operation) : List String :=
  op.segments.filter (!PathTemplate.isParam ·)

namespace Tables

open ApiCommands.Except (exists_bind_eq_ok)

variable {t : Tables} {name : String} {collections : List String} {op : Operation}
  {shape : PathShape}

-- ====================================================== texts that are written

/-- A text is written as a name exactly if its characters are written as those of the name. -/
theorem kebab_eq_ok_iff {s : String} :
    t.kebab s = .ok name ↔ Words.kebab t s.toList = .ok name.toList := by
  unfold kebab
  rw [Except.map_eq_ok_iff]
  constructor
  · rintro ⟨written, hwritten, rfl⟩
    rw [hwritten, String.toList_ofList]
  · intro h
    exact ⟨_, h, String.ofList_toList⟩

/-- If no fragment is empty, every text is written. -/
theorem exists_kebab_eq_ok (hfragments : "" ∉ t.wordFragments) (s : String) :
    ∃ written, t.kebab s = .ok written := by
  obtain ⟨written, hwritten⟩ := Words.exists_kebab_eq_ok hfragments s.toList
  exact ⟨_, Except.map_eq_ok_iff.mpr ⟨written, hwritten, rfl⟩⟩

-- ====================================================== shapes

/-- What a shape says of its operation, as far as it is read off the path. -/
structure IsShapeOf (t : Tables) (op : Operation) (shape : PathShape) : Prop where
  method : shape.method = op.method
  segmentCount : shape.segmentCount = op.segments.length
  lastIsParam : shape.lastIsParam = PathTemplate.isParam (op.segments.getLast?.getD "")
  isCurrentEntity : shape.isCurrentEntity
    = (op.segments.getLast?.getD "" != "" && t.isCurrentEntity (op.segments.getLast?.getD ""))
  /-- Without a parameter at its end a path has none that is like a name. -/
  isNameParam : shape.lastIsParam = false → shape.isNameParam = false
  resource : t.resourceName (op.literals.getLast?.getD "") = .ok shape.resource
  resourceIsPlural : shape.resourceIsPlural = t.isPlural shape.resource
  tagMatches : ∃ tagName, t.kebab (t.expandSegment op.tag) = .ok tagName
    ∧ shape.tagMatches = (Text.lowered shape.resource == Text.lowered tagName)

theorem shape_spec (h : t.shape collections op = .ok shape) : t.IsShapeOf op shape := by
  unfold Tables.shape at h
  obtain ⟨resource, hresource, h⟩ := Except.bind_eq_ok_iff.mp h
  obtain ⟨tagName, htagName, h⟩ := Except.bind_eq_ok_iff.mp h
  obtain ⟨_, -, h⟩ := Except.bind_eq_ok_iff.mp h
  obtain ⟨_, -, h⟩ := Except.bind_eq_ok_iff.mp h
  obtain ⟨_, -, h⟩ := Except.bind_eq_ok_iff.mp h
  obtain ⟨_, -, h⟩ := Except.bind_eq_ok_iff.mp h
  obtain ⟨_, -, h⟩ := Except.bind_eq_ok_iff.mp h
  obtain ⟨_, -, h⟩ := Except.bind_eq_ok_iff.mp h
  obtain rfl := Except.ok.inj h
  refine ⟨rfl, rfl, rfl, rfl, fun hlast => ?_, hresource, rfl, tagName, htagName, rfl⟩
  dsimp only at hlast ⊢
  rw [hlast, if_neg Bool.false_ne_true]
  rfl

/-- A text read off the name of a literal is there, if no fragment is empty. -/
theorem exists_map_resourceName_eq_ok {α : Type} (hfragments : "" ∉ t.wordFragments)
    (f : String → α) (literal : String) : ∃ a, f <$> t.resourceName literal = .ok a := by
  obtain ⟨written, hwritten⟩ := exists_kebab_eq_ok hfragments (t.expandSegment literal)
  exact ⟨_, Except.map_eq_ok_iff.mpr ⟨written, hwritten, rfl⟩⟩

theorem exists_ownerName_eq_ok (hfragments : "" ∉ t.wordFragments) (literals : List String) :
    ∃ owner, t.ownerName literals = .ok owner := by
  unfold ownerName
  split
  · exact exists_map_resourceName_eq_ok hfragments singularize _
  · exact ⟨_, rfl⟩

/-- What an action is done to has a name, if no fragment is empty. -/
theorem exists_actionParent_eq_ok (hfragments : "" ∉ t.wordFragments) (segments : List String) :
    ∃ parent, t.actionParent segments = .ok parent := by
  unfold actionParent
  split
  · split
    · exact ⟨_, rfl⟩
    · exact exists_map_resourceName_eq_ok hfragments singularize _
  · exact ⟨_, rfl⟩

theorem exists_actionName_eq_ok (hfragments : "" ∉ t.wordFragments) (segments : List String)
    (isAction : Bool) (resource : String) :
    ∃ action, t.actionName segments isAction resource = .ok action := by
  unfold actionName
  split
  · obtain ⟨parent, hparent⟩ := exists_actionParent_eq_ok hfragments segments
    exact ⟨_, Except.map_eq_ok_iff.mpr ⟨parent, hparent, rfl⟩⟩
  · exact ⟨_, rfl⟩

/-- Every operation has a shape, if no fragment is empty. -/
theorem exists_shape_eq_ok (hfragments : "" ∉ t.wordFragments) (collections : List String)
    (op : Operation) : ∃ shape, t.shape collections op = .ok shape := by
  have hwritten : ∀ s, ∃ written, t.kebab s = .ok written := exists_kebab_eq_ok hfragments
  have hresource := hwritten (t.expandSegment (op.literals.getLast?.getD ""))
  have htag := hwritten (t.expandSegment op.tag)
  have hraw := hwritten (op.literals.getLast?.getD "")
  have howner := exists_ownerName_eq_ok hfragments op.literals
  have hid := hwritten op.id
  unfold Tables.shape
  refine exists_bind_eq_ok hresource fun resource => exists_bind_eq_ok htag fun _ =>
    exists_bind_eq_ok hraw fun _ => exists_bind_eq_ok howner fun _ => ?_
  refine exists_bind_eq_ok (exists_actionName_eq_ok hfragments _ _ resource) fun _ => ?_
  exact exists_bind_eq_ok (hwritten _) fun _ => exists_bind_eq_ok (hwritten _) fun _ =>
    exists_bind_eq_ok hid fun _ => ⟨_, rfl⟩

end Tables

end ApiCommands
