/-
Best effort: what references come to.

# One reference

A reference comes to a place of the document, or to nothing and a note that says
whether it points elsewhere or dangles (`Api.BestEffort`). There is one
exception. A segment at a list is taken for an index if all its characters look
like digits, and not all such characters are digits; nor are rows of digits read
beyond a length. Where a reference comes to a list at a segment like this
(`Api.Misreads`), there is no answer.

# Chains

A node is followed through one reference after the other, each of them no
better and no worse than a single one. So following has an answer exactly if no
reference that is met is misread, and the mapping at its end is the node it
started from or a place of the document (`Chain.eq_or_exists_target?`).
-/
import ApiCommands.Proofs.Schema.Visit

namespace ApiCommands

namespace Api

variable {a : Api} {node s : Value} {ref : String} {refs : List String}

-- ====================================================== one reference

/-- A reference comes to a place of the document, or to nothing with a note why. -/
inductive BestEffort (a : Api) (ref : String) : Noted (Option Value) → Prop
  | place {path : List Pointer.Move} {node : Value}
      (h : Pointer.target? path a.document = some node) : BestEffort a ref (pure (some node))
  | dangling (h : ∃ written, ref.toList = '#' :: '/' :: written) :
      BestEffort a ref (do
        Noted.note (.danglingReference ref)
        return none)
  | external (h : ¬∃ written, ref.toList = '#' :: '/' :: written) :
      BestEffort a ref (do
        Noted.note (.externalReference ref)
        return none)

theorem resolve_of_misreads (h : a.Misreads ref) :
    a.resolve ref = Noted.fail (.fault .badNumeral) := by
  obtain ⟨written, href, hstops⟩ := h
  rw [resolve_internal href, Pointer.follow_eq_error_iff.mpr ⟨rfl, hstops⟩]
  rfl

theorem bestEffort_of_not_misreads (h : ¬a.Misreads ref) : a.BestEffort ref (a.resolve ref) := by
  by_cases href : ∃ written, ref.toList = '#' :: '/' :: written
  · obtain ⟨written, hwritten⟩ := href
    rw [resolve_internal hwritten]
    cases hfollow : Pointer.follow (Pointer.segments written) a.document with
    | error fault =>
        exact absurd ⟨written, hwritten, (Pointer.follow_eq_error_iff.mp hfollow).2⟩ h
    | ok found =>
        cases found with
        | none => exact .dangling ⟨written, hwritten⟩
        | some node =>
            obtain ⟨path, hplace⟩ := Pointer.exists_target?_of_follow hfollow
            exact .place hplace
  · rw [resolve_external (not_exists.mp href)]
    exact .external href

theorem exists_outcome_resolve_iff :
    (∃ found, (a.resolve ref).outcome = .ok found) ↔ ¬a.Misreads ref := by
  constructor
  · rintro ⟨found, hfound⟩ hmisreads
    rw [resolve_of_misreads hmisreads] at hfound
    cases hfound
  · intro h
    cases houtcome : (a.resolve ref).outcome with
    | ok found => exact ⟨found, rfl⟩
    | error e => exact absurd (resolve_eq_error_iff.mp houtcome).2 h

-- ====================================================== chains of references

/-- The end of a chain is its start or a place of the document. -/
theorem Chain.eq_or_exists_target? (h : a.Chain node refs s) :
    s = node ∨ ∃ path, Pointer.target? path a.document = some s := by
  induction h with
  | here => exact Or.inl rfl
  | follow _ hresolve _ ih =>
      rcases ih with rfl | hlater
      · exact Or.inr (exists_place_of_resolve hresolve)
      · exact Or.inr hlater

/-- The references that are met from the visit on can be read exactly if none is misread. -/
theorem readableFrom_iff_not_misreads {v : Visit} :
    a.ReadableFrom v ↔ ∀ w, Relation.ReflTransGen a.Follows v w →
      ∀ ref, w.node.ref? = some ref → ref ∉ w.seen → ¬a.Misreads ref := by
  unfold ReadableFrom ReadableAt
  simp only [exists_outcome_resolve_iff]

/-- References are followed as well as can be, unless one is misread: then that is the answer. A
single reference comes to a place of the document, or to nothing with a note. A node is followed to
an answer exactly if no reference that is met on the way is misread, whatever other references
count as seen. The answer is nothing or a mapping without a reference, which is the node itself or
a place of the document. -/
theorem resolution_best_effort_iff (a : Api) :
    (∀ ref,
        (a.Misreads ref → a.resolve ref = Noted.fail (.fault .badNumeral))
        ∧ (¬a.Misreads ref → a.BestEffort ref (a.resolve ref)))
      ∧ ∀ node seen,
        ((∃ found, (a.deref node seen).outcome = .ok found)
          ↔ ∀ w, Relation.ReflTransGen a.Follows ⟨seen, node⟩ w →
            ∀ ref, w.node.ref? = some ref → ref ∉ w.seen → ¬a.Misreads ref)
        ∧ (∀ e, (a.deref node seen).outcome = .error e → e = .fault .badNumeral)
        ∧ ∀ s, (a.deref node seen).outcome = .ok (some s) →
          s.isMap = true ∧ s.ref? = none
            ∧ (s = node ∨ ∃ path, Pointer.target? path a.document = some s) := by
  refine ⟨fun ref => ⟨resolve_of_misreads, bestEffort_of_not_misreads⟩, fun node seen => ⟨?_, ?_, ?_⟩⟩
  · rw [← readableFrom_iff_not_misreads]
    exact exists_outcome_derefWith_iff (.start a ⟨seen, node⟩)
  · exact fun e he => eq_badNumeral_of_derefWith he
  · intro s hs
    obtain ⟨refs, hchain⟩ := leads_of_derefWith hs
    obtain ⟨href, hmap⟩ := hchain.end_spec
    exact ⟨hmap, href, hchain.eq_or_exists_target?⟩

end Api

-- ====================================================== digits of another script

namespace OtherDigits

def item : Value := .map [(.text "type", .text "string")]

/-- A document with a list. -/
def api : Api := .ofDocument (.map [(.text "items", .list [item])])

end OtherDigits

set_option maxRecDepth 4000 in
/-- The Arabic nought is a digit, and it is read as the index it is. A raised two only looks like
one, and the reference has no answer. -/
theorem Api.otherDigits_read_or_misread :
    OtherDigits.api.resolve "#/items/٠" = pure (some OtherDigits.item)
      ∧ OtherDigits.api.resolve "#/items/²" = Noted.fail (.fault .badNumeral) := by
  have hread : OtherDigits.api.resolve "#/items/٠" = pure (some OtherDigits.item) := by cbv
  have hmisread : OtherDigits.api.Misreads "#/items/²" := by
    have href : "#/items/²".toList = '#' :: '/' :: "items/²".toList := by decide
    have hlist : Pointer.follow ["items".toList] OtherDigits.api.document
        = .ok (some (.list [OtherDigits.item])) :=
      Pointer.follow_cons_of_some (Pointer.step_toList_map "items" _)
    have hraised : Pointer.Unreadable ['²'] := by
      refine ⟨List.cons_ne_nil _ _, ?_, Or.inr ⟨'²', List.mem_cons_self, by decide⟩⟩
      rw [List.forall_mem_singleton]
      decide
    exact ⟨_, href, _, _, [], _, by decide +kernel, hlist, hraised⟩
  obtain ⟨hsingle, -⟩ := Api.resolution_best_effort_iff OtherDigits.api
  exact ⟨hread, (hsingle "#/items/²").1 hmisread⟩

end ApiCommands
