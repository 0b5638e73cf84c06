/-
Walks through schemas come to an end.

# Four readers, one recursion

Four readers walk through the schemas of a document: one follows references, one
tells kinds, one collects the properties of a body, and one types schemas. All of
them go behind references that have not been seen and inside nodes, and the
third asks the second. A round of the recursion gives what all four make of the
answers for the visits that come next (`Catalog.round`).

# Rounds enough

Rounds nested as deep as a walk can go answer what the readers answer, whatever
is put below them (`iterate_round_eq`). The induction is on the number of rounds:
every visit that a round asks for has a lower rank (`Descends.rank_lt`). It is for
every list of fresh references that goes with the visit, since a reader carries
such a list and the rounds do not.

# What is asked for

A visit asks for another if the answer there makes a difference here
(`Catalog.Asks`). That is a step of a walk (`Asks.descends`), so what holds of
steps holds of the calls of the readers: the measure decreases, and on the way
down no reference is followed twice.
-/
import ApiCommands.Artifact.Model.Catalog
import ApiCommands.Naming.Tables.Standard
import ApiCommands.Proofs.Schema.Rounds
import Mathlib.Logic.Function.Iterate

namespace ApiCommands

/-- What the four readers answer at a visit. -/
structure Answer where
  target : Noted (Option Value)
  kind : Noted PropertyKind
  fields : Noted (List BodyProperty)
  type : Noted String

namespace Catalog

variable {c : Catalog} {v w : Visit} {schema : Value} {fresh : List String}

-- ====================================================== the type of a schema

/-- One round of typing a list by its items, and an object by its other properties. -/
def containerRound (b : Onward (Noted String)) (schema : Value) : Noted String :=
  if schema.type? = some "array" then
    match schema.get? "items" with
    | some items => do return withNull schema (TypeText.listOf (← b.inside items))
    | none => pure (withNull schema (TypeText.listOf TypeText.any))
  else
    match schema.get? "additionalProperties" with
    | some extra =>
      if extra.isMap then do return withNull schema (TypeText.mapOf (← b.inside extra))
      else pure (withNull schema (TypeText.mapOf TypeText.any))
    | none => pure (withNull schema (TypeText.mapOf TypeText.any))

/-- One round of typing a schema. -/
def typeRound (c : Catalog) (b : Onward (Noted String)) (schema : Value) : Noted String :=
  if !schema.isMap then pure TypeText.any
  else match schema.ref? with
  | some ref =>
    match c.target? ref with
    | none => do
      Noted.note (.untypedReference ref)
      return TypeText.any
    | some (className, target) =>
      if isObject target then pure className
      else if b.fresh ref then b.behind ref target
      else pure TypeText.any
  | none =>
    match schema.parts? with
    | some [part] => do return markNullable schema (← b.inside part)
    | some _ => pure (markNullable schema (TypeText.mapOf TypeText.any))
    | none =>
      if schema.has "oneOf" || schema.has "anyOf" then pure TypeText.any
      else match plainType schema with
        | .error fault => Noted.fail (.fault fault)
        | .ok (some type) => pure (withNull schema type)
        | .ok none => containerRound b schema

/-- The schema that a reference names stands in the document. -/
theorem holds_of_target? {ref className : String} {target : Value}
    (h : c.target? ref = some (className, target)) : c.api.Holds target := by
  unfold target? at h
  simp only [Option.bind_eq_bind, Option.bind_eq_some_iff, Option.pure_def, Option.some.injEq,
    Prod.mk.injEq] at h
  obtain ⟨name, -, -, -, -, rfl⟩ := h
  cases hschema : c.api.schemas.find? (.text name) with
  | some target => exact Api.holds_of_schema hschema
  | none =>
      refine ⟨?_, Value.sizeOf_null_le _⟩
      rw [Option.getD_none, Value.null, Value.references]
      exact List.nil_subset _

theorem containerRound_congr {a : Api} {b b' : Onward (Noted String)} (h : b.Agree a schema b') :
    containerRound b schema = containerRound b' schema := by
  unfold containerRound
  split
  · cases hitems : schema.get? "items" with
    | none => rfl
    | some items =>
        dsimp only
        rw [h.inside items (Value.inside_of_get? hitems)]
  · cases hextra : schema.get? "additionalProperties" with
    | none => rfl
    | some extra =>
        dsimp only
        rw [h.inside extra (Value.inside_of_get? hextra)]

theorem typeRound_congr {b b' : Onward (Noted String)} (h : b.Agree c.api schema b') :
    c.typeRound b schema = c.typeRound b' schema := by
  unfold typeRound
  rw [containerRound_congr h]
  cases href : schema.ref? with
  | some ref =>
      dsimp only
      rw [← h.fresh ref href]
      cases htarget : c.target? ref with
      | none => rfl
      | some found =>
          obtain ⟨className, target⟩ := found
          dsimp only
          by_cases hfresh : b.fresh ref = true
          · rw [h.behind ref target href hfresh (holds_of_target? htarget)]
          · rw [if_neg hfresh, if_neg hfresh]
  | none =>
      dsimp only
      cases hparts : schema.parts? with
      | none => rfl
      | some parts =>
          rcases parts with _ | ⟨part, _ | ⟨second, rest⟩⟩
          · rfl
          · dsimp only
            rw [h.inside part (Value.inside_of_part hparts List.mem_cons_self)]
          · rfl

theorem typeWith_eq_round (c : Catalog) (fresh : List String) (schema : Value) :
    c.typeWith fresh schema = c.typeRound (.ofFresh c.typeWith fresh) schema := by
  rw [typeWith]
  unfold typeRound
  split
  · rfl
  · cases schema.ref? with
    | some ref =>
        dsimp only
        cases c.target? ref with
        | none => rfl
        | some found =>
            obtain ⟨className, target⟩ := found
            dsimp only
            split
            · rfl
            · by_cases hfresh : ref ∈ fresh
              · rw [dif_pos hfresh, if_pos (Onward.ofFresh_fresh_iff.mpr hfresh)]
                rfl
              · rw [dif_neg hfresh, if_neg (Onward.ofFresh_fresh_iff.not.mpr hfresh)]
    | none =>
        dsimp only
        split
        · next part hparts =>
          rw [hparts]
          rfl
        · next parts hmany hparts =>
          rw [hparts]
          rcases parts with _ | ⟨part, _ | ⟨second, rest⟩⟩
          · rfl
          · exact (hmany part rfl).elim
          · rfl
        · next hparts =>
          rw [hparts]
          unfold containerRound
          cases plainType schema with
          | error fault => rfl
          | ok found =>
              cases found with
              | some type => rfl
              | none =>
                  dsimp only
                  refine ite_congr rfl (fun _ => rfl) fun _ => ite_congr rfl (fun _ => ?_) fun _ => ?_
                  · split
                    · next items hitems => rw [hitems]; rfl
                    · next hitems => rw [hitems]
                  · split
                    · next extra hextra => rw [hextra]; rfl
                    · next hextra => rw [hextra]

-- ====================================================== rounds

/-- One round of all four readers: what they make of the answers for the visits that come next. -/
def round (c : Catalog) (ask : Visit → Answer) (v : Visit) : Answer where
  target := c.api.derefRound (.ofVisit (fun w => (ask w).target) v) v.node
  kind := c.api.kindRound (.ofVisit (fun w => (ask w).kind) v) v.node
  fields := c.api.fieldsRound (fun inner => (ask ⟨v.seen, inner⟩).kind)
    (.ofVisit (fun w => (ask w).fields) v) v.node
  type := c.typeRound (.ofVisit (fun w => (ask w).type) v) v.node

/-- What the readers answer at a node with a list of fresh references. -/
def answerWith (c : Catalog) (fresh : List String) (node : Value) : Answer where
  target := c.api.derefWith fresh node
  kind := c.api.kindWith fresh node
  fields := c.api.bodyFieldsWith fresh node
  type := c.typeWith fresh node

/-- What the readers answer at a visit. -/
def answer (c : Catalog) (v : Visit) : Answer where
  target := c.api.deref v.node v.seen
  kind := c.api.kind v.node v.seen
  fields := c.api.bodyFields v.node v.seen
  type := c.typeOf v.node v.seen

/-- A round depends on the answers for the visits that come next only. -/
theorem round_congr {ask ask' : Visit → Answer} (h : ∀ w, c.api.Descends v w → ask w = ask' w) :
    c.round ask v = c.round ask' v := by
  have hkind : ∀ inner, inner.Inside v.node →
      (ask ⟨v.seen, inner⟩).kind = (ask' ⟨v.seen, inner⟩).kind :=
    fun inner hinner => by rw [h _ (.inside hinner)]
  unfold round
  rw [Api.derefRound_congr (Onward.agree_ofVisit fun w hw => by rw [h w hw]),
    Api.kindRound_congr (Onward.agree_ofVisit fun w hw => by rw [h w hw]),
    Api.fieldsRound_congr (Onward.agree_ofVisit fun w hw => by rw [h w hw]) hkind,
    typeRound_congr (Onward.agree_ofVisit fun w hw => by rw [h w hw])]

/-- A round over what the readers answer next is what they answer. -/
theorem round_eq_answerWith {ask : Visit → Answer} (htracks : c.api.Tracks fresh v)
    (h : ∀ w remaining, c.api.Descends v w → c.api.Tracks remaining w →
      ask w = c.answerWith remaining w.node) :
    c.round ask v = c.answerWith fresh v.node := by
  have hkind : ∀ inner, inner.Inside v.node →
      (ask ⟨v.seen, inner⟩).kind = c.api.kindWith fresh inner :=
    fun inner hinner => by rw [h _ _ (.inside hinner) (htracks.inside hinner)]; rfl
  unfold round answerWith
  rw [Api.derefWith_eq_round, Api.kindWith_eq_round, Api.bodyFieldsWith_eq_round,
    typeWith_eq_round,
    Api.derefRound_congr (Onward.agree_ofFresh htracks fun w _ hw hremaining => by
      rw [h w _ hw hremaining]; rfl),
    Api.kindRound_congr (Onward.agree_ofFresh htracks fun w _ hw hremaining => by
      rw [h w _ hw hremaining]; rfl),
    Api.fieldsRound_congr (Onward.agree_ofFresh htracks fun w _ hw hremaining => by
      rw [h w _ hw hremaining]; rfl) hkind,
    typeRound_congr (Onward.agree_ofFresh htracks fun w _ hw hremaining => by
      rw [h w _ hw hremaining]; rfl)]

/-- As many rounds as the rank of a visit leave no question open. -/
theorem iterate_round_eq {size : Nat} (ask : Visit → Answer)
    (hdocument : sizeOf c.api.document ≤ size) {n : Nat} {v : Visit} {fresh : List String}
    (hn : c.api.rank size v < n) (hnode : sizeOf v.node ≤ size) (htracks : c.api.Tracks fresh v) :
    c.round^[n] ask v = c.answerWith fresh v.node := by
  induction n generalizing v fresh with
  | zero => exact absurd hn (Nat.not_lt_zero _)
  | succ n ih =>
      rw [Function.iterate_succ_apply']
      refine round_eq_answerWith htracks fun w remaining hw hremaining => ?_
      obtain ⟨hrank, hsize⟩ := hw.rank_lt hdocument hnode
      exact ih (by omega) hsize hremaining

-- ====================================================== what is asked for

/-- The answer at `w` makes a difference for what the readers answer at `v`. -/
def Asks (c : Catalog) (v w : Visit) : Prop :=
  ∃ ask ask' : Visit → Answer, (∀ u, u ≠ w → ask u = ask' u) ∧ c.round ask v ≠ c.round ask' v

/-- What is asked for is a step away. -/
theorem Asks.descends (h : c.Asks v w) : c.api.Descends v w := by
  obtain ⟨ask, ask', hothers, hdifferent⟩ := h
  by_contra hfar
  refine hdifferent (round_congr fun u hu => hothers u ?_)
  rintro rfl
  exact hfar hu

/-- All walks through schemas come to an end. Nested as deep as a walk can go, rounds answer what
the readers answer, whatever is put below them. A visit that is asked for has seen the reference of
the node or none besides those seen before, and it has fewer fresh references, or no more of them
and a smaller node; and on the way to a visit no reference is followed twice. Where references are
followed there is an answer exactly if those that are met can be read, and then it is nothing or a
mapping without a reference. -/
theorem walks_end (c : Catalog) (v : Visit) :
    (∀ n, c.api.depth v ≤ n → ∀ ask, c.round^[n] ask v = c.answer v)
      ∧ (∀ w, c.Asks v w →
        (w.seen = v.seen
            ∨ ∃ ref, v.node.ref? = some ref ∧ ref ∉ v.seen ∧ w.seen = ref :: v.seen)
          ∧ Prod.Lex (· < ·) (· < ·) ((c.api.fresh w.seen w.node).length, sizeOf w.node)
            ((c.api.fresh v.seen v.node).length, sizeOf v.node))
      ∧ (∀ w, Relation.ReflTransGen c.Asks v w →
        ∃ followed, w.seen = followed ++ v.seen ∧ followed.Nodup ∧ ∀ ref ∈ followed, ref ∉ v.seen)
      ∧ ((∃ found, (c.api.deref v.node v.seen).outcome = .ok found) ↔ c.api.ReadableFrom v)
      ∧ ∀ s, (c.api.deref v.node v.seen).outcome = .ok (some s) →
        s.isMap = true ∧ s.ref? = none := by
  refine ⟨fun n hn ask => ?_, fun w hw => ?_, fun w hw => ?_, ?_, fun s hs => ?_⟩
  · exact iterate_round_eq ask (Nat.le_max_left _ _) hn (Nat.le_max_right _ _) (.start c.api v)
  · exact ⟨hw.descends.seen_eq, hw.descends.measure_lt⟩
  · exact Api.exists_followed (Relation.ReflTransGen.mono (fun _ _ => Asks.descends) _ _ hw)
  · exact Api.exists_outcome_derefWith_iff (.start c.api v)
  · exact Api.spec_of_outcome_deref hs

end Catalog

-- ====================================================== a character that is no digit

namespace RaisedTwo

/-- A reference to an item by a raised two. -/
def node : Value := .map [(.text "$ref", .text "#/items/²")]

/-- A document with a list. -/
def catalog : Catalog where
  attributes := ModelNames.standardAttributes
  tables := .standard
  api := .ofDocument (.map [(.text "items", .list [.int 1])])
  classNames := []

end RaisedTwo

/-- A raised two looks like a digit and is none: following it gives no answer, not even that there
is nothing. -/
theorem Catalog.raisedTwo_unanswered :
    (RaisedTwo.catalog.api.resolve "#/items/²").outcome = .error (.fault .badNumeral)
      ∧ ¬∃ found, (RaisedTwo.catalog.api.deref RaisedTwo.node).outcome = .ok found := by
  have hresolve : (RaisedTwo.catalog.api.resolve "#/items/²").outcome
      = .error (.fault .badNumeral) := by
    cbv
  refine ⟨hresolve, fun hanswer => ?_⟩
  obtain ⟨-, -, -, hreadable, -⟩ := Catalog.walks_end RaisedTwo.catalog ⟨[], RaisedTwo.node⟩
  obtain ⟨found, hfound⟩ := hreadable.mp hanswer _ .refl "#/items/²" rfl (List.not_mem_nil)
  rw [hresolve] at hfound
  cases hfound

end ApiCommands
