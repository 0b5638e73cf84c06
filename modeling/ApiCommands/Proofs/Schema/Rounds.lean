/-
The readers of schemas, round by round.

# Rounds

A reader of schemas asks itself for what stands behind a reference and inside a
node. Its rounds say what it makes of the answers, whoever gives them
(`Onward`): the visits that come next, with the references seen
(`Onward.ofVisit`), or the reader itself, with those that are fresh
(`Onward.ofFresh`). A reader is its own round over itself (`derefWith_eq_round`,
`kindWith_eq_round`, `bodyFieldsWith_eq_round`).

# What a round asks for

A round depends on the answers it can ask for and on nothing else: behind the
reference of its node, if it is fresh, and inside the node (`Onward.Agree`). So
two who agree on the visits that come next agree on this one (`agree_ofVisit`,
`agree_ofFresh`).
-/
import ApiCommands.Proofs.Schema.Visit
import ApiCommands.Proofs.Outcome.Note

namespace ApiCommands

/-- What a reader is told about the rest of its walk: which references are fresh, what is answered
behind one, and what inside the node. -/
structure Onward (X : Type) where
  fresh : String → Bool
  behind : String → Value → X
  inside : Value → X

namespace Onward

variable {X : Type} {a : Api} {v : Visit} {fresh : List String}

/-- The answers for the visits that come next. -/
def ofVisit (ask : Visit → X) (v : Visit) : Onward X where
  fresh := fun ref => !v.seen.contains ref
  behind := fun ref target => ask ⟨ref :: v.seen, target⟩
  inside := fun inner => ask ⟨v.seen, inner⟩

/-- The answers of a reader that carries fresh references and strikes out each that it follows. -/
def ofFresh (read : List String → Value → X) (fresh : List String) : Onward X where
  fresh := fresh.contains
  behind := fun ref target => read (fresh.erase ref) target
  inside := read fresh

theorem ofVisit_fresh_iff {ask : Visit → X} {ref : String} :
    (ofVisit ask v).fresh ref = true ↔ ref ∉ v.seen := by
  simp [ofVisit]

theorem ofFresh_fresh_iff {read : List String → Value → X} {ref : String} :
    (ofFresh read fresh).fresh ref = true ↔ ref ∈ fresh := by
  simp [ofFresh]

/-- At the node there is no difference between the two. -/
structure Agree (a : Api) (node : Value) (b b' : Onward X) : Prop where
  fresh : ∀ ref, node.ref? = some ref → b.fresh ref = b'.fresh ref
  behind : ∀ ref target, node.ref? = some ref → b.fresh ref = true → a.Holds target →
    b.behind ref target = b'.behind ref target
  inside : ∀ inner, inner.Inside node → b.inside inner = b'.inside inner

/-- Who answers the same for all visits that come next agrees at the node. -/
theorem agree_ofVisit {ask ask' : Visit → X} (h : ∀ w, a.Descends v w → ask w = ask' w) :
    Agree a v.node (ofVisit ask v) (ofVisit ask' v) where
  fresh := fun _ _ => rfl
  behind := fun _ _ href hfresh htarget => h _ (.follow href (ofVisit_fresh_iff.mp hfresh) htarget)
  inside := fun _ hinner => h _ (.inside hinner)

/-- Who answers for all visits that come next what a reader answers, with whatever list of fresh
references goes with the visit, agrees with it at the node. -/
theorem agree_ofFresh {ask : Visit → X} {read : List String → Value → X}
    (htracks : a.Tracks fresh v)
    (h : ∀ w remaining, a.Descends v w → a.Tracks remaining w → ask w = read remaining w.node) :
    Agree a v.node (ofVisit ask v) (ofFresh read fresh) where
  fresh := fun ref href => by
    rw [Bool.eq_iff_iff, ofVisit_fresh_iff, ofFresh_fresh_iff, htracks.mem_iff_of_ref? href]
  behind := fun ref _ href hfresh htarget =>
    h _ _ (.follow href (ofVisit_fresh_iff.mp hfresh) htarget) (htracks.follow ref htarget)
  inside := fun _ hinner => h _ _ (.inside hinner) (htracks.inside hinner)

end Onward

namespace Api

variable {X : Type} {a : Api} {node schema : Value}

-- ====================================================== the mapping a node leads to

/-- One round of following references. -/
def derefRound (a : Api) (b : Onward (Noted (Option Value))) (node : Value) :
    Noted (Option Value) :=
  match node.ref? with
  | none => pure (if node.isMap then some node else none)
  | some ref =>
    if b.fresh ref then do
      match ← a.resolve ref with
      | some target => b.behind ref target
      | none => return none
    else pure none

theorem derefRound_congr {b b' : Onward (Noted (Option Value))} (h : b.Agree a node b') :
    a.derefRound b node = a.derefRound b' node := by
  unfold derefRound
  cases href : node.ref? with
  | none => rfl
  | some ref =>
      dsimp only
      rw [← h.fresh ref href]
      split
      · next hfresh =>
        refine Noted.bind_congr fun found hfound => ?_
        cases found with
        | none => rfl
        | some target => exact h.behind ref target href hfresh (holds_of_resolve hfound)
      · rfl

theorem derefWith_eq_round (a : Api) (fresh : List String) (node : Value) :
    a.derefWith fresh node = a.derefRound (.ofFresh a.derefWith fresh) node := by
  rw [derefWith]
  unfold derefRound
  cases node.ref? with
  | none => rfl
  | some ref =>
      dsimp only
      by_cases hfresh : ref ∈ fresh
      · rw [dif_pos hfresh, if_pos (Onward.ofFresh_fresh_iff.mpr hfresh)]
        rfl
      · rw [dif_neg hfresh, if_neg (Onward.ofFresh_fresh_iff.not.mpr hfresh)]

-- ====================================================== behind the reference of a schema

/-- What is answered for the mapping that the reference of the node leads to, if it is fresh. -/
def followed? (a : Api) (b : Onward X) (node : Value) : Noted (Option X) :=
  match node.ref? with
  | none => pure none
  | some ref =>
    if b.fresh ref then do
      match ← a.resolve ref with
      | some (.map entries) => return some (b.behind ref (.map entries))
      | _ => return none
    else pure none

theorem followed?_congr {b b' : Onward X} (h : b.Agree a node b') :
    a.followed? b node = a.followed? b' node := by
  unfold followed?
  cases href : node.ref? with
  | none => rfl
  | some ref =>
      dsimp only
      rw [← h.fresh ref href]
      split
      · next hfresh =>
        refine Noted.bind_congr fun found hfound => ?_
        rcases found with _ | (_ | _ | entries)
        · rfl
        · rfl
        · rfl
        · dsimp only
          rw [h.behind ref _ href hfresh (holds_of_resolve hfound)]
      · rfl

/-- A reader that goes where `follow?` leads asks for what stands behind the reference. -/
theorem map_follow?_eq (a : Api) (read : List String → Value → X) (fresh : List String)
    (node : Value) :
    Option.map (fun next => read next.remaining next.target) <$> a.follow? fresh node
      = a.followed? (.ofFresh read fresh) node := by
  unfold follow? followed?
  cases node.ref? with
  | none => rw [map_pure]; rfl
  | some ref =>
      dsimp only
      by_cases hfresh : ref ∈ fresh
      · rw [dif_pos hfresh, if_pos (Onward.ofFresh_fresh_iff.mpr hfresh), map_bind]
        refine Noted.bind_congr fun found _ => ?_
        rcases found with _ | (_ | _ | entries) <;> rw [map_pure] <;> rfl
      · rw [dif_neg hfresh, if_neg (Onward.ofFresh_fresh_iff.not.mpr hfresh), map_pure]
        rfl

-- ====================================================== the kind of a schema

/-- The first known kind among kinds. -/
def firstKnown : List (Noted PropertyKind) → Noted (Option PropertyKind)
  | [] => pure none
  | kind :: rest => do
    match ← kind with
    | .unknown => firstKnown rest
    | kind => return some kind

/-- One round of telling the kind of a schema. -/
def kindRound (a : Api) (b : Onward (Noted PropertyKind)) (schema : Value) :
    Noted PropertyKind := do
  match ← a.followed? b schema with
  | some kind => kind
  | none =>
    match schema.parts? with
    | none => return schema.ownKind
    | some parts =>
      match ← firstKnown (parts.map b.inside) with
      | some kind => return kind
      | none => return schema.ownKind

theorem kindRound_congr {b b' : Onward (Noted PropertyKind)} (h : b.Agree a schema b') :
    a.kindRound b schema = a.kindRound b' schema := by
  unfold kindRound
  rw [followed?_congr h]
  cases hparts : schema.parts? with
  | none => rfl
  | some parts =>
      have hmap : parts.map b.inside = parts.map b'.inside :=
        List.map_congr_left fun part hpart => h.inside part (Value.inside_of_part hparts hpart)
      dsimp only
      rw [hmap]

theorem firstKindWith_eq (a : Api) (fresh : List String) (schemas : List Value) :
    a.firstKindWith fresh schemas = firstKnown (schemas.map (a.kindWith fresh)) := by
  induction schemas with
  | nil => rw [firstKindWith]; rfl
  | cons schema rest ih =>
      rw [firstKindWith, List.map_cons, firstKnown]
      refine Noted.bind_congr fun kind _ => ?_
      cases kind with
      | unknown => exact ih
      | _ => rfl

theorem kindWith_eq_round (a : Api) (fresh : List String) (schema : Value) :
    a.kindWith fresh schema = a.kindRound (.ofFresh a.kindWith fresh) schema := by
  rw [kindWith]
  unfold kindRound
  rw [← map_follow?_eq, bind_map_left]
  refine Noted.bind_congr fun next _ => ?_
  cases next with
  | some next => rfl
  | none =>
      dsimp only [Option.map_none]
      split
      · next hparts => rw [hparts]
      · next parts hparts =>
        rw [hparts, firstKindWith_eq]
        rfl

-- ====================================================== the properties of a body

/-- The body properties of declared ones, whose required names are given in lower case. -/
def ownFieldsOf (kind : Value → Noted PropertyKind) (required : List String) :
    Entries → Noted (List BodyProperty)
  | [] => pure []
  | (key, schema) :: rest => do
    let known ← kind schema
    match key with
    | .text name =>
      return ⟨name, known, required.contains (Text.lowered name)⟩
        :: (← ownFieldsOf kind required rest)
    | _ => Noted.fail (.fault .notText)

/-- The properties a schema declares itself. -/
def declaredFieldsOf (kind : Value → Noted PropertyKind) (schema : Value) :
    Noted (List BodyProperty) :=
  if schema.type?.any (· != "object") then pure []
  else match schema.properties? with
    | none => pure []
    | some properties =>
      match schema.requiredNames with
      | .error fault => Noted.fail (.fault fault)
      | .ok required => ownFieldsOf kind (required.map Text.lowered) properties

/-- The properties of all parts, in a row. -/
def fieldsInRow : List (Noted (List BodyProperty)) → Noted (List BodyProperty)
  | [] => pure []
  | part :: rest => do
    let fields ← part
    return fields ++ (← fieldsInRow rest)

/-- One round of reading the properties of a body; for the kinds of properties it asks another
reader. -/
def fieldsRound (a : Api) (kind : Value → Noted PropertyKind)
    (b : Onward (Noted (List BodyProperty))) (schema : Value) : Noted (List BodyProperty) := do
  match ← a.followed? b schema with
  | some fields => fields
  | none =>
    match schema.parts? with
    | none => declaredFieldsOf kind schema
    | some parts => return (← fieldsInRow (parts.map b.inside)).foldl BodyProperty.override []

theorem ownFieldsOf_congr {kind kind' : Value → Noted PropertyKind} {entries : Entries}
    (h : ∀ key inner, (key, inner) ∈ entries → kind inner = kind' inner) (required : List String) :
    ownFieldsOf kind required entries = ownFieldsOf kind' required entries := by
  induction entries with
  | nil => rfl
  | cons e rest ih =>
      obtain ⟨key, inner⟩ := e
      rw [ownFieldsOf, ownFieldsOf, h key inner List.mem_cons_self,
        ih fun key inner hmem => h key inner (List.mem_cons_of_mem _ hmem)]

theorem declaredFieldsOf_congr {kind kind' : Value → Noted PropertyKind}
    (h : ∀ inner, inner.Inside schema → kind inner = kind' inner) :
    declaredFieldsOf kind schema = declaredFieldsOf kind' schema := by
  unfold declaredFieldsOf
  cases hproperties : schema.properties? with
  | none => rfl
  | some properties =>
      have hown : ∀ key inner, (key, inner) ∈ properties → kind inner = kind' inner :=
        fun key inner hmem => h inner (Value.inside_of_property hproperties hmem)
      simp only [ownFieldsOf_congr hown]

theorem fieldsRound_congr {kind kind' : Value → Noted PropertyKind}
    {b b' : Onward (Noted (List BodyProperty))} (h : b.Agree a schema b')
    (hkind : ∀ inner, inner.Inside schema → kind inner = kind' inner) :
    a.fieldsRound kind b schema = a.fieldsRound kind' b' schema := by
  unfold fieldsRound
  rw [followed?_congr h, declaredFieldsOf_congr hkind]
  cases hparts : schema.parts? with
  | none => rfl
  | some parts =>
      have hmap : parts.map b.inside = parts.map b'.inside :=
        List.map_congr_left fun part hpart => h.inside part (Value.inside_of_part hparts hpart)
      dsimp only
      rw [hmap]

theorem ownFields_eq (a : Api) (fresh required : List String) (entries : Entries) :
    a.ownFields fresh required entries = ownFieldsOf (a.kindWith fresh) required entries := by
  induction entries with
  | nil => rfl
  | cons e rest ih =>
      obtain ⟨key, inner⟩ := e
      unfold ownFields ownFieldsOf
      refine Noted.bind_congr fun kind _ => ?_
      cases key with
      | text name =>
          dsimp only
          rw [ih]
      | _ => rfl

theorem declaredFields_eq (a : Api) (fresh : List String) (schema : Value) :
    a.declaredFields fresh schema = declaredFieldsOf (a.kindWith fresh) schema := by
  unfold declaredFields declaredFieldsOf
  split
  · rfl
  · cases schema.properties? with
    | none => rfl
    | some properties =>
        dsimp only
        cases schema.requiredNames with
        | error fault => rfl
        | ok required => exact ownFields_eq a fresh _ properties

theorem partFieldsWith_eq (a : Api) (fresh : List String) (parts : List Value) :
    a.partFieldsWith fresh parts = fieldsInRow (parts.map (a.bodyFieldsWith fresh)) := by
  induction parts with
  | nil => rw [partFieldsWith]; rfl
  | cons part rest ih => rw [partFieldsWith, ih]; rfl

theorem bodyFieldsWith_eq_round (a : Api) (fresh : List String) (schema : Value) :
    a.bodyFieldsWith fresh schema
      = a.fieldsRound (a.kindWith fresh) (.ofFresh a.bodyFieldsWith fresh) schema := by
  rw [bodyFieldsWith]
  unfold fieldsRound
  rw [← map_follow?_eq, bind_map_left]
  refine Noted.bind_congr fun next _ => ?_
  cases next with
  | some next => rfl
  | none =>
      dsimp only [Option.map_none]
      split
      · next hparts => rw [hparts, declaredFields_eq]
      · next parts hparts =>
        rw [hparts, partFieldsWith_eq]
        rfl

end Api

end ApiCommands
