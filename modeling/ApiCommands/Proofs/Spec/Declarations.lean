/-
What the parameters of an operation are read from.

# Declarations

A node declares a parameter if it leads to a mapping with a name that is not
blank and a location that is kept (`Declares`); any other node declares none.
So the parameters that a list of nodes declares are told node by node
(`Declarations`), and there is one such list (`Describes.unique`).

# Reading

Reading a node answers exactly if the references that are met can be read: those
the node leads through, and, where it declares a parameter, those its schema
leads through. Then it has what the node declares
(`outcome_parameter?_eq_ok_iff`). A list is read node by node
(`outcome_readParameters_eq_ok_iff`), so one reference that cannot be read stops
the reading of all. What is read is merged as `Parameter.Merges` says.
-/
import ApiCommands.Proofs.Schema.Visit
import ApiCommands.Proofs.Spec.MergedParameters

namespace ApiCommands

theorem Location.ofName?_eq_some_iff {s : String} {location : Location} :
    Location.ofName? s = some location ↔ s = location.name := by
  unfold Location.ofName?
  constructor
  · intro h
    have hname := List.find?_some (p := fun x : Location => x.name == s) h
    exact (beq_iff_eq.mp hname).symm
  · rintro rfl
    cases location <;> decide

namespace Api

variable {a : Api} {node declaration : Value} {p q : Parameter}

-- ====================================================== declarations

/-- The mapping has a name that is not blank, and a location that is kept. -/
structure Keeps (declaration : Value) (name : String) (location : Location) : Prop where
  name : declaration.filledText? "name" = some name
  location : ∃ written, declaration.text? "in" = some written
    ∧ Text.lowered written = location.name

/-- Where the schema of a declaration stands. -/
def schemaOf (declaration : Value) : Value := (declaration.get? "schema").getD .null

/-- The mapping describes the parameter. -/
structure Describes (a : Api) (declaration : Value) (p : Parameter) : Prop where
  keeps : Keeps declaration p.name p.location
  required : p.required = declaration.isMarked "required"
  isArray : p.isArray = true ↔ ∃ schema type, a.Leads (schemaOf declaration) schema
    ∧ schema.type? = some type ∧ Text.lowered type = "array"
  description : p.description = declaration.text? "description"

/-- The node declares the parameter: it leads to a mapping that describes it. -/
def Declares (a : Api) (node : Value) (p : Parameter) : Prop :=
  ∃ declaration, a.Leads node declaration ∧ a.Describes declaration p

/-- The parameters that nodes declare, in order. Nodes that declare none are passed over. -/
inductive Declarations (a : Api) : List Value → List Parameter → Prop
  | nil : Declarations a [] []
  | declared {node : Value} {nodes : List Value} {p : Parameter} {ps : List Parameter}
      (h : a.Declares node p) (rest : Declarations a nodes ps) :
      Declarations a (node :: nodes) (p :: ps)
  | skipped {node : Value} {nodes : List Value} {ps : List Parameter}
      (h : ∀ p, ¬a.Declares node p) (rest : Declarations a nodes ps) :
      Declarations a (node :: nodes) ps

/-- All references that are met on reading the node can be read: those it leads through, and, if
what it leads to is kept, those that the schema there leads through. -/
def ReadableDeclaration (a : Api) (node : Value) : Prop :=
  a.ReadableFrom ⟨[], node⟩
    ∧ ∀ declaration name location, a.Leads node declaration → Keeps declaration name location →
      a.ReadableFrom ⟨[], schemaOf declaration⟩

theorem bind_ofName?_eq_some_iff {location : Location} :
    ((declaration.text? "in").bind fun s => Location.ofName? (Text.lowered s)) = some location
      ↔ ∃ written, declaration.text? "in" = some written
        ∧ Text.lowered written = location.name := by
  simp only [Option.bind_eq_some_iff, Location.ofName?_eq_some_iff]

/-- A mapping describes one parameter at most. -/
theorem Describes.unique (h : a.Describes declaration p) (h' : a.Describes declaration q) :
    p = q := by
  have hname : p.name = q.name := Option.some.inj (h.keeps.name.symm.trans h'.keeps.name)
  have hlocation : p.location = q.location := by
    have hp := bind_ofName?_eq_some_iff.mpr h.keeps.location
    exact Option.some.inj (hp.symm.trans (bind_ofName?_eq_some_iff.mpr h'.keeps.location))
  have hrequired : p.required = q.required := h.required.trans h'.required.symm
  have hisArray : p.isArray = q.isArray :=
    Bool.eq_iff_iff.mpr (h.isArray.trans h'.isArray.symm)
  have hdescription : p.description = q.description := h.description.trans h'.description.symm
  cases p
  cases q
  simp_all

theorem Declares.unique (h : a.Declares node p) (h' : a.Declares node q) : p = q := by
  obtain ⟨declaration, hleads, hp⟩ := h
  obtain ⟨declaration', hleads', hq⟩ := h'
  obtain rfl := hleads.unique hleads'
  exact hp.unique hq

-- ====================================================== reading a node

/-- Following a node answers exactly if the references that are met can be read, and then with what
the node leads to, or with nothing if it leads nowhere. -/
theorem outcome_deref_eq_ok_iff {found : Option Value} :
    (a.deref node).outcome = .ok found
      ↔ a.ReadableFrom ⟨[], node⟩ ∧ ∀ s, found = some s ↔ a.Leads node s := by
  have hreadable := exists_outcome_derefWith_iff (Tracks.start a ⟨[], node⟩)
  have hspec : ∀ found, (a.deref node).outcome = .ok found →
      ∀ s, found = some s ↔ a.Leads node s := by
    intro found h s
    rw [← outcome_deref_eq_some_iff, h, Except.ok.injEq]
  constructor
  · exact fun h => ⟨hreadable.mp ⟨found, h⟩, hspec found h⟩
  · rintro ⟨hall, hfound⟩
    obtain ⟨answer, hanswer⟩ := hreadable.mpr hall
    have heq : answer = found :=
      Option.ext fun s => (hspec answer hanswer s).trans (hfound s).symm
    rw [← heq]
    exact hanswer

/-- A schema that is not there, or leads nowhere, is no list. -/
theorem any_type?_iff {found : Option Value} (h : ∀ s, found = some s ↔ a.Leads node s) :
    ((found.getD (.map [])).type?.any fun type => Text.lowered type == "array") = true
      ↔ ∃ schema type, a.Leads node schema ∧ schema.type? = some type
        ∧ Text.lowered type = "array" := by
  rw [Option.any_eq_true]
  simp only [beq_iff_eq]
  cases found with
  | none =>
      refine iff_of_false (by rintro ⟨type, ⟨⟩, -⟩) ?_
      rintro ⟨schema, -, hleads, -⟩
      cases (h schema).mpr hleads
  | some schema =>
      constructor
      · rintro ⟨type, htype, harray⟩
        exact ⟨schema, type, (h schema).mp rfl, htype, harray⟩
      · rintro ⟨schema', type, hleads, htype, harray⟩
        obtain rfl := Option.some.inj ((h schema').mpr hleads)
        exact ⟨type, htype, harray⟩

theorem spec_of_outcome_parameter? {found : Option Parameter}
    (h : (a.parameter? node).outcome = .ok found) :
    a.ReadableDeclaration node ∧ ∀ p, found = some p ↔ a.Declares node p := by
  unfold parameter? at h
  obtain ⟨declaration?, hderef, hrest⟩ := Noted.outcome_bind_eq_ok_iff.mp h
  obtain ⟨hall, hleads⟩ := outcome_deref_eq_ok_iff.mp hderef
  cases declaration? with
  | none =>
      obtain rfl := Except.ok.inj hrest
      have hno : ∀ s, ¬a.Leads node s := fun s hs => by cases (hleads s).mpr hs
      refine ⟨⟨hall, fun s _ _ hs => absurd hs (hno s)⟩, fun p => iff_of_false (by rintro ⟨⟩) ?_⟩
      exact fun ⟨s, hs, _⟩ => hno s hs
  | some declaration =>
      have hthis : ∀ s, a.Leads node s → s = declaration :=
        fun s hs => (Option.some.inj ((hleads s).mpr hs)).symm
      have hdeclaration : a.Leads node declaration := (hleads declaration).mp rfl
      dsimp only at hrest
      split at hrest
      · next name location hname hlocation =>
        obtain ⟨schema?, hschema, hfound⟩ := Noted.outcome_bind_eq_ok_iff.mp hrest
        obtain ⟨hschemaAll, hschemaLeads⟩ := outcome_deref_eq_ok_iff.mp hschema
        obtain ⟨p, hp, rfl⟩ : ∃ p, a.Describes declaration p ∧ found = some p :=
          ⟨_, ⟨⟨hname, bind_ofName?_eq_some_iff.mp hlocation⟩, rfl, any_type?_iff hschemaLeads,
            rfl⟩, (Except.ok.inj hfound).symm⟩
        refine ⟨⟨hall, fun s _ _ hs _ => ?_⟩, fun other => ?_⟩
        · rw [hthis s hs]
          exact hschemaAll
        · constructor
          · rintro ⟨⟩
            exact ⟨declaration, hdeclaration, hp⟩
          · rintro ⟨s, hs, hother⟩
            rw [hthis s hs] at hother
            exact congrArg some (hp.unique hother)
      · next hnone =>
        obtain rfl := Except.ok.inj hrest
        have hkeeps : ∀ name location, ¬Keeps declaration name location := by
          intro name location h
          exact hnone name location h.name (bind_ofName?_eq_some_iff.mpr h.location)
        refine ⟨⟨hall, fun s _ _ hs h => ?_⟩, fun p => iff_of_false (by rintro ⟨⟩) ?_⟩
        · rw [hthis s hs] at h
          exact absurd h (hkeeps _ _)
        · rintro ⟨s, hs, hp⟩
          rw [hthis s hs] at hp
          exact hkeeps _ _ hp.keeps

/-- Where the references that are met can be read, the node is. -/
theorem exists_outcome_parameter? (h : a.ReadableDeclaration node) :
    ∃ found, (a.parameter? node).outcome = .ok found := by
  unfold parameter?
  obtain ⟨declaration?, hderef⟩ :=
    (exists_outcome_derefWith_iff (Tracks.start a ⟨[], node⟩)).mpr h.1
  have hderef' : (a.deref node).outcome = .ok declaration? := hderef
  rw [Noted.outcome_bind, hderef']
  cases declaration? with
  | none => exact ⟨none, rfl⟩
  | some declaration =>
      have hleads := outcome_deref_eq_some_iff.mp hderef'
      dsimp only [Except.bind]
      split
      · next name location hname hlocation =>
        have hkeeps : Keeps declaration name location :=
          ⟨hname, bind_ofName?_eq_some_iff.mp hlocation⟩
        obtain ⟨schema?, hschema⟩ := (exists_outcome_derefWith_iff
          (Tracks.start a ⟨[], schemaOf declaration⟩)).mpr
            (h.2 declaration name location hleads hkeeps)
        have hschema' : (a.deref (schemaOf declaration)).outcome = .ok schema? := hschema
        rw [Noted.outcome_bind, ← schemaOf, hschema']
        exact ⟨_, rfl⟩
      · exact ⟨none, rfl⟩

/-- Reading a node answers exactly if the references that are met can be read, and then with the
parameter that the node declares, or with none if it declares none. -/
theorem outcome_parameter?_eq_ok_iff {found : Option Parameter} :
    (a.parameter? node).outcome = .ok found
      ↔ a.ReadableDeclaration node ∧ ∀ p, found = some p ↔ a.Declares node p := by
  constructor
  · exact spec_of_outcome_parameter?
  · rintro ⟨hreadable, hfound⟩
    obtain ⟨answer, hanswer⟩ := exists_outcome_parameter? hreadable
    have heq : answer = found := Option.ext fun p =>
      ((spec_of_outcome_parameter? hanswer).2 p).trans (hfound p).symm
    rw [← heq]
    exact hanswer

-- ====================================================== reading lists

/-- Reading a list answers exactly if each of its nodes can be read, and then with what they
declare. -/
theorem outcome_readParameters_eq_ok_iff {nodes : List Value} {ps : List Parameter} :
    (a.readParameters nodes).outcome = .ok ps
      ↔ (∀ node ∈ nodes, a.ReadableDeclaration node) ∧ a.Declarations nodes ps := by
  induction nodes generalizing ps with
  | nil =>
      rw [readParameters, Noted.outcome_pure, Except.ok.injEq]
      constructor
      · rintro rfl
        exact ⟨fun _ h => absurd h List.not_mem_nil, .nil⟩
      · rintro ⟨-, ⟨⟩⟩
        rfl
  | cons node rest ih =>
      rw [readParameters]
      simp only [Noted.outcome_bind_eq_ok_iff, Noted.outcome_pure, Except.ok.injEq,
        outcome_parameter?_eq_ok_iff, ih, List.forall_mem_cons]
      constructor
      · rintro ⟨found, ⟨hnode, hfound⟩, others, ⟨hothers, hrest⟩, rfl⟩
        refine ⟨⟨hnode, hothers⟩, ?_⟩
        cases found with
        | none => exact .skipped (fun p hp => by cases (hfound p).mpr hp) hrest
        | some p => exact .declared ((hfound p).mp rfl) hrest
      · rintro ⟨⟨hnode, hothers⟩, hps⟩
        cases hps with
        | @declared _ _ p others hp hrest =>
            refine ⟨some p, ⟨hnode, fun q => ?_⟩, others, ⟨hothers, hrest⟩, rfl⟩
            rw [Option.some.injEq]
            exact ⟨fun heq => heq ▸ hp, fun hq => hp.unique hq⟩
        | skipped hno hrest =>
            refine ⟨none, ⟨hnode, fun q => ?_⟩, ps, ⟨hothers, hrest⟩, rfl⟩
            exact iff_of_false (by rintro ⟨⟩) (hno q)

theorem exists_declarations (a : Api) (nodes : List Value) : ∃ ps, a.Declarations nodes ps := by
  induction nodes with
  | nil => exact ⟨[], .nil⟩
  | cons node rest ih =>
      obtain ⟨ps, hps⟩ := ih
      by_cases h : ∃ p, a.Declares node p
      · obtain ⟨p, hp⟩ := h
        exact ⟨p :: ps, .declared hp hps⟩
      · exact ⟨ps, .skipped (not_exists.mp h) hps⟩

-- ====================================================== how reading fails

theorem eq_badNumeral_of_parameter? {e : Error} (h : (a.parameter? node).outcome = .error e) :
    e = .fault .badNumeral := by
  unfold parameter? at h
  rcases Noted.outcome_bind_eq_error_iff.mp h with hderef | ⟨declaration?, -, hrest⟩
  · exact eq_badNumeral_of_derefWith hderef
  · cases declaration? with
    | none => cases hrest
    | some declaration =>
        dsimp only at hrest
        split at hrest
        · rcases Noted.outcome_bind_eq_error_iff.mp hrest with hschema | ⟨_, -, hdone⟩
          · exact eq_badNumeral_of_derefWith hschema
          · cases hdone
        · cases hrest

/-- Reading a list fails only by a numeral in a reference. -/
theorem eq_badNumeral_of_readParameters {nodes : List Value} {e : Error}
    (h : (a.readParameters nodes).outcome = .error e) : e = .fault .badNumeral := by
  induction nodes with
  | nil => cases h
  | cons node rest ih =>
      rw [readParameters] at h
      rcases Noted.outcome_bind_eq_error_iff.mp h with hnode | ⟨_, -, hothers⟩
      · exact eq_badNumeral_of_parameter? hnode
      · rcases Noted.outcome_bind_eq_error_iff.mp hothers with hrest | ⟨_, -, hdone⟩
        · exact ih hrest
        · cases hdone

-- ====================================================== the parameters of an operation

/-- The parameters of an operation are there exactly if the declarations on its path and its own can
be read, and that fails only by a numeral in a reference. They are what is declared on the path and
then on the operation: no name and location twice, each where it was declared first and as it was
declared last, so that the operation goes before its path; and behind that required parameters for
the segments of the path that are placeholders as a whole and have no path parameter of their name,
each name once, whatever the case. -/
theorem parameters_merge_declarations (a : Api) (path : String) (item operation : Value) :
    ((∃ ps, (a.parameters path item operation).outcome = .ok ps)
        ↔ ∀ node ∈ item.itemsAt "parameters" ++ operation.itemsAt "parameters",
          a.ReadableDeclaration node)
      ∧ (∀ e, (a.parameters path item operation).outcome = .error e → e = .fault .badNumeral)
      ∧ ∀ ps, (a.parameters path item operation).outcome = .ok ps →
        (ps.map Parameter.slot).Nodup
          ∧ ∃ shared own declared made, a.Declarations (item.itemsAt "parameters") shared
            ∧ a.Declarations (operation.itemsAt "parameters") own
            ∧ ps = declared ++ made
            ∧ Parameter.Merges (PathTemplate.wholeNames path) (shared ++ own) declared made
            ∧ ∀ p ∈ declared, p.slot ∈ own.map Parameter.slot → p ∈ own := by
  have hread : ∀ ps, (a.parameters path item operation).outcome = .ok ps ↔
      ∃ shared own, (a.readParameters (item.itemsAt "parameters")).outcome = .ok shared
        ∧ (a.readParameters (operation.itemsAt "parameters")).outcome = .ok own
        ∧ ps = Parameter.complete path (Parameter.overrideAll (shared ++ own)) :=
    fun ps => outcome_parameters_eq_ok_iff
  simp only [outcome_readParameters_eq_ok_iff] at hread
  refine ⟨⟨?_, fun hall => ?_⟩, fun e h => ?_, fun ps h => ?_⟩
  · rintro ⟨ps, h⟩ node hnode
    obtain ⟨shared, own, ⟨hshared, -⟩, ⟨hown, -⟩, -⟩ := (hread ps).mp h
    rcases List.mem_append.mp hnode with hmem | hmem
    · exact hshared node hmem
    · exact hown node hmem
  · rw [List.forall_mem_append] at hall
    obtain ⟨shared, hshared⟩ := exists_declarations a (item.itemsAt "parameters")
    obtain ⟨own, hown⟩ := exists_declarations a (operation.itemsAt "parameters")
    exact ⟨_, (hread _).mpr ⟨shared, own, ⟨hall.1, hshared⟩, ⟨hall.2, hown⟩, rfl⟩⟩
  · unfold parameters at h
    rcases Noted.outcome_bind_eq_error_iff.mp h with hshared | ⟨_, -, hrest⟩
    · exact eq_badNumeral_of_readParameters hshared
    · rcases Noted.outcome_bind_eq_error_iff.mp hrest with hown | ⟨_, -, hdone⟩
      · exact eq_badNumeral_of_readParameters hown
      · cases hdone
  · obtain ⟨shared, own, ⟨-, hshared⟩, ⟨-, hown⟩, rfl⟩ := (hread ps).mp h
    obtain ⟨made, heq, hmerges⟩ := Parameter.merges_complete path (shared ++ own)
    rw [heq]
    exact ⟨hmerges.nodup_slot, shared, own, _, made, hshared, hown, rfl, hmerges,
      fun p hp hslot => hmerges.mem_of_slot_mem hp hslot⟩

end Api

-- ====================================================== declarations of a path with files

namespace SharedParameters

def api : Api := .ofDocument (.map [(.text "items", .list [.int 1])])

def declaration (name location : String) (more : Entries) : Value :=
  .map ([(.text "name", .text name), (.text "in", .text location)] ++ more)

def path : String := "/users/{userId}/files/{FileId}/{fileid}"

/-- A page, and the user as a list. -/
def item : Value := .map [(.text "parameters", .list
  [declaration "page" "query" [],
   declaration "userID" "path" [(.text "schema", .map [(.text "type", .text "array")])]])]

/-- The page is required, and a header is dropped. -/
def operation : Value := .map [(.text "parameters", .list
  [declaration "trace" "header" [],
   declaration "page" "Query" [(.text "required", .bool true)]])]

/-- A reference to an item by a raised two. -/
def raisedTwo : Value := .map [(.text "parameters", .list
  [.map [(.text "$ref", .text "#/items/²")]])]

end SharedParameters

/-- The operation's own page stands where the path declares one, and one parameter is made for the
file; but a reference by a raised two stops all reading. -/
theorem Api.sharedParameters_merged :
    (∃ ps, (SharedParameters.api.parameters SharedParameters.path SharedParameters.item
          SharedParameters.operation).outcome = .ok ps
        ∧ ps.map Parameter.slot = [("page", .query), ("userID", .path), ("FileId", .path)]
        ∧ ∃ shared own declared made,
          SharedParameters.api.Declarations (SharedParameters.item.itemsAt "parameters") shared
            ∧ SharedParameters.api.Declarations
              (SharedParameters.operation.itemsAt "parameters") own
            ∧ ps = declared ++ made
            ∧ Parameter.Merges (PathTemplate.wholeNames SharedParameters.path) (shared ++ own)
              declared made
            ∧ ∀ p ∈ declared, p.slot ∈ own.map Parameter.slot → p ∈ own)
      ∧ ¬∃ ps, (SharedParameters.api.parameters SharedParameters.path SharedParameters.item
          SharedParameters.raisedTwo).outcome = .ok ps := by
  constructor
  · have hok : ∀ {answer : Except Error (List Parameter)} {ps : List Parameter},
        answer.toOption = some ps → answer = .ok ps := by
      intro answer ps h
      cases answer with
      | error e => cases h
      | ok found => exact congrArg Except.ok (Option.some.inj h)
    have hshared : (SharedParameters.api.readParameters
        (SharedParameters.item.itemsAt "parameters")).outcome
          = .ok [⟨"page", .query, false, false, none⟩, ⟨"userID", .path, false, true, none⟩] :=
      hok (by decide +kernel)
    have hown : (SharedParameters.api.readParameters
        (SharedParameters.operation.itemsAt "parameters")).outcome
          = .ok [⟨"page", .query, true, false, none⟩] := hok (by decide +kernel)
    have hps := outcome_parameters_eq_ok_iff.mpr
      ⟨_, _, hshared, hown, Eq.refl (Parameter.complete SharedParameters.path _)⟩
    obtain ⟨-, -, hmerged⟩ := Api.parameters_merge_declarations SharedParameters.api
      SharedParameters.path SharedParameters.item SharedParameters.operation
    exact ⟨_, hps, by decide +kernel, (hmerged _ hps).2⟩
  · have hfails : (SharedParameters.api.parameters SharedParameters.path SharedParameters.item
        SharedParameters.raisedTwo).outcome.toOption = none := by decide +kernel
    rintro ⟨ps, hps⟩
    rw [hps] at hfails
    cases hfails

end ApiCommands
