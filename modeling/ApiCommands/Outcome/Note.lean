/-
Notes: the diagnostics a run leaves behind, and computations that leave them.

`Noted α` is an answer of type `α`, or an error, together with the notes made on
the way. An error ends the computation and keeps the notes made before it. What
a computation answers never depends on its notes, so statements about answers
look at `outcome` alone (`outcome_bind`).
-/
import ApiCommands.Outcome.Error

namespace ApiCommands

/-- How much a note matters. -/
inductive NoteLevel where
  | debug
  | info
  | warning
  deriving DecidableEq, Repr

/-- The name of a level. -/
def NoteLevel.name : NoteLevel → String
  | debug => "DEBUG"
  | info => "INFO"
  | warning => "WARNING"

/-- Something worth noting. -/
inductive Note where
  | readingInput
  | fetching (url : String)
  | readingFile (source : String)
  | externalReference (ref : String)
  | danglingReference (ref : String)
  | untypedReference (ref : String)
  | shadowedPath (path : String)
  | unnamedOperation (method path : String)
  | commandNamed (verb path name rule : String)
  | sharedBranch (first second branch domain : String)
  | notReady
  | collected (operations domains : Nat)
  | wrote (path : String) (bytes : Nat)
  deriving DecidableEq, Repr

namespace Note

/-- The level of a note. -/
def level : Note → NoteLevel
  | sharedBranch .. => .warning
  | notReady => .info
  | _ => .debug

/-- The channel a note is sent on. -/
def channel : Note → String
  | readingInput | fetching _ | readingFile _ => "awkgen.parser.loader"
  | externalReference _ | danglingReference _ => "awkgen.parser.resolver"
  | untypedReference _ => "awkgen.generator.dto"
  | shadowedPath _ | unnamedOperation .. => "awkgen.parser.collector"
  | commandNamed .. => "awkgen.naming.commands"
  | sharedBranch .. => "awkgen.naming.domains"
  | notReady | collected .. => "awkgen.generator.pipeline"
  | wrote .. => "awkgen.generator.writer"

/-- The words of a note. -/
def message : Note → String
  | readingInput => "Reading spec from stdin"
  | fetching url => "Fetching spec from " ++ url
  | readingFile source => "Reading spec file " ++ source
  | externalReference ref => "Ignoring external $ref " ++ ref
  | danglingReference ref => "Unresolvable $ref " ++ ref
  | untypedReference ref => "Unresolved schema reference " ++ ref ++ ", typing as Any"
  | shadowedPath path => "Dropping " ++ path ++ ": covered by the bare alias path"
  | unnamedOperation method path => "Skipping " ++ method ++ " " ++ path ++ ": no operationId"
  | commandNamed verb path name rule => verb ++ " " ++ path ++ " -> " ++ name ++ " (" ++ rule ++ ")"
  | sharedBranch first second branch domain =>
    "Tags '" ++ first ++ "' and '" ++ second ++ "' share sub-branch '" ++ branch
      ++ "' in domain '" ++ domain ++ "'"
  | notReady => "Spec has no paths or component schemas yet; nothing to generate"
  | collected operations domains =>
    "Collected " ++ toString operations ++ " operations into " ++ toString domains ++ " domains"
  | wrote path bytes => "Wrote " ++ path ++ " (" ++ toString bytes ++ " bytes)"

end Note

/-- An answer or an error, with the notes made on the way. -/
structure Noted (α : Type u) where
  notes : List Note
  outcome : Except Error α

namespace Noted

/-- An answer without notes. -/
protected def pure (a : α) : Noted α := ⟨[], .ok a⟩

/-- One computation after the other, the second with the first one's answer. -/
protected def bind (x : Noted α) (f : α → Noted β) : Noted β :=
  match x.outcome with
  | .error e => ⟨x.notes, .error e⟩
  | .ok a => ⟨x.notes ++ (f a).notes, (f a).outcome⟩

instance : Monad Noted where
  pure := Noted.pure
  bind := Noted.bind

/-- The computation that fails. -/
def fail (e : Error) : Noted α := ⟨[], .error e⟩

/-- The computation that makes one note. -/
def note (n : Note) : Noted Unit := ⟨[n], .ok ()⟩

/-- The computation that makes several notes. -/
def noteAll (ns : List Note) : Noted Unit := ⟨ns, .ok ()⟩

/-- A computation from an answer or an error. -/
def ofExcept (x : Except Error α) : Noted α := ⟨[], x⟩

/-- A computation from an answer or a fault. -/
def ofFault (x : Except Fault α) : Noted α := ofExcept (x.mapError .fault)

@[simp]
theorem outcome_pure (a : α) : (pure a : Noted α).outcome = .ok a := rfl

@[simp]
theorem outcome_bind (x : Noted α) (f : α → Noted β) :
    (x >>= f).outcome = x.outcome.bind fun a => (f a).outcome := by
  show (Noted.bind x f).outcome = _
  unfold Noted.bind
  cases x.outcome <;> rfl

@[simp]
theorem outcome_fail (e : Error) : (fail e : Noted α).outcome = .error e := rfl

@[simp]
theorem outcome_note (n : Note) : (note n).outcome = .ok () := rfl

@[simp]
theorem outcome_noteAll (ns : List Note) : (noteAll ns).outcome = .ok () := rfl

@[simp]
theorem outcome_ofExcept (x : Except Error α) : (ofExcept x).outcome = x := rfl

@[simp]
theorem outcome_ofFault (x : Except Fault α) : (ofFault x).outcome = x.mapError .fault := rfl

theorem outcome_ofFault_eq_ok_iff {x : Except Fault α} {a : α} :
    (ofFault x).outcome = .ok a ↔ x = .ok a := by
  cases x with
  | error f => exact iff_of_false (fun h => by cases h) fun h => by cases h
  | ok b => exact ⟨fun h => congrArg Except.ok (Except.ok.inj h),
      fun h => congrArg Except.ok (Except.ok.inj h)⟩

instance : LawfulMonad Noted := LawfulMonad.mk' Noted
  (fun x => by
    show Noted.bind x (fun a => Noted.pure (id a)) = x
    cases x with
    | mk notes outcome => cases outcome <;> simp [Noted.bind, Noted.pure])
  (fun a f => by
    show Noted.bind (Noted.pure a) f = f a
    simp [Noted.bind, Noted.pure])
  (fun x f g => by
    show Noted.bind (Noted.bind x f) g = Noted.bind x fun a => Noted.bind (f a) g
    cases x with
    | mk notes outcome =>
      cases outcome with
      | error e => rfl
      | ok a =>
        simp only [Noted.bind]
        cases h : (f a).outcome <;> simp [List.append_assoc])

end Noted

end ApiCommands
