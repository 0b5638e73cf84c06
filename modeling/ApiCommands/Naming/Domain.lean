/-
Domains: the closed set of top-level branches of the command tree.

`auth` is registered through an entry point of its own. `unmapped` stands for
the tags no table places; nothing is emitted under it.
-/

namespace ApiCommands

/-- A top-level branch. -/
inductive Domain where
  | users
  | tasks
  | projects
  | times
  | workspace
  | documents
  | files
  | search
  | integrations
  | automation
  | auth
  | unmapped
  deriving DecidableEq, Repr, Inhabited

namespace Domain

/-- All domains. -/
def all : List Domain :=
  [users, tasks, projects, times, workspace, documents, files, search, integrations, automation,
    auth, unmapped]

/-- The name of a domain. -/
def name : Domain → String
  | users => "users"
  | tasks => "tasks"
  | projects => "projects"
  | times => "times"
  | workspace => "workspace"
  | documents => "documents"
  | files => "files"
  | search => "search"
  | integrations => "integrations"
  | automation => "automation"
  | auth => "auth"
  | unmapped => "unmapped"

/-- The domain of a name. -/
def ofName? (s : String) : Option Domain := all.find? (·.name == s)

/-- The name with a capital first letter. -/
def title (d : Domain) : String :=
  match d.name.toList with
  | [] => ""
  | c :: rest => String.ofList (c.toUpper :: rest)

/-- A name reads back as its domain. -/
theorem ofName?_name (d : Domain) : ofName? d.name = some d := by cases d <;> decide

end Domain

end ApiCommands
