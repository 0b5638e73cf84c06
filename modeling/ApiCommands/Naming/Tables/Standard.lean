/-
The standard tables: the vocabulary the generator uses unless told otherwise.

They cover one API's tags, path segments and words. Keys and members that are
looked up without regard to case stand here in lower case.
-/
import ApiCommands.Naming.Tables

namespace ApiCommands.Tables

/-- Path segments in one word, and their slugs. -/
def standardAliases : List (String × String) :=
  [("absenceregions", "absence-regions"), ("addprojectmember", "add-project-member"),
   ("addprojects", "add-projects"), ("addtaskbundle", "add-task-bundle"),
   ("addtasktemplates", "add-task-templates"), ("allavailabletasks", "all-available-tasks"),
   ("assignedtasks", "assigned-tasks"), ("assignuserbyemail", "assign-user-by-email"),
   ("changebasetypes", "change-base-types"), ("changelists", "change-lists"),
   ("changestatuses", "change-statuses"), ("changesubtasks", "change-subtasks"),
   ("changesubtaskstoparent", "change-subtasks-to-parent"),
   ("changetypeofwork", "change-type-of-work"), ("checklistitems", "checklist-items"),
   ("checklistitemtemplates", "checklist-item-templates"),
   ("clientapplications", "client-applications"), ("contactinfo", "contact-info"),
   ("contactpersons", "contact-persons"),
   ("customfielddefinitions", "custom-field-definitions"),
   ("deactivatedmenuitems", "deactivated-menu-items"),
   ("deleterecurrency", "delete-recurrency"), ("deletetags", "delete-tags"),
   ("documentspaces", "document-spaces"), ("eventtypes", "event-types"),
   ("externalfiles", "external-files"), ("generateapikey", "generate-api-key"),
   ("generatesecret", "generate-secret"), ("generateuploadurl", "generate-upload-url"),
   ("otherprivatetasks", "other-private-tasks"), ("privatedocuments", "private-documents"),
   ("privatetasks", "private-tasks"), ("projectfeatures", "project-features"),
   ("projectmilestones", "project-milestones"), ("projectroles", "project-roles"),
   ("projectstatuses", "project-statuses"), ("projecttasks", "project-tasks"),
   ("projecttemplates", "project-templates"), ("projecttimebookings", "project-time-bookings"),
   ("projecttypes", "project-types"), ("removebreaks", "remove-breaks"),
   ("removeprojectmember", "remove-project-member"), ("removeprojects", "remove-projects"),
   ("removetasks", "remove-tasks"), ("removetasktemplates", "remove-task-templates"),
   ("removeusers", "remove-users"), ("setarchived", "set-archived"),
   ("setassignees", "set-assignees"), ("setbillable", "set-billable"),
   ("setbilled", "set-billed"), ("setcustomfields", "set-custom-fields"),
   ("setentity", "set-entity"), ("setplannedefforts", "set-planned-efforts"),
   ("setprojectkey", "set-project-key"), ("setrecurrency", "set-recurrency"),
   ("setresolved", "set-resolved"), ("settaskpriority", "set-task-priority"),
   ("settypeofwork", "set-type-of-work"), ("setunbillable", "set-unbillable"),
   ("setunbilled", "set-unbilled"), ("shareddocuments", "shared-documents"),
   ("sharedfiles", "shared-files"), ("taskbundle", "task-bundle"),
   ("taskbundles", "task-bundles"), ("taskdependencies", "task-dependencies"),
   ("taskdependencytemplates", "task-dependency-templates"), ("tasklists", "task-lists"),
   ("tasklist", "task-list"), ("tasklisttemplates", "task-list-templates"),
   ("taskstatuses", "task-statuses"), ("taskschedules", "task-schedules"),
   ("tasktemplates", "task-templates"), ("taskviews", "task-views"),
   ("temporaryfiles", "temporary-files"), ("timebookings", "time-bookings"),
   ("timeentries", "time-entries"), ("timereports", "time-reports"),
   ("timetracking", "time-tracking"), ("typeofwork", "type-of-work"),
   ("unlinkcustomfielddefinition", "unlink-custom-field-definition"),
   ("updateorder", "update-order"), ("updateprojectmember", "update-project-member"),
   ("updateprojectstatusorder", "update-project-status-order"), ("updatetags", "update-tags"),
   ("workspaceabsences", "workspace-absences")]

/-- The domains of the tags. -/
def standardTagDomains : List (String × Domain) :=
  [("accounts", .auth), ("clientapplications", .auth), ("users", .users), ("apiusers", .users),
   ("invitations", .users), ("usertags", .users), ("userfiles", .users),
   ("usercapacities", .users), ("tasks", .tasks), ("privatetasks", .tasks),
   ("assignedtasks", .tasks), ("taskcomments", .tasks), ("taskfiles", .tasks),
   ("tasktags", .tasks), ("tasklists", .tasks), ("taskschedules", .tasks),
   ("taskstatuses", .tasks), ("taskviews", .tasks), ("taskbundles", .tasks),
   ("taskdependencies", .tasks), ("taskdependencytemplates", .tasks), ("tasktemplates", .tasks),
   ("tasktemplatefiles", .tasks), ("checklistitems", .tasks), ("projects", .projects),
   ("projecttasks", .projects), ("projectmembers", .projects), ("projectcomments", .projects),
   ("projectfiles", .projects), ("projecttags", .projects), ("projectstatuses", .projects),
   ("projectroles", .projects), ("projecttypes", .projects), ("projectmilestones", .projects),
   ("projectmilestonetemplates", .projects), ("projecttemplates", .projects),
   ("projecttemplatefiles", .projects), ("projecttemplatetags", .projects),
   ("project automations", .projects), ("project template automations", .projects),
   ("retainers", .projects), ("timeentries", .times), ("timebookings", .times),
   ("timereports", .times), ("timetracking", .times), ("workload", .times),
   ("absences", .times), ("workspaces", .workspace), ("workspacefiles", .workspace),
   ("workspaceabsences", .workspace), ("teams", .workspace), ("roles", .workspace),
   ("permissions", .workspace), ("customfields", .workspace), ("typeofwork", .workspace),
   ("companies", .workspace), ("companyfiles", .workspace), ("companytags", .workspace),
   ("dashboards", .workspace), ("activities", .workspace), ("absenceregions", .workspace),
   ("documents", .documents), ("documentfiles", .documents), ("documentcomments", .documents),
   ("documentspaces", .documents), ("files", .files), ("fileupload", .files),
   ("temporaryfiles", .files), ("sharedfiles", .files), ("images", .files),
   ("commentfiles", .files), ("search", .search), ("webhooks", .integrations),
   ("autopilot", .automation)]

/-- Words that glued text is split into: compound nouns that stay together, plurals, verbs,
singular nouns, and short words. -/
def standardFragments : List String :=
  ["subtasks", "subtask", "contactinfo", "assignees", "statuses", "types", "lists", "tags",
   "members", "templates", "projects", "tasks", "users", "teams", "companies", "archived",
   "recurrency", "change", "set", "get", "list", "create", "update", "delete", "remove", "add",
   "assign", "unassign", "activate", "deactivate", "archive", "unarchive", "start", "stop",
   "enable", "disable", "accept", "reject", "approve", "deny", "project", "task", "user",
   "team", "company", "contact", "status", "type", "base", "work", "info", "tag", "parent",
   "order", "member", "template", "top", "to"]

/-- Nouns that may follow an action prefix in one segment. -/
def standardResources : List String :=
  ["user", "users", "project", "projects", "tags", "team", "teams", "role", "roles", "member",
   "members", "task", "tasks", "tasklist", "tasklists", "taskbundle", "taskbundles",
   "checklistitem", "checklistitems", "checklist", "comment", "comments"]

/-- How an action segment starts. -/
def standardActionPrefixes : List String :=
  ["add-", "remove-", "update-", "set-", "assign", "unassign", "move-", "delete", "change",
   "accept", "activate", "deactivate", "start", "stop", "pause", "resume", "archive",
   "unarchive", "setarchived"]

/-- The standard vocabulary. -/
def standard : Tables where
  domainOrder :=
    [.users, .tasks, .projects, .times, .workspace, .documents, .files, .search, .integrations,
      .automation]
  domainDescriptions :=
    [(.users, "Users"), (.tasks, "Tasks"), (.projects, "Projects"), (.times, "Times"),
     (.workspace, "Workspace"), (.documents, "Documents"), (.files, "Files"),
     (.search, "Search"), (.integrations, "Integrations"), (.automation, "Automation"),
     (.auth, "Auth")]
  tagDomains := standardTagDomains
  rootTags := ["users", "tasks", "projects", "workspaces", "documents", "files", "search"]
  tagBranches :=
    [("apiusers", "api-users"), ("checklistitems", "checklist-items"),
     ("companyfiles", "company-files"), ("companytags", "company-tags"),
     ("commentfiles", "comment-files"), ("fileupload", "upload")]
  domainPrefixes :=
    [(.users, "User"), (.tasks, "Task"), (.projects, "Project"), (.times, "Time"),
     (.workspace, "Workspace"), (.documents, "Document"), (.files, "File")]
  domainSuffixes :=
    [(.tasks, "Tasks"), (.files, "Files"), (.users, "Users")]
  authDomain := .auth
  fallbackTag := "Core"
  segmentAliases := standardAliases
  knownResources := standardResources
  compoundActionPrefixes :=
    ["add", "remove", "update", "set", "assign", "unassign", "move"]
  actionPrefixes := standardActionPrefixes
  nonPluralPrefixes := ["add-", "remove-", "update-", "set-", "accept", "assign"]
  currentEntityAliases := ["me"]
  nameParamSuffixes := ["name"]
  idParamSuffixes := ["id"]
  wordFragments := standardFragments
  unsplittableWords := ["workspace", "workspaces", "workload"]
  wordReplacements := [("WorkSpace", "Workspace")]
  genericOperationIds := ["Get", "Post", "Put", "Delete", "Patch"]
  reservedOptionNames :=
    ["env", "token", "auth-mode", "config", "body", "set", "set-json"]

end ApiCommands.Tables
