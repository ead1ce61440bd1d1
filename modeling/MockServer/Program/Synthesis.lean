/-
Making the program of a project.

The endpoints of a project become its route table, and the table becomes its program; both
steps are told.
-/
import MockServer.Machine
import MockServer.Program.Basic
import MockServer.Project.Basic
import MockServer.RouteTable.Notices

namespace MockServer.Project

variable {ε : Type}

/-- Makes the route table of a project. -/
def routeTable (project : Project) : Task ε RouteTable := do
  let endpoints := project.endpoints.map Endpoint.ofRecord
  Task.tellAll (RouteTable.notices endpoints)
  pure (.ofEndpoints endpoints)

/-- Makes the program of a project; gives its route table too. -/
def synthesize (project : Project) : Task ε (RouteTable × Program) := do
  let table ← project.routeTable
  Task.tell (Program.notice table project.name)
  pure (table, .ofTable table project.name)

end MockServer.Project
