/-
Server programs.

`Program.ofTable` writes the program of a server: a main file that holds the route
table as the literal of a JSON text, and a module file.  The result depends on the
table and the name only.
-/
import MockServer.Log.Event
import MockServer.Program.Literal
import MockServer.Program.MainFile
import MockServer.Project.Name
import MockServer.Served.Basic
import MockServer.Text.Bytes

namespace MockServer

/-- The two files of a server program. -/
structure Program where
  mainFile : String
  moduleFile : String
  deriving DecidableEq

namespace Program

/-- The port of a server that is told none. -/
def defaultPort : Nat := 8080

/-- The methods that a server names to other origins. -/
def allowedMethods : String := "GET,POST,PUT,PATCH,DELETE,OPTIONS"

/-- The module that the module file declares. -/
def modulePath : String := "local/generated"

/-- The toolchain version that the module file asks for. -/
def toolchainVersion : String := "1.22"

/-- The module file. -/
def moduleFileText : String :=
  "module " ++ modulePath ++ "\n\ngo " ++ toolchainVersion ++ "\n"

/-- The method on a route's comment line: as it is where all of it is visible ASCII, else
as a literal. -/
def methodText (method : String) : String :=
  if method ≠ "" ∧ method.toList.all Text.isAsciiGraphic then method else literal method

/-- The comment lines of a group. -/
def groupRoutes (group : RouteGroup) : List RouteLine :=
  group.methodNames.map fun method => ⟨methodText method, literal group.path⟩

/-- The parts of the main file of a table. -/
def mainFileOf (table : RouteTable) (name : String) : MainFile where
  project := literal (Project.displayName name)
  routes := table.groups.flatMap groupRoutes
  port := defaultPort
  allowedMethods := literal allowedMethods
  table := literal (Served.tableToJson table).text

/-- The program of a table under a project's name. -/
def ofTable (table : RouteTable) (name : String) : Program where
  mainFile := (mainFileOf table name).text
  moduleFile := moduleFileText

/-- What the writing of a program tells. -/
def notice (table : RouteTable) (name : String) : Log.Event :=
  ⟨.debug, "mocksmith::generator::project", "Synthesized server program",
    [("project", .quoted (Project.displayName name)),
      ("groups", .count table.groups.length),
      ("routes", .count table.routeCount),
      ("bytes", .count (Text.byteCount (ofTable table name).mainFile))]⟩

end Program
end MockServer
