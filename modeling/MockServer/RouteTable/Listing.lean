/-
Route tables as people read them.

A listing opens with the project's name and the counts; under each path stands one
line for each method, and the refused endpoints close it.
-/
import MockServer.Served.Basic

namespace MockServer.RouteTable

/-- The plain numeral of a number. -/
def numeral (n : Nat) : String :=
  String.ofList (Number.digits n)

/-- A text with blanks behind it, up to a width. -/
def padded (width : Nat) (s : String) : String :=
  s ++ String.ofList (List.replicate (width - s.length) ' ')

/-- The line of an endpoint under its method. -/
def endpointLine (method : String) (endpoint : Endpoint) : String :=
  let served := Served.ofEndpoint endpoint
  "  " ++ padded 7 method ++ " " ++ numeral served.status.code ++ " " ++ served.contentType
    ++ (match served.delay with
      | some d => " (delay " ++ numeral d.milliseconds ++ "ms)"
      | none => "")
    ++ (if endpoint.description = "" then "" else "  # " ++ endpoint.description) ++ "\n"

/-- The lines of a group. -/
def groupLines (group : RouteGroup) : String :=
  group.path ++ "\n" ++ String.join (group.methods.map fun m => endpointLine m.1 m.2)

/-- The line of a refused endpoint. -/
def refusalLine (refusal : Refusal) : String :=
  "⚠️  refused " ++ refusal.method ++ " " ++ refusal.path ++ ": " ++ refusal.fault.message ++ "\n"

/-- The listing of a table under a name. -/
def listing (name : String) (table : RouteTable) : String :=
  "📋 " ++ name ++ ": " ++ numeral table.routeCount ++ " routes in " ++ numeral table.groups.length
    ++ " paths\n"
    ++ String.join (table.groups.map groupLines) ++ String.join (table.refused.map refusalLine)

end MockServer.RouteTable
