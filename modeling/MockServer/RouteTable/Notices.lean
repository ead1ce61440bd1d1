/-
What the building of a route table tells.

Every refused endpoint is announced as a warning, and every endpoint that replaces
an earlier one as a detail, in the order of the endpoints.
-/
import MockServer.Log.Event
import MockServer.RouteTable.Basic

namespace MockServer.RouteTable

/-- The part of the program that speaks here. -/
def target : String := "mocksmith::spec::build"

/-- What adding an endpoint to a table tells. -/
def notice? (table : RouteTable) (endpoint : Endpoint) : Option Log.Event :=
  match PathFault.ofPath? endpoint.path with
  | some fault => some ⟨.warn, target, "Refusing endpoint",
      [("method", .shown endpoint.method), ("path", .shown endpoint.path),
        ("reason", .quoted fault.message)]⟩
  | none =>
    (table.lookup endpoint.method endpoint.path).map fun _ =>
      ⟨.debug, target, "Later definition replaces earlier one",
        [("method", .shown endpoint.method), ("path", .shown endpoint.path)]⟩

/-- What adding some endpoints in order tells. -/
def noticesFrom (table : RouteTable) : List Endpoint → List Log.Event
  | [] => []
  | endpoint :: rest => (table.notice? endpoint).toList ++ noticesFrom (table.add endpoint) rest

/-- What the building of the table of some endpoints tells. -/
def notices (endpoints : List Endpoint) : List Log.Event :=
  noticesFrom empty endpoints

end MockServer.RouteTable
