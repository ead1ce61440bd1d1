/-
What is served.

`Served.ofEndpoint` decides everything that a server needs to answer for an
endpoint: status, content type, headers, delay and body.  Header names that differ
in case only are one header: for the content type and the delay the last one
counts, and of the others a later spelling takes the place of an earlier one.
-/
import MockServer.RouteTable.Basic
import MockServer.Served.Delay
import MockServer.Served.HeaderText

namespace MockServer

/-- An endpoint as a server answers for it. -/
structure Served where
  status : Status
  contentType : String
  headers : List (String × String)
  delay : Option Delay
  body : Option Json

namespace Served

/-- The content type where nothing names one. -/
def defaultContentType : String := "application/json"

/-- The header that names the content type. -/
def contentTypeHeader : String := "Content-Type"

/-- The header that asks for a delay; it is never sent. -/
def delayHeader : String := "X-Delay"

/-- The value of the last header with a name, in any case. -/
def header? (name : String) (headers : List (String × Json)) : Option Json :=
  (headers.reverse.find? fun h => Text.sameIgnoringCase h.1 name).map Prod.snd

/-- The content type: the response's own, else the header's, else the default. -/
def contentTypeOf (endpoint : Endpoint) : String :=
  match endpoint.response.contentType with
  | some own => own
  | none =>
    match (header? contentTypeHeader endpoint.headers).map (Text.trim ∘ headerText) with
    | some text => if text = "" then defaultContentType else text
    | none => defaultContentType

/-- Puts a header: in place of the first one of that name in any case, or at the end. -/
def putHeader (name text : String) : List (String × String) → List (String × String)
  | [] => [(name, text)]
  | (n, t) :: rest =>
    if Text.sameIgnoringCase n name then (name, text) :: rest
    else (n, t) :: putHeader name text rest

/-- A header that is decided apart and not passed on. -/
def isReserved (name : String) : Bool :=
  Text.sameIgnoringCase name contentTypeHeader || Text.sameIgnoringCase name delayHeader

/-- The headers that are passed on. -/
def passedHeaders (headers : List (String × Json)) : List (String × String) :=
  (headers.filter fun h => !isReserved h.1).foldl
    (fun sent h => putHeader h.1 (headerText h.2) sent) []

/-- What is served for an endpoint. -/
def ofEndpoint (endpoint : Endpoint) : Served where
  status := endpoint.response.status
  contentType := contentTypeOf endpoint
  headers := passedHeaders endpoint.headers
  delay := (header? delayHeader endpoint.headers).bind Delay.ofJson?
  body := endpoint.response.body

/-! ### The value of a table -/

/-- The value of what is served; a delay and a body stand only where there is one. -/
def toJson (s : Served) : Json :=
  .object <|
    [("status", s.status.toJson), ("contentType", .string s.contentType),
      ("headers", .object (s.headers.map fun h => (h.1, .string h.2)))]
    ++ (s.delay.map fun d => ("delayMs", d.toJson)).toList
    ++ (s.body.map fun b => ("body", b)).toList

/-- The value of a group: its path, and what is served under each method. -/
def groupToJson (group : RouteGroup) : Json :=
  .object [("path", .string group.path),
    ("methods", .object (group.methods.map fun m => (m.1, (ofEndpoint m.2).toJson)))]

/-- The value of a table: its groups in order. -/
def tableToJson (table : RouteTable) : Json :=
  .array (table.groups.map groupToJson)

end Served
end MockServer
