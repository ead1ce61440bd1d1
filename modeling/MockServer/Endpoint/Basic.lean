/-
Endpoints.

An endpoint answers one method on one path.  Its response is either a single one,
or the first of a list of documented ones; the others of the list are kept for
documentation and never served.
-/
import MockServer.Endpoint.Status

namespace MockServer

/-- One documented response. -/
structure DocumentedResponse where
  status : Status
  contentType : Option String
  description : String
  body : Option Json

/-- How an endpoint responds. -/
inductive Response where
  | single (status : Status) (body : Option Json)
  | documented (served : DocumentedResponse) (others : List DocumentedResponse)

namespace Response

/-- The status that is served. -/
def status : Response → Status
  | .single status _ => status
  | .documented served _ => served.status

/-- The body that is served. -/
def body : Response → Option Json
  | .single _ body => body
  | .documented served _ => served.body

/-- The content type that the served response names itself. -/
def contentType : Response → Option String
  | .single _ _ => none
  | .documented served _ => served.contentType

end Response

/-- An endpoint with nothing left open. -/
structure Endpoint where
  id : Option String
  method : String
  path : String
  description : String
  headers : List (String × Json)
  response : Response

end MockServer
