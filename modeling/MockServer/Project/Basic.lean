/-
Projects.

A project is a name with authored endpoint records, and what an editor keeps beside
them.  `ofJson?` reads the members of an object in order; the first one of a wrong kind
is the fault, and members that no project has are passed over.  Main statement:
`ofMembers?_nil` — every member may be missing.
-/
import MockServer.Json.Described
import MockServer.Project.Name

namespace MockServer

/-- An authored project. -/
structure Project where
  id : Option String
  name : String
  version : Option String
  updatedAt : Option String
  endpoints : List Json

namespace Project

/-- A project with a name and records only. -/
def new (name : String) (endpoints : List Json) : Project :=
  ⟨none, name, none, none, endpoints⟩

/-- A member of a wrong kind: what was found, and what was expected. -/
structure ShapeFault where
  found : Json
  expected : String

/-- The wording of a wrong kind. -/
def ShapeFault.message (fault : ShapeFault) : String :=
  fault.found.mismatch fault.expected

/-- Reads a text. -/
def readText : Json → Except ShapeFault String
  | .string s => .ok s
  | found => .error ⟨found, "a string"⟩

/-- Reads a text that may be null. -/
def readOptional : Json → Except ShapeFault (Option String)
  | .null => .ok none
  | v => (readText v).map some

/-- Reads a list. -/
def readList : Json → Except ShapeFault (List Json)
  | .array items => .ok items
  | found => .error ⟨found, "a sequence"⟩

/-- Takes one member into a project. -/
def setMember (project : Project) (key : String) (value : Json) : Except ShapeFault Project :=
  match key with
  | "id" => (readOptional value).map fun v => { project with id := v }
  | "name" => (readText value).map fun v => { project with name := v }
  | "version" => (readOptional value).map fun v => { project with version := v }
  | "updatedAt" => (readOptional value).map fun v => { project with updatedAt := v }
  | "endpoints" => (readList value).map fun v => { project with endpoints := v }
  | _ => .ok project

/-- Reads a project from the members of an object. -/
def ofMembers? (members : List (String × Json)) : Except ShapeFault Project :=
  members.foldlM (fun project m => project.setMember m.1 m.2) (.new defaultName [])

@[simp] theorem ofMembers?_nil : ofMembers? [] = .ok (.new defaultName []) := rfl

/-- A member with a text, where there is one. -/
def textMember (key : String) (text : Option String) : List (String × Json) :=
  (text.map fun s => (key, Json.string s)).toList

/-- The value of a project; a text that it has not is left out. -/
def toJson (project : Project) : Json :=
  .object <|
    textMember "id" project.id ++ [("name", .string project.name)]
      ++ textMember "version" project.version ++ textMember "updatedAt" project.updatedAt
      ++ [("endpoints", .array project.endpoints)]

end Project
end MockServer
