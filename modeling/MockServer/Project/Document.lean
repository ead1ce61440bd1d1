/-
Project documents.

A document is the text of a project in JSON or in YAML.  Main statement:
`read_of_object` — of a text whose value is an object only the kinds of the members can
be wrong.
-/
import MockServer.Json.Reader
import MockServer.Project.Basic
import MockServer.Yaml.Value

namespace MockServer.Project

/-- The format of a document. -/
inductive Format where
  | json
  | yaml
  deriving DecidableEq, Repr

/-- Why a text is no project document. -/
inductive DocumentFault where
  | notJson (source : String) (fault : JsonFault)
  | notYaml {source : String}
  | notObject
  | shape (fault : ShapeFault)

/-- A heading, with the words that follow it where there are any. -/
def headed (heading : String) : Option String → String
  | some words => heading ++ ": " ++ words
  | none => heading

/-- The wording of a document's fault. -/
def DocumentFault.message [Yaml.Wording] : DocumentFault → String
  | .notJson source fault => "Project document is not valid JSON: " ++ fault.message source
  | @notYaml source =>
    headed "Project document is not valid YAML" (Yaml.Wording.words? source)
  | .notObject => "Project document must be an object with an `endpoints` list"
  | .shape fault => "Project document has an unexpected shape: " ++ fault.message

/-- The value of a text in a format. -/
def documentValue (format : Format) (text : String) : Except DocumentFault Json :=
  match format with
  | .json => (Json.read text).mapError (.notJson text)
  | .yaml => match Yaml.read? text with
    | some v => .ok v
    | none => .error (@DocumentFault.notYaml text)

/-- Reads a project from the value of a document. -/
def ofValue (value : Json) : Except DocumentFault Project :=
  match value with
  | .object members => (ofMembers? members).mapError .shape
  | _ => .error .notObject

/-- Reads a project document. -/
def read (format : Format) (text : String) : Except DocumentFault Project :=
  documentValue format text >>= ofValue

/-- Of a text whose value is an object only the kinds of the members can be wrong. -/
theorem read_of_object {format : Format} {text : String} {members : List (String × Json)}
    (h : documentValue format text = .ok (.object members)) :
    read format text = (ofMembers? members).mapError .shape := by
  rw [read, h]
  rfl

end MockServer.Project
