/-
Authored endpoint records.

`Endpoint.ofRecord` reads an endpoint out of any JSON value.  Reading cannot fail:
a member that is missing, blank or of another kind takes its default, since records
are half-filled forms as often as not.  Main statements:

* `method_ofRecord_ne_empty`, `path_ofRecord_ne_empty` — every endpoint has a method
  and a path;
* `ofRecord_of_not_object` — a value that is no object counts as an empty record.
-/
import MockServer.Endpoint.Basic
import MockServer.Json.Printer
import MockServer.Text.Ascii

namespace MockServer.Endpoint

/-- The method of a record that names none. -/
def defaultMethod : String := "GET"

/-- The path of a record that names none. -/
def defaultPath : String := "/"

/-- The trimmed text of a string that is not blank. -/
def filledText? (value : Option Json) : Option String :=
  (value.bind Json.string?).bind fun s =>
    let t := Text.trim s
    if t = "" then none else some t

/-- The authored method in upper case. -/
def methodOf (value : Option Json) : String :=
  match filledText? value with
  | some m => Text.asciiUpper m
  | none => defaultMethod

/-- The authored path as it stands, also where it cannot be routed. -/
def pathOf (value : Option Json) : String :=
  (filledText? value).getD defaultPath

/-- The authored identifier: a text, or a number in its own notation. -/
def idOf : Json → Option String
  | .string s => some s
  | .number n => some (String.ofList n.text)
  | _ => none

/-- The authored text of a string, empty for anything else. -/
def textOf (value : Option Json) : String :=
  (value.bind Json.string?).getD ""

/-- The authored body; null stands for none. -/
def bodyOf (value : Option Json) : Option Json :=
  value.filter (!·.isNull)

/-- The authored status, or the standard one. -/
def statusOf (value : Option Json) : Status :=
  (value.bind Status.ofJson?).getD .standard

/-- One entry of the list of responses. -/
def documentedOf (entry : Json) : DocumentedResponse where
  status := statusOf (entry.get? "status")
  contentType := filledText? (entry.get? "contentType")
  description := textOf (entry.get? "desc")
  body := bodyOf (entry.get? "body")

/-- The authored responses: a list with at least one entry, else the single response. -/
def responseOf (record : Json) : Response :=
  match (record.get? "responses").bind Json.array? with
  | some (first :: others) => .documented (documentedOf first) (others.map documentedOf)
  | _ => .single (statusOf (record.get? "responseStatus")) (bodyOf (record.get? "responseBody"))

/-- The endpoint of an authored record. -/
def ofRecord (record : Json) : Endpoint where
  id := (record.get? "id").bind idOf
  method := methodOf (record.get? "method")
  path := pathOf (record.get? "path")
  description := textOf (record.get? "description")
  headers := ((record.get? "headers").bind Json.object?).getD []
  response := responseOf record

/-! ### What every record has -/

theorem filledText?_ne_empty {value : Option Json} {s : String} (h : filledText? value = some s) :
    s ≠ "" := by
  simp only [filledText?, Option.bind_eq_some_iff] at h
  obtain ⟨t, _, ht⟩ := h
  split at ht
  · cases ht
  · cases ht
    assumption

theorem asciiUpper_ne_empty {s : String} (h : s ≠ "") : Text.asciiUpper s ≠ "" := by
  intro he
  apply h
  have : (Text.asciiUpper s).toList = [] := by rw [he]; rfl
  simpa [Text.asciiUpper] using this

theorem methodOf_ne_empty (value : Option Json) : methodOf value ≠ "" := by
  rw [methodOf]
  split
  · rename_i h
    exact asciiUpper_ne_empty (filledText?_ne_empty h)
  · decide

theorem pathOf_ne_empty (value : Option Json) : pathOf value ≠ "" := by
  rw [pathOf]
  cases h : filledText? value with
  | none => decide
  | some s => exact filledText?_ne_empty h

theorem method_ofRecord_ne_empty (record : Json) : (ofRecord record).method ≠ "" :=
  methodOf_ne_empty _

theorem path_ofRecord_ne_empty (record : Json) : (ofRecord record).path ≠ "" :=
  pathOf_ne_empty _

/-- A value that is no object counts as an empty record. -/
theorem ofRecord_of_not_object {record : Json} (h : record.members = []) :
    ofRecord record = ofRecord (.object []) := by
  have hg : ∀ key, record.get? key = (Json.object []).get? key := by
    intro key
    rw [Json.get?, h]
    rfl
  simp only [ofRecord, responseOf, hg]

end MockServer.Endpoint
