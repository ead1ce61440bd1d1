/-
Canonical endpoints.

Reading a record decides everything that the record leaves open.  `IsCanonical` says
what an endpoint looks like then, without a word of records, and `toRecord` writes an
endpoint as a record that names each of its parts.  Main statements:

* `isCanonical_ofRecord` — every value, of whatever shape, is read as a canonical
  endpoint;
* `ofRecord_toRecord` — a canonical endpoint is read back from its own record;
* `ofRecord_onto_canonical` — so the canonical endpoints are exactly what records are
  read as, and reading a second time changes nothing.
-/
import MockServer.Endpoint.Record
import MockServer.Served.Basic

namespace MockServer

/-! ### Texts without white space at their ends -/

namespace Text

/-- Neither the first nor the last character of a text is white space. -/
structure IsTrimmed (s : String) : Prop where
  first : ∀ c, s.toList.head? = some c → isBlank c = false
  last : ∀ c, s.toList.getLast? = some c → isBlank c = false

theorem isTrimmed_trim (s : String) : IsTrimmed (trim s) where
  first := by
    intro c hc
    rw [toList_trim] at hc
    exact head?_trimList hc
  last := by
    intro c hc
    rw [toList_trim] at hc
    exact getLast?_trimList hc

theorem trim_eq_self_iff {s : String} : trim s = s ↔ IsTrimmed s := by
  constructor
  · intro h
    rw [← h]
    exact isTrimmed_trim s
  · intro h
    rw [trim, trimList_eq_self h.first h.last, String.ofList_toList]

theorem isBlank_of_letters {c : Char} (low : 0x41 ≤ c.toNat) (high : c.toNat ≤ 0x7a) :
    isBlank c = false := by
  simp [isBlank]
  omega

/-- Upper case makes no character white space, and white space no other character. -/
theorem isBlank_toUpper (c : Char) : isBlank c.toUpper = isBlank c := by
  cases hc : c.isLower with
  | true =>
    have hrange := isLower_iff.1 hc
    have hupper := toNat_toUpper hc
    rw [isBlank_of_letters (by omega) (by omega), isBlank_of_letters (by omega) hrange.2]
  | false => rw [toUpper_eq_self hc]

theorem isTrimmed_asciiUpper {s : String} (h : IsTrimmed s) : IsTrimmed (asciiUpper s) where
  first := by
    intro c hc
    rw [asciiUpper, String.toList_ofList, List.head?_map, Option.map_eq_some_iff] at hc
    obtain ⟨d, hd, rfl⟩ := hc
    rw [isBlank_toUpper, h.first d hd]
  last := by
    intro c hc
    rw [asciiUpper, String.toList_ofList, List.getLast?_map, Option.map_eq_some_iff] at hc
    obtain ⟨d, hd, rfl⟩ := hc
    rw [isBlank_toUpper, h.last d hd]

theorem not_isLower_of_mem_asciiUpper {s : String} {c : Char}
    (h : c ∈ (asciiUpper s).toList) : c.isLower = false := by
  rw [asciiUpper, String.toList_ofList, List.mem_map] at h
  obtain ⟨d, -, rfl⟩ := h
  exact isLower_toUpper d

theorem asciiUpper_eq_self {s : String} (h : ∀ c ∈ s.toList, c.isLower = false) :
    asciiUpper s = s := by
  have hmap : s.toList.map Char.toUpper = s.toList.map id :=
    List.map_congr_left fun c hc => toUpper_eq_self (h c hc)
  rw [asciiUpper, hmap, List.map_id, String.ofList_toList]

end Text

/-! ### The parts of a response -/

namespace Response

/-- Every status that a response holds. -/
def statuses : Response → List Status
  | .single status _ => [status]
  | .documented served others => (served :: others).map (·.status)

/-- Every body that a response holds. -/
def bodies : Response → List Json
  | .single _ body => body.toList
  | .documented served others => (served :: others).filterMap (·.body)

/-- Every content type that a response holds. -/
def contentTypes : Response → List String
  | .single _ _ => []
  | .documented served others => (served :: others).filterMap (·.contentType)

end Response

namespace Endpoint

/-- An endpoint with nothing left to decide.  That a list of documented responses has a
first one is part of its type. -/
structure IsCanonical (e : Endpoint) : Prop where
  method_ne_empty : e.method ≠ ""
  method_trimmed : Text.IsTrimmed e.method
  method_upper : ∀ c ∈ e.method.toList, c.isLower = false
  path_ne_empty : e.path ≠ ""
  path_trimmed : Text.IsTrimmed e.path
  status_inRange : ∀ s ∈ e.response.statuses, 100 ≤ s.code ∧ s.code ≤ 999
  body_ne_null : ∀ b ∈ e.response.bodies, b ≠ .null
  contentType_ne_empty : ∀ t ∈ e.response.contentTypes, t ≠ ""
  contentType_trimmed : ∀ t ∈ e.response.contentTypes, Text.IsTrimmed t

/-! ### What records are read as -/

theorem isTrimmed_of_filledText? {value : Option Json} {s : String}
    (h : filledText? value = some s) : Text.IsTrimmed s := by
  simp only [filledText?, Option.bind_eq_some_iff] at h
  obtain ⟨t, -, ht⟩ := h
  split at ht
  · cases ht
  · cases ht
    exact Text.isTrimmed_trim t

theorem isTrimmed_methodOf (value : Option Json) : Text.IsTrimmed (methodOf value) := by
  rw [methodOf]
  split
  · rename_i s h
    exact Text.isTrimmed_asciiUpper (isTrimmed_of_filledText? h)
  · exact Text.trim_eq_self_iff.1 (by decide)

theorem not_isLower_methodOf (value : Option Json) :
    ∀ c ∈ (methodOf value).toList, c.isLower = false := by
  rw [methodOf]
  split
  · intro c hc
    exact Text.not_isLower_of_mem_asciiUpper hc
  · intro c hc
    have hupper : defaultMethod = Text.asciiUpper defaultMethod := by decide
    rw [hupper] at hc
    exact Text.not_isLower_of_mem_asciiUpper hc

theorem isTrimmed_pathOf (value : Option Json) : Text.IsTrimmed (pathOf value) := by
  rw [pathOf]
  cases h : filledText? value with
  | none => exact Text.trim_eq_self_iff.1 (by decide)
  | some s => exact isTrimmed_of_filledText? h

theorem bodyOf_ne_null {value : Option Json} {b : Json} (h : bodyOf value = some b) :
    b ≠ .null := by
  rw [bodyOf, Option.filter_eq_some_iff] at h
  rintro rfl
  exact absurd h.2 (by decide)

/-- A response that was read is a single one, or a list of entries that were read. -/
theorem responseOf_cases (record : Json) :
    (∃ status body, responseOf record = .single (statusOf status) (bodyOf body)) ∨
      ∃ (first : Json) (others : List Json), responseOf record =
        .documented (documentedOf first) (others.map documentedOf) := by
  rw [responseOf]
  split
  · exact .inr ⟨_, _, rfl⟩
  · exact .inl ⟨_, _, rfl⟩

theorem body_responseOf_ne_null (record : Json) :
    ∀ b ∈ (responseOf record).bodies, b ≠ .null := by
  intro b hb
  obtain ⟨status, body, h⟩ | ⟨first, others, h⟩ := responseOf_cases record
  · rw [h, Response.bodies, Option.mem_toList] at hb
    exact bodyOf_ne_null hb
  · rw [h, Response.bodies, ← List.map_cons, List.mem_filterMap] at hb
    obtain ⟨response, hmem, hbody⟩ := hb
    obtain ⟨entry, -, rfl⟩ := List.mem_map.1 hmem
    exact bodyOf_ne_null hbody

theorem contentType_responseOf (record : Json) :
    ∀ t ∈ (responseOf record).contentTypes, t ≠ "" ∧ Text.IsTrimmed t := by
  intro t ht
  obtain ⟨status, body, h⟩ | ⟨first, others, h⟩ := responseOf_cases record
  · rw [h, Response.contentTypes] at ht
    cases ht
  · rw [h, Response.contentTypes, ← List.map_cons, List.mem_filterMap] at ht
    obtain ⟨response, hmem, htype⟩ := ht
    obtain ⟨entry, -, rfl⟩ := List.mem_map.1 hmem
    exact ⟨filledText?_ne_empty htype, isTrimmed_of_filledText? htype⟩

/-- Every value, of whatever shape, is read as a canonical endpoint. -/
theorem isCanonical_ofRecord (record : Json) : (ofRecord record).IsCanonical where
  method_ne_empty := method_ofRecord_ne_empty record
  method_trimmed := isTrimmed_methodOf _
  method_upper := not_isLower_methodOf _
  path_ne_empty := path_ofRecord_ne_empty record
  path_trimmed := isTrimmed_pathOf _
  status_inRange := fun s _ => s.inRange
  body_ne_null := body_responseOf_ne_null record
  contentType_ne_empty := fun t ht => (contentType_responseOf record t ht).1
  contentType_trimmed := fun t ht => (contentType_responseOf record t ht).2

end Endpoint

/-! ### Writing endpoints as records -/

namespace Json

/-- Puts the member with a value in front; it is left out where there is no value. -/
def optional (key : String) (value : Option Json) (ms : List (String × Json)) :
    List (String × Json) :=
  match value with
  | some v => (key, v) :: ms
  | none => ms

theorem member?_cons_self (key : String) (value : Json) (ms : List (String × Json)) :
    member? key ((key, value) :: ms) = some value := by
  rw [member?, if_pos rfl]

theorem member?_cons_of_ne {key other : String} (h : other ≠ key) (value : Json)
    (ms : List (String × Json)) : member? key ((other, value) :: ms) = member? key ms := by
  rw [member?, if_neg h]

theorem member?_optional_self (key : String) (value : Option Json) (ms : List (String × Json)) :
    member? key (optional key value ms) = value.or (member? key ms) := by
  cases value with
  | none => rfl
  | some v => exact member?_cons_self key v ms

theorem member?_optional_of_ne {key other : String} (h : other ≠ key) (value : Option Json)
    (ms : List (String × Json)) : member? key (optional other value ms) = member? key ms := by
  cases value with
  | none => rfl
  | some v => exact member?_cons_of_ne h v ms

end Json

/-- The record of one documented response. -/
def DocumentedResponse.toRecord (r : DocumentedResponse) : Json :=
  .object <|
    ("status", r.status.toJson) :: ("desc", .string r.description)
      :: Json.optional "contentType" (r.contentType.map .string) (Json.optional "body" r.body [])

/-- The members of a record for a response. -/
def Response.toMembers : Response → List (String × Json)
  | .single status body =>
    ("responseStatus", status.toJson) :: Json.optional "responseBody" body []
  | .documented served others =>
    [("responses", .array ((served :: others).map DocumentedResponse.toRecord))]

namespace Endpoint

/-- The record of an endpoint; what the endpoint has not is left out. -/
def toRecord (e : Endpoint) : Json :=
  .object <| Json.optional "id" (e.id.map .string) <|
    ("method", .string e.method) :: ("path", .string e.path)
      :: ("description", .string e.description) :: ("headers", .object e.headers)
      :: e.response.toMembers

/-! ### Reading them back -/

theorem filledText?_string {s : String} (h : Text.IsTrimmed s) (hne : s ≠ "") :
    filledText? (some (.string s)) = some s := by
  simp only [filledText?, Json.string?, Option.bind_some, Text.trim_eq_self_iff.2 h, if_neg hne]

theorem bodyOf_eq_self {body : Option Json} (h : ∀ b ∈ body, b ≠ .null) :
    bodyOf body = body := by
  cases body with
  | none => rfl
  | some b =>
    have hb : b.isNull = false := by
      cases b with
      | null => exact absurd rfl (h .null rfl)
      | _ => rfl
    simp [bodyOf, hb]

theorem statusOf_toJson (s : Status) : statusOf (some s.toJson) = s := by
  rw [statusOf, Option.bind_some, Status.ofJson?_toJson, Option.getD_some]

/-- The members of a documented response's record. -/
theorem get?_toRecord_documented (r : DocumentedResponse) :
    r.toRecord.get? "status" = some r.status.toJson
    ∧ r.toRecord.get? "contentType" = r.contentType.map .string
    ∧ r.toRecord.get? "desc" = some (.string r.description)
    ∧ r.toRecord.get? "body" = r.body := by
  simp only [DocumentedResponse.toRecord, Json.get?, Json.members]
  refine ⟨?_, ?_, ?_, ?_⟩
  · exact Json.member?_cons_self _ _ _
  · rw [Json.member?_cons_of_ne (by decide), Json.member?_cons_of_ne (by decide),
      Json.member?_optional_self, Json.member?_optional_of_ne (by decide)]
    exact Option.or_none
  · rw [Json.member?_cons_of_ne (by decide), Json.member?_cons_self]
  · rw [Json.member?_cons_of_ne (by decide), Json.member?_cons_of_ne (by decide),
      Json.member?_optional_of_ne (by decide), Json.member?_optional_self]
    exact Option.or_none

theorem documentedOf_toRecord {r : DocumentedResponse}
    (contentType : ∀ t ∈ r.contentType, t ≠ "" ∧ Text.IsTrimmed t)
    (body : ∀ b ∈ r.body, b ≠ .null) : documentedOf r.toRecord = r := by
  obtain ⟨hstatus, htype, hdesc, hbody⟩ := get?_toRecord_documented r
  have hfilled : filledText? (r.contentType.map .string) = r.contentType := by
    cases h : r.contentType with
    | none => rfl
    | some t => exact filledText?_string (contentType t h).2 (contentType t h).1
  rw [documentedOf, hstatus, htype, hdesc, hbody, hfilled, statusOf_toJson, bodyOf_eq_self body]
  rfl

/-- The members of an endpoint's record that are not about its response. -/
theorem get?_toRecord (e : Endpoint) :
    e.toRecord.get? "id" = e.id.map .string
    ∧ e.toRecord.get? "method" = some (.string e.method)
    ∧ e.toRecord.get? "path" = some (.string e.path)
    ∧ e.toRecord.get? "description" = some (.string e.description)
    ∧ e.toRecord.get? "headers" = some (.object e.headers) := by
  have hresponse : Json.member? "id" e.response.toMembers = none := by
    cases e.response with
    | single status body => cases body <;> rfl
    | documented served others => rfl
  have hid : ∀ key, "id" ≠ key → e.toRecord.get? key =
      Json.member? key (("method", .string e.method) :: ("path", .string e.path)
        :: ("description", .string e.description) :: ("headers", .object e.headers)
        :: e.response.toMembers) :=
    fun key h => Json.member?_optional_of_ne h _ _
  refine ⟨?_, ?_, ?_, ?_, ?_⟩
  · refine (Json.member?_optional_self _ _ _).trans ?_
    rw [Json.member?_cons_of_ne (by decide), Json.member?_cons_of_ne (by decide),
      Json.member?_cons_of_ne (by decide), Json.member?_cons_of_ne (by decide), hresponse]
    exact Option.or_none
  · rw [hid _ (by decide), Json.member?_cons_self]
  · rw [hid _ (by decide), Json.member?_cons_of_ne (by decide), Json.member?_cons_self]
  · rw [hid _ (by decide), Json.member?_cons_of_ne (by decide),
      Json.member?_cons_of_ne (by decide), Json.member?_cons_self]
  · rw [hid _ (by decide), Json.member?_cons_of_ne (by decide),
      Json.member?_cons_of_ne (by decide), Json.member?_cons_of_ne (by decide),
      Json.member?_cons_self]

/-- Any other member of an endpoint's record is about its response. -/
theorem get?_toRecord_of_not_mem (e : Endpoint) (key : String)
    (h : key ∉ ["id", "method", "path", "description", "headers"]) :
    e.toRecord.get? key = Json.member? key e.response.toMembers := by
  simp only [List.mem_cons, List.not_mem_nil, or_false, not_or] at h
  obtain ⟨hid, hmethod, hpath, hdescription, hheaders⟩ := h
  refine (Json.member?_optional_of_ne (Ne.symm hid) _ _).trans ?_
  rw [Json.member?_cons_of_ne (Ne.symm hmethod), Json.member?_cons_of_ne (Ne.symm hpath),
    Json.member?_cons_of_ne (Ne.symm hdescription), Json.member?_cons_of_ne (Ne.symm hheaders)]

/-- The members of a single response. -/
theorem member?_toMembers_single (status : Status) (body : Option Json) :
    Json.member? "responses" (Response.single status body).toMembers = none
    ∧ Json.member? "responseStatus" (Response.single status body).toMembers =
        some status.toJson
    ∧ Json.member? "responseBody" (Response.single status body).toMembers = body := by
  cases body <;> exact ⟨rfl, rfl, rfl⟩

theorem responseOf_toRecord {e : Endpoint}
    (contentType : ∀ t ∈ e.response.contentTypes, t ≠ "" ∧ Text.IsTrimmed t)
    (body : ∀ b ∈ e.response.bodies, b ≠ .null) : responseOf e.toRecord = e.response := by
  rw [responseOf, get?_toRecord_of_not_mem e "responses" (by decide),
    get?_toRecord_of_not_mem e "responseStatus" (by decide),
    get?_toRecord_of_not_mem e "responseBody" (by decide)]
  cases h : e.response with
  | single status b =>
    have hb : bodyOf b = b := bodyOf_eq_self fun x hx => body x (by
      rw [h, Response.bodies]
      exact Option.mem_toList.2 hx)
    obtain ⟨hresponses, hstatus, hbody⟩ := member?_toMembers_single status b
    rw [hresponses, hstatus, hbody, hb, statusOf_toJson]
    rfl
  | documented served others =>
    have hread : ∀ r ∈ served :: others, documentedOf r.toRecord = r := by
      intro r hr
      refine documentedOf_toRecord (fun t ht => contentType t ?_) fun b hb => body b ?_
      · rw [h, Response.contentTypes]
        exact List.mem_filterMap.2 ⟨r, hr, ht⟩
      · rw [h, Response.bodies]
        exact List.mem_filterMap.2 ⟨r, hr, hb⟩
    have hothers : (others.map DocumentedResponse.toRecord).map documentedOf = others := by
      rw [List.map_map]
      calc others.map (documentedOf ∘ DocumentedResponse.toRecord)
          = others.map fun r => r :=
            List.map_congr_left fun r hr => hread r (List.mem_cons_of_mem served hr)
        _ = others := List.map_id' others
    show Response.documented (documentedOf served.toRecord)
      ((others.map DocumentedResponse.toRecord).map documentedOf) = _
    rw [hread served List.mem_cons_self, hothers]

/-- A canonical endpoint is read back from its own record. -/
theorem ofRecord_toRecord {e : Endpoint} (h : e.IsCanonical) : ofRecord e.toRecord = e := by
  obtain ⟨hid, hmethod, hpath, hdescription, hheaders⟩ := get?_toRecord e
  have hresponse : responseOf e.toRecord = e.response :=
    responseOf_toRecord (fun t ht => ⟨h.contentType_ne_empty t ht, h.contentType_trimmed t ht⟩)
      h.body_ne_null
  have hid' : (e.id.map Json.string).bind idOf = e.id := by
    cases e.id <;> rfl
  have hmethod' : methodOf (some (.string e.method)) = e.method := by
    rw [methodOf, filledText?_string h.method_trimmed h.method_ne_empty]
    exact Text.asciiUpper_eq_self h.method_upper
  have hpath' : pathOf (some (.string e.path)) = e.path := by
    rw [pathOf, filledText?_string h.path_trimmed h.path_ne_empty, Option.getD_some]
  rw [ofRecord, hid, hmethod, hpath, hdescription, hheaders, hid', hmethod', hpath', hresponse]
  rfl

/-- **The canonical endpoints are what records are read as.**  Every value is read as a
canonical endpoint; the canonical endpoints are exactly those that are read back from
their own record; reading a second time changes nothing; and the status that is served is
one that a response may carry. -/
theorem ofRecord_onto_canonical :
    (∀ record, (ofRecord record).IsCanonical)
    ∧ (∀ e : Endpoint, e.IsCanonical ↔ ofRecord e.toRecord = e)
    ∧ (∀ record, ofRecord (ofRecord record).toRecord = ofRecord record)
    ∧ ∀ record, 100 ≤ (Served.ofEndpoint (ofRecord record)).status.code
        ∧ (Served.ofEndpoint (ofRecord record)).status.code ≤ 999 := by
  refine ⟨isCanonical_ofRecord, fun e => ⟨ofRecord_toRecord, fun h => ?_⟩, fun record => ?_,
    fun record => ?_⟩
  · rw [← h]
    exact isCanonical_ofRecord e.toRecord
  · exact ofRecord_toRecord (isCanonical_ofRecord record)
  · exact (Served.ofEndpoint (ofRecord record)).status.inRange

end Endpoint
end MockServer
