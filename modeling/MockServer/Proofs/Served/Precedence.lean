/-
What is served for an authored record.

A record may say in several places what its response is.  `ServedFrom` says which place counts
and `TypedBy` which text is the content type; neither knows of endpoints.  Main statements:

* `exists_servedFrom`, `ServedFrom.unique` — every value, of whatever shape, is served from one
  place;
* `typedBy_iff` — one content type has precedence, and it is the one that is served;
* `ofEndpoint_ofRecord_precedence` — status, body and content type of what is served.
-/
import MockServer.Proofs.Endpoint.Canonical
import MockServer.Proofs.Served.Headers

namespace MockServer.Served

open Endpoint

/-! ### Which place counts -/

/-- The authored values that a response is served from. -/
structure Source where
  status : Option Json
  contentType : Option Json
  body : Option Json

/-- The place of a response: the first of the responses that a record lists or, where it lists
none, the record itself, in which no content type stands. -/
inductive ServedFrom (record : Json) : Source → Prop where
  | entry {first : Json} {others : List Json}
      (listed : record.get? "responses" = some (.array (first :: others))) :
      ServedFrom record ⟨first.get? "status", first.get? "contentType", first.get? "body"⟩
  | record (unlisted : ∀ first others,
        record.get? "responses" ≠ some (.array (first :: others))) :
      ServedFrom record ⟨record.get? "responseStatus", none, record.get? "responseBody"⟩

/-- The value of the last header that a record gives a name, in any case. -/
def LastHeader (record : Json) (name : String) (value : Json) : Prop :=
  ∃ before authored after,
    record.get? "headers" = some (.object (before ++ (authored, value) :: after))
      ∧ Text.sameIgnoringCase authored name = true
      ∧ ∀ h ∈ after, Text.sameIgnoringCase h.1 name = false

/-- A content type that stands beside a response is no text, or a blank one. -/
def NamesNoType (source : Source) : Prop :=
  ∀ text, source.contentType = some (.string text) → Text.trim text = ""

/-- The content type: the text beside the response, else the last header of that name, else the
standard one; a blank text counts as none. -/
inductive TypedBy (record : Json) (source : Source) : String → Prop where
  | own {text : String} (authored : source.contentType = some (.string text))
      (filled : Text.trim text ≠ "") : TypedBy record source (Text.trim text)
  | header {value : Json} (noOwn : NamesNoType source)
      (authored : LastHeader record "Content-Type" value)
      (filled : Text.trim (headerText value) ≠ "") :
      TypedBy record source (Text.trim (headerText value))
  | standard (noOwn : NamesNoType source)
      (noHeader : ∀ value, LastHeader record "Content-Type" value →
        Text.trim (headerText value) = "") :
      TypedBy record source "application/json"

section

variable {record : Json} {source : Source}

theorem exists_servedFrom (record : Json) : ∃ source, ServedFrom record source := by
  by_cases h : ∃ first others, record.get? "responses" = some (.array (first :: others))
  · obtain ⟨first, others, h⟩ := h
    exact ⟨_, .entry h⟩
  · exact ⟨_, .record fun first others hr => h ⟨first, others, hr⟩⟩

theorem ServedFrom.unique {source' : Source} (h : ServedFrom record source)
    (h' : ServedFrom record source') : source = source' := by
  cases h with
  | entry listed =>
    cases h' with
    | entry listed' =>
      rw [listed] at listed'
      cases listed'
      rfl
    | record unlisted => exact absurd listed (unlisted _ _)
  | record unlisted =>
    cases h' with
    | entry listed => exact absurd listed (unlisted _ _)
    | record _ => rfl

/-! ### Status and body -/

/-- A response is read from its place. -/
theorem responseOf_of_servedFrom (h : ServedFrom record source) :
    (responseOf record).status = statusOf source.status
    ∧ (responseOf record).contentType = filledText? source.contentType
    ∧ (responseOf record).body = bodyOf source.body := by
  cases h with
  | entry listed =>
    rw [responseOf, listed]
    exact ⟨rfl, rfl, rfl⟩
  | record unlisted =>
    have hsingle : responseOf record =
        .single (statusOf (record.get? "responseStatus")) (bodyOf (record.get? "responseBody")) := by
      rw [responseOf]
      split
      · rename_i first others hr
        obtain ⟨v, hv, ha⟩ := Option.bind_eq_some_iff.1 hr
        cases v with
        | array items =>
          cases ha
          exact absurd hv (unlisted _ _)
        | _ => cases ha
      · rfl
    rw [hsingle]
    exact ⟨rfl, rfl, rfl⟩

theorem code_statusOf (value : Option Json) :
    (statusOf value).code = ((value.bind Status.ofJson?).map Status.code).getD 200 := by
  rw [statusOf]
  cases value.bind Status.ofJson? <;> rfl

theorem bodyOf_eq_some_iff {value : Option Json} {b : Json} :
    bodyOf value = some b ↔ value = some b ∧ b ≠ .null := by
  rw [bodyOf, Option.filter_eq_some_iff]
  cases b <;> simp [Json.isNull]

/-! ### Content type -/

theorem filledText?_eq_some_iff {value : Option Json} {t : String} :
    filledText? value = some t ↔
      ∃ text, value = some (.string text) ∧ Text.trim text = t ∧ t ≠ "" := by
  simp only [filledText?, Option.bind_eq_some_iff]
  constructor
  · rintro ⟨text, ⟨v, rfl, hv⟩, ht⟩
    cases v with
    | string s =>
      cases hv
      rw [Option.ite_none_left_eq_some, Option.some.injEq] at ht
      obtain ⟨hne, rfl⟩ := ht
      exact ⟨text, rfl, rfl, hne⟩
    | _ => cases hv
  · rintro ⟨text, rfl, rfl, hne⟩
    exact ⟨text, ⟨_, rfl, rfl⟩, if_neg hne⟩

theorem namesNoType_of_filledText? (h : filledText? source.contentType = none) :
    NamesNoType source := by
  intro text htext
  by_contra hne
  rw [filledText?_eq_some_iff.2 ⟨text, htext, rfl, hne⟩] at h
  cases h

/-- Looking from the end finds the last header of a name. -/
theorem header?_eq_some_iff (name : String) (headers : List (String × Json)) (value : Json) :
    header? name headers = some value ↔
      ∃ before authored after, headers = before ++ (authored, value) :: after
        ∧ Text.sameIgnoringCase authored name = true
        ∧ ∀ h ∈ after, Text.sameIgnoringCase h.1 name = false := by
  rw [header?, Option.map_eq_some_iff]
  constructor
  · rintro ⟨⟨authored, v⟩, hfind, rfl⟩
    obtain ⟨hsame, as, bs, hrev, hnone⟩ := List.find?_eq_some_iff_append.1 hfind
    refine ⟨bs.reverse, authored, as.reverse, ?_, hsame, fun h hh => ?_⟩
    · rw [← List.reverse_reverse headers, hrev, List.reverse_append, List.reverse_cons,
        List.append_assoc]
      rfl
    · simpa using hnone h (List.mem_reverse.1 hh)
  · rintro ⟨before, authored, after, rfl, hsame, hnone⟩
    refine ⟨(authored, value), List.find?_eq_some_iff_append.2
      ⟨hsame, after.reverse, before.reverse, by simp, fun h hh => ?_⟩, rfl⟩
    rw [hnone h (List.mem_reverse.1 hh)]
    rfl

theorem lastHeader_iff {name : String} {value : Json} :
    LastHeader record name value ↔ header? name (ofRecord record).headers = some value := by
  rw [header?_eq_some_iff]
  constructor
  · rintro ⟨before, authored, after, hheaders, hsame, hnone⟩
    refine ⟨before, authored, after, ?_, hsame, hnone⟩
    show ((record.get? "headers").bind Json.object?).getD [] = _
    rw [hheaders]
    rfl
  · rintro ⟨before, authored, after, hheaders, hsame, hnone⟩
    refine ⟨before, authored, after, ?_, hsame, hnone⟩
    change ((record.get? "headers").bind Json.object?).getD [] = _ at hheaders
    cases hv : record.get? "headers" with
    | none => simp [hv] at hheaders
    | some v =>
      rw [hv] at hheaders
      cases v with
      | object ms => exact congrArg (some ∘ Json.object) hheaders
      | _ => simp [Json.object?] at hheaders

theorem LastHeader.unique {name : String} {value value' : Json}
    (h : LastHeader record name value) (h' : LastHeader record name value') : value = value' := by
  rw [lastHeader_iff] at h h'
  exact Option.some.inj (h.symm.trans h')

/-- What is served has the content type that has precedence. -/
theorem typedBy_contentType (h : ServedFrom record source) :
    TypedBy record source (ofEndpoint (ofRecord record)).contentType := by
  have hown : (ofRecord record).response.contentType = filledText? source.contentType :=
    (responseOf_of_servedFrom h).2.1
  show TypedBy record source (contentTypeOf (ofRecord record))
  rw [contentTypeOf, hown]
  cases hfilled : filledText? source.contentType with
  | some t =>
    obtain ⟨text, htext, rfl, hne⟩ := filledText?_eq_some_iff.1 hfilled
    exact .own htext hne
  | none =>
    have hno := namesNoType_of_filledText? hfilled
    cases hheader : header? contentTypeHeader (ofRecord record).headers with
    | none =>
      refine .standard hno fun value hvalue => ?_
      have hfound : header? contentTypeHeader _ = some value := lastHeader_iff.1 hvalue
      rw [hfound] at hheader
      cases hheader
    | some value =>
      have hlast : LastHeader record "Content-Type" value := lastHeader_iff.2 hheader
      by_cases hblank : Text.trim (headerText value) = ""
      · simp only [Option.map_some, Function.comp_apply, if_pos hblank]
        refine .standard hno fun value' hvalue' => ?_
        rwa [← hlast.unique hvalue']
      · simp only [Option.map_some, Function.comp_apply, if_neg hblank]
        exact .header hno hlast hblank

theorem TypedBy.unique {t t' : String} (h : TypedBy record source t)
    (h' : TypedBy record source t') : t = t' := by
  cases h with
  | own authored filled =>
    cases h' with
    | own authored' _ =>
      rw [authored] at authored'
      cases authored'
      rfl
    | header noOwn _ _ => exact absurd (noOwn _ authored) filled
    | standard noOwn _ => exact absurd (noOwn _ authored) filled
  | header noOwn authored filled =>
    cases h' with
    | own authored' filled' => exact absurd (noOwn _ authored') filled'
    | header _ authored' _ => rw [authored.unique authored']
    | standard _ noHeader => exact absurd (noHeader _ authored) filled
  | standard noOwn noHeader =>
    cases h' with
    | own authored' filled' => exact absurd (noOwn _ authored') filled'
    | header _ authored' filled' => exact absurd (noHeader _ authored') filled'
    | standard _ _ => rfl

/-- One content type has precedence, and it is the one that is served. -/
theorem typedBy_iff (h : ServedFrom record source) (t : String) :
    TypedBy record source t ↔ t = (ofEndpoint (ofRecord record)).contentType :=
  ⟨fun ht => ht.unique (typedBy_contentType h), fun ht => ht ▸ typedBy_contentType h⟩

/-- A content type is never blank and has no white space at its ends. -/
theorem TypedBy.filled {t : String} (h : TypedBy record source t) :
    t ≠ "" ∧ Text.IsTrimmed t := by
  cases h with
  | own _ filled => exact ⟨filled, Text.isTrimmed_trim _⟩
  | header _ _ filled => exact ⟨filled, Text.isTrimmed_trim _⟩
  | standard _ _ => exact ⟨by decide, Text.trim_eq_self_iff.1 (by decide)⟩

end

/-! ### The written value -/

/-- A body is written where there is one. -/
theorem body_mem_keys_iff (s : Served) :
    "body" ∈ s.toJson.members.map Prod.fst ↔ ∃ b, s.body = some b := by
  obtain ⟨status, contentType, headers, delay, body⟩ := s
  cases delay <;> cases body <;> simp [toJson, Json.members]

/-- **What is served for a record.**  Every value is served from one place: the first of the
responses that it lists, also where that is no object, or else the record itself.  From there
stem the status, which is 200 where none can be read, and the body, which null is not; the
content type is the one that has precedence, and never blank or padded; and a body is written
exactly where one is served. -/
theorem ofEndpoint_ofRecord_precedence (record : Json) :
    ∃ source, (∀ source', ServedFrom record source' ↔ source' = source)
      ∧ (ofEndpoint (ofRecord record)).status.code =
          ((source.status.bind Status.ofJson?).map Status.code).getD 200
      ∧ (∀ b, (ofEndpoint (ofRecord record)).body = some b ↔ source.body = some b ∧ b ≠ .null)
      ∧ (∀ t, TypedBy record source t ↔ t = (ofEndpoint (ofRecord record)).contentType)
      ∧ (ofEndpoint (ofRecord record)).contentType ≠ ""
      ∧ Text.IsTrimmed (ofEndpoint (ofRecord record)).contentType
      ∧ ("body" ∈ (ofEndpoint (ofRecord record)).toJson.members.map Prod.fst ↔
          ∃ b, source.body = some b ∧ b ≠ .null) := by
  obtain ⟨source, h⟩ := exists_servedFrom record
  obtain ⟨hstatus, -, hbody⟩ := responseOf_of_servedFrom h
  have hstatus : (ofEndpoint (ofRecord record)).status = statusOf source.status := hstatus
  have hbody : (ofEndpoint (ofRecord record)).body = bodyOf source.body := hbody
  have hfilled := (typedBy_contentType h).filled
  refine ⟨source, fun source' => ⟨fun h' => h'.unique h, fun h' => h' ▸ h⟩, ?_, fun b => ?_,
    typedBy_iff h, hfilled.1, hfilled.2, ?_⟩
  · rw [hstatus, code_statusOf]
  · rw [hbody, bodyOf_eq_some_iff]
  · rw [body_mem_keys_iff, hbody]
    exact exists_congr fun b => bodyOf_eq_some_iff

end MockServer.Served
