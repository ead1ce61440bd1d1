/-
Headers whose names differ in case only.

Such headers are one header: they form a class, and of each class the member that was authored
last counts.  What is passed on is written header by header, a later one over an earlier one of
its class; the content type and the delay are looked for from the end.  Main statements:

* `passedHeaders_eq_collapse` — writing leaves the last member of each class in the place of the
  first, less the two classes that are decided apart;
* `header?_eq_latest` — looking from the end finds the last member;
* `ofEndpoint_last_of_class` — so every part of what is served follows one rule, and headers may
  be collapsed beforehand.
-/
import MockServer.Proofs.Keyed
import MockServer.Served.Basic

namespace MockServer.Served

open Keyed

/-- The class of a header: its name, whatever the case. -/
def nameClass {α : Type} (h : String × α) : String :=
  Text.asciiLower h.1

/-- The classes of some headers, in the order of their first members. -/
def classes (headers : List (String × Json)) : List String :=
  (headers.map nameClass).eraseDups

/-- A header as it is passed on: its name as authored, and the text of its value. -/
def asPassed (h : String × Json) : String × String :=
  (h.1, headerText h.2)

/-- The classes that are decided apart. -/
def isReservedClass (c : String) : Bool :=
  c == "content-type" || c == "x-delay"

theorem isReserved_eq (h : String × Json) : isReserved h.1 = isReservedClass (nameClass h) := by
  have htype : Text.asciiLower contentTypeHeader = "content-type" := by decide
  have hdelay : Text.asciiLower delayHeader = "x-delay" := by decide
  rw [isReserved, Text.sameIgnoringCase, Text.sameIgnoringCase, htype, hdelay]
  rfl

/-! ### Headers that are passed on -/

theorem putHeader_eq_put (h : String × String) (sent : List (String × String)) :
    putHeader h.1 h.2 sent = put nameClass (nameClass h) (fun _ => h) h sent := by
  induction sent with
  | nil => rfl
  | cons x rest ih =>
    by_cases hx : nameClass x = nameClass h
    · rw [put, if_pos hx, putHeader, if_pos (Text.sameIgnoringCase_iff.2 hx)]
    · rw [put, if_neg hx, putHeader, if_neg (fun h => hx (Text.sameIgnoringCase_iff.1 h)), ih]

/-- The last header of each class that is not decided apart, in the place of the first. -/
theorem passedHeaders_eq_collapse (headers : List (String × Json)) :
    passedHeaders headers =
      ((collapse nameClass headers).filter fun h => !isReservedClass (nameClass h)).map asPassed := by
  have hview : ∀ hs : List (String × Json),
      collapse nameClass (hs.map asPassed) = (collapse nameClass hs).map asPassed :=
    collapse_map asPassed fun _ => rfl
  calc passedHeaders headers
      = written nameClass
          ((headers.filter fun h => !isReservedClass (nameClass h)).map asPassed) := by
        rw [passedHeaders, written, List.foldl_map]
        simp only [isReserved_eq, ← putHeader_eq_put, asPassed]
    _ = ((collapse nameClass headers).filter fun h => !isReservedClass (nameClass h)).map
          asPassed := by
        rw [written_eq_collapse, hview, collapse_filter fun c => !isReservedClass c]

/-- Each class that is not decided apart is passed on once, in order. -/
theorem map_some_passedHeaders (headers : List (String × Json)) :
    (passedHeaders headers).map some =
      ((classes headers).filter fun c => !isReservedClass c).map
        fun c => (latest nameClass headers c).map asPassed := by
  have hkept := map_some_filter_collapse (fun c => !isReservedClass c) nameClass headers
  calc (passedHeaders headers).map some
      = (((collapse nameClass headers).filter fun h => !isReservedClass (nameClass h)).map
          some).map (Option.map asPassed) := by
        rw [passedHeaders_eq_collapse, List.map_map, List.map_map]
        rfl
    _ = _ := by
        rw [hkept, List.map_map]
        rfl

/-- No two headers that are passed on differ in case only. -/
theorem nodup_classes_passedHeaders (headers : List (String × Json)) :
    ((passedHeaders headers).map nameClass).Nodup := by
  rw [passedHeaders_eq_collapse, List.map_map]
  exact (nodup_keys_collapse nameClass headers).sublist (List.filter_sublist.map _)

theorem not_mem_classes_passedHeaders {c : String} (hc : isReservedClass c = true)
    (headers : List (String × Json)) : c ∉ (passedHeaders headers).map nameClass := by
  rw [passedHeaders_eq_collapse, List.map_map, List.mem_map]
  rintro ⟨h, hm, rfl⟩
  have hkept : (!isReservedClass (nameClass h)) = true := (List.mem_filter.1 hm).2
  rw [show isReservedClass (nameClass h) = true from hc] at hkept
  cases hkept

/-! ### Headers that are decided apart -/

/-- Looking from the end finds the last member of a class. -/
theorem header?_eq_latest (name : String) (headers : List (String × Json)) :
    header? name headers = (latest nameClass headers (Text.asciiLower name)).map Prod.snd := by
  rw [header?, latest, List.getLast?_eq_head?_reverse, ← List.filter_reverse, List.head?_filter]
  rfl

theorem delay_eq_latest (e : Endpoint) :
    (ofEndpoint e).delay =
      (latest nameClass e.headers "x-delay").bind fun h => Delay.ofJson? h.2 := by
  show (header? delayHeader e.headers).bind Delay.ofJson? = _
  rw [header?_eq_latest, Option.bind_map]
  rfl

/-- The content type: the response's own, else the filled text of the last header, else the
default. -/
theorem contentType_eq_latest (e : Endpoint) :
    (ofEndpoint e).contentType =
      (e.response.contentType.or
        (((latest nameClass e.headers "content-type").map fun h => Text.trim (headerText h.2)).filter
          (· ≠ ""))).getD "application/json" := by
  show contentTypeOf e = _
  rw [contentTypeOf, header?_eq_latest,
    show Text.asciiLower contentTypeHeader = "content-type" by decide]
  cases e.response.contentType with
  | some own => rfl
  | none =>
    cases latest nameClass e.headers "content-type" with
    | none => rfl
    | some h =>
      by_cases hblank : Text.trim (headerText h.2) = ""
      · simp [hblank, Option.filter_some, defaultContentType]
      · simp [hblank, Option.filter_some]

/-! ### One rule for all headers -/

/-- Headers may be collapsed before anything is decided. -/
theorem ofEndpoint_collapse (e : Endpoint) :
    ofEndpoint { e with headers := collapse nameClass e.headers } = ofEndpoint e := by
  set e' : Endpoint := { e with headers := collapse nameClass e.headers } with he'
  have htype : contentTypeOf e' = contentTypeOf e := by
    have h := contentType_eq_latest e'
    rwa [he', latest_collapse, ← contentType_eq_latest e] at h
  have hpassed : passedHeaders e'.headers = passedHeaders e.headers := by
    rw [he', passedHeaders_eq_collapse, passedHeaders_eq_collapse, collapse_collapse]
  have hdelay : (header? delayHeader e'.headers).bind Delay.ofJson? =
      (header? delayHeader e.headers).bind Delay.ofJson? := by
    rw [he', header?_eq_latest, header?_eq_latest, latest_collapse]
  rw [ofEndpoint, htype, hpassed, hdelay]
  rfl

/-- **The last header of a class counts.**  Each class is passed on once, but for the two that
are decided apart, in the order of the first members and with the spelling and the value of the
last; no two of the headers that are passed on differ in case only; the delay and the content
type are those of the last members of their classes; and so it changes nothing to leave of each
class only the last member, in the place of the first. -/
theorem ofEndpoint_last_of_class (e : Endpoint) :
    (ofEndpoint e).headers.map some =
        ((classes e.headers).filter fun c => !isReservedClass c).map
          (fun c => (latest nameClass e.headers c).map asPassed)
    ∧ ((ofEndpoint e).headers.map nameClass).Nodup
    ∧ "content-type" ∉ (ofEndpoint e).headers.map nameClass
    ∧ "x-delay" ∉ (ofEndpoint e).headers.map nameClass
    ∧ (ofEndpoint e).delay =
        (latest nameClass e.headers "x-delay").bind (fun h => Delay.ofJson? h.2)
    ∧ (ofEndpoint e).contentType =
        (e.response.contentType.or
          (((latest nameClass e.headers "content-type").map
            fun h => Text.trim (headerText h.2)).filter (· ≠ ""))).getD "application/json"
    ∧ ofEndpoint { e with headers := collapse nameClass e.headers } = ofEndpoint e :=
  ⟨map_some_passedHeaders e.headers, nodup_classes_passedHeaders e.headers,
    not_mem_classes_passedHeaders (by decide) e.headers,
    not_mem_classes_passedHeaders (by decide) e.headers, delay_eq_latest e,
    contentType_eq_latest e, ofEndpoint_collapse e⟩

end MockServer.Served
