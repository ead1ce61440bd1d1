/-
Documentation does not reach the program.

Much of an authored record only documents its endpoint: identifier, description, unknown
members, responses behind the first, and a single response beside a list of them.  An
`Edit` changes nothing else.  A program is made from what its table serves (`served`),
and no edit changes that.  Main statements:

* `mainFileOf_congr` — tables that serve the same have the same main file;
* `served_ofEndpoints` — what a table serves is put together from the routes of its
  endpoints alone;
* `route?_of_recordEdit` — an edited record gives the same route;
* `mainFile_of_edits` — edited records, in any number, give the same program.
-/
import Mathlib.Logic.Relation
import MockServer.Program.Basic
import MockServer.Proofs.Json.Read
import MockServer.Proofs.RouteTable.FirstSeen

namespace MockServer

open Keyed RouteTable

/-! ### What a table serves -/

namespace RouteTable

/-- What is served under the paths and methods of a table, in order. -/
def served (table : RouteTable) : List (String × List (String × Served)) :=
  table.groups.map fun g => (g.path, g.methods.map fun m => (m.1, Served.ofEndpoint m.2))

/-- What one endpoint adds to a table, if it can be routed. -/
structure Route where
  path : String
  method : String
  served : Served

/-- The route of an endpoint. -/
def route? (endpoint : Endpoint) : Option Route :=
  if IsRooted endpoint.path then
    some ⟨endpoint.path, endpoint.method, Served.ofEndpoint endpoint⟩
  else none

/-- Puts what is served under its method. -/
def serveMethod (route : Route) (ms : List (String × Served)) : List (String × Served) :=
  put Prod.fst route.method (fun m => (m.1, route.served)) (route.method, route.served) ms

/-- Puts a route into what is served. -/
def serve (route : Route) (gs : List (String × List (String × Served))) :
    List (String × List (String × Served)) :=
  put Prod.fst route.path (fun g => (g.1, serveMethod route g.2))
    (route.path, serveMethod route []) gs

theorem serveMethod_upsert (group : RouteGroup) (endpoint : Endpoint) :
    ((group.upsert endpoint).methods.map fun m => (m.1, Served.ofEndpoint m.2)) =
      serveMethod ⟨endpoint.path, endpoint.method, Served.ofEndpoint endpoint⟩
        (group.methods.map fun m => (m.1, Served.ofEndpoint m.2)) := by
  rw [RouteGroup.methods_upsert, map_put]
  · rfl
  · exact fun _ => rfl
  · exact fun _ => rfl

/-- Adding an endpoint puts its route into what is served; a refused one changes nothing. -/
theorem served_add (table : RouteTable) (endpoint : Endpoint) :
    (table.add endpoint).served = (route? endpoint).elim table.served (serve · table.served) := by
  by_cases h : IsRooted endpoint.path
  · rw [add_of_isRooted table h, route?, if_pos h]
    show (putGroup endpoint table.groups).map _ = _
    rw [putGroup_eq_put, map_put]
    · show put Prod.fst endpoint.path _ (endpoint.path, _) _ = _
      rw [serveMethod_upsert]
      rfl
    · exact fun _ => rfl
    · exact fun g => congrArg (Prod.mk g.path) (serveMethod_upsert g endpoint)
  · rw [add_of_not_isRooted table h, route?, if_neg h]
    rfl

/-- What a table serves is put together from the routes of its endpoints alone. -/
theorem served_ofEndpoints (endpoints : List Endpoint) :
    (ofEndpoints endpoints).served =
      (endpoints.filterMap route?).foldl (fun gs route => serve route gs) [] := by
  induction endpoints using List.reverseRecOn with
  | nil => rfl
  | append_singleton endpoints e ih =>
    rw [ofEndpoints_concat, served_add, ih, List.filterMap_append, List.foldl_append]
    cases h : route? e with
    | none => simp [h]
    | some route => simp [h]

end RouteTable

namespace Program

theorem tableToJson_eq_served (table : RouteTable) :
    Served.tableToJson table = .array (table.served.map fun g =>
      .object [("path", .string g.1),
        ("methods", .object (g.2.map fun m => (m.1, m.2.toJson)))]) := by
  rw [Served.tableToJson, RouteTable.served, List.map_map]
  congr 1
  refine List.map_congr_left fun g _ => ?_
  rw [Served.groupToJson, Function.comp_apply, List.map_map]
  rfl

theorem routeLines_eq_served (table : RouteTable) :
    table.groups.flatMap groupRoutes =
      table.served.flatMap fun g => g.2.map fun m => ⟨methodText m.1, literal g.1⟩ := by
  rw [RouteTable.served, List.flatMap_map]
  congr 1
  funext g
  rw [groupRoutes, RouteGroup.methodNames, List.map_map, List.map_map]
  rfl

/-- Tables that serve the same have the same main file. -/
theorem mainFileOf_congr {table table' : RouteTable} (h : table.served = table'.served)
    (name : String) : mainFileOf table name = mainFileOf table' name := by
  rw [mainFileOf, mainFileOf, routeLines_eq_served, routeLines_eq_served,
    tableToJson_eq_served, tableToJson_eq_served, h]

end Program

/-! ### Edits of objects -/

namespace Json

/-- An edit of an object that keeps some keys: another member is changed, added or removed,
or the members, of which no two share a key, are put into another order. -/
inductive ObjectEdit (kept : List String) : List (String × Json) → List (String × Json) → Prop where
  | set {ms : List (String × Json)} {key : String} (value : Json) (other : key ∉ kept) :
      ObjectEdit kept ms (setMember key value ms)
  | remove {ms : List (String × Json)} {key : String} (other : key ∉ kept) :
      ObjectEdit kept ms (ms.filter (·.1 ≠ key))
  | reorder {ms ms' : List (String × Json)} (perm : ms.Perm ms')
      (distinct : (ms.map Prod.fst).Nodup) : ObjectEdit kept ms ms'

theorem member?_filter_ne {key other : String} (h : other ≠ key) (ms : List (String × Json)) :
    member? other (ms.filter (·.1 ≠ key)) = member? other ms := by
  induction ms with
  | nil => rfl
  | cons m rest ih =>
    obtain ⟨k, v⟩ := m
    by_cases hk : k = key
    · rw [List.filter_cons_of_neg (by simpa using hk), ih, member?, if_neg (hk ▸ Ne.symm h)]
    · rw [List.filter_cons_of_pos (by simpa using hk), member?, member?, ih]

/-- An edit leaves the members with the kept keys as they are. -/
theorem member?_of_objectEdit {kept : List String} {ms ms' : List (String × Json)}
    (h : ObjectEdit kept ms ms') {key : String} (hk : key ∈ kept) :
    member? key ms' = member? key ms := by
  cases h with
  | set value other =>
    refine member?_setMember_of_ne ?_ value ms
    rintro rfl
    exact other hk
  | remove other =>
    refine member?_filter_ne ?_ ms
    rintro rfl
    exact other hk
  | reorder perm distinct =>
    have distinct' : (ms'.map Prod.fst).Nodup := (perm.map Prod.fst).nodup_iff.1 distinct
    ext value
    rw [member?_eq_some_iff distinct, member?_eq_some_iff distinct', perm.mem_iff]

end Json

/-! ### Edits of records -/

namespace Endpoint

/-- The members of a record that its endpoint is served from. -/
def servedKeys : List String :=
  ["method", "path", "headers", "responses", "responseStatus", "responseBody"]

/-- The members that are left of these where a list of responses supersedes the single
response. -/
def modernKeys : List String :=
  ["method", "path", "headers", "responses"]

/-- The members of the first response that are served. -/
def servedEntryKeys : List String :=
  ["status", "contentType", "body"]

/-- An edit of one record that only changes what documents its endpoint. -/
inductive RecordEdit : Json → Json → Prop where
  /-- Any member that is not served, or the order of the members. -/
  | members {ms ms' : List (String × Json)} (edit : Json.ObjectEdit servedKeys ms ms') :
      RecordEdit (.object ms) (.object ms')
  /-- The single response, where there is a list of responses. -/
  | superseded {ms ms' : List (String × Json)} {first : Json} {others : List Json}
      (modern : Json.member? "responses" ms = some (.array (first :: others)))
      (edit : Json.ObjectEdit modernKeys ms ms') : RecordEdit (.object ms) (.object ms')
  /-- The responses behind the first. -/
  | laterResponses {ms : List (String × Json)} {first : Json} {others : List Json}
      (modern : Json.member? "responses" ms = some (.array (first :: others)))
      (others' : List Json) :
      RecordEdit (.object ms)
        (.object (Json.setMember "responses" (.array (first :: others')) ms))
  /-- Any member of the first response that is not served, or the order of its members. -/
  | firstResponse {ms es es' : List (String × Json)} {others : List Json}
      (modern : Json.member? "responses" ms = some (.array (.object es :: others)))
      (edit : Json.ObjectEdit servedEntryKeys es es') :
      RecordEdit (.object ms)
        (.object (Json.setMember "responses" (.array (.object es' :: others)) ms))

/-- Endpoints that a server answers for alike. -/
structure SameServed (e e' : Endpoint) : Prop where
  method : e.method = e'.method
  path : e.path = e'.path
  headers : e.headers = e'.headers
  status : e.response.status = e'.response.status
  contentType : e.response.contentType = e'.response.contentType
  body : e.response.body = e'.response.body

theorem route?_congr {e e' : Endpoint} (h : SameServed e e') : route? e = route? e' := by
  have hserved : Served.ofEndpoint e = Served.ofEndpoint e' := by
    simp only [Served.ofEndpoint, Served.contentTypeOf, h.headers, h.status, h.contentType,
      h.body]
  rw [route?, route?, h.path, h.method, hserved]

theorem documentedOf_object_congr {es es' : List (String × Json)}
    (h : ∀ key ∈ servedEntryKeys, Json.member? key es' = Json.member? key es) :
    (documentedOf (.object es)).status = (documentedOf (.object es')).status
    ∧ (documentedOf (.object es)).contentType = (documentedOf (.object es')).contentType
    ∧ (documentedOf (.object es)).body = (documentedOf (.object es')).body := by
  simp only [documentedOf, Json.get?, Json.members, h "status" (by decide),
    h "contentType" (by decide), h "body" (by decide), true_and]

theorem responseOf_of_modern {ms : List (String × Json)} {first : Json} {others : List Json}
    (h : Json.member? "responses" ms = some (.array (first :: others))) :
    responseOf (.object ms) = .documented (documentedOf first) (others.map documentedOf) := by
  rw [responseOf, Json.get?, Json.members, h]
  rfl

/-- Records that agree on three members and on what their responses serve. -/
theorem sameServed_of_response {ms ms' : List (String × Json)}
    (h : ∀ key ∈ ["method", "path", "headers"], Json.member? key ms' = Json.member? key ms)
    (status : (responseOf (.object ms)).status = (responseOf (.object ms')).status)
    (contentType : (responseOf (.object ms)).contentType = (responseOf (.object ms')).contentType)
    (body : (responseOf (.object ms)).body = (responseOf (.object ms')).body) :
    SameServed (ofRecord (.object ms)) (ofRecord (.object ms')) where
  method := by
    simp only [ofRecord, Json.get?, Json.members, h "method" (by decide)]
  path := by
    simp only [ofRecord, Json.get?, Json.members, h "path" (by decide)]
  headers := by
    simp only [ofRecord, Json.get?, Json.members, h "headers" (by decide)]
  status := status
  contentType := contentType
  body := body

theorem member?_set_responses (value : Json) (ms : List (String × Json)) :
    ∀ key ∈ ["method", "path", "headers"],
      Json.member? key (Json.setMember "responses" value ms) = Json.member? key ms := by
  intro key hk
  refine Json.member?_setMember_of_ne ?_ value ms
  rintro rfl
  exact absurd hk (by decide)

/-- An edited record gives an endpoint that is served alike. -/
theorem sameServed_of_recordEdit {r r' : Json} (h : RecordEdit r r') :
    SameServed (ofRecord r) (ofRecord r') := by
  cases h with
  | @members ms ms' edit =>
    have hk : ∀ key ∈ servedKeys, Json.member? key ms' = Json.member? key ms :=
      fun key hk => Json.member?_of_objectEdit edit hk
    have hr : responseOf (.object ms) = responseOf (.object ms') := by
      simp only [responseOf, Json.get?, Json.members, hk "responses" (by decide),
        hk "responseStatus" (by decide), hk "responseBody" (by decide)]
    refine sameServed_of_response (fun key h => hk key ?_) (by rw [hr]) (by rw [hr]) (by rw [hr])
    exact List.mem_of_mem_take (i := 3) h
  | @superseded ms ms' first others modern edit =>
    have hk : ∀ key ∈ modernKeys, Json.member? key ms' = Json.member? key ms :=
      fun key hk => Json.member?_of_objectEdit edit hk
    have hr : responseOf (.object ms) = responseOf (.object ms') := by
      rw [responseOf_of_modern modern,
        responseOf_of_modern ((hk "responses" (by decide)).trans modern)]
    refine sameServed_of_response (fun key h => hk key ?_) (by rw [hr]) (by rw [hr]) (by rw [hr])
    exact List.mem_of_mem_take (i := 3) h
  | @laterResponses ms first others modern others' =>
    have modern' := Json.member?_setMember_self "responses" (.array (first :: others')) ms
    refine sameServed_of_response (member?_set_responses _ ms) ?_ ?_ ?_ <;>
      rw [responseOf_of_modern modern, responseOf_of_modern modern'] <;> rfl
  | @firstResponse ms es es' others modern edit =>
    have modern' := Json.member?_setMember_self "responses" (.array (.object es' :: others)) ms
    obtain ⟨hs, hc, hb⟩ := documentedOf_object_congr
      fun key hk => Json.member?_of_objectEdit edit hk
    refine sameServed_of_response (member?_set_responses _ ms) ?_ ?_ ?_ <;>
      rw [responseOf_of_modern modern, responseOf_of_modern modern']
    · exact hs
    · exact hc
    · exact hb

/-- An edited record gives the same route. -/
theorem route?_of_recordEdit {r r' : Json} (h : RecordEdit r r') :
    route? (ofRecord r) = route? (ofRecord r') :=
  route?_congr (sameServed_of_recordEdit h)

end Endpoint

/-! ### Edits of a list of records -/

namespace Program

open Endpoint

/-- One edit of a list of records: of a record in its place, or by a record whose path
cannot be routed. -/
inductive Edit : List Json → List Json → Prop where
  | record (before after : List Json) {r r' : Json} (edit : RecordEdit r r') :
      Edit (before ++ r :: after) (before ++ r' :: after)
  | insert (before after : List Json) {r : Json} (refused : ¬ IsRooted (ofRecord r).path) :
      Edit (before ++ after) (before ++ r :: after)
  | delete (before after : List Json) {r : Json} (refused : ¬ IsRooted (ofRecord r).path) :
      Edit (before ++ r :: after) (before ++ after)

/-- The routes of some records, in order. -/
def routesOf (records : List Json) : List Route :=
  (records.map ofRecord).filterMap route?

theorem routesOf_refused (before after : List Json) {r : Json}
    (h : ¬ IsRooted (ofRecord r).path) :
    routesOf (before ++ r :: after) = routesOf (before ++ after) := by
  have hr : route? (ofRecord r) = none := if_neg h
  simp only [routesOf, List.map_append, List.map_cons, List.filterMap_append,
    List.filterMap_cons, hr]

/-- An edit leaves the routes of the records as they are, and in their order. -/
theorem routesOf_of_edit {records records' : List Json} (h : Edit records records') :
    routesOf records = routesOf records' := by
  cases h with
  | record before after edit =>
    simp only [routesOf, List.map_append, List.map_cons, List.filterMap_append,
      List.filterMap_cons, route?_of_recordEdit edit]
  | insert before after refused => exact (routesOf_refused before after refused).symm
  | delete before after refused => exact routesOf_refused before after refused

theorem routesOf_of_edits {records records' : List Json}
    (h : Relation.ReflTransGen Edit records records') : routesOf records = routesOf records' := by
  induction h with
  | refl => rfl
  | tail _ step ih => exact ih.trans (routesOf_of_edit step)

/-- **Documentation does not reach the program.**  Records that are edited, any number of
times, in what documents them give the same main file. -/
theorem mainFile_of_edits {records records' : List Json}
    (h : Relation.ReflTransGen Edit records records') (name : String) :
    (ofTable (.ofRecords records) name).mainFile =
      (ofTable (.ofRecords records') name).mainFile := by
  have hserved : (RouteTable.ofRecords records).served =
      (RouteTable.ofRecords records').served := by
    rw [ofRecords, ofRecords, served_ofEndpoints, served_ofEndpoints]
    exact congrArg _ (routesOf_of_edits h)
  rw [ofTable, ofTable, mainFileOf_congr hserved]

/-- An identifier is changed, the response behind the first is dropped, and a refused
record is put in front. -/
theorem mainFile_of_three_edits :
    Relation.ReflTransGen Edit
        [.object [("id", .string "a"), ("path", .string "/"),
          ("responses", .array [.null, .object []])]]
        [.object [("path", .string "u")],
          .object [("id", .null), ("path", .string "/"), ("responses", .array [.null])]]
    ∧ (ofTable (.ofRecords
          [.object [("id", .string "a"), ("path", .string "/"),
            ("responses", .array [.null, .object []])]]) "m").mainFile =
        (ofTable (.ofRecords
          [.object [("path", .string "u")],
            .object [("id", .null), ("path", .string "/"),
              ("responses", .array [.null])]]) "m").mainFile := by
  have hset : Json.ObjectEdit servedKeys
      [("id", .string "a"), ("path", .string "/"), ("responses", .array [.null, .object []])]
      (Json.setMember "id" .null
        [("id", .string "a"), ("path", .string "/"), ("responses", .array [.null, .object []])]) :=
    .set .null (by decide)
  have hid : Edit
      [.object [("id", .string "a"), ("path", .string "/"),
        ("responses", .array [.null, .object []])]]
      [.object [("id", .null), ("path", .string "/"),
        ("responses", .array [.null, .object []])]] :=
    .record [] [] (.members hset)
  have hlater : Edit
      [.object [("id", .null), ("path", .string "/"),
        ("responses", .array [.null, .object []])]]
      [.object [("id", .null), ("path", .string "/"), ("responses", .array [.null])]] :=
    .record [] [] (.laterResponses rfl [])
  have hrefused : Edit
      [.object [("id", .null), ("path", .string "/"), ("responses", .array [.null])]]
      [.object [("path", .string "u")],
        .object [("id", .null), ("path", .string "/"), ("responses", .array [.null])]] :=
    .insert [] _ (by decide)
  have h := ((Relation.ReflTransGen.single hid).tail hlater).tail hrefused
  exact ⟨h, mainFile_of_edits h "m"⟩

end Program
end MockServer
