/-
Route tables.

A table has one group for each path, in the order in which the paths were first
seen, and a group has one endpoint for each method.  Adding an endpoint replaces
the one that answered the same method on the same path, in place and as a whole;
an endpoint whose path cannot be routed is refused and kept apart.  Main
statements:

* `RouteGroup.exchange_fst` — a group hands back what it answered with so far;
* `RouteGroup.get?_upsert_self`, `RouteGroup.get?_upsert_of_ne` — a group answers
  with what was put last;
* `RouteTable.lookup_add_self` — a routable endpoint is found once it was added.
-/
import MockServer.Endpoint.Record

namespace MockServer

/-- Why a path cannot be routed. -/
inductive PathFault where
  | relative
  deriving DecidableEq, Repr

namespace PathFault

/-- The wording of a path's fault. -/
def message : PathFault → String
  | .relative => "path must begin with '/'"

/-- The fault of a path, if it has one. -/
def ofPath? (path : String) : Option PathFault :=
  if path.toList.head? = some '/' then none else some .relative

end PathFault

/-- The endpoints of one path, each under its method. -/
structure RouteGroup where
  path : String
  methods : List (String × Endpoint)

namespace RouteGroup

/-- A group without endpoints. -/
def empty (path : String) : RouteGroup :=
  ⟨path, []⟩

/-- The endpoint under a method. -/
def get? (group : RouteGroup) (method : String) : Option Endpoint :=
  (group.methods.find? (·.1 == method)).map Prod.snd

/-- Puts an endpoint under its method, in place of the first one there or else at the end, and
hands back the one that stood there. -/
def exchangeMethod (endpoint : Endpoint) :
    List (String × Endpoint) → Option Endpoint × List (String × Endpoint)
  | [] => (none, [(endpoint.method, endpoint)])
  | (m, e) :: rest =>
    if m = endpoint.method then (some e, (m, endpoint) :: rest)
    else
      let exchanged := exchangeMethod endpoint rest
      (exchanged.1, (m, e) :: exchanged.2)

/-- Puts an endpoint under its method, and hands back the one that stood there. -/
def exchange (group : RouteGroup) (endpoint : Endpoint) : Option Endpoint × RouteGroup :=
  let exchanged := exchangeMethod endpoint group.methods
  (exchanged.1, { group with methods := exchanged.2 })

/-- Puts an endpoint under its method. -/
def upsert (group : RouteGroup) (endpoint : Endpoint) : RouteGroup :=
  (group.exchange endpoint).2

/-- The methods of a group in order. -/
def methodNames (group : RouteGroup) : List String :=
  group.methods.map Prod.fst

@[simp]
theorem path_empty (path : String) : (empty path).path = path :=
  rfl

@[simp]
theorem path_upsert (group : RouteGroup) (endpoint : Endpoint) :
    (group.upsert endpoint).path = group.path :=
  rfl

/-- What is handed back is what was found under the method. -/
theorem exchange_fst (group : RouteGroup) (endpoint : Endpoint) :
    (group.exchange endpoint).1 = group.get? endpoint.method := by
  simp only [exchange, get?]
  induction group.methods with
  | nil => rfl
  | cons m rest ih =>
    by_cases h : m.1 = endpoint.method
    · simp [exchangeMethod, h]
    · simp [exchangeMethod, h, ih]

theorem get?_upsert_self (group : RouteGroup) (endpoint : Endpoint) :
    (group.upsert endpoint).get? endpoint.method = some endpoint := by
  simp only [upsert, exchange, get?]
  induction group.methods with
  | nil => simp [exchangeMethod]
  | cons m rest ih =>
    by_cases h : m.1 = endpoint.method
    · simp [exchangeMethod, h]
    · simp [exchangeMethod, h, ih]

theorem get?_upsert_of_ne (group : RouteGroup) (endpoint : Endpoint) {method : String}
    (h : method ≠ endpoint.method) : (group.upsert endpoint).get? method = group.get? method := by
  simp only [upsert, exchange, get?]
  induction group.methods with
  | nil => simp [exchangeMethod, Ne.symm h]
  | cons m rest ih =>
    by_cases hm : m.1 = endpoint.method
    · simp [exchangeMethod, hm, Ne.symm h]
    · by_cases hk : m.1 = method
      · simp [exchangeMethod, hk, h]
      · simp [exchangeMethod, hm, hk, ih]

end RouteGroup

/-- An endpoint that was refused, and why. -/
structure Refusal where
  id : Option String
  method : String
  path : String
  fault : PathFault

/-- The routes of a server, with the endpoints that were refused. -/
structure RouteTable where
  groups : List RouteGroup
  refused : List Refusal

namespace RouteTable

/-- A table without routes. -/
def empty : RouteTable :=
  ⟨[], []⟩

/-- The group of a path. -/
def group? (table : RouteTable) (path : String) : Option RouteGroup :=
  table.groups.find? (·.path == path)

/-- The endpoint that answers a method on a path. -/
def lookup (table : RouteTable) (method path : String) : Option Endpoint :=
  (table.group? path).bind (·.get? method)

/-- The number of pairs of a method and a path that are answered. -/
def routeCount (table : RouteTable) : Nat :=
  (table.groups.flatMap (·.methods)).length

/-- Is there no group? -/
def isEmpty (table : RouteTable) : Bool :=
  table.groups.isEmpty

/-- Puts an endpoint into the group of its path, opening the group where there is none. -/
def putGroup (endpoint : Endpoint) : List RouteGroup → List RouteGroup
  | [] => [(RouteGroup.empty endpoint.path).upsert endpoint]
  | g :: rest =>
    if g.path = endpoint.path then g.upsert endpoint :: rest else g :: putGroup endpoint rest

/-- Adds an endpoint, or keeps it apart where its path cannot be routed. -/
def add (table : RouteTable) (endpoint : Endpoint) : RouteTable :=
  match PathFault.ofPath? endpoint.path with
  | some fault =>
    { table with
      refused := table.refused ++ [⟨endpoint.id, endpoint.method, endpoint.path, fault⟩] }
  | none => { table with groups := putGroup endpoint table.groups }

/-- The table of some endpoints, added in order. -/
def ofEndpoints (endpoints : List Endpoint) : RouteTable :=
  endpoints.foldl add empty

/-- The table of some authored records. -/
def ofRecords (records : List Json) : RouteTable :=
  ofEndpoints (records.map Endpoint.ofRecord)

/-- A routable endpoint is found once it was added. -/
theorem lookup_add_self (table : RouteTable) {endpoint : Endpoint}
    (h : PathFault.ofPath? endpoint.path = none) :
    (table.add endpoint).lookup endpoint.method endpoint.path = some endpoint := by
  simp only [add, h, lookup, group?]
  induction table.groups with
  | nil => simp [putGroup, RouteGroup.get?_upsert_self]
  | cons g rest ih =>
    by_cases hg : g.path = endpoint.path
    · rw [putGroup, if_pos hg, List.find?_cons_of_pos (by simp [hg])]
      exact RouteGroup.get?_upsert_self g endpoint
    · rw [putGroup, if_neg hg, List.find?_cons_of_neg (by simpa using hg)]
      exact ih

end RouteTable
end MockServer
