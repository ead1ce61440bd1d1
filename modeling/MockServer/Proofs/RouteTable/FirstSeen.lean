/-
What a route table holds, whatever the order of its endpoints.

A table is looked at through three views: its paths, the methods of a path, and the
endpoint under a method and a path.  Each view has one lemma for the adding of one
endpoint, and from it, by induction on the endpoints, one for a whole list:

* `paths_ofEndpoints`, `methodsAt_ofEndpoints` — paths, and the methods of each path,
  stand in the order in which they were first seen;
* `lookup_ofEndpoints` — the last endpoint for a method and a path answers;
* `refused_ofEndpoints` — refused endpoints are kept in order;
* `ofEndpoints_firstSeen_lastWritten` — the whole table.
-/
import Mathlib.Data.Finset.Card
import MockServer.Proofs.Keyed
import MockServer.RouteTable.Basic

namespace MockServer

open Keyed

/-! ### Groups -/

namespace RouteGroup

theorem exchangeMethod_snd (endpoint : Endpoint) (ms : List (String × Endpoint)) :
    (exchangeMethod endpoint ms).2 =
      put Prod.fst endpoint.method (fun m => (m.1, endpoint)) (endpoint.method, endpoint) ms := by
  induction ms with
  | nil => rfl
  | cons m rest ih =>
    rw [exchangeMethod, put, ← ih]
    split <;> rfl

/-- The endpoints of a group are written by their methods. -/
theorem methods_upsert (group : RouteGroup) (endpoint : Endpoint) :
    (group.upsert endpoint).methods =
      put Prod.fst endpoint.method (fun m => (m.1, endpoint)) (endpoint.method, endpoint)
        group.methods :=
  exchangeMethod_snd endpoint group.methods

theorem methodNames_upsert (group : RouteGroup) (endpoint : Endpoint) :
    (group.upsert endpoint).methodNames = noted endpoint.method group.methodNames := by
  rw [methodNames, methodNames, methods_upsert, keys_put]
  · exact fun _ h => h
  · rfl

theorem get?_upsert (group : RouteGroup) (endpoint : Endpoint) (method : String) :
    (group.upsert endpoint).get? method =
      if method = endpoint.method then some endpoint else group.get? method := by
  split
  · rename_i h
    rw [h, get?_upsert_self]
  · rename_i h
    exact get?_upsert_of_ne group endpoint h

theorem get?_of_mem {group : RouteGroup} (h : group.methodNames.Nodup) {m : String × Endpoint}
    (hm : m ∈ group.methods) : group.get? m.1 = some m.2 := by
  rw [get?, find?_key_of_mem h hm]
  rfl

end RouteGroup

namespace RouteTable

/-! ### Views of a table -/

/-- The paths of a table in order. -/
def paths (table : RouteTable) : List String :=
  table.groups.map (·.path)

/-- The methods of a path in order. -/
def methodsAt (table : RouteTable) (path : String) : List String :=
  ((table.group? path).map RouteGroup.methodNames).getD []

/-- Can a path be routed? -/
def IsRooted (path : String) : Prop :=
  path.toList.head? = some '/'

instance (path : String) : Decidable (IsRooted path) :=
  inferInstanceAs (Decidable (_ = _))

theorem ofPath?_of_isRooted {path : String} (h : IsRooted path) : PathFault.ofPath? path = none :=
  if_pos h

theorem ofPath?_of_not_isRooted {path : String} (h : ¬ IsRooted path) :
    PathFault.ofPath? path = some .relative :=
  if_neg h

theorem putGroup_eq_put (endpoint : Endpoint) (gs : List RouteGroup) :
    putGroup endpoint gs =
      put RouteGroup.path endpoint.path (·.upsert endpoint)
        ((RouteGroup.empty endpoint.path).upsert endpoint) gs := by
  induction gs with
  | nil => rfl
  | cons g rest ih => rw [putGroup, put, ih]

/-! ### Adding one endpoint -/

section

variable (table : RouteTable) {endpoint : Endpoint}

theorem add_of_isRooted (h : IsRooted endpoint.path) :
    table.add endpoint = { table with groups := putGroup endpoint table.groups } := by
  rw [add, ofPath?_of_isRooted h]

theorem add_of_not_isRooted (h : ¬ IsRooted endpoint.path) :
    table.add endpoint =
      { table with
        refused := table.refused ++
          [⟨endpoint.id, endpoint.method, endpoint.path, .relative⟩] } := by
  rw [add, ofPath?_of_not_isRooted h]

theorem paths_add (h : IsRooted endpoint.path) :
    (table.add endpoint).paths = noted endpoint.path table.paths := by
  rw [add_of_isRooted table h]
  show (putGroup endpoint table.groups).map RouteGroup.path =
    noted endpoint.path (table.groups.map RouteGroup.path)
  rw [putGroup_eq_put, keys_put]
  · exact fun _ hg => hg
  · rfl

theorem group?_add (h : IsRooted endpoint.path) (path : String) :
    (table.add endpoint).group? path =
      if path = endpoint.path
      then some (((table.group? path).getD (RouteGroup.empty path)).upsert endpoint)
      else table.group? path := by
  rw [add_of_isRooted table h]
  show (putGroup endpoint table.groups).find? (RouteGroup.path · == path) = _
  rw [putGroup_eq_put, find?_put]
  · by_cases hp : path = endpoint.path
    · rw [if_pos hp, if_pos hp, hp, group?]
      cases table.groups.find? (·.path == endpoint.path) <;> rfl
    · rw [if_neg hp, if_neg hp, group?]
  · exact fun _ hg => hg
  · rfl

theorem methodsAt_add (h : IsRooted endpoint.path) (path : String) :
    (table.add endpoint).methodsAt path =
      if path = endpoint.path then noted endpoint.method (table.methodsAt path)
      else table.methodsAt path := by
  rw [methodsAt, group?_add table h]
  split
  · rw [Option.map_some, Option.getD_some, RouteGroup.methodNames_upsert, methodsAt]
    cases table.group? path <;> rfl
  · rfl

theorem lookup_add (h : IsRooted endpoint.path) (method path : String) :
    (table.add endpoint).lookup method path =
      if method = endpoint.method ∧ path = endpoint.path then some endpoint
      else table.lookup method path := by
  rw [lookup, group?_add table h]
  by_cases hp : path = endpoint.path
  · rw [if_pos hp, Option.bind_some, RouteGroup.get?_upsert, lookup]
    by_cases hm : method = endpoint.method
    · rw [if_pos hm, if_pos ⟨hm, hp⟩]
    · rw [if_neg hm, if_neg (fun hb => hm hb.1)]
      cases table.group? path <;> rfl
  · rw [if_neg hp, if_neg (fun hb => hp hb.2), lookup]

end

/-! ### Adding a list of endpoints -/

/-- The endpoints that can be routed. -/
def accepted (endpoints : List Endpoint) : List Endpoint :=
  endpoints.filter (IsRooted ·.path)

/-- The last endpoint for a method and a path. -/
def last? (endpoints : List Endpoint) (method path : String) : Option Endpoint :=
  (endpoints.filter fun e => e.method = method ∧ e.path = path).getLast?

section

variable {endpoints : List Endpoint} {endpoint : Endpoint}

theorem ofEndpoints_concat (endpoints : List Endpoint) (endpoint : Endpoint) :
    ofEndpoints (endpoints ++ [endpoint]) = (ofEndpoints endpoints).add endpoint := by
  rw [ofEndpoints, List.foldl_append]
  rfl

theorem accepted_concat_of_isRooted (h : IsRooted endpoint.path) :
    accepted (endpoints ++ [endpoint]) = accepted endpoints ++ [endpoint] := by
  simp [accepted, h]

theorem accepted_concat_of_not_isRooted (h : ¬ IsRooted endpoint.path) :
    accepted (endpoints ++ [endpoint]) = accepted endpoints := by
  simp [accepted, h]

theorem last?_concat (endpoints : List Endpoint) (endpoint : Endpoint) (method path : String) :
    last? (endpoints ++ [endpoint]) method path =
      if method = endpoint.method ∧ path = endpoint.path then some endpoint
      else last? endpoints method path := by
  rw [last?, List.filter_append]
  by_cases h : method = endpoint.method ∧ path = endpoint.path
  · obtain ⟨rfl, rfl⟩ := h
    simp
  · have hn : ¬ (endpoint.method = method ∧ endpoint.path = path) :=
      fun he => h ⟨he.1.symm, he.2.symm⟩
    rw [if_neg h, List.filter_cons_of_neg (by simpa using hn), List.filter_nil, List.append_nil,
      last?]

theorem mem_of_last? {method path : String} (h : last? endpoints method path = some endpoint) :
    endpoint ∈ endpoints ∧ endpoint.method = method ∧ endpoint.path = path := by
  simpa using List.mem_of_getLast? h

end

/-- The paths of a table, in the order in which they were first seen. -/
theorem paths_ofEndpoints (endpoints : List Endpoint) :
    (ofEndpoints endpoints).paths = ((accepted endpoints).map (·.path)).eraseDups := by
  induction endpoints using List.reverseRecOn with
  | nil => rfl
  | append_singleton endpoints e ih =>
    rw [ofEndpoints_concat]
    by_cases h : IsRooted e.path
    · rw [paths_add _ h, ih, accepted_concat_of_isRooted h, List.map_append]
      exact (eraseDups_concat _ _).symm
    · rw [accepted_concat_of_not_isRooted h, ← ih, add_of_not_isRooted _ h]
      rfl

/-- The methods of a path, in the order in which they were first seen. -/
theorem methodsAt_ofEndpoints (endpoints : List Endpoint) (path : String) :
    (ofEndpoints endpoints).methodsAt path =
      (((accepted endpoints).filter (·.path = path)).map (·.method)).eraseDups := by
  induction endpoints using List.reverseRecOn with
  | nil => rfl
  | append_singleton endpoints e ih =>
    rw [ofEndpoints_concat]
    by_cases h : IsRooted e.path
    · rw [methodsAt_add _ h, ih, accepted_concat_of_isRooted h, List.filter_append]
      by_cases hp : path = e.path
      · rw [if_pos hp, List.filter_cons_of_pos (by simp [hp]), List.filter_nil, List.map_append]
        exact (eraseDups_concat _ _).symm
      · rw [if_neg hp, List.filter_cons_of_neg (by simpa using Ne.symm hp), List.filter_nil,
          List.append_nil]
    · rw [accepted_concat_of_not_isRooted h, ← ih, add_of_not_isRooted _ h]
      rfl

/-- The last endpoint for a method and a path answers. -/
theorem lookup_ofEndpoints (endpoints : List Endpoint) (method path : String) :
    (ofEndpoints endpoints).lookup method path = last? (accepted endpoints) method path := by
  induction endpoints using List.reverseRecOn with
  | nil => rfl
  | append_singleton endpoints e ih =>
    rw [ofEndpoints_concat]
    by_cases h : IsRooted e.path
    · rw [lookup_add _ h, ih, accepted_concat_of_isRooted h, last?_concat]
    · rw [accepted_concat_of_not_isRooted h, ← ih, add_of_not_isRooted _ h]
      rfl

/-- Refused endpoints are kept in order, each with what names it. -/
theorem refused_ofEndpoints (endpoints : List Endpoint) :
    (ofEndpoints endpoints).refused =
      (endpoints.filter (¬ IsRooted ·.path)).map
        fun e => ⟨e.id, e.method, e.path, .relative⟩ := by
  induction endpoints using List.reverseRecOn with
  | nil => rfl
  | append_singleton endpoints e ih =>
    rw [ofEndpoints_concat, List.filter_append, List.map_append, ← ih]
    by_cases h : IsRooted e.path
    · simp [add_of_isRooted _ h, h]
    · simp [add_of_not_isRooted _ h, h]

/-! ### Groups of a table -/

theorem nodup_paths_ofEndpoints (endpoints : List Endpoint) :
    (ofEndpoints endpoints).paths.Nodup := by
  rw [paths_ofEndpoints]
  exact nodup_eraseDups _

theorem group?_of_mem {table : RouteTable} (h : table.paths.Nodup) {group : RouteGroup}
    (hg : group ∈ table.groups) : table.group? group.path = some group :=
  find?_key_of_mem h hg

section

variable {endpoints : List Endpoint} {group : RouteGroup}

theorem methodNames_of_mem (hg : group ∈ (ofEndpoints endpoints).groups) :
    group.methodNames =
      (((accepted endpoints).filter (·.path = group.path)).map (·.method)).eraseDups := by
  rw [← methodsAt_ofEndpoints, methodsAt, group?_of_mem (nodup_paths_ofEndpoints endpoints) hg]
  rfl

theorem nodup_methodNames_of_mem (hg : group ∈ (ofEndpoints endpoints).groups) :
    group.methodNames.Nodup := by
  rw [methodNames_of_mem hg]
  exact nodup_eraseDups _

/-- Each endpoint of a group is the last one for its method and the group's path. -/
theorem last?_of_mem (hg : group ∈ (ofEndpoints endpoints).groups) {m : String × Endpoint}
    (hm : m ∈ group.methods) : last? (accepted endpoints) m.1 group.path = some m.2 := by
  rw [← lookup_ofEndpoints, lookup, group?_of_mem (nodup_paths_ofEndpoints endpoints) hg,
    Option.bind_some]
  exact RouteGroup.get?_of_mem (nodup_methodNames_of_mem hg) hm

end

/-! ### The number of routes -/

/-- The pairs of a method and a path that a table answers, in order. -/
def routes (table : RouteTable) : List (String × String) :=
  table.groups.flatMap fun g => g.methodNames.map (·, g.path)

theorem length_routes (table : RouteTable) : table.routes.length = table.routeCount := by
  simp [routes, routeCount, List.length_flatMap, RouteGroup.methodNames]

theorem nodup_routes_ofEndpoints (endpoints : List Endpoint) :
    (ofEndpoints endpoints).routes.Nodup := by
  rw [routes, List.nodup_flatMap]
  constructor
  · intro g hg
    exact (nodup_methodNames_of_mem hg).map fun _ _ h => congrArg Prod.fst h
  · have hpaths : (ofEndpoints endpoints).groups.Pairwise (·.path ≠ ·.path) :=
      List.pairwise_map.1 (nodup_paths_ofEndpoints endpoints)
    refine hpaths.imp fun {g g'} hne => ?_
    intro route h h'
    obtain ⟨_, -, he⟩ := List.mem_map.1 h
    obtain ⟨_, -, he'⟩ := List.mem_map.1 h'
    exact hne (congrArg Prod.snd (he.trans he'.symm))

theorem mem_routes_ofEndpoints (endpoints : List Endpoint) (route : String × String) :
    route ∈ (ofEndpoints endpoints).routes ↔
      route ∈ (accepted endpoints).map fun e => (e.method, e.path) := by
  rw [routes, List.mem_flatMap, List.mem_map]
  constructor
  · rintro ⟨g, hg, hr⟩
    obtain ⟨method, hm, rfl⟩ := List.mem_map.1 hr
    rw [methodNames_of_mem hg, List.mem_eraseDups, List.mem_map] at hm
    obtain ⟨e, he, rfl⟩ := hm
    rw [List.mem_filter, decide_eq_true_iff] at he
    exact ⟨e, he.1, by rw [he.2]⟩
  · rintro ⟨e, he, rfl⟩
    have hp : e.path ∈ (ofEndpoints endpoints).paths := by
      rw [paths_ofEndpoints, List.mem_eraseDups]
      exact List.mem_map_of_mem he
    obtain ⟨g, hg, hgp⟩ := List.mem_map.1 hp
    refine ⟨g, hg, List.mem_map.2 ⟨e.method, ?_, by rw [hgp]⟩⟩
    rw [methodNames_of_mem hg, List.mem_eraseDups]
    exact List.mem_map_of_mem (List.mem_filter.2 ⟨he, by simp [hgp]⟩)

/-- The number of routes is the number of distinct pairs of a method and a path. -/
theorem routeCount_ofEndpoints (endpoints : List Endpoint) :
    (ofEndpoints endpoints).routeCount =
      ((accepted endpoints).map fun e => (e.method, e.path)).toFinset.card := by
  rw [← length_routes, ← List.toFinset_card_of_nodup (nodup_routes_ofEndpoints endpoints)]
  congr 1
  ext route
  rw [List.mem_toFinset, List.mem_toFinset, mem_routes_ofEndpoints]

/-! ### The whole table -/

/-- Nothing answers on a path that cannot be routed. -/
theorem last?_accepted_of_not_isRooted (endpoints : List Endpoint) (method : String)
    {path : String} (h : ¬ IsRooted path) : last? (accepted endpoints) method path = none := by
  cases hl : last? (accepted endpoints) method path with
  | none => rfl
  | some e =>
    obtain ⟨he, -, rfl⟩ := mem_of_last? hl
    exact absurd (of_decide_eq_true (List.mem_filter.1 he).2) h

/-- The groups of a table, written out: paths and methods as first seen, and under each
the endpoint written last. -/
theorem groups_ofEndpoints (endpoints : List Endpoint) :
    (ofEndpoints endpoints).groups.map
        (fun g => (g.path, g.methods.map fun m => (m.1, some m.2))) =
      ((accepted endpoints).map (·.path)).eraseDups.map fun path =>
        (path, (((accepted endpoints).filter (·.path = path)).map (·.method)).eraseDups.map
          fun method => (method, last? (accepted endpoints) method path)) := by
  rw [← paths_ofEndpoints, paths, List.map_map]
  refine List.map_congr_left fun g hg => ?_
  rw [Function.comp_apply, ← methodNames_of_mem hg, RouteGroup.methodNames, List.map_map]
  congr 1
  refine List.map_congr_left fun m hm => ?_
  rw [Function.comp_apply, last?_of_mem hg hm]

/-- **The whole table.**  Paths and the methods of each path stand as first seen, under
each stands the endpoint written last, whole; what cannot be routed is kept apart in
order; and the look-ups and the number of routes follow. -/
theorem ofEndpoints_firstSeen_lastWritten (endpoints : List Endpoint) :
    (ofEndpoints endpoints).groups.map
        (fun g => (g.path, g.methods.map fun m => (m.1, some m.2))) =
      ((accepted endpoints).map (·.path)).eraseDups.map (fun path =>
        (path, (((accepted endpoints).filter (·.path = path)).map (·.method)).eraseDups.map
          fun method => (method, last? (accepted endpoints) method path)))
    ∧ (∀ g ∈ (ofEndpoints endpoints).groups, ∀ m ∈ g.methods,
        m.2.method = m.1 ∧ m.2.path = g.path)
    ∧ (ofEndpoints endpoints).refused =
        (endpoints.filter (¬ IsRooted ·.path)).map
          (fun e => ⟨e.id, e.method, e.path, .relative⟩)
    ∧ (∀ method path, (ofEndpoints endpoints).lookup method path =
        last? (accepted endpoints) method path)
    ∧ (∀ method path, ¬ IsRooted path → (ofEndpoints endpoints).lookup method path = none)
    ∧ (ofEndpoints endpoints).routeCount =
        ((accepted endpoints).map fun e => (e.method, e.path)).toFinset.card := by
  refine ⟨groups_ofEndpoints endpoints, ?_, refused_ofEndpoints endpoints,
    lookup_ofEndpoints endpoints, ?_, routeCount_ofEndpoints endpoints⟩
  · intro g hg m hm
    exact (mem_of_last? (last?_of_mem hg hm)).2
  · intro method path h
    rw [lookup_ofEndpoints, last?_accepted_of_not_isRooted endpoints method h]

end RouteTable
end MockServer
