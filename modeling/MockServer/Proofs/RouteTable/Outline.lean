/-
The outline of a route table.

The routes of a table stand in one row, without a sign between its groups.  Since the paths of a
table are all different and no group is without methods, the groups are found again where the
path changes.  Main statements:

* `splitBy_routes` — the routes of a table fall into its groups;
* `outline_eq_iff` — the routes tell the paths of the table, each with its methods.
-/
import Mathlib.Data.List.SplitBy
import MockServer.Proofs.RouteTable.FirstSeen

namespace MockServer.RouteTable

/-- What is the same of every two members with one image is the same of two lists with one
image. -/
theorem map_eq_of_map_eq {α β γ : Type} {f : α → β} {g : α → γ} {as bs : List α}
    (h : ∀ a ∈ as, ∀ b ∈ bs, f a = f b → g a = g b) (heq : as.map f = bs.map f) :
    as.map g = bs.map g := by
  induction as generalizing bs with
  | nil =>
    rw [List.map_nil, eq_comm, List.map_eq_nil_iff] at heq
    rw [heq]
  | cons a as ih =>
    obtain ⟨b, bs, rfl, hb, hbs⟩ := List.map_eq_cons_iff.1 heq.symm
    rw [List.map_cons, List.map_cons, h a List.mem_cons_self b List.mem_cons_self hb.symm,
      ih (fun a ha b hb => h a (List.mem_cons_of_mem _ ha) b (List.mem_cons_of_mem _ hb)) hbs.symm]

/-- The paths of a table, each with its methods. -/
def outline (table : RouteTable) : List (String × List String) :=
  table.groups.map fun g => (g.path, g.methodNames)

/-- The routes of a group. -/
def routesOfGroup (group : RouteGroup) : List (String × String) :=
  group.methodNames.map (·, group.path)

theorem map_fst_routesOfGroup (group : RouteGroup) :
    (routesOfGroup group).map Prod.fst = group.methodNames := by
  rw [routesOfGroup, List.map_map]
  exact List.map_id _

theorem snd_of_mem_routesOfGroup {group : RouteGroup} {route : String × String}
    (h : route ∈ routesOfGroup group) : route.2 = group.path := by
  obtain ⟨method, -, rfl⟩ := List.mem_map.1 h
  rfl

section

variable (endpoints : List Endpoint)

theorem routesOfGroup_ne_nil {group : RouteGroup} (h : group ∈ (ofEndpoints endpoints).groups) :
    routesOfGroup group ≠ [] := by
  have hpath : group.path ∈ (ofEndpoints endpoints).paths := List.mem_map_of_mem h
  rw [paths_ofEndpoints, List.mem_eraseDups] at hpath
  obtain ⟨e, he, hep⟩ := List.mem_map.1 hpath
  have hmethod : e.method ∈ group.methodNames := by
    rw [methodNames_of_mem h, List.mem_eraseDups]
    exact List.mem_map_of_mem (List.mem_filter.2 ⟨he, decide_eq_true hep⟩)
  exact List.ne_nil_of_mem (List.mem_map_of_mem hmethod)

/-- The routes of a table fall into its groups where the path changes. -/
theorem splitBy_routes :
    (ofEndpoints endpoints).routes.splitBy (fun a b => a.2 == b.2) =
      (ofEndpoints endpoints).groups.map routesOfGroup := by
  have hroutes : (ofEndpoints endpoints).routes =
      ((ofEndpoints endpoints).groups.map routesOfGroup).flatten := List.flatMap_def ..
  rw [hroutes]
  refine List.splitBy_flatten ?_ ?_ ?_
  · rintro hnil
    obtain ⟨g, hg, hnil⟩ := List.mem_map.1 hnil
    exact routesOfGroup_ne_nil endpoints hg hnil
  · rintro segment hs
    obtain ⟨g, -, rfl⟩ := List.mem_map.1 hs
    refine (List.pairwise_of_forall_mem_list fun a ha b hb => ?_).isChain
    rw [beq_iff_eq, snd_of_mem_routesOfGroup ha, snd_of_mem_routesOfGroup hb]
  · have hpaths : (ofEndpoints endpoints).groups.Pairwise (·.path ≠ ·.path) :=
      List.pairwise_map.1 (nodup_paths_ofEndpoints endpoints)
    refine (List.pairwise_map.2 (hpaths.imp_of_mem fun {g g'} hg hg' hne => ?_)).isChain
    refine ⟨routesOfGroup_ne_nil endpoints hg, routesOfGroup_ne_nil endpoints hg', ?_⟩
    rw [beq_eq_false_iff_ne, snd_of_mem_routesOfGroup (List.getLast_mem _),
      snd_of_mem_routesOfGroup (List.head_mem _)]
    exact hne

/-- The routes of a group tell its path and its methods. -/
theorem heading_of_routesOfGroup {g g' : RouteGroup} (h : g ∈ (ofEndpoints endpoints).groups)
    (heq : routesOfGroup g = routesOfGroup g') :
    (g.path, g.methodNames) = (g'.path, g'.methodNames) := by
  have hnames := congrArg (List.map Prod.fst) heq
  rw [map_fst_routesOfGroup, map_fst_routesOfGroup] at hnames
  obtain ⟨route, hroute⟩ := List.exists_mem_of_ne_nil _ (routesOfGroup_ne_nil endpoints h)
  have hpath : g.path = g'.path := by
    rw [← snd_of_mem_routesOfGroup hroute]
    rw [heq] at hroute
    exact snd_of_mem_routesOfGroup hroute
  rw [hpath, hnames]

end

/-- The routes of a table tell its outline. -/
theorem outline_eq_iff {endpoints endpoints' : List Endpoint} :
    (ofEndpoints endpoints).outline = (ofEndpoints endpoints').outline ↔
      (ofEndpoints endpoints).routes = (ofEndpoints endpoints').routes := by
  constructor
  · intro h
    have hroutes : ∀ table : RouteTable,
        table.routes = table.outline.flatMap fun o => o.2.map (·, o.1) := fun table => by
      rw [routes, outline, List.flatMap_map]
    rw [hroutes, hroutes, h]
  · intro h
    have hsegments := congrArg (List.splitBy fun a b => a.2 == b.2) h
    rw [splitBy_routes, splitBy_routes] at hsegments
    exact map_eq_of_map_eq (fun g hg g' _ heq => heading_of_routesOfGroup endpoints hg heq)
      hsegments

end MockServer.RouteTable
