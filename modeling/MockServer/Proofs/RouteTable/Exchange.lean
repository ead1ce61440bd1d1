/-
Groups as maps that remember the order of their methods.

To put an endpoint into a group hands back what the group answered with so far, answers with the
endpoint from then on, and leaves all other methods alone (`Exchanged`).  That no method stands
twice in a group and that each endpoint stands under its own (`IsKeyed`) is no part of its type.
It follows from what a run of exchanges leaves in a group that was empty (`Holds`), which one more
exchange carries on.  Main statements:

* `exchanged_exchange` — what one exchange does, whatever the group holds;
* `exchange_group?_fst` — the group of a path hands back what the table answered with so far;
* `holds_after` — what any number of exchanges leaves in a group;
* `after_exchanged` — each exchange of a run, with the groups before and behind it.
-/
import MockServer.Proofs.RouteTable.FirstSeen

namespace MockServer

open Keyed

namespace RouteGroup

/-! ### One exchange -/

/-- A group before and after an endpoint is put into it, and what is handed back: the endpoint that
answered its method, if any.  The method keeps its place or comes last, and no other method is
answered differently. -/
structure Exchanged (before : RouteGroup) (endpoint : Endpoint) (replaced : Option Endpoint)
    (now : RouteGroup) : Prop where
  replaced_eq : replaced = before.get? endpoint.method
  replaced_eq_none_iff : replaced = none ↔ endpoint.method ∉ before.methodNames
  get?_self : now.get? endpoint.method = some endpoint
  get?_of_ne : ∀ method, method ≠ endpoint.method → now.get? method = before.get? method
  methodNames_of_mem : endpoint.method ∈ before.methodNames →
    now.methodNames = before.methodNames
  methodNames_of_not_mem : endpoint.method ∉ before.methodNames →
    now.methodNames = before.methodNames ++ [endpoint.method]
  path_eq : now.path = before.path

theorem get?_eq_none_iff {group : RouteGroup} {method : String} :
    group.get? method = none ↔ method ∉ group.methodNames := by
  rw [get?, Option.map_eq_none_iff, List.find?_eq_none, methodNames, List.mem_map]
  constructor
  · rintro h ⟨m, hm, rfl⟩
    exact h m hm (beq_self_eq_true m.1)
  · intro h m hm hmethod
    exact h ⟨m, hm, eq_of_beq hmethod⟩

/-- What one exchange does, whatever the group holds. -/
theorem exchanged_exchange (group : RouteGroup) (endpoint : Endpoint) :
    Exchanged group endpoint (group.exchange endpoint).1 (group.exchange endpoint).2 where
  replaced_eq := exchange_fst group endpoint
  replaced_eq_none_iff := by rw [exchange_fst, get?_eq_none_iff]
  get?_self := get?_upsert_self group endpoint
  get?_of_ne _ h := get?_upsert_of_ne group endpoint h
  methodNames_of_mem h := (methodNames_upsert group endpoint).trans (if_pos h)
  methodNames_of_not_mem h := (methodNames_upsert group endpoint).trans (if_neg h)
  path_eq := path_upsert group endpoint

/-- The group of a path, or a new one, hands back what the table answered with so far: a table
tells of a replacement where an endpoint is handed back. -/
theorem exchange_group?_fst (table : RouteTable) (endpoint : Endpoint) :
    (((table.group? endpoint.path).getD (empty endpoint.path)).exchange endpoint).1 =
      table.lookup endpoint.method endpoint.path := by
  rw [exchange_fst, RouteTable.lookup]
  cases table.group? endpoint.path <;> rfl

/-! ### Runs of exchanges -/

/-- A group after some endpoints were put into it, one after the other. -/
def after (group : RouteGroup) (endpoints : List Endpoint) : RouteGroup :=
  endpoints.foldl upsert group

theorem after_concat (group : RouteGroup) (endpoints : List Endpoint) (endpoint : Endpoint) :
    group.after (endpoints ++ [endpoint]) = (group.after endpoints).upsert endpoint := by
  rw [after, List.foldl_append]
  rfl

/-- No method stands twice in a group, and each endpoint stands under its own. -/
structure IsKeyed (group : RouteGroup) : Prop where
  nodup : group.methodNames.Nodup
  method_eq : ∀ m ∈ group.methods, m.2.method = m.1

/-- What a group holds into which some endpoints were put: their methods in the order in which they
were first seen, and under each the last endpoint. -/
structure Holds (group : RouteGroup) (endpoints : List Endpoint) : Prop where
  methodNames_eq : group.methodNames = (endpoints.map (·.method)).eraseDups
  get?_eq : ∀ method, group.get? method = latest (·.method) endpoints method

section

variable {group : RouteGroup} {endpoints : List Endpoint}

/-- One exchange carries on what a group holds. -/
theorem Holds.upsert (h : group.Holds endpoints) (endpoint : Endpoint) :
    (group.upsert endpoint).Holds (endpoints ++ [endpoint]) where
  methodNames_eq := by
    rw [methodNames_upsert, h.methodNames_eq, List.map_append]
    exact (eraseDups_concat _ _).symm
  get?_eq method := by
    rw [get?_upsert, h.get?_eq, latest_concat]

/-- Methods that are noted as they are first seen do not stand twice, and what was put last under a
method is an endpoint of that method. -/
theorem Holds.isKeyed (h : group.Holds endpoints) : group.IsKeyed := by
  have hnodup : group.methodNames.Nodup := by
    rw [h.methodNames_eq]
    exact nodup_eraseDups _
  refine ⟨hnodup, fun m hm => ?_⟩
  have hlatest := get?_of_mem hnodup hm
  rw [h.get?_eq] at hlatest
  exact (key_of_latest hlatest).2

end

/-- What any number of exchanges leaves in a group that was empty. -/
theorem holds_after (path : String) (endpoints : List Endpoint) :
    ((empty path).after endpoints).Holds endpoints := by
  induction endpoints using List.reverseRecOn with
  | nil => exact ⟨rfl, fun _ => rfl⟩
  | append_singleton endpoints endpoint ih =>
    rw [after_concat]
    exact ih.upsert endpoint

/-- **A group is a map.**  However many endpoints were put into an empty group, the next exchange
hands back the last of them with its method, and does to the group what `Exchanged` says; before
and behind it no method stands twice, each endpoint stands under its own, and what the group holds
are the methods as first seen, each with its last endpoint. -/
theorem after_exchanged (path : String) (earlier : List Endpoint) (endpoint : Endpoint) :
    let before := (empty path).after earlier
    let now := (empty path).after (earlier ++ [endpoint])
    before.exchange endpoint = (latest (·.method) earlier endpoint.method, now)
    ∧ Exchanged before endpoint (before.exchange endpoint).1 now
    ∧ before.IsKeyed ∧ now.IsKeyed
    ∧ before.Holds earlier ∧ now.Holds (earlier ++ [endpoint]) := by
  intro before now
  have hbefore : before.Holds earlier := holds_after path earlier
  have hnow : now.Holds (earlier ++ [endpoint]) := holds_after path (earlier ++ [endpoint])
  have hstep : (before.exchange endpoint).2 = now := (after_concat _ earlier endpoint).symm
  refine ⟨Prod.ext ?_ hstep, ?_, hbefore.isKeyed, hnow.isKeyed, hbefore, hnow⟩
  · rw [exchange_fst, hbefore.get?_eq]
  · rw [← hstep]
    exact exchanged_exchange before endpoint

end RouteGroup
end MockServer
