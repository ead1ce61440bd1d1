/-
What tasks come to.

`Comes quiet task tree result tree' launches` says that on a machine with the files
`tree` a task has a result, leaves the files `tree'`, starts some tools and tells only
events that are `quiet`.  Whatever else is on the machine neither matters nor changes, so
the parts of a task can be looked at one by one.  Main statements:

* `comes_bind_ok`, `comes_bind_error` — a task goes on with the result of its first part,
  or ends with the fault of that part;
* `comes_launch` — starting a tool is the only step that leaves the files to a tool.
-/
import MockServer.Machine

namespace MockServer

/-- The machine after work that left some files, started some tools and told some events. -/
def Machine.after (m : Machine) (tree : FileTree) (launches : List Launch)
    (events : List Log.Event) : Machine :=
  { m with tree := tree, launches := m.launches ++ launches, log := m.log ++ events }

namespace Task

variable {ε ε' α β : Type} {quiet : Log.Event → Prop}

/-- On some files a task has a result, leaves files and starts tools, and it tells nothing
but quiet events. -/
structure Comes (quiet : Log.Event → Prop) (task : Task ε α) (tree : FileTree)
    (result : Except ε α) (tree' : FileTree) (launches : List Launch) : Prop where
  exists_run_eq : ∀ m : Machine, m.tree = tree → ∃ events, (∀ e ∈ events, quiet e) ∧
    task.run.run m = (result, m.after tree' launches events)

theorem run_bind (task : Task ε α) (next : α → Task ε β) (m : Machine) :
    (task >>= next).run.run m = match task.run.run m with
      | (.ok a, m') => (next a).run.run m'
      | (.error e, m') => (.error e, m') := by
  show (ExceptT.bindCont next (task.run.run m).1).run (task.run.run m).2 = _
  rcases task.run.run m with ⟨_ | a, m'⟩ <;> rfl

theorem run_adapt (task : Task ε α) (f : ε → ε') (m : Machine) :
    (task.adapt f).run.run m = ((task.run.run m).1.mapError f, (task.run.run m).2) :=
  rfl

/-- Work that cannot fail is done as it is. -/
theorem run_lift (work : StateM Machine α) (m : Machine) :
    (liftM work : Task ε α).run.run m = (.ok (work.run m).1, (work.run m).2) :=
  rfl

/-! ### Steps -/

/-- A task that changes nothing and tells nothing. -/
theorem comes_of_run_eq {task : Task ε α} {tree : FileTree} {result : Except ε α}
    (h : ∀ m : Machine, m.tree = tree → task.run.run m = (result, m)) :
    Comes quiet task tree result tree [] := by
  constructor
  intro m hm
  refine ⟨[], List.forall_mem_nil _, ?_⟩
  rw [h m hm, Machine.after, ← hm, List.append_nil, List.append_nil]

theorem comes_pure (tree : FileTree) (a : α) :
    Comes quiet (pure a : Task ε α) tree (.ok a) tree [] :=
  comes_of_run_eq fun _ _ => rfl

theorem comes_throw (tree : FileTree) (e : ε) :
    Comes quiet (throw e : Task ε α) tree (.error e) tree [] :=
  comes_of_run_eq fun _ _ => rfl

theorem comes_tree (tree : FileTree) :
    Comes quiet (Task.tree : Task ε FileTree) tree (.ok tree) tree [] :=
  comes_of_run_eq fun m hm => by
    rw [← hm]
    rfl

theorem comes_setTree (tree tree' : FileTree) :
    Comes quiet (setTree tree' : Task ε Unit) tree (.ok ()) tree' [] := by
  constructor
  intro m _
  refine ⟨[], List.forall_mem_nil _, ?_⟩
  rw [Machine.after, List.append_nil, List.append_nil]
  rfl

theorem comes_tellAll (tree : FileTree) {events : List Log.Event} (h : ∀ e ∈ events, quiet e) :
    Comes quiet (tellAll events : Task ε Unit) tree (.ok ()) tree [] := by
  constructor
  intro m hm
  refine ⟨events, h, ?_⟩
  rw [Machine.after, ← hm, List.append_nil]
  rfl

theorem comes_tell (tree : FileTree) {event : Log.Event} (h : quiet event) :
    Comes quiet (tell event : Task ε Unit) tree (.ok ()) tree [] :=
  comes_tellAll tree (by simpa using h)

/-- Starting a tool is the only step that leaves the files to a tool. -/
theorem comes_launch (tools : Launcher) (l : Launch) (tree : FileTree) :
    Comes quiet (launch tools l : Task ε Behaviour) tree (.ok (tools l tree).1) (tools l tree).2
      [l] := by
  constructor
  intro m hm
  refine ⟨[], List.forall_mem_nil _, ?_⟩
  rw [Machine.after, ← hm, List.append_nil]
  rfl

/-! ### Composition -/

section

variable {task : Task ε α} {next : α → Task ε β} {tree tree₁ tree₂ : FileTree}
  {launches launches' : List Launch}

/-- A task goes on with the result of its first part. -/
theorem comes_bind_ok {a : α} {result : Except ε β}
    (first : Comes quiet task tree (.ok a) tree₁ launches)
    (rest : Comes quiet (next a) tree₁ result tree₂ launches') :
    Comes quiet (task >>= next) tree result tree₂ (launches ++ launches') := by
  constructor
  intro m hm
  obtain ⟨events, hquiet, hrun⟩ := first.exists_run_eq m hm
  obtain ⟨events', hquiet', hrun'⟩ := rest.exists_run_eq (m.after tree₁ launches events) rfl
  refine ⟨events ++ events', ?_, ?_⟩
  · intro e he
    exact (List.mem_append.1 he).elim (hquiet e) (hquiet' e)
  · rw [run_bind, hrun]
    show (next a).run.run _ = _
    rw [hrun']
    simp only [Machine.after, List.append_assoc]

/-- A first part that starts no tool. -/
theorem comes_bind {a : α} {result : Except ε β}
    (first : Comes quiet task tree (.ok a) tree₁ [])
    (rest : Comes quiet (next a) tree₁ result tree₂ launches) :
    Comes quiet (task >>= next) tree result tree₂ launches :=
  comes_bind_ok first rest

/-- A task that first looks at the files. -/
theorem comes_tree_bind {next : FileTree → Task ε β} {result : Except ε β}
    (rest : Comes quiet (next tree) tree result tree₂ launches) :
    Comes quiet (Task.tree >>= next) tree result tree₂ launches :=
  comes_bind (comes_tree tree) rest

/-- A task ends with the fault of its first part. -/
theorem comes_bind_error {e : ε}
    (first : Comes quiet task tree (.error e) tree₁ launches) :
    Comes quiet (task >>= next) tree (.error e) tree₁ launches := by
  constructor
  intro m hm
  obtain ⟨events, hquiet, hrun⟩ := first.exists_run_eq m hm
  refine ⟨events, hquiet, ?_⟩
  rw [run_bind, hrun]

theorem comes_adapt {result : Except ε α} (f : ε → ε')
    (h : Comes quiet task tree result tree₁ launches) :
    Comes quiet (task.adapt f) tree (result.mapError f) tree₁ launches := by
  constructor
  intro m hm
  obtain ⟨events, hquiet, hrun⟩ := h.exists_run_eq m hm
  refine ⟨events, hquiet, ?_⟩
  rw [run_adapt, hrun]

end

/-! ### Changes of the files -/

/-- A change of the files that may end in a fault leaves what it made of them. -/
theorem comes_change (work : FileTree → FileTree.Changed) (fault : FileFault → ε)
    (tree : FileTree) :
    Comes quiet (change work fault) tree ((work tree).2.mapError fault) (work tree).1 [] := by
  refine comes_bind (comes_tree tree) ?_
  obtain ⟨tree', result⟩ := work tree
  refine comes_bind (comes_setTree tree tree') ?_
  cases result with
  | ok _ => exact comes_pure tree' ()
  | error f => exact comes_throw tree' (fault f)

/-- A change that a fault leaves undone. -/
theorem comes_changeWhole_ok {work : FileTree → Except FileFault FileTree}
    (fault : FileFault → ε) {tree tree' : FileTree} (h : work tree = .ok tree') :
    Comes quiet (changeWhole work fault) tree (.ok ()) tree' [] := by
  refine comes_bind (comes_tree tree) ?_
  rw [h]
  exact comes_setTree tree tree'

theorem comes_changeWhole_error {work : FileTree → Except FileFault FileTree}
    (fault : FileFault → ε) {tree : FileTree} {f : FileFault} (h : work tree = .error f) :
    Comes quiet (changeWhole work fault) tree (.error (fault f)) tree [] := by
  refine comes_bind (comes_tree tree) ?_
  rw [h]
  exact comes_throw tree (fault f)

end Task
end MockServer
