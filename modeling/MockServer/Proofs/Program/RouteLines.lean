/-
What the route lines of a main file tell.

A method stands bare on its line where all of it is visible ASCII, and as a literal elsewhere.
Neither form is marked, and a bare method may hold quotes and backslashes itself.  The two are
told apart because the method of a record has no lower-case letter: whatever hides a character
in a literal either is not visible ASCII itself or puts a lower-case letter in.  Main statements:

* `routeChars_ne` — no line begins both with a bare method and with a quoted one;
* `routeRest_inj` — a route line tells its method and its path;
* `routeLines_faithful` — the route lines tell the paths and methods of the table.
-/
import MockServer.Proofs.Endpoint.Canonical
import MockServer.Proofs.Program.Lines
import MockServer.Proofs.Program.ReadBack
import MockServer.Proofs.RouteTable.Outline

namespace MockServer.Program

/-! ### Bare characters -/

/-- A character that may stand in the bare method of a record. -/
def isBare (c : Char) : Bool :=
  Text.isAsciiGraphic c && !c.isLower

theorem isBare_iff {c : Char} :
    isBare c = true ↔ (0x21 ≤ c.toNat ∧ c.toNat ≤ 0x7e) ∧ c.isLower = false := by
  simp [isBare, Text.isAsciiGraphic]

/-- A bare text is passed over up to the blank behind it. -/
theorem dropWhile_isBare {s : List Char} (h : ∀ c ∈ s, isBare c = true) (rest : List Char) :
    (s ++ ' ' :: rest).dropWhile isBare = ' ' :: rest := by
  rw [List.dropWhile_append_of_pos h, List.dropWhile_cons, if_neg (by decide)]

theorem isBare_of_mem_shortEscapes : ∀ p ∈ shortEscapes,
    (isBare p.1 = true → isBare p.2 = true) ∧
      (isBare p.1 = false → isBare p.2 = false ∧ p.2 ≠ ' ') := by
  decide

/-- A bare character puts only bare ones into a literal. -/
theorem isBare_of_mem_literalChar {c d : Char} (h : isBare c = true) (hd : d ∈ literalChar c) :
    isBare d = true := by
  obtain ⟨hgraphic, -⟩ := isBare_iff.1 h
  obtain ⟨e, hmem, hc⟩ | ⟨hn, -⟩ | ⟨hn, -⟩ | ⟨-, hc⟩ := literalChar_cases c
  · rw [hc, List.mem_cons, List.mem_singleton] at hd
    rcases hd with rfl | rfl
    · decide
    · exact (isBare_of_mem_shortEscapes _ hmem).1 h
  · omega
  · omega
  · rw [hc, List.mem_singleton] at hd
    rw [hd, h]

/-- A character other than the blank that is not bare ends a bare text where it stands in a
literal, and with no blank. -/
theorem dropWhile_literalChar {c : Char} (h : isBare c = false) (hblank : c ≠ ' ')
    (t : List Char) :
    ∃ d r, (literalChar c ++ t).dropWhile isBare = d :: r ∧ d ≠ ' ' := by
  obtain ⟨e, hmem, hc⟩ | ⟨-, hc⟩ | ⟨-, hc⟩ | ⟨-, hc⟩ := literalChar_cases c
  · obtain ⟨he, hne⟩ := (isBare_of_mem_shortEscapes _ hmem).2 h
    refine ⟨e, t, ?_, hne⟩
    rw [hc]
    simp only [List.cons_append, List.nil_append, List.dropWhile_cons, he,
      show isBare '\\' = true from rfl, if_true, Bool.false_eq_true, if_false]
  · exact ⟨'x', Text.hexPadded 2 c.toNat ++ t, by rw [hc]; rfl, by decide⟩
  · exact ⟨'u', Text.hexPadded 4 c.toNat ++ t, by rw [hc]; rfl, by decide⟩
  · refine ⟨c, t, ?_, hblank⟩
    rw [hc, List.singleton_append, List.dropWhile_cons, if_neg (by rw [h]; exact Bool.false_ne_true)]

theorem literalChar_head (c : Char) : ∃ d r, literalChar c = d :: r ∧ d ≠ '"' := by
  obtain ⟨e, hc, -⟩ | ⟨⟨hquote, -⟩, hc⟩ := escapes_literalChar c
  · exact ⟨'\\', e, hc, by decide⟩
  · exact ⟨c, [], hc, hquote⟩

/-- In the literal of a text that has a character that is not bare, and no blank at its end, no
bare text ends with a blank and a quote. -/
theorem not_prefix_of_hidden {s : List Char} (hidden : ∃ c ∈ s, isBare c = false)
    (last : s.getLast? ≠ some ' ') (t : List Char) :
    ¬ [' ', '"'] <+: (s.flatMap literalChar ++ t).dropWhile isBare := by
  induction s with
  | nil =>
    obtain ⟨c, hc, -⟩ := hidden
    cases hc
  | cons c s ih =>
    rw [List.flatMap_cons, List.append_assoc]
    by_cases hc : isBare c = true
    · -- Everything up to here is bare, so the character that is not stands behind.
      obtain ⟨d, hd, hdbare⟩ := hidden
      have hmem : d ∈ s := by
        rcases List.mem_cons.1 hd with rfl | hmem
        · rw [hc] at hdbare
          cases hdbare
        · exact hmem
      rw [List.dropWhile_append_of_pos fun e he => isBare_of_mem_literalChar hc he]
      refine ih ⟨d, hmem, hdbare⟩ ?_
      rwa [List.getLast?_cons_of_ne_nil (List.ne_nil_of_mem hmem)] at last
    · have hfalse : isBare c = false := by simpa using hc
      by_cases hblank : c = ' '
      · rw [hblank, show literalChar ' ' = [' '] from rfl, List.singleton_append,
          List.dropWhile_cons, if_neg (by decide), List.cons_prefix_cons]
        rintro ⟨-, hquote⟩
        cases s with
        | nil => exact last (by rw [hblank]; rfl)
        | cons e s =>
          obtain ⟨d, r, he, hne⟩ := literalChar_head e
          rw [List.flatMap_cons, he, List.append_assoc, List.cons_append,
            List.cons_prefix_cons] at hquote
          exact hne hquote.1.symm
      · obtain ⟨d, r, hdrop, hne⟩ := dropWhile_literalChar hfalse hblank (s.flatMap literalChar ++ t)
        rw [hdrop, List.cons_prefix_cons]
        exact fun h => hne h.1.symm

/-! ### Methods on their lines -/

/-- What every method of a record is. -/
structure IsMethod (method : String) : Prop where
  ne_empty : method ≠ ""
  trimmed : Text.IsTrimmed method
  upper : ∀ c ∈ method.toList, c.isLower = false

theorem isMethod_methodOf (value : Option Json) : IsMethod (Endpoint.methodOf value) :=
  ⟨Endpoint.methodOf_ne_empty value, Endpoint.isTrimmed_methodOf value,
    Endpoint.not_isLower_methodOf value⟩

/-- The characters behind the mark of a route. -/
def routeChars (method path : String) : List Char :=
  (methodText method).toList ++ ' ' :: literalList path.toList

theorem toList_routeRest (route : String × String) :
    (routeRest route).toList = routeChars route.1 route.2 := by
  simp only [routeRest, routeChars, literal, String.toList_append, String.toList_ofList,
    List.append_assoc]
  rfl

/-- A method of a record stands bare, or as the literal of a text that is not bare. -/
theorem methodText_cases {method : String} (h : IsMethod method) :
    (methodText method = method ∧ ∀ c ∈ method.toList, isBare c = true) ∨
      (methodText method = literal method ∧ ∃ c ∈ method.toList, isBare c = false) := by
  by_cases hall : method.toList.all Text.isAsciiGraphic = true
  · refine .inl ⟨if_pos ⟨h.ne_empty, hall⟩, fun c hc => ?_⟩
    rw [isBare, List.all_eq_true.1 hall c hc, h.upper c hc]
    rfl
  · refine .inr ⟨if_neg fun hboth => hall hboth.2, ?_⟩
    obtain ⟨c, hc, hgraphic⟩ := List.all_eq_false.1 (Bool.eq_false_iff.2 hall)
    exact ⟨c, hc, by rw [isBare, Bool.eq_false_iff.2 hgraphic, Bool.false_and]⟩

/-- The quote that opens a literal is passed over like a bare character. -/
theorem dropWhile_literalList (s rest : List Char) :
    (literalList s ++ rest).dropWhile isBare =
      (s.flatMap literalChar ++ '"' :: rest).dropWhile isBare := by
  rw [literalList, List.cons_append, List.cons_append, List.dropWhile_cons, if_pos (by decide),
    List.append_assoc, List.singleton_append]

/-- No line begins both with a bare method and with a quoted one. -/
theorem routeChars_ne {bare hidden path path' : String} (h : IsMethod hidden)
    (hbare : methodText bare = bare) (hall : ∀ c ∈ bare.toList, isBare c = true)
    (hliteral : methodText hidden = literal hidden) (hsome : ∃ c ∈ hidden.toList, isBare c = false) :
    routeChars bare path ≠ routeChars hidden path' := by
  intro heq
  have hlast : hidden.toList.getLast? ≠ some ' ' := fun hlast =>
    absurd (h.trimmed.last ' ' hlast) (by decide)
  have hdrop := congrArg (List.dropWhile isBare) heq
  rw [routeChars, routeChars, hbare, hliteral, dropWhile_isBare hall, literal,
    String.toList_ofList, dropWhile_literalList] at hdrop
  refine not_prefix_of_hidden hsome hlast ('"' :: ' ' :: literalList path'.toList) ?_
  rw [← hdrop]
  exact ⟨_, rfl⟩

/-- A method, a blank and a literal are told apart in one way. -/
theorem routeChars_injective {method method' path path' : String} (h : IsMethod method)
    (h' : IsMethod method') (heq : routeChars method path = routeChars method' path') :
    method = method' ∧ path = path' := by
  -- The methods and what is left behind them decide the rest.
  suffices hparts : method = method' ∧
      ' ' :: literalList path.toList = ' ' :: literalList path'.toList by
    refine ⟨hparts.1, literal_injective ?_⟩
    rw [literal, literal, (List.cons.inj hparts.2).2]
  obtain ⟨htext, hall⟩ | ⟨htext, hsome⟩ := methodText_cases h
  · obtain ⟨htext', hall'⟩ | ⟨htext', hsome'⟩ := methodText_cases h'
    · have hrest := congrArg (List.dropWhile isBare) heq
      rw [routeChars, routeChars, htext, htext', dropWhile_isBare hall, dropWhile_isBare hall']
        at hrest
      rw [routeChars, routeChars, htext, htext', hrest] at heq
      exact ⟨String.toList_inj.1 (List.append_cancel_right heq), hrest⟩
    · exact absurd heq (routeChars_ne h' htext hall htext' hsome')
  · obtain ⟨htext', hall'⟩ | ⟨htext', hsome'⟩ := methodText_cases h'
    · exact absurd heq.symm (routeChars_ne h htext' hall' htext hsome)
    · rw [routeChars, routeChars, htext, htext'] at heq
      exact literal_append_injective heq

/-- The text behind the mark of a route tells the route. -/
theorem routeRest_inj {route route' : String × String} (h : IsMethod route.1)
    (h' : IsMethod route'.1) : routeRest route = routeRest route' ↔ route = route' := by
  rw [← String.toList_inj, toList_routeRest, toList_routeRest]
  constructor
  · intro heq
    obtain ⟨hmethod, hpath⟩ := routeChars_injective h h' heq
    exact Prod.ext hmethod hpath
  · rintro rfl
    rfl

theorem methodText_inj {method method' : String} (h : IsMethod method) (h' : IsMethod method') :
    methodText method = methodText method' ↔ method = method' := by
  refine ⟨fun heq => ?_, congrArg methodText⟩
  have hroute : routeRest (method, "") = routeRest (method', "") := by
    rw [routeRest, routeRest, heq]
  exact congrArg Prod.fst ((routeRest_inj h h').1 hroute)

/-! ### The listing of a main file -/

/-- Every route of authored records has a method as records have it. -/
theorem isMethod_of_mem_routes (records : List Json) {route : String × String}
    (h : route ∈ (RouteTable.ofRecords records).routes) : IsMethod route.1 := by
  rw [RouteTable.ofRecords, RouteTable.mem_routes_ofEndpoints, List.mem_map] at h
  obtain ⟨e, he, rfl⟩ := h
  obtain ⟨record, -, rfl⟩ := List.mem_map.1 (List.mem_of_mem_filter he)
  exact isMethod_methodOf _

/-- The route lines of a main file are the routes of its table, each behind the mark. -/
theorem marked_routeMark (table : RouteTable) (name : String) :
    marked routeMark (linesOf (ofTable table name).mainFile) =
      (table.routes.map routeRest).map (routeMark ++ ·) := by
  rw [linesOf_ofTable, marked_fileLines table name (by decide), if_neg (by decide), if_pos rfl,
    if_neg (by decide), if_neg (by decide), List.nil_append, List.append_nil, List.append_nil]

/-- **The route lines are faithful.**  Two lists of authored records have the same route lines
exactly where their tables have the same paths, each with the same methods, in the same order.
The text of a method tells the method, and with a blank and a literal behind it, it is told
apart in one way. -/
theorem routeLines_faithful :
    (∀ (records records' : List Json) (name name' : String),
      marked "//   " (linesOf (ofTable (.ofRecords records) name).mainFile) =
          marked "//   " (linesOf (ofTable (.ofRecords records') name').mainFile) ↔
        (RouteTable.ofRecords records).groups.map (fun g => (g.path, g.methodNames)) =
          (RouteTable.ofRecords records').groups.map (fun g => (g.path, g.methodNames)))
    ∧ (∀ value value' : Option Json,
      methodText (Endpoint.methodOf value) = methodText (Endpoint.methodOf value') ↔
        Endpoint.methodOf value = Endpoint.methodOf value')
    ∧ ∀ (value value' : Option Json) (path path' : String),
      methodText (Endpoint.methodOf value) ++ " " ++ literal path =
          methodText (Endpoint.methodOf value') ++ " " ++ literal path' ↔
        Endpoint.methodOf value = Endpoint.methodOf value' ∧ path = path' := by
  refine ⟨fun records records' name name' => ?_,
    fun value value' => methodText_inj (isMethod_methodOf value) (isMethod_methodOf value'),
    fun value value' path path' => ?_⟩
  · change marked routeMark _ = marked routeMark _ ↔ RouteTable.outline _ = RouteTable.outline _
    rw [marked_routeMark, marked_routeMark, RouteTable.ofRecords, RouteTable.ofRecords,
      RouteTable.outline_eq_iff]
    have hmark : Function.Injective (routeMark ++ ·) := fun s t h => by simpa using h
    rw [(List.map_injective_iff.2 hmark).eq_iff]
    refine ⟨fun h => ?_, congrArg (List.map routeRest)⟩
    have hroutes := RouteTable.map_eq_of_map_eq (g := id) (fun route hr route' hr' heq =>
      (routeRest_inj (isMethod_of_mem_routes records hr)
        (isMethod_of_mem_routes records' hr')).1 heq) h
    rwa [List.map_id, List.map_id] at hroutes
  · have hroute : routeRest (_, path) = routeRest (_, path') ↔ _ :=
      routeRest_inj (isMethod_methodOf value) (isMethod_methodOf value')
    rwa [Prod.mk.injEq] at hroute

end MockServer.Program
