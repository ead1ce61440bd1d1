/-
What a project document in JSON says.

Of the members of a document five are looked at, and each of them on its own: three texts that
may be missing or null, the name, which may be missing, and the list of the records, which may
be missing as well.  A document that is written from a project says that project again, where
the numbers in its records are integers.  Main statements:

* `setMember_eq_ok_iff` — a member is taken into the field of its key;
* `foldlM_setMember_eq_ok_iff` — members of different keys fill one field each;
* `read_eq_ok_iff` — which documents are read, and as which projects;
* `says_members` — a project's own members say it;
* `project_document` — what is read, and that it is written and read again.
-/
import Mathlib.Tactic.MkIffOfInductiveProp
import MockServer.Project.Document
import MockServer.Proofs.FileTree.Resolve
import MockServer.Proofs.Json.Read

namespace MockServer.Project

open Json

/-! ### Fields -/

/-- What a member that may be missing says, read in one way, or else what stands there before. -/
def field {α : Type} (reads : Json → Except ShapeFault α) (before : α) :
    Option Json → Except ShapeFault α
  | none => .ok before
  | some v => reads v

/-- The members fill the fields of a project, from what stands in them before. -/
@[mk_iff]
structure Fills (before : Project) (members : List (String × Json)) (project : Project) :
    Prop where
  id : field readOptional before.id (member? "id" members) = .ok project.id
  name : field readText before.name (member? "name" members) = .ok project.name
  version : field readOptional before.version (member? "version" members) = .ok project.version
  updatedAt :
    field readOptional before.updatedAt (member? "updatedAt" members) = .ok project.updatedAt
  endpoints : field readList before.endpoints (member? "endpoints" members) = .ok project.endpoints

theorem field_singleton {α : Type} (reads : Json → Except ShapeFault α) (before : α)
    (key : String) (m : String × Json) :
    field reads before (member? key [m]) = if m.1 = key then reads m.2 else .ok before := by
  rw [member?]
  split <;> rfl

theorem map_eq_ok_iff {ε α β : Type} {x : Except ε α} {f : α → β} {b : β} :
    x.map f = .ok b ↔ ∃ a, x = .ok a ∧ f a = b := by
  cases x <;> simp [Except.map]

theorem mapError_eq_ok_iff {ε ε' α : Type} {x : Except ε α} {f : ε → ε'} {a : α} :
    x.mapError f = .ok a ↔ x = .ok a := by
  cases x <;> simp [Except.mapError]

/-- A member is taken into the field of its key, and the other fields stay. -/
theorem setMember_eq_ok_iff {before after : Project} {m : String × Json} :
    before.setMember m.1 m.2 = .ok after ↔ Fills before [m] after := by
  obtain ⟨id, name, version, updatedAt, endpoints⟩ := before
  obtain ⟨id', name', version', updatedAt', endpoints'⟩ := after
  obtain ⟨key, v⟩ := m
  simp only [fills_iff, field_singleton]
  rw [Project.setMember.eq_def]
  split
  case h_6 hid hname hversion hupdatedAt hendpoints =>
    simp [if_neg hid, if_neg hname, if_neg hversion, if_neg hupdatedAt, if_neg hendpoints]
  all_goals simp [map_eq_ok_iff, and_comm, and_left_comm, and_assoc]

/-- Two members of different keys, or one of them missing, fill a field one after the other. -/
theorem field_cons_iff {α : Type} {reads : Json → Except ShapeFault α} {before after : α}
    {key : String} {m : String × Json} {rest : List (String × Json)}
    (h : m.1 ∉ rest.map Prod.fst) :
    field reads before (member? key (m :: rest)) = .ok after ↔
      ∃ between, field reads before (member? key [m]) = .ok between ∧
        field reads between (member? key rest) = .ok after := by
  rw [field_singleton, member?]
  split
  · rename_i hkey
    have hrest : member? key rest = none := member?_eq_none_iff.2 (hkey ▸ h)
    simp [hrest, field]
  · simp

theorem fills_cons_iff {before after : Project} {m : String × Json} {rest : List (String × Json)}
    (h : m.1 ∉ rest.map Prod.fst) :
    Fills before (m :: rest) after ↔ ∃ between, Fills before [m] between ∧
      Fills between rest after := by
  constructor
  · rintro ⟨hid, hname, hversion, hupdatedAt, hendpoints⟩
    obtain ⟨id, hid, hid'⟩ := (field_cons_iff h).1 hid
    obtain ⟨name, hname, hname'⟩ := (field_cons_iff h).1 hname
    obtain ⟨version, hversion, hversion'⟩ := (field_cons_iff h).1 hversion
    obtain ⟨updatedAt, hupdatedAt, hupdatedAt'⟩ := (field_cons_iff h).1 hupdatedAt
    obtain ⟨endpoints, hendpoints, hendpoints'⟩ := (field_cons_iff h).1 hendpoints
    exact ⟨⟨id, name, version, updatedAt, endpoints⟩,
      ⟨hid, hname, hversion, hupdatedAt, hendpoints⟩,
      ⟨hid', hname', hversion', hupdatedAt', hendpoints'⟩⟩
  · rintro ⟨between, h₁, h₂⟩
    exact ⟨(field_cons_iff h).2 ⟨_, h₁.id, h₂.id⟩, (field_cons_iff h).2 ⟨_, h₁.name, h₂.name⟩,
      (field_cons_iff h).2 ⟨_, h₁.version, h₂.version⟩,
      (field_cons_iff h).2 ⟨_, h₁.updatedAt, h₂.updatedAt⟩,
      (field_cons_iff h).2 ⟨_, h₁.endpoints, h₂.endpoints⟩⟩

/-- Members of different keys fill one field each. -/
theorem foldlM_setMember_eq_ok_iff {members : List (String × Json)}
    (h : (members.map Prod.fst).Nodup) {before after : Project} :
    members.foldlM (fun project m => project.setMember m.1 m.2) before = .ok after ↔
      Fills before members after := by
  induction members generalizing before with
  | nil =>
    obtain ⟨id, name, version, updatedAt, endpoints⟩ := before
    obtain ⟨id', name', version', updatedAt', endpoints'⟩ := after
    simp [fills_iff, field, member?, pure, Except.pure]
  | cons m rest ih =>
    obtain ⟨hm, hrest⟩ := List.nodup_cons.1 h
    rw [List.foldlM_cons, fills_cons_iff hm, FileTree.bind_eq_ok_iff]
    simp only [setMember_eq_ok_iff, ih hrest]

/-! ### What a document says -/

/-- What a text says that may be missing or null. -/
inductive SaysText : Option Json → Option String → Prop where
  | missing : SaysText none none
  | null : SaysText (some .null) none
  | text (s : String) : SaysText (some (.string s)) (some s)

/-- What a member says that holds a value of one kind, or else that stands by default. -/
inductive SaysOr {α : Type} (kind : α → Json) (default : α) : Option Json → α → Prop where
  | missing : SaysOr kind default none default
  | present (a : α) : SaysOr kind default (some (kind a)) a

/-- What the members of a document say. -/
structure Says (members : List (String × Json)) (project : Project) : Prop where
  id : SaysText (member? "id" members) project.id
  name : SaysOr .string "mock-server" (member? "name" members) project.name
  version : SaysText (member? "version" members) project.version
  updatedAt : SaysText (member? "updatedAt" members) project.updatedAt
  endpoints : SaysOr .array [] (member? "endpoints" members) project.endpoints

theorem saysText_iff {found : Option Json} {text : Option String} :
    SaysText found text ↔ field readOptional none found = .ok text := by
  constructor
  · rintro (_ | _ | _) <;> rfl
  · intro h
    rcases found with _ | _ | _ | _ | _ | _ | _ <;> cases h <;> constructor

theorem readText_eq_ok_iff {v : Json} {s : String} : readText v = .ok s ↔ v = .string s := by
  cases v <;> simp [readText]

theorem readList_eq_ok_iff {v : Json} {items : List Json} :
    readList v = .ok items ↔ v = .array items := by
  cases v <;> simp [readList]

theorem saysOr_iff {α : Type} {kind : α → Json} {reads : Json → Except ShapeFault α}
    (h : ∀ {v a}, reads v = .ok a ↔ v = kind a) {default : α} {found : Option Json} {a : α} :
    SaysOr kind default found a ↔ field reads default found = .ok a := by
  constructor
  · rintro (_ | _)
    · rfl
    · exact h.2 rfl
  · intro hfield
    cases found with
    | none =>
      cases hfield
      exact .missing
    | some v =>
      cases h.1 hfield
      exact .present a

theorem says_iff_fills {members : List (String × Json)} {project : Project} :
    Says members project ↔ Fills (.new defaultName []) members project :=
  ⟨fun h => ⟨saysText_iff.1 h.id, (saysOr_iff readText_eq_ok_iff).1 h.name,
      saysText_iff.1 h.version, saysText_iff.1 h.updatedAt,
      (saysOr_iff readList_eq_ok_iff).1 h.endpoints⟩,
    fun h => ⟨saysText_iff.2 h.id, (saysOr_iff readText_eq_ok_iff).2 h.name,
      saysText_iff.2 h.version, saysText_iff.2 h.updatedAt,
      (saysOr_iff readList_eq_ok_iff).2 h.endpoints⟩⟩

theorem nodup_keys_of_read {text : String} {members : List (String × Json)}
    (h : Json.read text = .ok (.object members)) : (members.map Prod.fst).Nodup := by
  cases isRead_of_read h with
  | object keys _ => exact keys

/-- Which documents are read, and as which projects. -/
theorem read_eq_ok_iff {text : String} {project : Project} :
    read .json text = .ok project ↔
      ∃ members, Json.read text = .ok (.object members) ∧ Says members project := by
  rw [read, documentValue]
  cases hvalue : Json.read text with
  | error fault =>
    constructor
    · intro h
      cases h
    · rintro ⟨members, ⟨⟩, -⟩
  | ok value =>
    show ofValue value = .ok project ↔ _
    rw [ofValue.eq_def]
    split
    · rename_i members
      rw [mapError_eq_ok_iff, ofMembers?, foldlM_setMember_eq_ok_iff (nodup_keys_of_read hvalue),
        ← says_iff_fills]
      simp
    · rename_i hobject
      simpa using fun members hmembers => absurd hmembers (hobject members)

/-- The members of a document that is read: each of the five is missing or of its kind, and
three of them may be null. -/
structure IsShaped (members : List (String × Json)) : Prop where
  texts : ∀ key ∈ ["id", "version", "updatedAt"], member? key members = none ∨
    member? key members = some .null ∨ ∃ s, member? key members = some (.string s)
  name : member? "name" members = none ∨ ∃ s, member? "name" members = some (.string s)
  endpoints : member? "endpoints" members = none ∨
    ∃ records, member? "endpoints" members = some (.array records)

theorem exists_saysText_iff {found : Option Json} : (∃ text, SaysText found text) ↔
    found = none ∨ found = some .null ∨ ∃ s, found = some (.string s) := by
  constructor
  · rintro ⟨text, h⟩
    cases h with
    | missing => exact .inl rfl
    | null => exact .inr (.inl rfl)
    | text s => exact .inr (.inr ⟨s, rfl⟩)
  · rintro (rfl | rfl | ⟨s, rfl⟩)
    · exact ⟨_, .missing⟩
    · exact ⟨_, .null⟩
    · exact ⟨_, .text s⟩

theorem exists_saysOr_iff {α : Type} {kind : α → Json} {default : α} {found : Option Json} :
    (∃ a, SaysOr kind default found a) ↔ found = none ∨ ∃ a, found = some (kind a) := by
  constructor
  · rintro ⟨a, h⟩
    cases h with
    | missing => exact .inl rfl
    | present => exact .inr ⟨a, rfl⟩
  · rintro (rfl | ⟨a, rfl⟩)
    · exact ⟨default, .missing⟩
    · exact ⟨a, .present a⟩

theorem exists_says_iff {members : List (String × Json)} :
    (∃ project, Says members project) ↔ IsShaped members := by
  constructor
  · rintro ⟨project, h⟩
    refine ⟨?_, exists_saysOr_iff.1 ⟨_, h.name⟩, exists_saysOr_iff.1 ⟨_, h.endpoints⟩⟩
    simp only [List.forall_mem_cons, List.not_mem_nil, false_imp_iff, implies_true, and_true]
    exact ⟨exists_saysText_iff.1 ⟨_, h.id⟩, exists_saysText_iff.1 ⟨_, h.version⟩,
      exists_saysText_iff.1 ⟨_, h.updatedAt⟩⟩
  · intro h
    obtain ⟨id, hid⟩ := exists_saysText_iff.2 (h.texts "id" (by decide))
    obtain ⟨version, hversion⟩ := exists_saysText_iff.2 (h.texts "version" (by decide))
    obtain ⟨updatedAt, hupdatedAt⟩ := exists_saysText_iff.2 (h.texts "updatedAt" (by decide))
    obtain ⟨name, hname⟩ := exists_saysOr_iff.2 h.name
    obtain ⟨endpoints, hendpoints⟩ := exists_saysOr_iff.2 h.endpoints
    exact ⟨⟨id, name, version, updatedAt, endpoints⟩, hid, hname, hversion, hupdatedAt, hendpoints⟩

/-! ### Documents that are written -/

/-- The members of a project say it. -/
theorem says_members (project : Project) : Says project.toJson.members project := by
  obtain ⟨id, name, version, updatedAt, endpoints⟩ := project
  rw [says_iff_fills, fills_iff]
  cases id <;> cases version <;> cases updatedAt <;> exact ⟨rfl, rfl, rfl, rfl, rfl⟩

theorem keys_textMember_sublist (key : String) (text : Option String) :
    ((textMember key text).map Prod.fst).Sublist [key] := by
  cases text with
  | none => exact List.nil_sublist _
  | some s => exact List.Sublist.refl _

theorem nodup_keys_toJson (project : Project) : (project.toJson.members.map Prod.fst).Nodup := by
  have hkeys : ["id", "name", "version", "updatedAt", "endpoints"].Nodup := by decide
  refine hkeys.sublist ?_
  rw [toJson, Json.members, List.map_append, List.map_append, List.map_append, List.map_append]
  exact ((((keys_textMember_sublist _ _).append (.refl ["name"])).append
    (keys_textMember_sublist _ _)).append (keys_textMember_sublist _ _)).append
      (.refl ["endpoints"])

theorem isExact_textMember (depth : Nat) (key : String) (text : Option String) :
    ∀ m ∈ textMember key text, IsExact depth m.2 := by
  cases text with
  | none => exact List.forall_mem_nil _
  | some s => exact List.forall_mem_singleton.2 (.string depth s)

/-- What is written of a project is kept where its records are. -/
theorem isExact_toJson {project : Project} {depth : Nat}
    (h : ∀ r ∈ project.endpoints, IsExact depth r) : IsExact (depth + 2) project.toJson := by
  refine .object (nodup_keys_toJson project) ?_
  simp only [List.forall_mem_append, List.forall_mem_singleton]
  exact ⟨⟨⟨⟨isExact_textMember _ _ _, .string _ _⟩, isExact_textMember _ _ _⟩,
    isExact_textMember _ _ _⟩, .array h⟩

/-- The records of a document nest two less deep than the document. -/
theorem isRead_endpoints {text : String} {project : Project}
    (h : read .json text = .ok project) : ∀ r ∈ project.endpoints, IsRead (nestingLimit - 2) r := by
  obtain ⟨members, hread, hsays⟩ := read_eq_ok_iff.1 h
  have hendpoints := hsays.endpoints
  generalize hmember : member? "endpoints" members = member, project.endpoints = records
    at hendpoints
  cases hendpoints with
  | missing => exact List.forall_mem_nil _
  | present records =>
    have hmem : ("endpoints", Json.array records) ∈ members :=
      (member?_eq_some_iff (nodup_keys_of_read hread)).1 hmember
    cases isRead_of_read hread with
    | object _ hmembers =>
      cases hmembers _ hmem with
      | array hrecords => exact hrecords

/-- **What a project document in JSON says.**  A text is read if and only if it is JSON whose
root is an object in which the five members are shaped as they have to be, and then it is read
as what these members say, whatever else there is: texts that are missing or null are none, a
name that is missing is the default one, and records that are missing are none; records stay as
they are and in their order.  What is written of a project that was read says that project
again, where the numbers in its records are integers of 64 bits. -/
theorem project_document (text : String) :
    ((∃ project, read .json text = .ok project) ↔
      ∃ members, Json.read text = .ok (.object members) ∧ IsShaped members) ∧
    (∀ project, read .json text = .ok project ↔
      ∃ members, Json.read text = .ok (.object members) ∧ Says members project) ∧
    ∀ project, read .json text = .ok project → (∀ r ∈ project.endpoints, HasIntegers r) →
      read .json project.toJson.text = .ok project := by
  refine ⟨?_, fun _ => read_eq_ok_iff, ?_⟩
  · simp only [read_eq_ok_iff, ← exists_says_iff]
    exact exists_comm.trans (exists_congr fun members => exists_and_left)
  · intro project hread hintegers
    have hexact : IsExact nestingLimit project.toJson :=
      isExact_toJson fun r hr => isExact_of_isRead (isRead_endpoints hread r hr) (hintegers r hr)
    exact read_eq_ok_iff.2 ⟨_, read_text hexact, says_members project⟩

end MockServer.Project
