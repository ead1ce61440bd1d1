/-
Settings from several sources.

A setting has a variable of the environment over a key of the configuration file over a default.
`Decided` tells which of the three it is taken from, without the layering itself.  Main
statements:

* `Decided.unique` — three sources decide one value;
* `isDecided_resolve` — every setting is decided by its own sources;
* `resolve_layered` — no other source matters, and settings that were resolved once are resolved
  to themselves.
-/
import MockServer.Config.Basic

namespace MockServer

/-- The words that stand for a truth value. -/
def Text.truthWords : Bool → List String
  | true => ["1", "true", "yes", "on"]
  | false => ["0", "false", "no", "off"]

/-- A text is recognized where, trimmed and in small letters, it is one of those words. -/
theorem Text.truth?_eq_some_iff {text : String} {b : Bool} :
    truth? text = some b ↔ asciiLower (trim text) ∈ truthWords b := by
  rw [truth?]
  split <;> cases b <;> simp_all [truthWords]

namespace Config

/-! ### Variables -/

section

variable {lookup lookup' : Lookup} {name path : String} {b : Bool}

/-- A variable names a path: it is set and not blank.  The path is its value as it stands. -/
def Names (lookup : Lookup) (name path : String) : Prop :=
  lookup name = some path ∧ Text.trim path ≠ ""

/-- A variable tells a truth value: it is set to one of the words for it. -/
def Tells (lookup : Lookup) (name : String) (b : Bool) : Prop :=
  ∃ text, lookup name = some text ∧ Text.asciiLower (Text.trim text) ∈ Text.truthWords b

theorem filled?_eq_some_iff : filled? lookup name = some path ↔ Names lookup name path := by
  rw [filled?, Option.filter_eq_some_iff, Names, ne_eq, Text.trim_eq_empty_iff,
    Bool.not_eq_true', Bool.not_eq_true]

theorem bind_truth?_eq_some_iff :
    (lookup name).bind Text.truth? = some b ↔ Tells lookup name b := by
  simp only [Option.bind_eq_some_iff, Text.truth?_eq_some_iff, Tells]

theorem names_congr (h : lookup' name = lookup name) (path : String) :
    Names lookup' name path ↔ Names lookup name path := by
  rw [Names, Names, h]

theorem tells_congr (h : lookup' name = lookup name) (b : Bool) :
    Tells lookup' name b ↔ Tells lookup name b := by
  simp only [Tells, h]

theorem Names.unique {other : String} (h : Names lookup name path) (h' : Names lookup name other) :
    path = other :=
  Option.some.inj ((filled?_eq_some_iff.2 h).symm.trans (filled?_eq_some_iff.2 h'))

theorem Tells.unique {other : Bool} (h : Tells lookup name b) (h' : Tells lookup name other) :
    b = other :=
  Option.some.inj ((bind_truth?_eq_some_iff.2 h).symm.trans (bind_truth?_eq_some_iff.2 h'))

end

/-- An environment that leaves every setting to other sources. -/
structure IsSilent (lookup : Lookup) : Prop where
  resources : ∀ path, ¬ Names lookup resourcesVariable path
  data : ∀ path, ¬ Names lookup dataVariable path
  probe : ∀ b, ¬ Tells lookup probeVariable b
  scratch : ∀ path, ¬ Names lookup scratchVariable path

/-! ### What three sources decide -/

/-- The value of the topmost source that has one; `upper` and `lower` tell what the two sources
above the fallback have. -/
inductive Decided {α : Type} (upper lower : α → Prop) (fallback : Option α) : Option α → Prop where
  | upper {a : α} (said : upper a) : Decided upper lower fallback (some a)
  | lower {a : α} (silent : ∀ a, ¬ upper a) (said : lower a) :
      Decided upper lower fallback (some a)
  | fallback (silent : ∀ a, ¬ upper a) (unsaid : ∀ a, ¬ lower a) :
      Decided upper lower fallback fallback

section

variable {α : Type} {upper upper' lower lower' : α → Prop} {fallback fallback' : Option α}
  {value value' : Option α}

/-- Sources that have one value at most decide one. -/
theorem Decided.unique (hupper : ∀ {a b}, upper a → upper b → a = b)
    (hlower : ∀ {a b}, lower a → lower b → a = b) (h : Decided upper lower fallback value)
    (h' : Decided upper lower fallback value') : value = value' := by
  cases h with
  | upper said =>
    cases h' with
    | upper said' => rw [hupper said said']
    | lower silent _ => exact absurd said (silent _)
    | fallback silent _ => exact absurd said (silent _)
  | lower silent said =>
    cases h' with
    | upper said' => exact absurd said' (silent _)
    | lower _ said' => rw [hlower said said']
    | fallback _ unsaid => exact absurd said (unsaid _)
  | fallback silent unsaid =>
    cases h' with
    | upper said' => exact absurd said' (silent _)
    | lower _ said' => exact absurd said' (unsaid _)
    | fallback _ _ => rfl

/-- The fallback matters only where the sources above it have nothing. -/
theorem Decided.congr (hupper : ∀ a, upper' a ↔ upper a) (hlower : ∀ a, lower' a ↔ lower a)
    (hfallback : (∀ a, ¬ upper a) → (∀ a, ¬ lower a) → fallback' = fallback)
    (h : Decided upper lower fallback value) : Decided upper' lower' fallback' value := by
  cases h with
  | upper said => exact .upper ((hupper _).2 said)
  | lower silent said => exact .lower (fun a => mt (hupper a).1 (silent a)) ((hlower _).2 said)
  | fallback silent unsaid =>
    rw [← hfallback silent unsaid]
    exact .fallback (fun a => mt (hupper a).1 (silent a)) (fun a => mt (hlower a).1 (unsaid a))

/-- A key has one value at most. -/
theorem Decided.unique_of_key {key : Option α} (hupper : ∀ {a b}, upper a → upper b → a = b)
    (h : Decided upper (key = some ·) fallback value)
    (h' : Decided upper (key = some ·) fallback value') : value = value' :=
  h.unique hupper (fun ha hb => Option.some.inj (ha.symm.trans hb)) h'

/-- Under the same source and over the same key the same is decided. -/
theorem Decided.eq_of_same_sources {key key' : Option α}
    (hunique : ∀ {a b}, upper' a → upper' b → a = b)
    (h' : Decided upper' (key' = some ·) fallback' value')
    (h : Decided upper (key = some ·) fallback value) (hupper : ∀ a, upper' a ↔ upper a)
    (hkey : key' = key)
    (hfallback : (∀ a, ¬ upper a) → (∀ a, key ≠ some a) → fallback' = fallback) :
    value' = value := by
  subst hkey
  exact h'.unique_of_key hunique (h.congr hupper (fun _ => .rfl) hfallback)

/-- What was decided is decided again where it stands below the same source, or below one that
has nothing. -/
theorem Decided.again (hupper : (∀ a, upper' a ↔ upper a) ∨ ∀ a, ¬ upper' a)
    (hfallback : value = none → fallback' = none) (h : Decided upper lower fallback value) :
    Decided upper' (value = some ·) fallback' value := by
  have hbelow : (∀ a, ¬ upper' a) → Decided upper' (value = some ·) fallback' value := by
    intro hsilent
    cases value with
    | some a => exact .lower hsilent rfl
    | none =>
      rw [hfallback rfl]
      exact .fallback hsilent fun _ => nofun
  rcases hupper with hsame | hsilent
  · cases h with
    | upper said => exact .upper ((hsame _).2 said)
    | lower silent _ => exact hbelow fun a => mt (hsame a).1 (silent a)
    | fallback silent _ => exact hbelow fun a => mt (hsame a).1 (silent a)
  · exact hbelow hsilent

/-- What is layered is decided. -/
theorem decided_or {above below : Option α} (habove : ∀ a, above = some a ↔ upper a) :
    Decided upper (below = some ·) fallback ((above.or below).or fallback) := by
  cases above with
  | some a => exact .upper ((habove a).1 rfl)
  | none =>
    have hsilent : ∀ a, ¬ upper a := fun a ha => by cases (habove a).2 ha
    cases below with
    | some a => exact .lower hsilent rfl
    | none => exact .fallback hsilent fun _ => nofun

end

/-! ### Settings -/

variable {setting : Setting} {tree : FileTree} {layer layer' : Layer} {lookup lookup' : Lookup}

/-- Every setting is decided by its variable, its key of a layer, and its default. -/
structure IsDecided (setting : Setting) (tree : FileTree) (layer : Layer) (lookup : Lookup)
    (config : Config) : Prop where
  resources : Decided (Names lookup resourcesVariable) (layer.resourcesDirectory = some ·)
    (some (defaultResourcesDirectory setting tree)) (some config.resourcesDirectory)
  data : Decided (Names lookup dataVariable) (layer.dataDirectory = some ·)
    (some (defaultDataDirectory setting lookup)) (some config.dataDirectory)
  probe : Decided (Tells lookup probeVariable) (layer.probeToolchain = some ·) (some true)
    (some config.probeToolchain)
  scratch : Decided (Names lookup scratchVariable) (layer.scratchDirectory = some ·) none
    config.scratchDirectory

/-- Every setting is decided by its own sources. -/
theorem isDecided_resolve (setting : Setting) (tree : FileTree) (layer : Layer) (lookup : Lookup) :
    IsDecided setting tree layer lookup (resolve setting tree layer lookup) where
  resources := by
    rw [resolve, ← Option.or_some]
    exact decided_or fun _ => filled?_eq_some_iff
  data := by
    rw [resolve, ← Option.or_some]
    exact decided_or fun _ => filled?_eq_some_iff
  probe := by
    rw [resolve, ← Option.or_some]
    exact decided_or fun _ => bind_truth?_eq_some_iff
  scratch := by
    rw [resolve, ← Option.or_none (o := (filled? lookup scratchVariable).or _)]
    exact decided_or fun _ => filled?_eq_some_iff

/-- Its sources leave no choice of a configuration. -/
theorem IsDecided.unique {config config' : Config}
    (h : IsDecided setting tree layer lookup config)
    (h' : IsDecided setting tree layer lookup config') : config = config' := by
  have hresources := h.resources.unique_of_key Names.unique h'.resources
  have hdata := h.data.unique_of_key Names.unique h'.data
  have hprobe := h.probe.unique_of_key Tells.unique h'.probe
  have hscratch := h.scratch.unique_of_key Names.unique h'.scratch
  cases config
  cases config'
  simp_all

theorem defaultDataDirectory_congr (hshared : lookup' "XDG_DATA_HOME" = lookup "XDG_DATA_HOME")
    (hhome : lookup' "HOME" = lookup "HOME") :
    defaultDataDirectory setting lookup' = defaultDataDirectory setting lookup := by
  simp only [defaultDataDirectory, filled?, hshared, hhome]

/-! ### Other sources -/

section

variable {config config' : Config} (h' : IsDecided setting tree layer' lookup' config')
  (h : IsDecided setting tree layer lookup config)
include h' h

theorem resourcesDirectory_congr (hname : lookup' resourcesVariable = lookup resourcesVariable)
    (hkey : layer'.resourcesDirectory = layer.resourcesDirectory) :
    config'.resourcesDirectory = config.resourcesDirectory :=
  Option.some.inj <| h'.resources.eq_of_same_sources Names.unique h.resources (names_congr hname)
    hkey fun _ _ => rfl

/-- The variables of the default matter only where nothing else names the directory. -/
theorem dataDirectory_congr (hname : lookup' dataVariable = lookup dataVariable)
    (hkey : layer'.dataDirectory = layer.dataDirectory)
    (hdefault : (∃ path, Names lookup dataVariable path) ∨ (∃ path, layer.dataDirectory = some path)
      ∨ lookup' "XDG_DATA_HOME" = lookup "XDG_DATA_HOME" ∧ lookup' "HOME" = lookup "HOME") :
    config'.dataDirectory = config.dataDirectory := by
  refine Option.some.inj <| h'.data.eq_of_same_sources Names.unique h.data (names_congr hname) hkey
    fun hsilent hunsaid => ?_
  rcases hdefault with ⟨path, hpath⟩ | ⟨path, hpath⟩ | ⟨hshared, hhome⟩
  · exact absurd hpath (hsilent path)
  · exact absurd hpath (hunsaid path)
  · rw [defaultDataDirectory_congr hshared hhome]

theorem probeToolchain_congr (hname : lookup' probeVariable = lookup probeVariable)
    (hkey : layer'.probeToolchain = layer.probeToolchain) :
    config'.probeToolchain = config.probeToolchain :=
  Option.some.inj <| h'.probe.eq_of_same_sources Tells.unique h.probe (tells_congr hname) hkey
    fun _ _ => rfl

theorem scratchDirectory_congr (hname : lookup' scratchVariable = lookup scratchVariable)
    (hkey : layer'.scratchDirectory = layer.scratchDirectory) :
    config'.scratchDirectory = config.scratchDirectory :=
  h'.scratch.eq_of_same_sources Names.unique h.scratch (names_congr hname) hkey fun _ _ => rfl

end

/-! ### Settings that were resolved -/

/-- A configuration written down as a layer. -/
def toLayer (config : Config) : Layer where
  resourcesDirectory := some config.resourcesDirectory
  dataDirectory := some config.dataDirectory
  probeToolchain := some config.probeToolchain
  scratchDirectory := config.scratchDirectory

/-- Settings that were decided are decided again from their own layer, by the same environment
and by one that is silent. -/
theorem IsDecided.again {config : Config} (h : IsDecided setting tree layer lookup config)
    (setting' : Setting) (tree' : FileTree) (hlookup : lookup' = lookup ∨ IsSilent lookup') :
    IsDecided setting' tree' config.toLayer lookup' config := by
  have hset : ∀ {α : Type} {a : α} {o : Option α}, some a = none → o = none := nofun
  rcases hlookup with rfl | hsilent
  · exact
      { resources := h.resources.again (.inl fun _ => .rfl) hset
        data := h.data.again (.inl fun _ => .rfl) hset
        probe := h.probe.again (.inl fun _ => .rfl) hset
        scratch := h.scratch.again (.inl fun _ => .rfl) fun _ => rfl }
  · exact
      { resources := h.resources.again (.inr hsilent.resources) hset
        data := h.data.again (.inr hsilent.data) hset
        probe := h.probe.again (.inr hsilent.probe) hset
        scratch := h.scratch.again (.inr hsilent.scratch) fun _ => rfl }

/-- **How settings are layered.**  Every setting is the value of its variable where that says
something, else that of its key in the file, else the default.  Nothing that other variables or
keys say changes it; the default of the data directory looks at two variables of its own, which
matter only where it is needed.  Settings that were resolved are resolved to themselves by the
same environment, and by every one that leaves the settings alone. -/
theorem resolve_layered (setting : Setting) (tree : FileTree) (layer : Layer) (lookup : Lookup) :
    let config := resolve setting tree layer lookup
    IsDecided setting tree layer lookup config
    ∧ (∀ (layer' : Layer) (lookup' : Lookup),
        let config' := resolve setting tree layer' lookup'
        (lookup' resourcesVariable = lookup resourcesVariable →
          layer'.resourcesDirectory = layer.resourcesDirectory →
          config'.resourcesDirectory = config.resourcesDirectory)
        ∧ (lookup' dataVariable = lookup dataVariable →
          layer'.dataDirectory = layer.dataDirectory →
          (∃ path, Names lookup dataVariable path) ∨ (∃ path, layer.dataDirectory = some path)
            ∨ lookup' "XDG_DATA_HOME" = lookup "XDG_DATA_HOME" ∧ lookup' "HOME" = lookup "HOME" →
          config'.dataDirectory = config.dataDirectory)
        ∧ (lookup' probeVariable = lookup probeVariable →
          layer'.probeToolchain = layer.probeToolchain →
          config'.probeToolchain = config.probeToolchain)
        ∧ (lookup' scratchVariable = lookup scratchVariable →
          layer'.scratchDirectory = layer.scratchDirectory →
          config'.scratchDirectory = config.scratchDirectory))
    ∧ ∀ (setting' : Setting) (tree' : FileTree) (lookup' : Lookup),
        lookup' = lookup ∨ IsSilent lookup' →
        resolve setting' tree' config.toLayer lookup' = config := by
  intro config
  have hdecided := isDecided_resolve setting tree layer lookup
  refine ⟨hdecided, fun layer' lookup' => ?_, fun setting' tree' lookup' hlookup => ?_⟩
  · have hdecided' := isDecided_resolve setting tree layer' lookup'
    exact ⟨resourcesDirectory_congr hdecided' hdecided, dataDirectory_congr hdecided' hdecided,
      probeToolchain_congr hdecided' hdecided, scratchDirectory_congr hdecided' hdecided⟩
  · exact (isDecided_resolve setting' tree' config.toLayer lookup').unique
      (hdecided.again setting' tree' hlookup)

end Config
end MockServer
