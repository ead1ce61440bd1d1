/-
What the tools of a bundle see.

A tool sees the inherited environment with the variables of its bundle over it.  Main
statements:

* `get?_layered` — variables that are set over an environment are looked up first;
* `rootFor_eq`, `packages_eq` — the directories that a bundle names, from the absolute forms of
  the directories that were set;
* `run_isolated` — but for the search path, what a bundle sets does not depend on what was
  inherited, and the search path goes on with the inherited one, entry by entry.
-/
import MockServer.Build.Tool
import MockServer.Build.Toolchain
import MockServer.Proofs.Path.Absolute

namespace MockServer

/-! ### Layers of variables -/

namespace Environment

variable {added : Environment} {name : String}

theorem get?_cons (n value : String) (rest : Environment) (name : String) :
    get? ((n, value) :: rest) name = if n = name then some value else get? rest name := by
  by_cases h : n = name <;> simp [get?, h]

theorem get?_eq_none (h : name ∉ added.map Prod.fst) : added.get? name = none := by
  rw [get?, List.find?_eq_none.2, Option.map_none]
  intro v hv hname
  exact h (eq_of_beq hname ▸ List.mem_map_of_mem hv)

/-- Variables that are set over an environment are looked up first. -/
theorem get?_layered (environment : Environment) (hadded : (added.map Prod.fst).Nodup)
    (name : String) :
    (environment.layered added).get? name = (added.get? name).or (environment.get? name) := by
  induction added generalizing environment with
  | nil => rfl
  | cons v rest ih =>
    obtain ⟨n, value⟩ := v
    obtain ⟨hn, hrest⟩ := List.nodup_cons.1 hadded
    have hset : (environment.layered ((n, value) :: rest)).get? name =
        (get? rest name).or ((environment.set n value).get? name) := ih _ hrest
    rw [hset, get?_cons]
    by_cases hname : n = name
    · rw [if_pos hname, ← hname, get?_eq_none hn, get?_set_self, Option.none_or, Option.some_or]
    · rw [if_neg hname, get?_set_of_ne environment (Ne.symm hname)]

end Environment

namespace Build.Toolchain

/-! ### Directories -/

theorem absolutely_join {name : String} (setting : Setting) (base : String)
    (hname : Path.IsName name) : absolutely setting (Path.join base name) =
      Path.join (Path.whole setting.directoryPath base) name := by
  rw [absolutely, Path.absolute?_join setting.directoryPath base hname, Option.getD_some]

theorem isName_go : Path.IsName "go" :=
  ⟨by decide, by decide, by decide⟩

theorem isName_gopath : Path.IsName "gopath" :=
  ⟨by decide, by decide, by decide⟩

theorem isName_bundleKey (platform : Platform) : Path.IsName platform.bundleKey := by
  obtain ⟨system, architecture⟩ := platform
  constructor <;> cases system <;> cases architecture <;> decide

/-- The directory of a bundle, from the absolute form of the one with all bundles. -/
theorem rootFor_eq (setting : Setting) (resources : String) (host : Platform) :
    rootFor setting resources host =
      Path.join (Path.join (Path.whole setting.directoryPath resources) "go") host.bundleKey := by
  rw [rootFor, absolutely_join setting _ (isName_bundleKey host),
    Path.whole_join _ _ isName_go.isAbsolute_eq_false, isName_go.isSolid.solid_eq]
  rfl

/-- The directory for packages, from the absolute form of the one for private data. -/
theorem packages_eq (setting : Setting) (dataDirectory : String) :
    absolutely setting (Path.join dataDirectory "gopath") =
      Path.join (Path.whole setting.directoryPath dataDirectory) "gopath" :=
  absolutely_join setting dataDirectory isName_gopath

/-- A bundle is looked for by the absolute form of the directory with all bundles. -/
theorem expected_congr {setting : Setting} {resources resources' : String} (host : Platform)
    (h : Path.whole setting.directoryPath resources = Path.whole setting.directoryPath resources') :
    expected setting resources host = expected setting resources' host := by
  simp only [expected, rootFor_eq, h]

/-- What a bundle sets hangs on the absolute form of the directory for private data. -/
theorem environment_congr {setting : Setting} {data data' : String} (toolchain : Toolchain)
    (target : Platform)
    (h : Path.whole setting.directoryPath data = Path.whole setting.directoryPath data') :
    toolchain.environment setting target data = toolchain.environment setting target data' := by
  simp only [environment, packages_eq, h]

/-! ### Search paths -/

theorem searchEntries_eq_splitOn (s : List Char) : searchEntries s = s.splitOn ':' := by
  induction s with
  | nil => rfl
  | cons c rest ih =>
    rw [List.splitOn_cons_eq_if_modifyHead, ← ih, searchEntries]
    by_cases hc : c = ':'
    · simp [hc]
    · rw [if_neg hc, if_neg (by simpa using hc)]
      cases hrest : searchEntries rest with
      | nil => exact absurd (ih.symm.trans hrest) (List.splitOn_ne_nil _ _)
      | cons entry entries => rfl

/-! ### What a tool sees -/

/-- The names of the variables that a bundle sets. -/
def bundleNames : List String :=
  ["GOROOT", "GOPATH", "GOMODCACHE", "PATH", "CGO_ENABLED", "GOOS", "GOARCH", "GOTOOLCHAIN"]

variable (setting : Setting) (toolchain : Toolchain) (target : Platform) (dataDirectory : String)

/-- What a tool of a bundle sees. -/
def seen : Environment :=
  setting.environment.layered (toolchain.environment setting target dataDirectory)

theorem map_fst_environment :
    (toolchain.environment setting target dataDirectory).map Prod.fst = bundleNames :=
  rfl

theorem get?_seen (name : String) : (toolchain.seen setting target dataDirectory).get? name =
    ((toolchain.environment setting target dataDirectory).get? name).or
      (setting.environment.get? name) :=
  Environment.get?_layered _ (by rw [map_fst_environment]; decide) name

variable {setting toolchain target dataDirectory}

theorem get?_seen_of_not_mem {name : String} (h : name ∉ bundleNames) :
    (toolchain.seen setting target dataDirectory).get? name = setting.environment.get? name := by
  rw [get?_seen, Environment.get?_eq_none (by rwa [map_fst_environment]), Option.none_or]

theorem get?_seen_path : (toolchain.seen setting target dataDirectory).get? "PATH" =
    some (searchPath (binaries toolchain.root) ((setting.environment.get? "PATH").getD "")) := by
  rw [get?_seen]
  simp [environment, Environment.get?_cons]

/-! ### Isolation -/

/-- The variables that a bundle sets but for the search path, with its packages in a directory. -/
def own (toolchain : Toolchain) (target : Platform) (packages : String) : Environment :=
  [("GOROOT", toolchain.root), ("GOPATH", packages),
    ("GOMODCACHE", Path.join (Path.join packages "pkg") "mod"), ("CGO_ENABLED", "0"),
    ("GOOS", target.system.name), ("GOARCH", target.architecture.name), ("GOTOOLCHAIN", "local")]

/-- A variable of a bundle other than the search path is one of its own. -/
theorem exists_get?_own (toolchain : Toolchain) (target : Platform) (packages : String)
    {name : String} (hname : name ∈ bundleNames) (hpath : name ≠ "PATH") :
    ∃ value, (toolchain.own target packages).get? name = some value := by
  simp only [bundleNames, List.mem_cons, List.not_mem_nil, or_false, hpath, false_or] at hname
  rcases hname with rfl | rfl | rfl | rfl | rfl | rfl | rfl <;> exact ⟨_, rfl⟩

theorem get?_environment_of_ne {name : String} (h : name ≠ "PATH") :
    (toolchain.environment setting target dataDirectory).get? name =
      (toolchain.own target (Path.join (Path.whole setting.directoryPath dataDirectory)
        "gopath")).get? name := by
  simp only [environment, own, packages_eq, Environment.get?_cons, if_neg (Ne.symm h)]

/-- Where the directory for private data is absolute, or the working directory is the same, the
packages lie in the same directory. -/
theorem whole_dataDirectory_congr {other : Setting}
    (h : Path.isAbsolute dataDirectory = true ∨ other.directory = setting.directory) :
    Path.whole other.directoryPath dataDirectory =
      Path.whole setting.directoryPath dataDirectory := by
  rcases h with habsolute | hdirectory
  · exact Path.whole_of_isAbsolute habsolute _ _
  · rw [Setting.directoryPath, Setting.directoryPath, hdirectory]

/-- **The environment of a tool is isolated.**  A tool that is run for a bundle is started once,
and what it sees is inherited but for eight variables.  All of these are set, and each but the
search path is the same under any other inherited environment, also in another working directory
where the directory for private data is absolute.  The search path is the bundle's directory of
commands, followed by the entries of the inherited search path where that directory is an entry of
its own. -/
theorem run_isolated {ε : Type} (tools : Launcher) (toolchain : Toolchain) (target : Platform)
    (dataDirectory : String) (setting : Setting) (program : String) (arguments : List String)
    (directory : String) (m : Machine) :
    let launch := Tool.launchOf setting program arguments directory
      (toolchain.environment setting target dataDirectory)
    ((Tool.run tools launch : Task ε Outcome).run.run m).2.launches = m.launches ++ [launch]
    ∧ (∀ name, name ∉ bundleNames →
        launch.environment.get? name = setting.environment.get? name)
    ∧ (∀ name, name ∈ bundleNames → name ≠ "PATH" →
        ∃ value, launch.environment.get? name = some value ∧
          ∀ other : Setting,
            Path.isAbsolute dataDirectory = true ∨ other.directory = setting.directory →
            ∀ program' arguments' directory',
              (Tool.launchOf other program' arguments' directory'
                (toolchain.environment other target dataDirectory)).environment.get? name =
                  some value)
    ∧ ∃ path, launch.environment.get? "PATH" = some path ∧
        (':' ∈ (binaries toolchain.root).toList → path = binaries toolchain.root) ∧
        (':' ∉ (binaries toolchain.root).toList → path.toList.splitOn ':' =
          (binaries toolchain.root).toList ::
            ((setting.environment.get? "PATH").getD "").toList.splitOn ':') := by
  intro launch
  refine ⟨rfl, fun name hname => get?_seen_of_not_mem hname, ?_, _, get?_seen_path, ?_, ?_⟩
  · intro name hname hpath
    obtain ⟨value, hvalue⟩ := exists_get?_own toolchain target
      (Path.join (Path.whole setting.directoryPath dataDirectory) "gopath") hname hpath
    have hseen : ∀ other : Setting,
        Path.isAbsolute dataDirectory = true ∨ other.directory = setting.directory →
        (toolchain.seen other target dataDirectory).get? name = some value := by
      intro other hother
      rw [get?_seen, get?_environment_of_ne hpath, whole_dataDirectory_congr hother, hvalue,
        Option.some_or]
    exact ⟨value, hseen setting (.inr rfl), fun other hother _ _ _ => hseen other hother⟩
  · intro hcolon
    rw [searchPath, if_pos (by simpa using hcolon)]
  · intro hcolon
    rw [← searchEntries_eq_splitOn, ← searchEntries_eq_splitOn]
    exact searchPath_split hcolon _

end Build.Toolchain
end MockServer
