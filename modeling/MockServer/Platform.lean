/-
Platforms.

A platform is an operating system with an architecture.  Targets may have any of them;
toolchains are bundled for hosts with two of the systems, which a machine names in its
own words.  Main statement: `bundleKey_injective` — no two platforms share a bundle.
-/
import MockServer.Text.Ascii

namespace MockServer

/-- An operating system for which executables are built. -/
inductive OperatingSystem where
  | windows
  | darwin
  | linux
  deriving DecidableEq, Repr

/-- An architecture for which executables are built. -/
inductive Architecture where
  | amd64
  | arm64
  deriving DecidableEq, Repr

namespace OperatingSystem

/-- The name of a system. -/
def name : OperatingSystem → String
  | .windows => "windows"
  | .darwin => "darwin"
  | .linux => "linux"

/-- All systems. -/
def all : List OperatingSystem :=
  [.windows, .darwin, .linux]

/-- The system with a name. -/
def ofName? (name : String) : Option OperatingSystem :=
  all.find? (·.name == name)

/-- The system with a name in any case. -/
def ofNameIgnoringCase? (name : String) : Option OperatingSystem :=
  all.find? (Text.sameIgnoringCase ·.name name)

/-- What the file name of an executable ends in. -/
def executableSuffix : OperatingSystem → String
  | .windows => ".exe"
  | .darwin => ""
  | .linux => ""

/-- The wording for a name that no system has. -/
def unknownName (name : String) : String :=
  "unknown variant `" ++ name ++ "`, expected one of `windows`, `darwin`, `linux`"

theorem ofName?_name (system : OperatingSystem) : ofName? system.name = some system := by
  cases system <;> decide

end OperatingSystem

namespace Architecture

/-- The name of an architecture. -/
def name : Architecture → String
  | .amd64 => "amd64"
  | .arm64 => "arm64"

/-- All architectures. -/
def all : List Architecture :=
  [.amd64, .arm64]

/-- The architecture with a name. -/
def ofName? (name : String) : Option Architecture :=
  all.find? (·.name == name)

/-- The architecture with a name in any case. -/
def ofNameIgnoringCase? (name : String) : Option Architecture :=
  all.find? (Text.sameIgnoringCase ·.name name)

/-- The wording for a name that no architecture has. -/
def unknownName (name : String) : String :=
  "unknown variant `" ++ name ++ "`, expected `amd64` or `arm64`"

theorem ofName?_name (architecture : Architecture) :
    ofName? architecture.name = some architecture := by
  cases architecture <;> decide

end Architecture

/-- A system with an architecture. -/
structure Platform where
  system : OperatingSystem
  architecture : Architecture
  deriving DecidableEq, Repr

/-- A machine as it names itself. -/
structure Host where
  system : String
  architecture : String
  deriving DecidableEq, Repr

/-- The platform of a host, where a toolchain is bundled for it. -/
def Host.platform? (host : Host) : Option Platform := do
  let system ← match host.system with
    | "windows" => some OperatingSystem.windows
    | "macos" => some .darwin
    | _ => none
  let architecture ← match host.architecture with
    | "x86_64" => some Architecture.amd64
    | "aarch64" => some .arm64
    | _ => none
  return ⟨system, architecture⟩

/-- The name of the bundle for a platform. -/
def Platform.bundleKey (platform : Platform) : String :=
  platform.system.name ++ "-" ++ platform.architecture.name

theorem Platform.bundleKey_injective {a b : Platform} (h : a.bundleKey = b.bundleKey) : a = b := by
  obtain ⟨s, t⟩ := a
  obtain ⟨u, v⟩ := b
  revert h
  cases s <;> cases t <;> cases u <;> cases v <;> decide

/-- What a caller asks for; what is left open is as on the host. -/
structure TargetRequest where
  system : Option OperatingSystem
  architecture : Option Architecture
  deriving DecidableEq, Repr

/-- The target of a request. -/
def TargetRequest.target (request : TargetRequest) (host : Platform) : Platform where
  system := request.system.getD host.system
  architecture := request.architecture.getD host.architecture

end MockServer
