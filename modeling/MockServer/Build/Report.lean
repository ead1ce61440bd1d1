/-
Reports of builds, and what is remembered of them.

A report names the executable and the port of the server, or the fault.  A session holds
the project that is worked on and its last successful build.
-/
import MockServer.Build.Fault
import MockServer.Json.Printer
import MockServer.Project.Basic

namespace MockServer.Build

/-- The executable of a successful build, and the port on which it serves. -/
structure Product where
  path : String
  port : Nat
  deriving DecidableEq, Repr

/-- A product as JSON. -/
def Product.toJson (product : Product) : Json :=
  .object [("path", .string product.path), ("port", .ofNat product.port)]

/-- The report of a build. -/
abbrev Report := Except Fault Product

namespace Report

/-- A report as JSON. -/
def toJson : Report → Json
  | .ok product => .object [("ok", .bool true), ("path", .string product.path),
      ("port", .ofNat product.port)]
  | .error fault => .object [("ok", .bool false), ("err", .string fault.message)]

/-- Was the build cancelled? -/
def isCancelled : Report → Bool
  | .error .cancelled => true
  | _ => false

end Report

/-- A session: the project, and its last successful build. -/
structure Session where
  project : Project
  lastBuild : Option Product

/-- A session in which nothing has been built. -/
def Session.new (project : Project) : Session :=
  ⟨project, none⟩

end MockServer.Build
