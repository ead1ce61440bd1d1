/-
Reading command lines.

Words are read from the left, in the scope in front of a command and then in the scope of
that command.  An option without its value waits for the next plain word; it counts only
when the next option comes or the scope ends, and then it must have a value, be there for
the first time and be able to have that value.  Main statements:

* `read_nil` — without words nothing is done;
* `pending_of_settle` — an option that counts no longer waits.
-/
import MockServer.CommandLine.Parameter
import MockServer.CommandLine.Word

namespace MockServer.CommandLine

/-! ### Results -/

/-- What a command is to do. -/
inductive Command where
  | compile (project directory : String) (force : Bool)
  | inspect (project : String)
  | build (project : String) (output : Option String) (request : TargetRequest) (json : Bool)
  deriving DecidableEq, Repr

/-- A command with the configuration file that was named. -/
structure Invocation where
  config : Option String
  command : Command
  deriving DecidableEq, Repr

/-- A mistake in a command line. -/
inductive Mistake where
  | unknownWord (word : String)
  | unknownCommand (word : String)
  | noCommand
  | noWords
  | noValue (parameter : Parameter)
  | wrongValue (parameter : Parameter) (value : String)
  | needlessValue (parameter : Parameter) (value : String)
  | repeated (parameter : Parameter)
  | missing (parameters : List Parameter)
  deriving DecidableEq, Repr

/-- Why reading ends without a command: help or the version is asked for, or there is a
mistake. -/
inductive Stop where
  | help (verb : Option Verb)
  | version
  | mistake (mistake : Mistake)
  deriving DecidableEq, Repr

/-! ### What is set -/

/-- The values that are set, a flag's being empty, with an option that does not count yet and
the value that has come for it. -/
structure Progress where
  values : List (Parameter × String)
  pending : Option (Parameter × Option String)
  deriving DecidableEq, Repr

namespace Progress

/-- Nothing is set. -/
def start : Progress :=
  ⟨[], none⟩

/-- The value of a parameter. -/
def value? (progress : Progress) (parameter : Parameter) : Option String :=
  (progress.values.find? (·.1 == parameter)).map Prod.snd

/-- Was a parameter set? -/
def isSet (progress : Progress) (parameter : Parameter) : Bool :=
  (progress.value? parameter).isSome

/-- Sets a parameter, for the first time and to a value that it can have. -/
def assign (progress : Progress) (parameter : Parameter) (value : String) :
    Except Stop Progress :=
  if progress.isSet parameter then .error (.mistake (.repeated parameter))
  else if parameter.accepts value then
    .ok { progress with values := progress.values ++ [(parameter, value)] }
  else .error (.mistake (.wrongValue parameter value))

/-- Lets the option that does not count yet count. -/
def settle (progress : Progress) : Except Stop Progress :=
  match progress.pending with
  | none => .ok progress
  | some (parameter, none) => .error (.mistake (.noValue parameter))
  | some (parameter, some value) => assign { progress with pending := none } parameter value

/-- Takes an option that needs nothing more. -/
def take (progress : Progress) (scope : Scope) (parameter : Parameter) (value : String) :
    Except Stop Progress := do
  let settled ← progress.settle
  match parameter with
  | .help => throw (.help scope)
  | .version => throw .version
  | _ => settled.assign parameter value

/-- Takes an option that waits for its value. -/
def await (progress : Progress) (parameter : Parameter) : Except Stop Progress := do
  return { (← progress.settle) with pending := some (parameter, none) }

/-- Takes a long option. -/
def long (progress : Progress) (scope : Scope) (name : String) (value : Option String) :
    Except Stop Progress :=
  match scope.named? name, value with
  | none, _ => .error (.mistake (.unknownWord ("--" ++ name)))
  | some parameter, some value =>
    if parameter.takesValue then progress.take scope parameter value
    else .error (.mistake (.needlessValue parameter value))
  | some parameter, none =>
    if parameter.takesValue then progress.await parameter
    else progress.take scope parameter ""

/-- The value that stands behind a letter; an equals sign in front of it is no part of it. -/
def attached (letters : List Char) : Option String :=
  match letters with
  | [] => none
  | '=' :: value => some (String.ofList value)
  | value => some (String.ofList value)

/-- Takes a cluster of letters: flags, and then perhaps an option with or without its value. -/
def cluster (progress : Progress) (scope : Scope) : List Char → Except Stop Progress
  | [] => .ok progress
  | letter :: rest =>
    match scope.lettered? letter with
    | none => .error (.mistake (.unknownWord (String.ofList ['-', letter])))
    | some parameter =>
      if parameter.takesValue then
        match attached rest with
        | some value => progress.take scope parameter value
        | none => progress.await parameter
      else do (← progress.take scope parameter "").cluster scope rest

end Progress

/-! ### Words -/

/-- The mistake of a word that nothing waits for. -/
def surplus (scope : Scope) (word : String) : Mistake :=
  match scope with
  | none => .unknownCommand word
  | some _ => .unknownWord word

/-- The word that asks for help on the words behind it. -/
def helpWord : String := "help"

/-- Is a word the name of something in front of commands? -/
def isCommandName (word : String) : Bool :=
  word == helpWord || (Verb.ofName? word).isSome

/-- What a request for help on some words gives: they have to be commands inside each other,
and no command has others in it. -/
def helpOn : List String → Stop
  | [] => .help none
  | word :: rest =>
    if isCommandName word then
      match rest with
      | [] => .help (Verb.ofName? word)
      | further :: _ => .mistake (.unknownCommand further)
    else .mistake (.unknownCommand word)

/-- The mistake of a word behind the divider, where there is one: nothing takes such words. -/
def behindDivider (scope : Scope) : List String → Option Mistake
  | [] => none
  | word :: _ =>
    some (if scope.isNone && isCommandName word then .unknownWord word else surplus scope word)

/-- Reads the words of a scope; gives what they set, with the command that ends the scope in
front of commands and the words behind it. -/
def scan (scope : Scope) (progress : Progress) :
    List String → Except Stop (Progress × Option (Verb × List String))
  | [] => .ok (progress, none)
  | word :: rest =>
    match Word.ofText word with
    | .divider =>
      match behindDivider scope rest with
      | none => .ok (progress, none)
      | some mistake => .error (.mistake mistake)
    | .long name value => do scan scope (← progress.long scope name value) rest
    | .cluster letters => do scan scope (← progress.cluster scope letters) rest
    | .plain text =>
      match progress.pending with
      -- The word is the value that an option waits for.
      | some (parameter, none) =>
        scan scope { progress with pending := some (parameter, some text) } rest
      | _ =>
        match scope, Verb.ofName? text with
        | none, some verb => .ok (progress, some (verb, rest))
        | _, _ =>
          if scope.isNone && text == helpWord then .error (helpOn rest)
          else .error (.mistake (surplus scope text))

/-! ### Commands -/

/-- The parameters that a command cannot do without. -/
def Verb.required : Verb → List Parameter
  | .compile => [.project, .directory]
  | .inspect => [.project]
  | .build => [.project]

/-- The command that was set, where nothing that it needs is missing. -/
def Verb.command (verb : Verb) (progress : Progress) : Except Stop Command :=
  match verb, progress.value? .project, progress.value? .directory with
  | .compile, some project, some directory =>
    .ok (.compile project directory (progress.isSet .force))
  | .inspect, some project, _ => .ok (.inspect project)
  | .build, some project, _ =>
    .ok (.build project (progress.value? .output)
      ⟨(progress.value? .system).bind OperatingSystem.ofName?,
        (progress.value? .architecture).bind Architecture.ofName?⟩
      (progress.isSet .json))
  | verb, _, _ => .error (.mistake (.missing (verb.required.filter (!progress.isSet ·))))

/-- Reads a command line.  A configuration file that is named behind the command stands over
one that is named in front of it. -/
def read (words : List String) : Except Stop Invocation := do
  match ← scan none .start words with
  | (front, none) =>
    let front ← front.settle
    throw (.mistake (if front.values.isEmpty then .noWords else .noCommand))
  | (front, some (verb, rest)) =>
    let (behind, _) ← scan (some verb) .start rest
    let behind ← behind.settle
    let command ← verb.command behind
    -- What stood in front of the command is judged behind everything else.
    let front ← front.settle
    return ⟨(behind.value? .config).or (front.value? .config), command⟩

/-! ### Laws -/

/-- Without words nothing is done. -/
theorem read_nil : read [] = .error (.mistake .noWords) := rfl

/-- An option that counts no longer waits. -/
theorem pending_of_settle {progress settled : Progress} (h : progress.settle = .ok settled) :
    settled.pending = none := by
  obtain ⟨values, pending⟩ := progress
  rcases pending with _ | ⟨parameter, _ | value⟩
  · cases h; rfl
  · cases h
  · simp only [Progress.settle, Progress.assign] at h
    split at h
    · cases h
    · split at h
      · cases h; rfl
      · cases h

end MockServer.CommandLine
