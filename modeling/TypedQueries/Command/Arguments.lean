/-!
The arguments of the command line: options, then a command with its own options.
-/

namespace TypedQueries

inductive InspectTarget where
  | schema | queries
  deriving DecidableEq, Repr

inductive Command where
  | generate (dryRun : Bool)
  | check
  | inspect (target : InspectTarget)
  deriving DecidableEq, Repr

structure Options where
  config? : Option String
  verbose : Bool
  deriving DecidableEq, Repr

/-- What arguments ask for; `misuse` if they make no sense. -/
inductive Request where
  | run (options : Options) (command : Command)
  | version
  | help
  | misuse
  deriving DecidableEq, Repr

namespace Options

/-- Names the configuration file; it is named once, and not by an empty text. -/
def withConfig (options : Options) (value : String) : Option Options :=
  if options.config?.isSome || value == "" then none else some { options with config? := some value }

def withVerbose (options : Options) : Option Options :=
  if options.verbose then none else some { options with verbose := true }

end Options

namespace Request

/-- Whether an argument is written like an option. A single dash is not. -/
def isOption (arg : String) : Bool :=
  match arg.toList with
  | '-' :: _ :: _ => true
  | _ => false

def ofGenerate (options : Options) (dryRun : Bool) : List String → Request
  | [] => .run options (.generate dryRun)
  | ["--"] => .run options (.generate dryRun)
  | "--dry-run" :: args => if dryRun then .misuse else ofGenerate options true args
  | "--help" :: _ => .help
  | "-h" :: _ => .help
  | _ => .misuse

def ofCheck (options : Options) : List String → Request
  | [] => .run options .check
  | ["--"] => .run options .check
  | "--help" :: _ => .help
  | "-h" :: _ => .help
  | _ => .misuse

def inspectTarget? : String → Option InspectTarget
  | "schema" => some .schema
  | "queries" => some .queries
  | _ => none

/-- A target is given once; two dashes end the options before or behind it. -/
def ofInspect (options : Options) (target? : Option InspectTarget) : List String → Request
  | [] => finish target?
  | "--help" :: _ => .help
  | "-h" :: _ => .help
  | ["--"] => finish target?
  | ["--", name] => if target?.isSome then .misuse else finish (inspectTarget? name)
  | name :: args =>
    match target?, inspectTarget? name with
    | none, some target => ofInspect options (some target) args
    | _, _ => .misuse
where
  finish : Option InspectTarget → Request
    | some target => .run options (.inspect target)
    | none => .misuse

def commandNames : List String := ["generate", "check", "inspect", "help"]

/-- What a command and its arguments ask for. -/
def ofCommand (options : Options) (name : String) (args : List String) : Request :=
  match name, args with
  | "generate", args => ofGenerate options false args
  | "check", args => ofCheck options args
  | "inspect", args => ofInspect options none args
  | "help", [] => .help
  | "help", [topic] => if commandNames.contains topic then .help else .misuse
  | _, _ => .misuse

/-- What a group of one-letter options asks for. -/
inductive Group where
  | options (o : Options)
  /-- The value of the last option is the next argument. -/
  | value (o : Options)
  | request (r : Request)
  deriving DecidableEq, Repr

def ofGroup (options : Options) : List Char → Group
  | [] => .options options
  | c :: cs =>
    if c = 'v' then
      match options.withVerbose with
      | some options => ofGroup options cs
      | none => .request .misuse
    else if c = 'V' then .request .version
    else if c = 'h' then .request .help
    else if c = 'c' then
      match cs with
      | [] => .value options
      | '=' :: value => configured (String.ofList value)
      | value => configured (String.ofList value)
    else .request .misuse
where
  configured (value : String) : Group :=
    match options.withConfig value with
    | some options => .options options
    | none => .request .misuse

/-- An argument that starts with two dashes, as its name and the value behind an equals sign. -/
def longOption? (arg : String) : Option (String × Option String) :=
  match arg.toList with
  | '-' :: '-' :: cs =>
    let name := String.ofList (cs.takeWhile (· != '='))
    match cs.dropWhile (· != '=') with
    | [] => some (name, none)
    | _ :: value => some (name, some (String.ofList value))
  | _ => none

/-- What arguments ask for, given the options before them. -/
def ofArgs (options : Options) : List String → Request
  | [] => .misuse
  | arg :: args =>
    match longOption? arg with
    | some ("config", some value) =>
      match options.withConfig value with
      | some options => ofArgs options args
      | none => .misuse
    | some ("config", none) => withValue options args
    | some ("verbose", none) =>
      match options.withVerbose with
      | some options => ofArgs options args
      | none => .misuse
    | some ("version", none) => .version
    | some ("help", none) => .help
    | some _ => .misuse
    | none =>
      if isOption arg then
        match ofGroup options (arg.toList.drop 1) with
        | .options options => ofArgs options args
        | .value options => withValue options args
        | .request r => r
      else ofCommand options arg args
where
  withValue (options : Options) : List String → Request
    | [] => .misuse
    | value :: args =>
      if isOption value then .misuse
      else
        match options.withConfig value with
        | some options => ofArgs options args
        | none => .misuse

end Request

/-- What the arguments of the command line ask for. -/
def parseArguments (args : List String) : Request := Request.ofArgs ⟨none, false⟩ args

end TypedQueries
