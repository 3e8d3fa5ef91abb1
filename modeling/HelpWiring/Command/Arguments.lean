import HelpWiring.Batch

/-!
# The Command Line

The program has two commands, `run` and `dedupe`, each with options after it. An
option's value follows it as the next argument or, behind an equals sign, in the
same one. In the first form a value must not look like an option itself. Values
are never empty, and an option is given once, except the one that selects
fragments, which adds up.

Arguments are read into settings one after the other, and the settings are then
put together. Whatever does not fit makes the whole line unusable; what exactly
was wrong is not kept.

A line can also ask for the version, and for help: on the program, on a command,
and on the command `help` itself. Behind a command the first argument that asks
for help ends the reading. What is in front of it must be in order by itself,
and what is behind it is not looked at, nor is the environment. The words of
help are not part of the library.

## Main definitions

* `Setting`: One option with its value.
* `settings?`: The options of a line.
* `Options.ofSettings?`: The options put together.
* `Topic`: What help is about.
* `Request`: What a line asks for.
* `Request.ofArguments?`: A line, with what the environment says about the root.
-/

namespace HelpWiring

/-- One option with its value. -/
inductive Setting
  | root (path : Text)
  | catalog (path : Text)
  | json
  | only (kinds : List Kind)
  deriving DecidableEq

/-- An option with a value, named as on the line. -/
def Setting.ofValue? (name value : Text) : Option Setting :=
  if value = [] then none
  else if name = "--root".toList then some (.root value)
  else if name = "--catalog".toList then some (.catalog value)
  else if name = "--only".toList then ((value.cut ',').mapM Kind.ofName?).map .only
  else none

/-- An argument up to its first equals sign, and what is behind that. -/
def splitArgument (arg : Text) : Text × Option Text :=
  match arg.dropWhile (· != '=') with
  | [] => (arg, none)
  | _ :: value => (arg.takeWhile (· != '='), some value)

/-- Whether an argument cannot be the value of the option before it. -/
def looksLikeOption (arg : Text) : Bool := ['-'].isPrefixOf arg && arg != ['-']

/-- The options of a line. Two dashes may end it. -/
def settings? : List Text → Option (List Setting)
  | [] => some []
  | arg :: rest =>
    -- nothing may follow, since no command takes arguments of its own
    if arg = "--".toList then (if rest = [] then some [] else none)
    else match splitArgument arg with
      | (name, some value) => do
        let s ← Setting.ofValue? name value
        return s :: (← settings? rest)
      | (name, none) =>
        if name = "--json".toList then (settings? rest).map (.json :: ·)
        else match rest with
          | [] => none
          | value :: more =>
            if looksLikeOption value then none
            else do
              let s ← Setting.ofValue? name value
              return s :: (← settings? more)

/-- The options put together. -/
structure Options where
  root : Option Text
  catalog : Option Text
  json : Bool
  only : List Kind
  deriving DecidableEq

namespace Options

/-- No option at all. -/
def unset : Options := ⟨none, none, false, []⟩

/-- One more option, unless it was given before. -/
def add? (o : Options) : Setting → Option Options
  | .root path => if o.root.isSome then none else some { o with root := some path }
  | .catalog path => if o.catalog.isSome then none else some { o with catalog := some path }
  | .json => if o.json then none else some { o with json := true }
  | .only kinds => some { o with only := o.only ++ kinds }

/-- Options put together. -/
def ofSettings? (settings : List Setting) : Option Options := settings.foldlM add? unset

/-- The fragments that are wanted. Without a selection it is all of them. -/
def wanted (o : Options) : Selection := if o.only = [] then .all else .ofKinds o.only

/-- The root: from the line, else from the environment, where it must not be
    empty, else the usual one. -/
def rootWith? (o : Options) (environment : Option Text) : Option Text :=
  match o.root, environment with
  | some path, _ => some path
  | none, some [] => none
  | none, some path => some path
  | none, none => some standardRoot

end Options

/-- The options behind a command. Only the command that puts fragments in takes a
    selection of them. -/
def Options.ofArguments? (mode : Mode) (args : List Text) : Option Options := do
  let o ← Options.ofSettings? (← settings? args)
  if mode = .clean ∧ o.only ≠ [] then none else return o

/-- A run that a line asks for. -/
structure Job where
  mode : Mode
  root : Text
  catalogPath : Option Text
  json : Bool
  wanted : Selection
  deriving DecidableEq

/-- The run that the arguments after a command ask for. -/
def Job.ofArguments? (mode : Mode) (args : List Text) (environment : Option Text) :
    Option Job := do
  let o ← Options.ofArguments? mode args
  let root ← o.rootWith? environment
  return ⟨mode, root, o.catalog, o.json, o.wanted⟩

/-- The word for a command. -/
def Mode.word : Mode → String
  | wire => "run"
  | clean => "dedupe"

/-- The command with a word. -/
def Mode.ofWord? (arg : Text) : Option Mode :=
  [wire, clean].find? fun mode => mode.word.toList == arg

/-- What help is about. -/
inductive Topic
  | program
  | command (mode : Mode)
  /-- The command that gives help. -/
  | help
  deriving DecidableEq

/-- The topic that the arguments after the command for help name. -/
def Topic.ofArguments? : List Text → Option Topic
  | [] => some program
  | [arg] => if arg = "help".toList then some help else (Mode.ofWord? arg).map command
  | _ => none

/-- The words of help on each topic, short or long. -/
abbrev Manual := Topic → Bool → Text

/-- What a line asks for. -/
inductive Request
  | version
  | help (topic : Topic) (long : Bool)
  | work (job : Job)
  deriving DecidableEq

/-- Whether an argument asks for the version. -/
def asksVersion (arg : Text) : Bool := arg == "--version".toList || "-V".toList.isPrefixOf arg

/-- Whether an argument asks for help, and then whether for long one. -/
def asksHelp? (arg : Text) : Option Bool :=
  if arg = "--help".toList then some true
  else if "-h".toList.isPrefixOf arg then some false
  else none

/-- The arguments in front of the first one that asks for help, and how that asks. -/
def helpIn? : List Text → Option (List Text × Bool)
  | [] => none
  | arg :: rest =>
    match asksHelp? arg with
    | some long => some ([], long)
    | none => (helpIn? rest).map fun (front, long) => (arg :: front, long)

/-- What the arguments after a command ask for. Behind two dashes nothing asks for help. -/
def Request.ofOptions? (mode : Mode) (args : List Text) (environment : Option Text) :
    Option Request :=
  match helpIn? args with
  | none => (Job.ofArguments? mode args environment).map .work
  | some (front, long) =>
    if front.contains "--".toList then none
    else (Options.ofArguments? mode front).map fun _ => .help (.command mode) long

/-- What a line asks for, given the root that the environment names. -/
def Request.ofArguments? (args : List Text) (environment : Option Text) : Option Request :=
  match args with
  | [] => none
  | arg :: rest =>
    if asksVersion arg then some .version
    else match asksHelp? arg with
      | some long => some (.help .program long)
      | none =>
        if arg = "help".toList then (Topic.ofArguments? rest).map (.help · true)
        else match Mode.ofWord? arg with
          | some mode => ofOptions? mode rest environment
          | none => none

end HelpWiring
