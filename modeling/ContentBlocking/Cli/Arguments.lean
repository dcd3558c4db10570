import ContentBlocking.AllowList.Kind
import ContentBlocking.Text.Blank

/-!
# Command-line arguments

`Arguments.parse` reads the arguments of the command line.  Options may stand at every level of
subcommands, and where one is given at several levels the innermost counts.
-/

namespace ContentBlocking.Cli

/-- The options of all commands. -/
structure Options where
  /-- A configuration file, which replaces `resources` and `state`. -/
  config : Option String
  resources : Option String
  state : Option String
  /-- A public suffix list. -/
  suffixList : Option String
  deriving DecidableEq, Repr

/-- The options of one level and, where they are not given, those of the level around it. -/
def Options.within (inner outer : Options) : Options :=
  { config := inner.config.or outer.config
    resources := inner.resources.or outer.resources
    state := inner.state.or outer.state
    suffixList := inner.suffixList.or outer.suffixList }

/-- What the program is asked to do. -/
inductive Command
  | compile (force : Bool)
  | info
  | classify (urls : List String)
  | page (url : String) (resources : List String) (popups : Bool)
  | setAllowListed (enabled : Bool) (kind : AllowList.Kind) (url : String)
  | listAllowListed (kind : Option AllowList.Kind)
  deriving DecidableEq, Repr

/-- What the arguments ask for. -/
inductive Arguments
  | run (options : Options) (command : Command)
  /-- The user asks for help. -/
  | help
  /-- The arguments make no sense. -/
  | misuse
  deriving DecidableEq, Repr

/-- How to call the program. -/
def usage : String :=
  "Usage: content-blocking [OPTIONS] COMMAND\n" ++
  "\n" ++
  "Commands:\n" ++
  "  compile [--force]                           compile the missing rule lists\n" ++
  "  info                                        show the store, dates and allow-lists\n" ++
  "  classify URL...                             show the trackers behind URLs\n" ++
  "  page --url URL [--resource URL] [--popups]  simulate the load of a page\n" ++
  "  allowlist add KIND URL                      put the host of a URL on an allow-list\n" ++
  "  allowlist remove KIND URL                   take the host of a URL off an allow-list\n" ++
  "  allowlist list [KIND]                       list the domains of the allow-lists\n" ++
  "\n" ++
  "Options:\n" ++
  "  -c, --config FILE    a configuration, which replaces --resources and --state\n" ++
  "  --resources DIR      the bundled lists and the tracker database [resources]\n" ++
  "  --state DIR          the allow-lists, compiled lists and markers [state]\n" ++
  "  --psl FILE           a public suffix list\n" ++
  "  -h, --help           show this text"

/-- An option of a level. -/
inductive Flag
  | config
  | resources
  | state
  | suffixList
  | help
  | force
  | url
  | resource
  | popups
  deriving DecidableEq, Repr

namespace Flag

/-- The options of every level. -/
def common : List Flag := [config, resources, state, suffixList, help]

/-- The name of an option after two hyphens. -/
def long : Flag → String
  | config => "config"
  | resources => "resources"
  | state => "state"
  | suffixList => "psl"
  | help => "help"
  | force => "force"
  | url => "url"
  | resource => "resource"
  | popups => "popups"

/-- The letter of an option after one hyphen. -/
def short? : Flag → Option Char
  | config => some 'c'
  | help => some 'h'
  | url => some 'u'
  | resource => some 'r'
  | _ => none

/-- Whether an option has a value. -/
def takesValue : Flag → Bool
  | config | resources | state | suffixList | url | resource => true
  | help | force | popups => false

/-- Whether the value of an option may be empty; a path may not. -/
def allowsEmpty : Flag → Bool
  | url | resource => true
  | _ => false

/-- Whether an option may be given several times. -/
def repeats : Flag → Bool
  | resource => true
  | _ => false

end Flag

/-- What was read of the arguments of a level. -/
structure Level where
  /-- The options in the order in which they were given, with their values. -/
  given : List (Flag × String)
  /-- The arguments that are no options. -/
  positional : List String

namespace Level

/-- The level before its first argument. -/
def empty : Level := ⟨[], []⟩

/-- The value of an option. -/
def value? (l : Level) (f : Flag) : Option String := l.given.lookup f

/-- All values of an option. -/
def values (l : Level) (f : Flag) : List String :=
  (l.given.filter fun g => g.1 == f).map Prod.snd

/-- Whether an option is given. -/
def has (l : Level) (f : Flag) : Bool := (l.value? f).isSome

/-- The options of all commands that are given at a level. -/
def options (l : Level) : Options :=
  ⟨l.value? .config, l.value? .resources, l.value? .state, l.value? .suffixList⟩

end Level

/-- What may stand at a level. -/
structure Shape where
  flags : List Flag
  /-- Whether the arguments that are no options may begin like this. -/
  admits : List String → Bool
  /-- Whether the first argument that is no option names a subcommand and ends the level. -/
  branches : Bool

namespace Shape

/-- A level that ends at the name of a subcommand. -/
def branch : Shape := ⟨Flag.common, List.isEmpty, true⟩

/-- A level without subcommands that has some options of its own. -/
def leaf (flags : List Flag) (admits : List String → Bool) : Shape :=
  ⟨Flag.common ++ flags, admits, false⟩

/-- The option of a name. -/
def long? (s : Shape) (name : String) : Option Flag := s.flags.find? fun f => f.long == name

/-- The option of a letter. -/
def short? (s : Shape) (c : Char) : Option Flag := s.flags.find? fun f => f.short? == some c

end Shape

/-- How the reading of a level ends before the arguments do. -/
inductive Stop
  | help
  | misuse

/-- Whether an argument begins with a hyphen and is more than that. -/
def isOption (arg : List Char) : Bool :=
  match arg with
  | '-' :: _ :: _ => true
  | _ => false

/-- The level with one more option, which must not be given twice unless it may repeat. -/
def Level.add (l : Level) (f : Flag) (value : String) : Except Stop Level :=
  if f = .help then .error .help
  else if l.has f && !f.repeats then .error .misuse
  else if value.isEmpty && f.takesValue && !f.allowsEmpty then .error .misuse
  else .ok { l with given := l.given ++ [(f, value)] }

/-- The level with more arguments that are no options. -/
def Level.push (l : Level) (s : Shape) (args : List String) : Except Stop Level :=
  let positional := l.positional ++ args
  if s.admits positional then .ok { l with positional } else .error .misuse

/-- The options of a bundle of letters behind one hyphen; the result tells which option, if any,
still waits for its value in the next argument. -/
def readLetters (s : Shape) (l : Level) : List Char → Except Stop (Level × Option Flag)
  | [] => .ok (l, none)
  | c :: cs =>
    match s.short? c with
    | none => .error .misuse
    | some f =>
      if f.takesValue then
        match cs with
        | [] => .ok (l, some f)
        | '=' :: value => do return (← l.add f (String.ofList value), none)
        | value => do return (← l.add f (String.ofList value), none)
      else do readLetters s (← l.add f "") cs

/-- The option of a name behind two hyphens, with its value if an equals sign gives it one. -/
def readLong (s : Shape) (l : Level) (arg : List Char) : Except Stop (Level × Option Flag) :=
  match s.long? (String.ofList (arg.takeWhile (· != '='))) with
  | none => .error .misuse
  | some f =>
    match arg.dropWhile (· != '=') with
    | _ :: value =>
      if f.takesValue then do return (← l.add f (String.ofList value), none) else .error .misuse
    | [] => if f.takesValue then .ok (l, some f) else do return (← l.add f "", none)

/-- The level of some arguments and, if it branches, what follows from the name of the subcommand
on.  `waiting` is the option that takes the next argument for its value. -/
def readLevel (s : Shape) (l : Level) (waiting : Option Flag) :
    List String → Except Stop (Level × List String)
  | [] => if waiting.isSome then .error .misuse else .ok (l, [])
  | arg :: args =>
    match waiting with
    | some f =>
      if isOption arg.toList then .error .misuse
      else do readLevel s (← l.add f arg) none args
    | none =>
      match arg.toList with
      | ['-', '-'] => do return (← l.push s args, [])
      | '-' :: '-' :: name => do
        let (l, waiting) ← readLong s l name
        readLevel s l waiting args
      | '-' :: c :: letters => do
        let (l, waiting) ← readLetters s l (c :: letters)
        readLevel s l waiting args
      | _ =>
        if s.branches then .ok (l, arg :: args)
        else do readLevel s (← l.push s [arg]) none args

/-- The arguments up to a subcommand, which must follow, and those behind it. -/
def readBranch (args : List String) : Except Stop (Level × String × List String) := do
  match ← readLevel .branch .empty none args with
  | (l, name :: args) => return (l, name, args)
  | (_, []) => throw .misuse

/-- The arguments of a command without subcommands. -/
def readLeaf (flags : List Flag) (admits : List String → Bool) (args : List String) :
    Except Stop Level :=
  Prod.fst <$> readLevel (.leaf flags admits) .empty none args

/-- The kind of allow-list that an argument names. -/
def kind? (text : String) : Option AllowList.Kind := (AllowList.Kind.ofText text).toOption

/-- Whether there are at most `n` arguments, the first of which names a kind of allow-list. -/
def beginsWithKind (n : Nat) (args : List String) : Bool :=
  args.length ≤ n && (args.take 1).all fun a => (kind? a).isSome

/-- The command on the allow-lists with a name and the arguments behind it. -/
def readAllowListCommand (name : String) (args : List String) :
    Except Stop (Options × Command) :=
  match name with
  | "add" => edit true
  | "remove" => edit false
  | "list" => do
    let l ← readLeaf [] (beginsWithKind 1) args
    return (l.options, .listAllowListed (l.positional.head?.bind kind?))
  | _ => .error .misuse
where
  /-- The command that puts a host on an allow-list or takes it off. -/
  edit (enabled : Bool) : Except Stop (Options × Command) := do
    let l ← readLeaf [] (beginsWithKind 2) args
    match l.positional with
    | [kind, url] =>
      match kind? kind with
      | some k => return (l.options, .setAllowListed enabled k url)
      | none => throw .misuse
    | _ => throw .misuse

/-- The names of the commands, with those of their subcommands. -/
def commandNames : List (String × List String) :=
  [("compile", []), ("info", []), ("classify", []), ("page", []),
    ("allowlist", ["add", "remove", "list", "help"]), ("help", [])]

/-- Whether there is help on a command with its subcommand. -/
def hasHelp : List String → Bool
  | [] => true
  | [name] => (commandNames.lookup name).isSome
  | [name, sub] => ((commandNames.lookup name).getD []).contains sub
  | _ => false

/-- How the reading ends when help is asked for on a command. -/
def helpOn (path : List String) : Stop := if hasHelp path then .help else .misuse

/-- The command with a name and the arguments behind it. -/
def readCommand (name : String) (args : List String) : Except Stop (Options × Command) :=
  match name with
  | "compile" => do
    let l ← readLeaf [.force] List.isEmpty args
    return (l.options, .compile (l.has .force))
  | "info" => do
    let l ← readLeaf [] List.isEmpty args
    return (l.options, .info)
  | "classify" => do
    let l ← readLeaf [] (fun _ => true) args
    if l.positional = [] then throw .misuse
    return (l.options, .classify l.positional)
  | "page" => do
    let l ← readLeaf [.url, .resource, .popups] List.isEmpty args
    match l.value? .url with
    | none => throw .misuse
    | some url => return (l.options, .page url (l.values .resource) (l.has .popups))
  | "allowlist" => do
    let (outer, name, args) ← readBranch args
    if name = "help" then throw (helpOn ("allowlist" :: args))
    let (inner, command) ← readAllowListCommand name args
    return (inner.within outer.options, command)
  | "help" => .error (helpOn args)
  | _ => .error .misuse

/-- What the arguments of the command line ask for. -/
def Arguments.parse (args : List String) : Arguments :=
  let parsed : Except Stop (Options × Command) := do
    let (outer, name, args) ← readBranch args
    let (inner, command) ← readCommand name args
    return (inner.within outer.options, command)
  match parsed with
  | .ok (options, command) => .run options command
  | .error .help => .help
  | .error .misuse => .misuse

end ContentBlocking.Cli
