/-!
Arguments of a command line: a program with commands, each with positional values and options, as data;
how a list of arguments is read against it; and the help texts that follow from it.
-/

namespace NodeEditor.Arguments

inductive ValueRule where
  | anyText
  | path
  | oneOf (names : List String)
deriving DecidableEq, Repr

-- Whether a text may be the value. A path is not empty.
def ValueRule.accepts : ValueRule → String → Bool
  | .anyText, _ => true
  | .path, s => s ≠ ""
  | .oneOf names, s => names.contains s

-- A value that is known by its place. `many` takes all that follow.
structure Positional where
  name : String
  rule : ValueRule
  many : Bool
  help : String
deriving DecidableEq, Repr

structure Flagged where
  long : String
  name : String
  help : String
deriving DecidableEq, Repr

-- A command. All of its positional values are needed, none of its options is.
structure CommandSpec where
  name : String
  about : String
  positionals : List Positional
  options : List Flagged
deriving DecidableEq, Repr

-- A program. Its options may stand before and after the command.
structure Program where
  name : String
  version : String
  about : String
  options : List Flagged
  commands : List CommandSpec
deriving DecidableEq, Repr

-- Why a command line names nothing to run. Asking for help or the version is one reason.
inductive UsageError where
  | help (text : String)
  | version (text : String)
  | helpWithoutArguments
  | missingCommand
  | unknownCommand
  | unknownArgument
  | invalidValue
  | missingArgument
  | repeatedOption
  | unneededValue
deriving DecidableEq, Repr

-- A line of a help text: a name and what it is.
abbrev HelpLine := String × String

def aligned (lines : List HelpLine) : List String :=
  let width := (lines.map (·.1.toList.length)).foldl max 0
  lines.map fun (name, text) =>
    "  " ++ name ++ String.ofList (List.replicate (width + 2 - name.toList.length) ' ') ++ text

-- A titled block of a help text, left out when it has no lines.
def block (title : String) (lines : List HelpLine) : List (List String) :=
  if lines.isEmpty then [] else [(title ++ ":") :: aligned lines]

def helpText (about usage : String) (blocks : List (List (List String))) : String :=
  let parts := [[about], ["Usage: " ++ usage]] ++ blocks.flatten
  String.intercalate "\n\n" (parts.map (String.intercalate "\n")) ++ "\n"

def Flagged.helpLine (o : Flagged) : HelpLine :=
  (s!"    --{o.long} <{o.name}>", o.help)

def Positional.usage (p : Positional) : String :=
  s!"<{p.name}>" ++ (if p.many then "..." else "")

def Positional.helpLine (p : Positional) : HelpLine :=
  (p.usage,
    match p.rule with
    | .oneOf names => "[possible values: " ++ String.intercalate ", " names ++ "]"
    | _ => p.help)

def helpOption : HelpLine := ("-h, --help", "Print help")

def sortOptions (options : List Flagged) : List Flagged :=
  options.mergeSort fun a b => a.long ≤ b.long

def Program.commandHelp (p : Program) (c : CommandSpec) : String :=
  helpText c.about
    (String.intercalate " "
      ([p.name, c.name, "[OPTIONS]"] ++ c.positionals.map Positional.usage))
    [block "Arguments" (c.positionals.map Positional.helpLine),
      block "Options" ((sortOptions (p.options ++ c.options)).map Flagged.helpLine ++ [helpOption])]

def helpAbout : String := "Print this message or the help of the given subcommand(s)"

def Program.helpHelp (p : Program) : String :=
  helpText helpAbout (p.name ++ " help [COMMAND]...")
    [block "Arguments" [("[COMMAND]...", "Print help for the subcommand(s)")]]

def Program.help (p : Program) : String :=
  helpText p.about (p.name ++ " [OPTIONS] <COMMAND>")
    [block "Commands" (p.commands.map (fun c => (c.name, c.about)) ++ [("help", helpAbout)]),
      block "Options"
        ((sortOptions p.options).map Flagged.helpLine ++
          [helpOption, ("-V, --version", "Print version")])]

def Program.versionText (p : Program) : String :=
  s!"{p.name} {p.version}\n"

-- What may stand at one level of a command line: before the command, or after it.
structure Level where
  positionals : List Positional
  options : List Flagged
  commands : List String
  help : String
  version : Option String

def Program.outer (p : Program) : Level where
  positionals := []
  options := p.options
  commands := p.commands.map (·.name) ++ ["help"]
  help := p.help
  version := some p.versionText

def Program.inner (p : Program) (c : CommandSpec) : Level where
  positionals := c.positionals
  options := p.options ++ c.options
  commands := []
  help := p.commandHelp c
  version := none

inductive Slot where
  | option (o : Flagged)
  | positional (p : Positional)
deriving DecidableEq, Repr

def Slot.key : Slot → String
  | .option o => "--" ++ o.long
  | .positional p => p.name

-- What the argument before asks of the next one: nothing, a value, or more of the same.
inductive Expecting where
  | nothing
  | value
  | more
deriving DecidableEq, Repr

-- What was read so far. The values of `pending` are checked when something else comes.
structure Progress where
  given : List (String × List String)
  pending : Option (Slot × List String)
  place : Nat
  trailing : Bool
  expecting : Expecting
deriving DecidableEq, Repr

namespace Progress

def start : Progress :=
  { given := [], pending := none, place := 0, trailing := false, expecting := .nothing }

-- Takes the values of a slot: an option has one and is given once.
def take (r : Progress) (slot : Slot) (values : List String) : Except UsageError Progress :=
  match slot with
  | .option _ =>
    match values with
    | [] => .error .invalidValue
    | v :: _ =>
      if (r.given.lookup slot.key).isSome then .error .repeatedOption
      else if ValueRule.path.accepts v then .ok { r with given := (slot.key, [v]) :: r.given }
      else .error .invalidValue
  | .positional p =>
    if values.all p.rule.accepts then
      let before := (r.given.lookup slot.key).getD []
      .ok { r with given := (slot.key, before ++ values) :: r.given }
    else .error .invalidValue

def settle (r : Progress) : Except UsageError Progress :=
  match r.pending with
  | none => .ok r
  | some (slot, values) => take { r with pending := none } slot values

-- The name and the value behind `=` of a long option.
def splitLong (cs : List Char) : String × Option String :=
  match cs.dropWhile (· ≠ '=') with
  | [] => (String.ofList cs, none)
  | _ :: value => (String.ofList (cs.takeWhile (· ≠ '=')), some (String.ofList value))

-- An argument that ends the reading: it asks for a text.
def asks (r : Progress) (value : Option String) (answer : UsageError) : Except UsageError Progress :=
  match value with
  | some _ => .error .unneededValue
  | none => do
    let _ ← r.settle
    .error answer

def long (l : Level) (r : Progress) (cs : List Char) : Except UsageError Progress :=
  let (name, value) := splitLong cs
  match l.options.find? (·.long = name) with
  | some o => do
    let r ← r.settle
    match value with
    | some v =>
      let r ← r.take (.option o) [v]
      .ok { r with expecting := .nothing }
    | none => .ok { r with pending := some (.option o, []), expecting := .value }
  | none =>
    if name = "help" then r.asks value (.help l.help)
    else
      match l.version with
      | some text =>
        if name = "version" then r.asks value (.version text) else .error .unknownArgument
      | none => .error .unknownArgument

def short (l : Level) (r : Progress) (c : Char) : Except UsageError Progress :=
  if c = 'h' then r.asks none (.help l.help)
  else
    match l.version with
    | some text => if c = 'V' then r.asks none (.version text) else .error .unknownArgument
    | none => .error .unknownArgument

def positional (l : Level) (r : Progress) (a : String) : Except UsageError Progress :=
  match l.positionals[r.place]? with
  | some p =>
    match r.pending with
    | some (.positional q, values) =>
      if q = p ∧ p.many then
        .ok { r with pending := some (.positional p, values ++ [a]), expecting := .more }
      else open_ p
    | _ => open_ p
  | none =>
    if l.commands.isEmpty || (r.trailing && l.commands.contains a) then .error .unknownArgument
    else .error .unknownCommand
where
  open_ (p : Positional) : Except UsageError Progress := do
    let r ← r.settle
    .ok { r with
      pending := some (.positional p, [a])
      place := if p.many then r.place else r.place + 1
      expecting := if p.many then .more else .nothing }

-- The value that the option before asks for, or else a value for its place.
def plain (l : Level) (r : Progress) (a : String) : Except UsageError Progress :=
  match r.expecting, r.pending with
  | .value, some (slot, values) =>
    .ok { r with pending := some (slot, values ++ [a]), expecting := .nothing }
  | _, _ => r.positional l a

-- One argument. Behind `--` all arguments are values for their places.
def step (l : Level) (r : Progress) (a : String) : Except UsageError Progress :=
  if r.trailing then r.positional l a
  else
    match a.toList with
    | ['-', '-'] => .ok { r with trailing := true }
    | '-' :: '-' :: cs => r.long l cs
    | '-' :: c :: _ => r.short l c
    | _ => r.plain l a

def isCommand (l : Level) (r : Progress) (a : String) : Bool :=
  !r.trailing && r.expecting = .nothing && l.commands.contains a

-- Reads arguments up to the command, if there is one, and gives it with the rest.
def read (l : Level) : Progress → List String →
    Except UsageError (Progress × Option (String × List String))
  | r, [] => .ok (r, none)
  | r, a :: rest =>
    if r.isCommand l a then .ok (r, some (a, rest))
    else do
      let r ← r.step l a
      read l r rest

def value? (r : Progress) (key : String) : Option String :=
  (r.given.lookup key).bind List.head?

def values (r : Progress) (key : String) : List String :=
  (r.given.lookup key).getD []

end Progress

def Program.helpFor (p : Program) : List String → UsageError
  | [] => .help p.help
  | ["help"] => .help p.helpHelp
  | name :: rest =>
    match p.commands.find? (·.name = name) with
    | some c => if rest.isEmpty then .help (p.commandHelp c) else .unknownCommand
    | none => .unknownCommand

def Program.readCommand (p : Program) (c : CommandSpec) (args : List String) :
    Except UsageError Progress := do
  let (r, _) ← Progress.read (p.inner c) .start args
  let r ← r.settle
  if c.positionals.all fun q => (r.given.lookup q.name).isSome then .ok r
  else .error .missingArgument

-- Reads a command line: the command, and what was given to it. An option of the program that is
-- given twice counts as given after the command.
def Program.read (p : Program) (args : List String) : Except UsageError (CommandSpec × Progress) := do
  let (outer, found) ← Progress.read p.outer .start args
  match found with
  | none => do
    let outer ← outer.settle
    .error (if outer.given.isEmpty then .helpWithoutArguments else .missingCommand)
  | some (name, rest) =>
    match p.commands.find? (·.name = name) with
    | none => .error (p.helpFor rest)
    | some c => do
      let inner ← p.readCommand c rest
      let outer ← outer.settle
      .ok (c, { inner with given := inner.given ++ outer.given })

end NodeEditor.Arguments
