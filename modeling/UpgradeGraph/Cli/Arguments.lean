import UpgradeGraph.Text

/-!
# Command lines

A command line is a row of options and then the name of a command:

    dependency-miner -e npm [-c FILE] [--db FILE] [-w N] [--max-depth N] COMMAND

An option's value is attached to it or is the next argument. Such a value is only taken
note of at first, and judged when the next option or the end is reached; so a request
for help that comes in between is heard. `Arguments.read` goes from left to right, and
what stops it first decides: a request for help, a request for the version, or an error.
-/

namespace UpgradeGraph.Cli

/-- What is to be run. -/
inductive Command where
  | crawl
  | resolve
  | chain
  | target
  /-- All of these, in this order. -/
  | all
deriving DecidableEq, Repr

namespace Command

/-- The name of a command. -/
def label : Command → Text
  | crawl => "crawl"
  | resolve => "resolve"
  | chain => "chain"
  | target => "target"
  | all => "all"

/-- All commands. -/
def list : List Command := [crawl, resolve, chain, target, all]

/-- The command with a name. -/
def parse? (name : Text) : Option Command := list.find? (·.label = name)

end Command

/-- The options that take a value. -/
inductive Setting where
  | ecosystem
  | config
  | db
  | workers
  | maxDepth
deriving DecidableEq, Repr

namespace Setting

/-- All options that take a value. -/
def all : List Setting := [ecosystem, config, db, workers, maxDepth]

/-- The long name of an option. -/
def long : Setting → Text
  | ecosystem => "ecosystem"
  | config => "config"
  | db => "db"
  | workers => "workers"
  | maxDepth => "max-depth"

/-- The letter of an option, if it has one. -/
def short? : Setting → Option Char
  | ecosystem => some 'e'
  | config => some 'c'
  | workers => some 'w'
  | db => none
  | maxDepth => none

end Setting

/-- Why no command is run. -/
inductive Stop where
  | help
  | version
  /-- The command line makes no sense. -/
  | usage
deriving DecidableEq, Repr

/-- The options of a command line, and the one whose value has not been judged yet. -/
structure Arguments where
  ecosystem : Option Text := none
  config : Option Text := none
  db : Option Text := none
  workers : Option Nat := none
  maxDepth : Option Nat := none
  /-- An option, and its value if it has been seen. -/
  pending : Option (Setting × Option Text) := none
deriving DecidableEq, Repr

/-- The value of an option that may be given once. -/
def once {α : Type} (old new : Option α) : Except Stop (Option α) :=
  match old, new with
  | none, some value => .ok (some value)
  | _, _ => .error .usage

/-- A path; it may not be empty. -/
def path? (s : Text) : Option Text := if s.isEmpty then none else some s

/-- A whole number of 32 bits with at most one sign; a negative zero is a zero. -/
def depth? (s : Text) : Option Nat :=
  match s with
  | '-' :: digits => if Text.isNumeral digits && Text.numeralValue digits = 0 then some 0 else none
  | _ => Text.unsigned? (Nat.pow 2 32) s

namespace Arguments

/-- Judges the value of an option and enters it. -/
def enter (a : Arguments) (setting : Setting) (value : Text) : Except Stop Arguments :=
  match setting with
  | .ecosystem => return { a with ecosystem := ← once a.ecosystem (some value) }
  | .config => return { a with config := ← once a.config (path? value) }
  | .db => return { a with db := ← once a.db (path? value) }
  | .workers => return { a with workers := ← once a.workers (Text.unsigned? (Nat.pow 2 64) value) }
  | .maxDepth => return { a with maxDepth := ← once a.maxDepth (depth? value) }

/-- Enters the option that is pending. -/
def settle (a : Arguments) : Except Stop Arguments :=
  match a.pending with
  | none => .ok a
  | some (_, none) => .error .usage
  | some (setting, some value) => enter { a with pending := none } setting value

/-- Meets an option, with or without a value attached. -/
def meet (a : Arguments) (setting : Setting) (attached : Option Text) : Except Stop Arguments := do
  let a ← a.settle
  match attached with
  | some value => a.enter setting value
  | none => return { a with pending := some (setting, none) }

/-- Stops, once the option that is pending has been found in order. -/
def stop {α : Type} (a : Arguments) (s : Stop) : Except Stop α := do
  let _ ← a.settle
  throw s

/-- A name and what is attached to it by an equals sign. -/
def splitAttached (s : Text) : Text × Option Text :=
  let name := s.takeWhile (· ≠ '=')
  (name, (s.drop name.length).tail? )

/-- Reads an option by its long name. -/
def readLong (a : Arguments) (s : Text) : Except Stop Arguments :=
  let (name, attached) := splitAttached s
  match Setting.all.find? (·.long = name), attached with
  | some setting, attached => a.meet setting attached
  | none, some _ => .error .usage
  | none, none =>
    if name = "help" then a.stop .help
    else if name = "version" then a.stop .version
    else .error .usage

/-- The value that follows the letter of an option, an equals sign before it aside. -/
def attachedValue? (s : Text) : Option Text :=
  match s with
  | [] => none
  | '=' :: value => some value
  | _ => some s

/-- Reads an option by its letter. -/
def readShort (a : Arguments) (letter : Char) (rest : Text) : Except Stop Arguments :=
  match Setting.all.find? (·.short? = some letter) with
  | some setting => a.meet setting (attachedValue? rest)
  | none =>
    if letter = 'h' then a.stop .help
    else if letter = 'V' then a.stop .version
    else .error .usage

/-- The kinds of arguments. -/
inductive Shape where
  /-- Two hyphens: whatever follows is no option. -/
  | escape
  | long (text : Text)
  | short (letter : Char) (rest : Text)
  | word
deriving DecidableEq, Repr

/-- The kind of an argument. A hyphen alone is a word. -/
def shape : Text → Shape
  | ['-', '-'] => .escape
  | '-' :: '-' :: text => .long text
  | '-' :: letter :: rest => .short letter rest
  | _ => .word

/-- What the arguments after the name of a command ask for: nothing but help can be. -/
def readCommand : List Text → Except Stop Unit
  | [] => .ok ()
  | argument :: rest =>
    match shape argument with
    | .escape => if rest.isEmpty then .ok () else .error .usage
    | .long text => .error (if text = "help" then .help else .usage)
    | .short letter _ => .error (if letter = 'h' then .help else .usage)
    | .word => .error .usage

/-- What the arguments after the word `help` ask for: help on at most one command. -/
def readHelp : List Text → Stop
  | [] => .help
  | [name] => if name = "help" || (Command.parse? name).isSome then .help else .usage
  | _ => .usage

/-- Reads a command line from left to right. -/
def read (a : Arguments) : List Text → Except Stop (Arguments × Command)
  | [] => .error .usage
  | argument :: rest =>
    match shape argument, a.pending with
    -- Behind two hyphens there are no commands any more, and a command has to come.
    | .escape, _ => .error .usage
    | .long text, _ => do read (← a.readLong text) rest
    | .short letter text, _ => do read (← a.readShort letter text) rest
    | .word, some (setting, none) => read { a with pending := some (setting, some argument) } rest
    | .word, _ =>
      if argument = "help" then .error (readHelp rest)
      else
        match Command.parse? argument with
        | none => .error .usage
        | some command => do
          -- What follows the command is judged before the option that is still pending.
          readCommand rest
          return (← a.settle, command)

end Arguments

/-- A command line that can be run. -/
structure Request where
  ecosystem : Text
  config : Option Text
  db : Option Text
  workers : Option Nat
  maxDepth : Option Nat
  command : Command
deriving DecidableEq, Repr

/-- Reads a command line. An ecosystem has to be named. -/
def Request.parse (arguments : List Text) : Except Stop Request := do
  let (a, command) ← Arguments.read {} arguments
  match a.ecosystem with
  | none => throw .usage
  | some ecosystem =>
    return { ecosystem, config := a.config, db := a.db, workers := a.workers,
             maxDepth := a.maxDepth, command }

end UpgradeGraph.Cli
