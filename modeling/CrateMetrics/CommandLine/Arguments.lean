/-
The arguments of the program. They are read from left to right, and the first that asks
for help or the version, or is wrong, decides. An option that takes a value may have it
attached or as the next argument; in the latter case a repetition of the option is noticed
when the next option is read, or at the end.
-/

namespace CrateMetrics.CommandLine

structure Options where
  output : Option String := none
  config : Option String := none
  parallel : Bool := false
  failOnViolation : Bool := false
  deriving DecidableEq, Repr

inductive HelpTopic where
  | program
  | init
  | help
  deriving DecidableEq, Repr

inductive Command where
  | measure (options : Options)
  | init (path : Option String)
  | help (topic : HelpTopic)
  | version
  deriving DecidableEq, Repr

inductive Setting where
  | output
  | config
  deriving DecidableEq, Repr

/-- The options read so far, and the one that waits for its value or to be set to it. -/
structure Reader where
  options : Options := {}
  waiting : Option (Setting × Option String) := none

abbrev Progress := Reader ⊕ Command

namespace Reader

def assign (reader : Reader) (setting : Setting) (value : String) : Option Reader :=
  let options := reader.options
  match setting with
  | .output =>
      if options.output.isSome then none
      else some { reader with options := { options with output := some value } }
  | .config =>
      if options.config.isSome then none
      else some { reader with options := { options with config := some value } }

/-- Sets the waiting option. One that lacks its value is refused. -/
def settle (reader : Reader) : Option Reader :=
  match reader.waiting with
  | none => some reader
  | some (_, none) => none
  | some (setting, some value) => { reader with waiting := none }.assign setting value

def takeSetting (reader : Reader) (setting : Setting) (attached : Option String) :
    Option Reader := do
  let settled ← reader.settle
  match attached with
  | some value => settled.assign setting value
  | none => return { settled with waiting := some (setting, none) }

def setParallel (reader : Reader) : Option Reader := do
  let settled ← reader.settle
  if settled.options.parallel then none
  else return { settled with options := { settled.options with parallel := true } }

def setFailOnViolation (reader : Reader) : Option Reader := do
  let settled ← reader.settle
  if settled.options.failOnViolation then none
  else return { settled with options := { settled.options with failOnViolation := true } }

/-- Ends with a command that needs no further arguments. -/
def finish (reader : Reader) (command : Command) : Option Progress := do
  let _ ← reader.settle
  return .inr command

end Reader

def attachedValue : List Char → Option String
  | [] => none
  | '=' :: value => some (String.ofList value)
  | value => some (String.ofList value)

def readLetters (reader : Reader) : List Char → Option Progress
  | [] => some (.inl reader)
  | letter :: rest =>
      match letter with
      | 'o' => (reader.takeSetting .output (attachedValue rest)).map .inl
      | 'c' => (reader.takeSetting .config (attachedValue rest)).map .inl
      | 'j' => do readLetters (← reader.setParallel) rest
      | 'h' | '?' => reader.finish (.help .program)
      | 'V' => reader.finish .version
      | _ => none

def splitName (name : List Char) : List Char → String × Option String
  | [] => (String.ofList name.reverse, none)
  | '=' :: value => (String.ofList name.reverse, some (String.ofList value))
  | c :: rest => splitName (c :: name) rest

def readLong (reader : Reader) (text : List Char) : Option Progress :=
  match splitName [] text with
  | ("output", attached) => (reader.takeSetting .output attached).map .inl
  | ("config", attached) => (reader.takeSetting .config attached).map .inl
  | ("parallel", none) => reader.setParallel.map .inl
  | ("fail-on-violation", none) => reader.setFailOnViolation.map .inl
  | ("help", none) => reader.finish (.help .program)
  | ("version", none) => reader.finish .version
  | _ => none

/-- Reads an argument that is no value. -/
def readOption (reader : Reader) (argument : String) : Option Progress :=
  match argument.toList with
  | '-' :: '-' :: c :: rest => readLong reader (c :: rest)
  | '-' :: c :: rest => readLetters reader (c :: rest)
  | _ => none

def isValue (argument : String) : Bool :=
  match argument.toList with
  | '-' :: _ :: _ => false
  | _ => true

/-- The arguments of `init`: at most one path. All that follows two dashes is taken as
positional. -/
def readInit (path : Option String) (onlyValues : Bool) : List String → Option Command
  | [] => some (.init path)
  | argument :: rest =>
      if !onlyValues && argument == "--" then readInit path true rest
      else if !onlyValues && !isValue argument then none
      else
        match path with
        | some _ => none
        | none => readInit (some argument) onlyValues rest

def readHelp : List String → Option Command
  | [] => some (.help .program)
  | ["init"] => some (.help .init)
  | ["help"] => some (.help .help)
  | _ => none

/-- Reads arguments until the command is known; `none` if they are wrong. -/
def readArguments (reader : Reader) : List String → Option Command
  | [] => reader.settle.map (fun settled => .measure settled.options)
  | argument :: rest =>
      match reader.waiting with
      | some (setting, none) =>
          if isValue argument then
            readArguments { reader with waiting := some (setting, some argument) } rest
          else none
      | _ =>
          if argument == "help" then readHelp rest
          else if argument == "init" then do
            let command ← readInit none false rest
            let _ ← reader.settle
            return command
          else if argument == "--" then
            if rest.isEmpty then reader.settle.map (fun settled => .measure settled.options)
            else none
          else
            match readOption reader argument with
            | none => none
            | some (.inr command) => some command
            | some (.inl changed) => readArguments changed rest

/-- The command that arguments ask for; `none` if they are wrong. Called as a subcommand of
another program, the name of the subcommand comes first and is dropped. -/
def Command.ofArguments? : List String → Option Command
  | "measure" :: arguments => readArguments {} arguments
  | arguments => readArguments {} arguments

end CrateMetrics.CommandLine
