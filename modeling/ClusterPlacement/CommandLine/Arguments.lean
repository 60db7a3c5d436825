/-! The arguments of the command line. They are read from left to right: options and flags wherever
they stand, the name of a command, and what the command works on. -/

namespace ClusterPlacement.CommandLine

/-- A command that does one thing and ends. -/
inductive Command where
  | apply (file : String)
  | schedule (policy : String) (dryRun : Bool)
  | status (policy : String)
  | config
deriving DecidableEq

inductive Task where
  /-- Run the controller until stopped. -/
  | serve
  | perform (c : Command)
deriving DecidableEq

structure Invocation where
  configFile : Option String
  dataDir : Option String
  task : Task
deriving DecidableEq

/-- What the arguments ask for. -/
inductive Request where
  | invoke (i : Invocation)
  | version
  | help
  /-- The arguments make no sense. -/
  | misuse
deriving DecidableEq

/-- The options that may stand before or after the name of the command. -/
structure Options where
  configFile : Option String
  dataDir : Option String
deriving DecidableEq

def Options.none : Options := ⟨.none, .none⟩

/-- Options after the command's name go before those in front of it. -/
def Options.orElse (inner outer : Options) : Options :=
  ⟨inner.configFile.or outer.configFile, inner.dataDir.or outer.dataDir⟩

/-- What an argument is, from its form alone. -/
inductive Token where
  /-- `--` -/
  | separator
  /-- `--name` or `--name=value` -/
  | long (name : String) (value : Option String)
  /-- `-letters` -/
  | short (letters : List Char)
  | plain (text : String)

def Token.ofString (text : String) : Token :=
  match text.toList with
  | ['-', '-'] => separator
  | '-' :: '-' :: rest =>
    match rest.span (· ≠ '=') with
    | (name, _ :: value) => long (String.ofList name) (some (String.ofList value))
    | (name, []) => long (String.ofList name) none
  | '-' :: c :: rest => short (c :: rest)
  | _ => plain text

/-- Sets an option. It takes a value that is not empty, and may be given once. -/
def Options.set (name value : String) (o : Options) : Option Options :=
  if value = "" then .none
  else if name = "config" then
    if o.configFile.isSome then .none else some { o with configFile := some value }
  else if name = "data-dir" then
    if o.dataDir.isSome then .none else some { o with dataDir := some value }
  else .none

/-- The value of an option, attached to it or in the next argument, and the arguments after it. An
argument that looks like an option is no value. -/
def optionValue? : Option String → List String → Option (String × List String)
  | some value, rest => some (value, rest)
  | none, next :: rest =>
    match Token.ofString next with
    | .plain value => some (value, rest)
    | _ => none
  | none, [] => none

theorem optionValue?_shorter {attached : Option String} {value : String} {args rest : List String}
    (h : optionValue? attached args = some (value, rest)) : rest.length ≤ args.length := by
  unfold optionValue? at h
  split at h
  case h_1 => simp_all
  case h_2 next rest =>
    split at h
    case h_1 => simp only [Option.some.injEq, Prod.mk.injEq] at h; simp [← h.2]
    case h_2 => simp at h
  case h_3 => simp at h

/-- What a command takes after its name. -/
structure Signature where
  /-- How many operands there are. -/
  count : Nat
  /-- Whether an operand may be the empty text. -/
  allowsEmpty : Bool
  allowsDryRun : Bool

/-- Whether more operands can be taken after `before` others. -/
def Signature.admits (s : Signature) (before : Nat) (operands : List String) : Bool :=
  before + operands.length ≤ s.count && operands.all fun text => s.allowsEmpty || text ≠ ""

/-- What stands after the name of a command. -/
structure Operands where
  options : Options
  plain : List String
  dryRun : Bool

/-- Reads the arguments after a command's name. After a separator everything is an operand. -/
def readOperands (takes : Signature) (found : Operands) : List String → Except Request Operands
  | [] => .ok found
  | arg :: rest =>
    match Token.ofString arg with
    | .separator =>
      if takes.admits found.plain.length rest then .ok { found with plain := found.plain ++ rest }
      else .error .misuse
    | .long "help" none => .error .help
    | .long "dry-run" none =>
      if takes.allowsDryRun && !found.dryRun then
        readOperands takes { found with dryRun := true } rest
      else .error .misuse
    | .long name value =>
      match _ : optionValue? value rest with
      | none => .error .misuse
      | some (value, rest') =>
        match found.options.set name value with
        | none => .error .misuse
        | some options => readOperands takes { found with options } rest'
    | .short ('h' :: _) => .error .help
    | .short _ => .error .misuse
    | .plain text =>
      if takes.admits found.plain.length [text] then
        readOperands takes { found with plain := found.plain ++ [text] } rest
      else .error .misuse
termination_by args => args.length
decreasing_by
  all_goals simp only [List.length_cons]
  · omega
  · have := optionValue?_shorter ‹_›; omega
  · omega

/-- Reads what a command works on, after its name. -/
def readCommand (name : String) (outer : Options) (args : List String) : Except Request Invocation := do
  let operands (takes : Signature) : Except Request Operands := do
    let found ← readOperands takes ⟨.none, [], false⟩ args
    if found.plain.length = takes.count then return found else .error .misuse
  let finish (found : Operands) (task : Task) : Invocation :=
    let options := found.options.orElse outer
    ⟨options.configFile, options.dataDir, task⟩
  match name with
  | "run" => return finish (← operands ⟨0, false, false⟩) .serve
  | "config" => return finish (← operands ⟨0, false, false⟩) (.perform .config)
  | "apply" =>
    let found ← operands ⟨1, false, false⟩
    return finish found (.perform (.apply (found.plain.headD "")))
  | "schedule" =>
    let found ← operands ⟨1, true, true⟩
    return finish found (.perform (.schedule (found.plain.headD "") found.dryRun))
  | "status" =>
    let found ← operands ⟨1, true, false⟩
    return finish found (.perform (.status (found.plain.headD "")))
  | _ => .error .misuse

/-- What follows `help`: at most the name of a command to explain. -/
def readHelp : List String → Request
  | [] => .help
  | [name] =>
    if name ∈ ["run", "apply", "schedule", "status", "config", "help"] then .help else .misuse
  | _ => .misuse

/-- Reads the arguments up to the name of a command. -/
def readArguments (outer : Options) : List String → Except Request Invocation
  | [] => .error .misuse
  | arg :: rest =>
    match Token.ofString arg with
    | .separator => .error .misuse
    | .long "help" none => .error .help
    | .long "version" none => .error .version
    | .long name value =>
      match _ : optionValue? value rest with
      | none => .error .misuse
      | some (value, rest') =>
        match outer.set name value with
        | none => .error .misuse
        | some outer => readArguments outer rest'
    | .short ('h' :: _) => .error .help
    | .short ('V' :: _) => .error .version
    | .short _ => .error .misuse
    | .plain "help" => .error (readHelp rest)
    | .plain name => readCommand name outer rest
termination_by args => args.length
decreasing_by
  simp only [List.length_cons]
  have := optionValue?_shorter ‹_›
  omega

def Request.ofArguments (args : List String) : Request :=
  match readArguments .none args with
  | .ok i => .invoke i
  | .error r => r

end ClusterPlacement.CommandLine
