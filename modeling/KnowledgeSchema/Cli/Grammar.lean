/-!
# Command lines

What a command takes on its command line, and how the arguments are read. A command is either an
action with operands or a group of further commands, each of them with options. An option belongs to
the command that was named last before it, and of an option that several of them have, the last one
given counts.
-/

namespace KnowledgeSchema.Cli

/-- An option under a long name, and under a letter if it has one. -/
structure OptionForm where
  name : String
  letter : Option Char := none
  takesValue : Bool := true
  isRepeatable : Bool := false
  accepts : String → Bool := fun _ => true

structure OperandForm where
  accepts : String → Bool := fun _ => true

inductive Grammar where
  | action (options : List OptionForm) (operands : List OperandForm)
  | group (options : List OptionForm) (commands : List (String × Grammar))

def Grammar.options : Grammar → List OptionForm
  | action options _ => options
  | group options _ => options

/-- Why arguments name no command to carry out. -/
inductive Refusal where
  | usage
  /-- Help was asked for, about the command under a path of names. -/
  | help (path : List String)
  | version

/-- What arguments said. -/
structure Arguments where
  /-- The names of commands, from the outermost on. -/
  path : List String := []
  /-- Options with their values, the last one first. -/
  options : List (String × String) := []
  operands : List String := []

namespace Arguments

def has (arguments : Arguments) (name : String) : Bool :=
  (arguments.options.lookup name).isSome

def value? (arguments : Arguments) (name : String) : Option String :=
  arguments.options.lookup name

/-- The values of an option, in the order they were given. -/
def values (arguments : Arguments) (name : String) : List String :=
  (arguments.options.reverse.filter (·.1 == name)).map (·.2)

end Arguments

/-! ## Reading -/

/-- The place that reading has reached. -/
structure Reading where
  grammar : Grammar
  /-- The options given to the command that was named last. -/
  given : List String := []
  /-- An option that the next argument is the value of. -/
  waiting : Option OptionForm := none
  /-- Whether what follows are operands only. -/
  escaped : Bool := false
  read : Arguments := {}

namespace Reading

/-- Adds an option, which can be given once unless it is repeatable. -/
def give (reading : Reading) (option : OptionForm) (value : String) : Except Refusal Reading :=
  if reading.given.contains option.name && !option.isRepeatable then .error .usage
  else if option.accepts value then
    .ok { reading with
      given := option.name :: reading.given
      waiting := none
      read := { reading.read with options := (option.name, value) :: reading.read.options } }
  else .error .usage

/-- An option with the value that came with it, if one did. -/
def takeOption (reading : Reading) (option : OptionForm) (value : Option String) :
    Except Refusal Reading :=
  if option.takesValue then
    match value with
    | some value => reading.give option value
    | none => .ok { reading with waiting := some option }
  else if value.isSome then .error .usage
  else reading.give option ""

def isOutermost (reading : Reading) : Bool :=
  reading.read.path.isEmpty

/-- An argument after two dashes: a name, and a value after a sign if there is one. -/
def takeLong (reading : Reading) (body : List Char) : Except Refusal Reading :=
  let name := String.ofList (body.takeWhile (· != '='))
  let value := match body.dropWhile (· != '=') with
    | [] => none
    | _ :: value => some (String.ofList value)
  if reading.waiting.isSome then .error .usage
  else
    match reading.grammar.options.find? (·.name == name) with
    | some option => reading.takeOption option value
    | none =>
      if value.isSome then .error .usage
      else if name == "help" then .error (.help reading.read.path)
      else if name == "version" && reading.isOutermost then .error .version
      else .error .usage

/-- An argument after one dash: letters of options, and a value right after the last of them if
there is one. -/
def takeLetters : List Char → Reading → Except Refusal Reading
  | [], reading => .ok reading
  | letter :: rest, reading =>
    if reading.waiting.isSome then .error .usage
    else
      match reading.grammar.options.find? (·.letter == some letter) with
      | some option =>
        if option.takesValue then
          match rest with
          | [] => reading.takeOption option none
          | '=' :: value => reading.takeOption option (some (String.ofList value))
          | value => reading.takeOption option (some (String.ofList value))
        else do takeLetters rest (← reading.takeOption option none)
      | none =>
        if letter == 'h' then .error (.help reading.read.path)
        else if letter == 'V' && reading.isOutermost then .error .version
        else .error .usage

def takeOperand (reading : Reading) (argument : String) : Except Refusal Reading :=
  match reading.grammar with
  | .group _ _ => .error .usage
  | .action _ forms =>
    match forms[reading.read.operands.length]? with
    | none => .error .usage
    | some form =>
      if form.accepts argument then
        .ok { reading with
          read := { reading.read with operands := reading.read.operands ++ [argument] } }
      else .error .usage

/-- The command of a name, where one may stand. -/
def command? (reading : Reading) (argument : String) : Option Grammar :=
  match reading.grammar with
  | .group _ commands => commands.lookup argument
  | .action _ _ => none

/-- An argument that is no option. -/
def takePlain (reading : Reading) (argument : String) : Except Refusal Reading :=
  match reading.waiting with
  | some option => reading.give option argument
  | none =>
    match reading.command? argument with
    | some grammar =>
      .ok { reading with
        grammar, given := []
        read := { reading.read with path := reading.read.path ++ [argument] } }
    | none => reading.takeOperand argument

def take (reading : Reading) (argument : String) : Except Refusal Reading :=
  if reading.escaped then
    if reading.waiting.isSome then .error .usage else reading.takeOperand argument
  else
    match argument.toList with
    | ['-', '-'] => .ok { reading with escaped := true }
    | '-' :: '-' :: body => reading.takeLong body
    | '-' :: letter :: rest => takeLetters (letter :: rest) reading
    | _ => reading.takePlain argument

/-- What was read, if nothing is missing. -/
def finish (reading : Reading) : Except Refusal Arguments :=
  if reading.waiting.isSome then .error .usage
  else
    match reading.grammar with
    | .group _ _ => .error .usage
    | .action _ forms =>
      if reading.read.operands.length = forms.length then .ok reading.read else .error .usage

/-- The path of names that help is asked for. -/
def helpPath (grammar : Grammar) (path : List String) : List String → Except Refusal Arguments
  | [] => .error (.help path)
  | name :: rest =>
    match ({ grammar : Reading }).command? name with
    | some grammar => helpPath grammar (path ++ [name]) rest
    | none => .error .usage

/-- Whether an argument is the command of every group that asks for help. -/
def asksHelp (reading : Reading) (argument : String) : Bool :=
  match reading.grammar with
  | .group _ _ => argument == "help" && reading.waiting.isNone && !reading.escaped
  | .action _ _ => false

def takeAll : List String → Reading → Except Refusal Arguments
  | [], reading => reading.finish
  | argument :: rest, reading =>
    if reading.asksHelp argument then helpPath reading.grammar reading.read.path rest
    else do takeAll rest (← reading.take argument)

end Reading

/-- Reads the arguments of a command. -/
def Grammar.read (grammar : Grammar) (arguments : List String) : Except Refusal Arguments :=
  Reading.takeAll arguments { grammar }

end KnowledgeSchema.Cli
