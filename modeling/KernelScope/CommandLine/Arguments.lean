import KernelScope.Address

/-!
# Arguments of the program

The program is given options, then the name of a command, then what the command needs.  An option
that takes a value has it in the next word, behind an equals sign, or, in its short form, right
behind its letter.  A word that begins with a dash is an option unless two dashes stand before it.
Anything that does not fit is refused as a whole, unless the way the program is called is asked for
before the fault is noticed.
-/

set_option autoImplicit false

namespace KernelScope.CommandLine

/-! ## What is asked for -/

/-- A command of the program, with what it is given. -/
inductive Verb where
  | samples
  | run (name : String) (arguments : List String)
  | source (name : String)
  | object (path : String)
  | list (path : Option String)
  | services
  | driver (name : String)
  /-- the symbol nearest to an address, which has yet to be read -/
  | symbol (address : String)
  | shell
  deriving DecidableEq, Repr

/-- The options, of which each may be given once. -/
structure Options where
  snapshot : Option String
  process : Option UInt32
  profile : Option String
  pause : Bool
  deriving DecidableEq, Repr

/-- Options and a command. -/
structure Invocation where
  options : Options
  verb : Verb
  deriving DecidableEq, Repr

/-- What the arguments amount to. -/
inductive Request where
  | invoke (invocation : Invocation)
  /-- show which version this is -/
  | version
  /-- show how the program is called -/
  | help
  /-- the arguments do not fit together -/
  | misuse
  deriving DecidableEq, Repr

/-! ## Numbers of processes -/

/-- The number that decimal digits behind an optional sign spell. -/
def signedNumber? (cs : List Char) : Option Int :=
  let digits? (digits : List Char) : Option Nat :=
    if digits.isEmpty || !digits.all Char.isDigit then none
    else some (Nat.ofDigitChars 10 digits 0)
  match cs with
  | '+' :: digits => (digits? digits).map Int.ofNat
  | '-' :: digits => (digits? digits).map fun n => -(n : Int)
  | digits => (digits? digits).map Int.ofNat

/-- A number that a process can have. -/
def processNumber? (text : String) : Option UInt32 :=
  (signedNumber? text.toList).bind fun n =>
    if 0 ≤ n ∧ n < 0x100000000 then some (UInt32.ofNat n.toNat) else none

/-! ## Options -/

/-- The options that take a value. -/
inductive Setting where
  | snapshot
  | process
  | profile
  deriving DecidableEq, Repr

namespace Options

/-- No option given. -/
def none : Options := ⟨.none, .none, .none, false⟩

/-- The options after one more value; none may be given twice or be empty. -/
def set (options : Options) (value : String) : Setting → Option Options
  | .snapshot =>
    if options.snapshot.isSome ∨ value = "" then .none
    else some { options with snapshot := some value }
  | .process =>
    if options.process.isSome then .none
    else (processNumber? value).map fun pid => { options with process := some pid }
  | .profile =>
    if options.profile.isSome ∨ value = "" then .none
    else some { options with profile := some value }

/-- The options after the request to stop the process, which may be made once. -/
def setPause (options : Options) : Option Options :=
  if options.pause then .none else some { options with pause := true }

/-- Whether the options go together.  A snapshot excludes a process, a process needs a profile, and
so does the request to stop it.  That request also needs a process, but it is not missed where a
snapshot excludes it. -/
def areConsistent (options : Options) : Bool :=
  !(options.snapshot.isSome && options.process.isSome) &&
    (options.profile.isSome || !(options.process.isSome || options.pause)) &&
    (!options.pause || options.process.isSome || options.snapshot.isSome)

end Options

/-- Whether a word can only be an option. -/
def isDashed (word : String) : Bool := word.startsWith "-" && word ≠ "-"

/-! ## Commands -/

/-- The names of commands. -/
inductive VerbName where
  | samples
  | run
  | source
  | object
  | list
  | services
  | driver
  | symbol
  | shell
  deriving DecidableEq, Repr

namespace VerbName

/-- The name that a word spells. -/
def ofWord? : String → Option VerbName
  | "samples" => some .samples
  | "run" => some .run
  | "source" => some .source
  | "obj" => some .object
  | "ls" => some .list
  | "ssdt" => some .services
  | "drv" => some .driver
  | "ln" => some .symbol
  | "shell" => some .shell
  | _ => none

/-- The most words that the command is given, if there is a bound. -/
def room? : VerbName → Option Nat
  | .run => none
  | .samples | .services | .shell => some 0
  | .source | .object | .list | .driver | .symbol => some 1

/-- The command of the name, given exactly the words that it needs. -/
def verb? : VerbName → List String → Option Verb
  | .samples, [] => some .samples
  | .run, name :: arguments => some (.run name arguments)
  | .source, [name] => some (.source name)
  | .object, [path] => some (.object path)
  | .list, [] => some (.list none)
  | .list, [path] => some (.list (some path))
  | .services, [] => some .services
  | .driver, [name] => some (.driver name)
  | .symbol, [address] => some (.symbol address)
  | .shell, [] => some .shell
  | _, _ => none

end VerbName

/-- What a command is given: the words, up to two dashes none of them dashed. -/
inductive Operands where
  | words (operands : List String)
  | help
  | misuse
  deriving DecidableEq, Repr

/-- Reads the words behind the name of a command that takes `room?` more of them.  A word too many
is refused at once, so a request for help has to come before it. -/
def operandsOf (room? : Option Nat) (done : List String) : List String → Operands
  | [] => .words done.reverse
  | word :: rest =>
    if word = "--" then .words (done.reverse ++ rest)
    else if word = "--help" ∨ word.startsWith "-h" then .help
    else if isDashed word ∨ room? = some 0 then .misuse
    else operandsOf (room?.map (· - 1)) (word :: done) rest

/-- The request for help, on one command or on help itself or on none. -/
def helpOf : List String → Request
  | [] => .help
  | [topic] => if topic = "help" ∨ (VerbName.ofWord? topic).isSome then .help else .misuse
  | _ => .misuse

/-- The request that a command makes, once its name is found behind the options; `options?` is none
if one of them does not fit. -/
def requestOf (options? : Option Options) (name : VerbName) (rest : List String) : Request :=
  match operandsOf name.room? [] rest with
  | .help => .help
  | .misuse => .misuse
  | .words operands =>
    match options?, name.verb? operands with
    | some options, some verb => if options.areConsistent then .invoke ⟨options, verb⟩ else .misuse
    | _, _ => .misuse

/-! ## The whole line -/

/-- What a word before the command says. -/
inductive Item where
  /-- an option with its value -/
  | setting (setting : Setting) (value : String)
  /-- an option whose value is the next word -/
  | pending (setting : Setting)
  | pause
  /-- more messages about what is going on -/
  | verbose
  | version
  | help
  /-- the name of the command -/
  | name (word : String)
  | misuse
  deriving DecidableEq, Repr

/-- A value right behind its letter, perhaps with an equals sign between. -/
def attachedValue : List Char → String
  | '=' :: value => String.ofList value
  | value => String.ofList value

/-- What a row of one-letter options says. -/
def shortItem : List Char → Item
  | [] => .verbose
  | 'v' :: rest => shortItem rest
  | 'V' :: _ => .version
  | 'h' :: _ => .help
  | 's' :: rest => if rest.isEmpty then .pending .snapshot else .setting .snapshot (attachedValue rest)
  | 'p' :: rest => if rest.isEmpty then .pending .process else .setting .process (attachedValue rest)
  | _ => .misuse

/-- The option of a long name that takes a value. -/
def longSetting? : String → Option Setting
  | "snapshot" => some .snapshot
  | "pid" => some .process
  | "profile" => some .profile
  | _ => none

/-- What a long option says, with or without a value behind an equals sign. -/
def longItem (body : List Char) : Item :=
  let name := String.ofList (body.takeWhile fun c => c != '=')
  match longSetting? name, body.dropWhile fun c => c != '=' with
  | some setting, [] => .pending setting
  | some setting, _ :: value => .setting setting (String.ofList value)
  | none, [] =>
    match name with
    | "pause" => .pause
    | "verbose" => .verbose
    | "version" => .version
    | "help" => .help
    | _ => .misuse
  | none, _ :: _ => .misuse

/-- What a word before the command says. -/
def itemOf (word : String) : Item :=
  match word.toList with
  | ['-'] => .misuse
  | ['-', '-'] => .misuse
  | '-' :: '-' :: body => longItem body
  | '-' :: letters => shortItem letters
  | _ => .name word

/-- Reads the arguments behind the options given so far.  The options are none if the value just read
does not fit, for a value in a word of its own is only looked at when the next option is read or
when the command has been. -/
def requestBehind (options? : Option Options) : List String → Request
  | [] => .misuse
  | word :: rest =>
    match itemOf word, options? with
    | .misuse, _ => .misuse
    | .name word, _ =>
      if word = "help" then helpOf rest
      else
        match VerbName.ofWord? word with
        | some name => requestOf options? name rest
        | none => .misuse
    | _, none => .misuse
    | .version, some _ => .version
    | .help, some _ => .help
    | .verbose, some options => requestBehind (some options) rest
    | .pause, some options =>
      match options.setPause with
      | some options => requestBehind (some options) rest
      | none => .misuse
    | .setting setting value, some options =>
      match options.set value setting with
      | some options => requestBehind (some options) rest
      | none => .misuse
    | .pending setting, some options =>
      match rest with
      | [] => .misuse
      | value :: rest =>
        if isDashed value then .misuse else requestBehind (options.set value setting) rest

/-- What the program is asked to do. -/
def Request.ofArguments (arguments : List String) : Request := requestBehind (some .none) arguments

end KernelScope.CommandLine
