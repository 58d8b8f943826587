/-!
# Command line arguments

The arguments are taken from the left. An option may have its value in the same argument or in the
next one; a value of its own that starts with a hyphen is taken for options. A value is examined
when the next option comes, or at the end; an argument that nobody expects ends everything before
that.
-/

namespace GameClient.Host

structure Options where
  config : Option String := none
  verbose : Bool := false
  nickname : Option String := none
  deriving DecidableEq, Repr

inductive UsageError where
  /-- An argument is not expected. -/
  | unexpectedArgument
  /-- The value of an option is missing or cannot be used. -/
  | invalidValue
  /-- An option is given twice. -/
  | repeated
  /-- An option that takes no value is given one. -/
  | unexpectedValue
  deriving DecidableEq, Repr

def UsageError.message : UsageError → String
  | unexpectedArgument => "unexpected argument found"
  | invalidValue => "one of the values isn't valid for an argument"
  | repeated =>
    "an argument cannot be used with one or more of the other specified arguments"
  | unexpectedValue => "unexpected value for an argument found"

/-- Why the arguments are not read to their end as options. -/
inductive Halt where
  | help
  | usage (error : UsageError)
  deriving DecidableEq, Repr

inductive Valued where
  | config
  | nickname
  deriving DecidableEq, Repr

inductive Name where
  | valued (option : Valued)
  | verbose
  | help
  deriving DecidableEq, Repr

def Name.ofLong? (name : String) : Option Name :=
  if name = "config" then some (.valued .config)
  else if name = "nickname" then some (.valued .nickname)
  else if name = "verbose" then some .verbose
  else if name = "help" then some .help
  else none

def Name.ofShort? : Char → Option Name
  | 'c' => some (.valued .config)
  | 'v' => some .verbose
  | 'h' => some .help
  | _ => none

/-- The arguments taken so far. -/
structure Reading where
  options : Options := {}
  /-- An option whose value has not been examined, with the value if there is one. -/
  pending : Option (Valued × Option String) := none

namespace Reading

/-- Sets the value of an option. A path may not be empty. -/
def assign (reading : Reading) (value : String) : Valued → Except Halt Reading
  | .config =>
    if reading.options.config.isSome then .error (.usage .repeated)
    else if value = "" then .error (.usage .invalidValue)
    else .ok { reading with options := { reading.options with config := some value } }
  | .nickname =>
    if reading.options.nickname.isSome then .error (.usage .repeated)
    else .ok { reading with options := { reading.options with nickname := some value } }

/-- Examines the value that has not been examined. -/
def resolve (reading : Reading) : Except Halt Reading :=
  match reading.pending with
  | none => .ok reading
  | some (_, none) => .error (.usage .invalidValue)
  | some (option, some value) => { reading with pending := none }.assign value option

/-- Takes an option together with the value in the same argument, if there is one. -/
def takeNamed (reading : Reading) (value : Option String) : Name → Except Halt Reading
  | .valued option => do
    let reading ← reading.resolve
    match value with
    | some value => reading.assign value option
    | none => .ok { reading with pending := some (option, none) }
  | .verbose =>
    if value.isSome then .error (.usage .unexpectedValue)
    else do
      let reading ← reading.resolve
      if reading.options.verbose then .error (.usage .repeated)
      else .ok { reading with options := { reading.options with verbose := true } }
  | .help =>
    if value.isSome then .error (.usage .unexpectedValue)
    else do
      let _ ← reading.resolve
      .error .help

/-- Takes a long option, without its two hyphens. -/
def takeLong (reading : Reading) (argument : List Char) : Except Halt Reading :=
  let name := String.ofList (argument.takeWhile (· ≠ '='))
  let value := match argument.dropWhile (· ≠ '=') with
    | _ :: value => some (String.ofList value)
    | [] => none
  match Name.ofLong? name with
  | some option => reading.takeNamed value option
  | none => .error (.usage .unexpectedArgument)

/-- The value that stands behind the letter of an option. -/
def attached? : List Char → Option String
  | [] => none
  | '=' :: value => some (String.ofList value)
  | value => some (String.ofList value)

def takeShort (reading : Reading) : List Char → Except Halt Reading
  | [] => .ok reading
  | c :: rest =>
    match Name.ofShort? c with
    | some (.valued option) => reading.takeNamed (attached? rest) (.valued option)
    | some name =>
      match reading.takeNamed none name with
      | .ok reading => reading.takeShort rest
      | .error halt => .error halt
    | none => .error (.usage .unexpectedArgument)

/-- Takes an argument that is no option: it has to be the value of the option before. -/
def takePlain (reading : Reading) (argument : String) : Except Halt Reading :=
  match reading.pending with
  | some (option, none) => .ok { reading with pending := some (option, some argument) }
  | _ => .error (.usage .unexpectedArgument)

/-- Takes arguments one after the other. Behind two hyphens there are no options, and nothing else
is expected either. -/
def takeAll (reading : Reading) : List String → Except Halt Reading
  | [] => reading.resolve
  | argument :: arguments =>
    let taken : Except Halt Reading :=
      match argument.toList with
      | ['-', '-'] => if arguments.isEmpty then .ok reading else .error (.usage .unexpectedArgument)
      | '-' :: '-' :: name => reading.takeLong name
      | ['-'] => reading.takePlain argument
      | '-' :: letters => reading.takeShort letters
      | _ => reading.takePlain argument
    match taken with
    | .ok reading => reading.takeAll arguments
    | .error halt => .error halt

end Reading

def Options.ofArguments (arguments : List String) : Except Halt Options :=
  (Reading.takeAll {} arguments).map Reading.options

end GameClient.Host
