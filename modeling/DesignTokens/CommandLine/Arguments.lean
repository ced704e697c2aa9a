import DesignTokens.CommandLine.Usage

/-!
Reading the arguments of the command line. The value of an option is looked at when the next
argument is accepted, so that an argument nobody knows is reported before a bad value.
-/

namespace DesignTokens
namespace CommandLine

structure Reading where
  input : Option Path := none
  style : Option Style := none
  keepsReferences : Bool := false
  dialect : Option Dialect := none
  config : Option Path := none
  out : Option Path := none
  /-- A slot whose value is still to come, or to be looked at. -/
  pending : Option (Slot × Option String) := none
  /-- After two dashes alone every argument is a value. -/
  onlyValues : Bool := false

/-- The arguments call for something else than reading on. -/
inductive Stop where
  | error (error : UsageError)
  | version
  | help

def Stop.outcome : Stop → Outcome
  | .error mistake => .ofUsageError mistake
  | .version => { standardOutput := programName ++ " " ++ CommandLine.version ++ "\n" }
  | .help => { standardOutput := CommandLine.help }

namespace Reading

/-- A path is given by at least one character. -/
def pathValue (slot : Slot) (value : String) : Except Stop Path :=
  if value.isEmpty then .error (.error (.missingValue slot)) else .ok ⟨value⟩

def isFilled (reading : Reading) : Slot → Bool
  | .input => reading.input.isSome
  | .output => reading.style.isSome
  | .format => reading.dialect.isSome
  | .config => reading.config.isSome
  | .out => reading.out.isSome

def fill (reading : Reading) (slot : Slot) (value : String) : Except Stop Reading :=
  if reading.isFilled slot then .error (.error (.repeated slot.label))
  else
    match slot with
    | .input => do
        let path ← pathValue slot value
        .ok { reading with input := some path }
    | .output =>
        match Style.parse value with
        | .ok style => .ok { reading with style := some style }
        | .error reason => .error (.error (.invalidValue value slot reason))
    | .format =>
        match Dialect.parse value with
        | .ok dialect => .ok { reading with dialect := some dialect }
        | .error reason => .error (.error (.invalidValue value slot reason))
    | .config => do
        let path ← pathValue slot value
        .ok { reading with config := some path }
    | .out => do
        let path ← pathValue slot value
        .ok { reading with out := some path }

/-- Looks at the value of the pending slot. -/
def settle (reading : Reading) : Except Stop Reading :=
  match reading.pending with
  | none => .ok reading
  | some (slot, none) => .error (.error (.missingValue slot))
  | some (slot, some value) => { reading with pending := none }.fill slot value

/-- An option with a value, which may be attached to it. -/
def option (reading : Reading) (slot : Slot) (attached : Option String) : Except Stop Reading := do
  let reading ← reading.settle
  match attached with
  | some value => reading.fill slot value
  | none => .ok { reading with pending := some (slot, none) }

def noResolve (reading : Reading) : Except Stop Reading := do
  let reading ← reading.settle
  if reading.keepsReferences then .error (.error (.repeated "--no-resolve"))
  else .ok { reading with keepsReferences := true }

/-- How much is logged makes no difference to a request. -/
def verbose (reading : Reading) : Except Stop Reading :=
  reading.settle

def stopWith (reading : Reading) (stop : Stop) : Except Stop Reading := do
  let _ ← reading.settle
  .error stop

/-- An argument without a value, after its dashes, and how it is called in messages. -/
def switches : List (String × String × (Reading → Except Stop Reading)) :=
  [("no-resolve", "--no-resolve", noResolve),
    ("verbose", "--verbose...", verbose),
    ("version", "--version", (·.stopWith .version)),
    ("help", "--help", (·.stopWith .help))]

def optionSlots : List (String × Slot) :=
  [("output", .output), ("format", .format), ("config", .config), ("out", .out)]

/-- An argument after two dashes. A value may follow an equals sign. -/
def long (reading : Reading) (text : List Char) : Except Stop Reading :=
  let name := String.ofList (text.takeWhile (· != '='))
  let attached : Option String :=
    match text.dropWhile (· != '=') with
    | [] => none
    | _ :: value => some (String.ofList value)
  match optionSlots.lookup name, switches.lookup name with
  | some slot, _ => reading.option slot attached
  | none, some (label, switch) =>
      match attached with
      | some value => .error (.error (.unneededValue value label))
      | none => switch reading
  | none, none => .error (.error (.unexpectedArgument ("--" ++ name)))

/-- Letters after one dash. The letter of an option takes the rest as its value. -/
def short (reading : Reading) : List Char → Except Stop Reading
  | [] => .ok reading
  | letter :: rest =>
      if letter = 'o' then
        match rest with
        | [] => reading.option .out none
        | '=' :: value => reading.option .out (some (String.ofList value))
        | value => reading.option .out (some (String.ofList value))
      else if letter = 'v' then do (← reading.verbose).short rest
      else if letter = 'V' then reading.stopWith .version
      else if letter = 'h' then reading.stopWith .help
      else .error (.error (.unexpectedArgument ("-" ++ String.singleton letter)))

/-- An argument that is a value: of the pending option, or the input. -/
def value (reading : Reading) (argument : String) : Except Stop Reading :=
  match reading.pending, reading.onlyValues with
  | some (slot, none), false => .ok { reading with pending := some (slot, some argument) }
  | some (.input, some _), _ => .error (.error (.unexpectedArgument argument))
  | _, _ =>
      if reading.input.isSome then .error (.error (.unexpectedArgument argument))
      else do
        let reading ← reading.settle
        .ok { reading with pending := some (.input, some argument) }

def argument (reading : Reading) (argument : String) : Except Stop Reading :=
  if reading.onlyValues then reading.value argument
  else
    match argument.toList with
    | ['-', '-'] => .ok { reading with onlyValues := true }
    | '-' :: '-' :: text => reading.long text
    | '-' :: letter :: rest => reading.short (letter :: rest)
    | _ => reading.value argument

end Reading

def parse (arguments : List String) : Except Stop Request := do
  let reading ← arguments.foldlM Reading.argument {}
  let reading ← reading.settle
  match reading.input with
  | none => .error (.error .missingInput)
  | some input =>
      .ok
        { input := input
          style := reading.style
          keepsReferences := reading.keepsReferences
          dialect := reading.dialect
          config := reading.config
          out := reading.out }

def readArguments : ReadArguments := fun arguments =>
  match parse arguments with
  | .ok request => .ok request
  | .error stop => .error stop.outcome

end CommandLine
end DesignTokens
