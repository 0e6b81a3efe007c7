/-!
# Command-line options

The command line is `<ROM> [--frames N] [--instructions N] [--log-level LEVEL]`, with `-h` or
`--help` for the usage text. A long option takes its value from `--name=value` or from the next
argument, which must not itself look like an option; each option may be given once; `--` ends
the options. An argument such as `-hx` is a cluster of one-letter flags read from the left: it
asks for the usage text as soon as its `h` is read, and any other letter is refused. `--frames` is a 32-bit count (default 1) and `--instructions` a 64-bit count, both
written as decimal digits with an optional `+` (`--frames` also takes `-0`).
-/

namespace NesMachine.Cli

/-- The settings of one run. -/
structure Options where
  rom : String
  frames : Nat := 1
  instructions : Option Nat := none
  logLevel : String := "info"
  deriving DecidableEq, Repr

/-- What a command line asks for. -/
inductive Invocation where
  | run (o : Options)
  | help
  deriving DecidableEq, Repr

/-- Why a command line was refused. -/
inductive ArgError where
  | missingRom
  | unexpectedArgument (arg : String)
  | missingValue (option : String)
  | invalidValue (option value : String)
  | repeatedOption (option : String)
  deriving DecidableEq, Repr

/-- The sentence that describes a refused command line. -/
def ArgError.message : ArgError → String
  | .missingRom => "the following required arguments were not provided:\n  <ROM>"
  | .unexpectedArgument arg => "unexpected argument '" ++ arg ++ "' found"
  | .missingValue option => "a value is required for '--" ++ option ++ "' but none was supplied"
  | .invalidValue option value => "invalid value '" ++ value ++ "' for '--" ++ option ++ "'"
  | .repeatedOption option => "the argument '--" ++ option ++ "' cannot be used multiple times"

/-- Decimal digits with an optional leading `+` (and `-` when `signed`), as a signed value. -/
def parseDecimal (signed : Bool) (s : String) : Option Int :=
  let cs := s.toList
  let (negative, digits) := match cs with
    | '+' :: rest => (false, rest)
    | '-' :: rest => if signed then (true, rest) else (false, cs)
    | _ => (false, cs)
  if digits.isEmpty || !digits.all Char.isDigit then none
  else
    let n := digits.foldl (fun acc c => acc * 10 + (c.toNat - '0'.toNat)) 0
    some (if negative then -(n : Int) else n)

/-- A 32-bit count: a signed decimal, kept only within `[0, 2^32)`. -/
def parseCount32 (s : String) : Option Nat :=
  match parseDecimal true s with
  | some v => if 0 ≤ v ∧ v < 0x100000000 then some v.toNat else none
  | none => none

/-- A 64-bit count: an unsigned decimal below `2^64`. -/
def parseCount64 (s : String) : Option Nat :=
  match parseDecimal false s with
  | some v => if v < 0x10000000000000000 then some v.toNat else none
  | none => none

/-- Whether an argument would be read as an option rather than a value. -/
def looksLikeOption (arg : String) : Bool :=
  arg.startsWith "-" && arg.length > 1

/-- The options seen so far while reading a command line. -/
structure Partial where
  rom : Option String := none
  frames : Option Nat := none
  instructions : Option Nat := none
  logLevel : Option String := none
  optionsEnded : Bool := false

/-- Records one option's value. -/
def Partial.setOption (p : Partial) (name value : String) : Except ArgError Partial :=
  match name with
  | "frames" =>
    if p.frames.isSome then .error (.repeatedOption "frames <FRAMES>")
    else match parseCount32 value with
      | some n => .ok { p with frames := some n }
      | none => .error (.invalidValue "frames <FRAMES>" value)
  | "instructions" =>
    if p.instructions.isSome then .error (.repeatedOption "instructions <N>")
    else match parseCount64 value with
      | some n => .ok { p with instructions := some n }
      | none => .error (.invalidValue "instructions <N>" value)
  | _ =>
    if p.logLevel.isSome then .error (.repeatedOption "log-level <LEVEL>")
    else .ok { p with logLevel := some value }

/-- Records a positional argument: the first is the ROM, any other is refused. -/
def Partial.setPositional (p : Partial) (arg : String) : Except ArgError Partial :=
  if p.rom.isSome then .error (.unexpectedArgument arg) else .ok { p with rom := some arg }

/-- The options that take a value. -/
def valueOptions : List String := ["frames", "instructions", "log-level"]

/-- Reads the arguments after the program name, left to right. -/
def parseArgs : Partial → List String → Except ArgError Invocation
  | p, [] =>
    match p.rom with
    | none => .error .missingRom
    | some rom =>
      let o : Options :=
        { rom := rom
          frames := p.frames.getD 1
          instructions := p.instructions
          logLevel := p.logLevel.getD "info" }
      .ok (.run o)
  | p, arg :: rest =>
    if p.optionsEnded then do
      parseArgs (← p.setPositional arg) rest
    else if arg == "--" then
      parseArgs { p with optionsEnded := true } rest
    else if arg.startsWith "--" then
      let body := arg.toList.drop 2
      let name := String.ofList (body.takeWhile (· != '='))
      let inline : Option String := match body.dropWhile (· != '=') with
        | _ :: value => some (String.ofList value)
        | [] => none
      if name == "help" then
        if inline.isSome then .error (.unexpectedArgument arg) else .ok .help
      else if valueOptions.contains name then
        match inline with
        | some value => do parseArgs (← p.setOption name value) rest
        | none =>
          match _h : rest with
          | value :: rest' =>
            if looksLikeOption value then .error (.missingValue name)
            else do parseArgs (← p.setOption name value) rest'
          | [] => .error (.missingValue name)
      else .error (.unexpectedArgument arg)
    else if looksLikeOption arg then
      match arg.toList with
      | '-' :: 'h' :: _ => .ok .help
      | '-' :: c :: _ => .error (.unexpectedArgument (String.ofList ['-', c]))
      | _ => .error (.unexpectedArgument arg)
    else do
      parseArgs (← p.setPositional arg) rest
termination_by _ args => args.length
decreasing_by all_goals (simp_all only [List.length_cons]; omega)

/-- Reads a command line (without the program name). -/
def parse (args : List String) : Except ArgError Invocation :=
  parseArgs {} args

/-- The usage text `-h` and `--help` print: each option's help starts two columns after the
longest option. -/
def helpText : String :=
  "Run an iNES cartridge on the 6502 core and print the final CPU state.\n\n" ++
  "Usage: nescore [OPTIONS] <ROM>\n\n" ++
  "Arguments:\n" ++
  "  <ROM>  iNES (.nes) image to insert\n\n" ++
  "Options:\n" ++
  "      --frames <FRAMES>    Number of frames to execute after reset [default: 1]\n" ++
  "      --instructions <N>   Execute exactly N instructions instead of whole frames\n" ++
  "      --log-level <LEVEL>  Log filter used when RUST_LOG is unset " ++
    "(e.g. \"debug\", \"nescore=trace\") [default: info]\n" ++
  "  -h, --help               Print help\n"

end NesMachine.Cli
