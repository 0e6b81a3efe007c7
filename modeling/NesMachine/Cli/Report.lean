import NesMachine.Console
import NesMachine.Cli.Options
import NesMachine.Log.Filter
/-!
# The command-line program

The program inserts the ROM named on the command line into a fresh console, then either runs
`--instructions` instructions from a reset or resets and runs `--frames` frames, and prints the
total cycles, the registers and the byte at `$0200`. A failure ends the program with status 1
and an error report on the error stream: the outermost message, then the messages of the errors
it wraps; a command line that cannot be read ends it with status 2.

The log filter comes from the `RUST_LOG` setting when that is present and reads, and from
`--log-level` otherwise; a `--log-level` that does not read is then an error. A filter whose
reading stops the program (`FilterReading.aborted`) ends it with status 101 and nothing on the
output stream.
-/

namespace NesMachine.Cli

open Text Log

/-- What a run of the program leaves: its exit status and the text of its two streams. -/
structure Outcome where
  status : Nat
  stdout : String
  stderr : String
  deriving DecidableEq, Repr

/-- A message set in from the margin: `first` before its first line and `rest` before each
further line. -/
def indentLines (first rest : String) (message : String) : String :=
  first ++ "\n".intercalate ((message.splitOn "\n").mapIdx (fun i l => if i = 0 then l else rest ++ l))

/-- The error report: the outer message, then the wrapped ones, set in by four columns, or
numbered in a column five wide when there are several. -/
def errorReport (outer : String) (causes : List String) : String :=
  let body := match causes with
    | [] => ""
    | [cause] => "\n\nCaused by:\n" ++ indentLines "    " "    " cause
    | _ => "\n\nCaused by:" ++ String.join
      (causes.zipIdx.map (fun (c, i) =>
        let number := toString i
        "\n" ++ indentLines (String.ofList (List.replicate (5 - number.length) ' ') ++ number ++ ": ")
          "       " c))
  "Error: " ++ outer ++ body ++ "\n"

/-- A run that failed with the given report. -/
def failure (outer : String) (causes : List String) : Outcome :=
  ⟨1, "", errorReport outer causes⟩

/-- The final state the program prints. -/
def summary (c : Console) (cycles : Nat) : String :=
  let cpu := c.machine.cpu
  "cycles: " ++ toString cycles ++ "\n" ++
  "A: 0x" ++ hexUpper 2 cpu.a.toNat ++ "\n" ++
  "X: 0x" ++ hexUpper 2 cpu.x.toNat ++ "\n" ++
  "Y: 0x" ++ hexUpper 2 cpu.y.toNat ++ "\n" ++
  "SP: 0x" ++ hexUpper 2 cpu.sp.toNat ++ "\n" ++
  "PC: 0x" ++ hexUpper 4 cpu.pc.toNat ++ "\n" ++
  "P (flags): 0b" ++ binary 8 cpu.status.bits.toNat ++ "\n" ++
  "mem[0x0200]: 0x" ++ hexUpper 2 (c.machine.bus.byteAt 0x0200).toNat ++ "\n"

/-- Runs `n` frames, adding their cycles to `total`; stops at the first failure. -/
def runFrames (c : Console) : Nat → Nat → Console × Except CpuError Nat
  | 0, total => (c, .ok total)
  | n + 1, total =>
    match c.nextFrame with
    | (c', .ok cycles) => runFrames c' n (total + cycles)
    | (c', .error e) => (c', .error e)

/-- How the program's log filter reads: `RUST_LOG` when it is set and reads, `--log-level`
otherwise; a reading that stops the program stops it at `RUST_LOG` already. -/
def readLogFilter (o : Options) (rustLog : Option String) : FilterReading :=
  match rustLog.map readFilter with
  | some .accepted => .accepted
  | some (.aborted offset) => .aborted offset
  | _ => readFilter o.logLevel

/-- The program, given its options, the `RUST_LOG` setting and the ROM file's contents. -/
def runWith (o : Options) (rustLog : Option String) (rom : Except ReadFailure ByteArray) :
    Outcome :=
  match readLogFilter o rustLog with
  | .refused e => failure "invalid --log-level filter" e.messages
  | .aborted offset =>
    ⟨101, "", "log filter directive cut at byte " ++ toString offset ++ ", inside a character\n"⟩
  | .accepted =>
    match Console.new.insertFile rom with
    | .error e => failure ("failed to insert " ++ o.rom) (e.message :: e.causes)
    | .ok (console, _) =>
      let (c, result) := match o.instructions with
        | some n => console.run n
        | none => runFrames console.reset o.frames 0
      match result with
      | .ok cycles => ⟨0, summary c cycles, ""⟩
      | .error e => failure e.message []

/-- The whole program: the arguments after its name, the `RUST_LOG` setting, and the files it
can read. -/
def program (args : List String) (rustLog : Option String)
    (readFile : String → Except ReadFailure ByteArray) : Outcome :=
  match parse args with
  | .error e => ⟨2, "", "error: " ++ e.message ++ "\n"⟩
  | .ok .help => ⟨0, helpText, ""⟩
  | .ok (.run o) => runWith o rustLog (readFile o.rom)

end NesMachine.Cli
