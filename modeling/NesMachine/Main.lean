import NesMachine.Cli.Report
/-!
# The command-line entry point

Reads the environment and the ROM file, runs the program and reports its streams and status.
-/

open NesMachine

/-- The contents of a file, or why it could not be read. -/
def readRom (path : String) : IO (Except ReadFailure ByteArray) := do
  try
    return .ok (← IO.FS.readBinFile path)
  catch e =>
    return .error (match e with
      | .noFileOrDirectory .. => .notFound
      | .permissionDenied .. => .permissionDenied
      | .inappropriateType .. => .isDirectory
      | other => .other (toString other))

def main (args : List String) : IO UInt32 := do
  let rustLog ← IO.getEnv "RUST_LOG"
  let rom ← match Cli.parse args with
    | .ok (.run o) => readRom o.rom
    | _ => pure (.error .notFound)
  let outcome := Cli.program args rustLog (fun _ => rom)
  IO.print outcome.stdout
  IO.eprint outcome.stderr
  return outcome.status.toUInt32
