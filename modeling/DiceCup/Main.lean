import DiceCup.Command.Report

/-! # The command line — reads the settings file, runs the command, prints or saves its report -/

namespace DiceCup.CommandLine

def readText (path : String) : IO (Option String) := do
  try return some (← IO.FS.readFile path)
  catch _ => return none

def systemEntropy : IO Random.Entropy := do
  let bytes ← IO.getRandomBytes 8
  return .ofWords (Random.word bytes.toUInt64LE!)

def fail (cause : Failure) : IO UInt32 := do
  IO.eprintln ("Error: " ++ cause.message)
  return 1

def finish (report : Report) : IO UInt32 := do
  IO.print report.output
  match report.saved with
  | none => return 0
  | some (path, text) =>
    try
      IO.FS.writeFile path text
      return 0
    catch _ => fail .noSuchFile

/-- Runs a command line and gives its exit status: 0, 1 for a failure, 2 for arguments that are not
understood. -/
def answer (args : List String) : IO UInt32 := do
  match Invocation.ofArguments? args with
  | none =>
    IO.eprintln "error: the arguments are not understood"
    return 2
  | some invocation =>
    let text ← match invocation.settingsFile with
      | some path => readText path
      | none => pure none
    match invocation.run (fun _ => text) (← systemEntropy) with
    | .ok report => finish report
    | .error cause => fail cause

end DiceCup.CommandLine

def main (args : List String) : IO UInt32 := DiceCup.CommandLine.answer args
