import CowView.CommandLine.Run

/-!
The program: it reads the files of a command, carries the command out, and writes.
-/

open CowView.CommandLine

def errorNumber (number : UInt32) : Nat :=
  if number < 0x80000000 then number.toNat else (0 - number).toNat

def problemOf (error : IO.Error) : PathProblem :=
  match error with
  | .noFileOrDirectory .. => .missing
  | .inappropriateType _ number text | .invalidArgument _ number text
  | .permissionDenied _ number text | .resourceExhausted _ number text =>
    .ofNumber (errorNumber number) text.capitalize
  | _ => .ofNumber 5 "Input/output error"

def contentOf (path : Letters) : IO (Except PathProblem ByteArray) := do
  try
    return .ok (← IO.FS.readBinFile path.shown)
  catch problem => return .error (problemOf problem)

def writeOut (command : Command) (performance : Performance) : IO Performance := do
  match performance.pending? command with
  | none => return performance
  | some (path, rendered) =>
    try
      match rendered with
      | .text text =>
        IO.FS.writeFile path.shown text
        return performance.written path
      | .unencodable =>
        IO.FS.writeFile path.shown ""
        return performance.failing .unencodable
    catch problem => return performance.failing (.unusable path (problemOf problem))

def runCommand (command : Command) : IO Report := do
  let contents ← command.readablePaths.mapM fun path => return (path, ← contentOf path)
  let read := fun path => (contents.lookup path).getD (.error .missing)
  let performance := perform CowView.Generated.plainEngine command read
  return (← writeOut command performance).report command

def main (arguments : List String) : IO UInt32 := do
  let report ← match Request.ofArguments (arguments.map Letters.ofString) with
    | .refused refusal => pure refusal.report
    | .nothing => pure helpReport
    | .command command => runCommand command
  IO.print report.out
  IO.eprint report.err
  match report.ending with
  | .finished code | .refused code => return code.toUInt32
  | .broken failure =>
    IO.eprintln ("butcher: " ++ reprStr failure)
    return 1
