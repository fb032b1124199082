import NetApiDoc.Package.Setup

open NetApiDoc.Package

def main (args : List String) : IO UInt32 := do
  if !informational args then
    IO.eprintln "only informational options (or --help) are run"
    return 2
  let outcome := runSetup domainPackage args
  IO.print outcome.output
  match outcome.stopped with
  | some reason =>
    IO.eprintln reason
    return 1
  | none => return 0
