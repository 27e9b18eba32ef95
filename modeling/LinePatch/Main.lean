import LinePatch.Cli

/-!
# The program

Reads the files the command line names, runs it, writes the files it produced and
prints what it printed, ending with its exit status.
-/

open LinePatch

def readIfPresent (path : String) : IO (Option String) := do
  try
    return some (← IO.FS.readFile path)
  catch _ =>
    return none

def main (args : List String) : IO UInt32 := do
  let mut files : List (String × String) := []
  for path in (Cli.readRequest args).inputs do
    if let some text ← readIfPresent path then
      files := (Cli.pathText path, text) :: files
  let found := files
  let _ : Text.Surrogates := Text.Surrogates.avoiding (args ++ found.map (·.2))
  let out := runCli args ⟨fun p => found.lookup p⟩
  for (path, text) in out.writes do
    IO.FS.writeFile path text
  IO.print out.stdout
  IO.eprint out.stderr
  return out.code.toUInt32
