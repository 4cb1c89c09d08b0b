import RequestRouter.CommandLine.Run

/-!
# The program

Runs a command on the modules that are at hand: the application for users.
-/

open RequestRouter

/-- Prints what the command leaves behind and exits with its status. -/
def main (arguments : List String) : IO UInt32 := do
  match ((CommandLine.run [] arguments).run Catalogue.world).1 with
  | .ok console =>
    IO.print console.stdout
    IO.eprint console.stderr
    return ((console.exit.getD 0).toNat).toUInt32
  | .error fault =>
    IO.eprintln (fault.kind.title ++ ": " ++ fault.message)
    return 1
