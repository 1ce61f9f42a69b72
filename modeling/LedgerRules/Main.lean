import LedgerRules.Command
import LedgerRules.Json.Reader
import LedgerRules.Store.Snapshot

/-!
# The command line

The store is read as JSON from one line of standard input, the command runs on
it, and its report goes to standard output.  The store lives as long as the run.
-/

namespace LedgerRules

namespace Command

/-- The day on which rows without a time of creation are dated. -/
def firstDay : Date := ⟨1970, 1, 1⟩

/-- How the command is used. -/
def usage : String := "usage: [-h] [--dry-run] [--priority PRIORITY]"

/-- The store that a line of input describes; an empty line describes none. -/
def storeOf (line : String) : Except String Store :=
  if (trimBlank line).isEmpty then .ok (.empty firstDay)
  else match Json.read line with
    | .error _ => .error "the store is not JSON"
    | .ok value =>
        (Store.ofJson firstDay value).mapError fun _ =>
        "the store is not consistent"

end Command

end LedgerRules

open LedgerRules in
/-- Runs the command with its arguments. -/
def main (arguments : List String) : IO UInt32 := do
  match Command.read arguments with
  | .help => IO.println Command.usage; return 0
  | .misused => IO.eprintln Command.usage; return Command.misuseCode.toUInt32
  | .run options =>
      match Command.storeOf (← (← IO.getStdin).getLine) with
      | .error complaint => IO.eprintln complaint; return 1
      | .ok store =>
          let (code, printed, _) := Command.run options store
          IO.print printed
          return code.toUInt32
