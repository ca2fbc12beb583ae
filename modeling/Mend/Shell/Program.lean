import Mend.Shell.Program.Say
import Mend.Shell.Program.Read
import Mend.Shell.Program.Change
import Mend.Shell.Program.Condition

/-!
# Programs by name

The programs that commands can call.
-/

namespace Mend.Shell.Program

/-- The programs that are found by their names. -/
def table : List (Text × Program) :=
  [("true", succeed), ("false", refuse), ("echo", echo), ("printf", printFormat false), ("cat", cat),
   ("ls", ls), ("sleep", sleep), ("wc", wc), ("grep", grep), ("head", part true),
   ("tail", part false), ("seq", seq), ("rm", rm), ("mkdir", mkdir), ("touch", touch),
   ("cp", copy false), ("mv", copy true), ("test", test false), ("[", test true)]

/-- The program of a name. -/
def find? (name : Text) : Option Program := table.lookup name

end Mend.Shell.Program
