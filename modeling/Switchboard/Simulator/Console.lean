import Switchboard.Simulator.Script

/-!
How the simulator's lines look on a terminal: coloured by severity, with the level's name in a
column of five, and only as severe as the reader asked for.
-/
namespace Switchboard.Simulator

/-- The terminal's number for the colour of a level. -/
def colour : Level → Nat
  | .error => 31
  | .warn => 93
  | .info => 37
  | .debug => 32
  | .trace => 90

def Line.render (line : Line) : String :=
  "\x1b[" ++ toString (colour line.level) ++ "m[" ++ Column.right 5 line.level.name ++ "] " ++
    line.text ++ "\x1b[0m"

/-- A filter's name is taken as it is or not at all; without one, traces are left out. -/
def filterOf (setting : Option String) : Filter :=
  (setting.bind Filter.ofName?).getD (.upTo .debug)

/-- What a reader with this setting sees, and whether the run went well. -/
def console (setting : Option String) (image : List UInt8) : List String × Bool :=
  let filter := filterOf setting
  let (lines, well) := story filter image
  ((lines.filter fun line => filter.admits line.level).map Line.render, well)

end Switchboard.Simulator
