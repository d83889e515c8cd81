import Switchboard.Simulator.Console

/-!
The simulator's command line. It takes no arguments; the environment says how much to show.
-/

def main : IO UInt32 := do
  let setting ← IO.getEnv "V4SIM_LOG"
  let (lines, well) := Switchboard.Simulator.console setting Switchboard.Simulator.boardImage
  for line in lines do
    IO.eprintln line
  return if well then 0 else 1
