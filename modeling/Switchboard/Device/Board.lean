import Switchboard.Device.Basic

/-!
A board is the list of devices that a platform offers. Its order matters only where two devices
share a place: the first one is found.
-/
namespace Switchboard

abbrev Board := List Device

namespace Board

def find? (board : Board) (place : Place) : Option Device :=
  List.find? (·.sitsAt place) board

/-- The device found at a place, with its position on the board. -/
def locate? (board : Board) (place : Place) : Option (Nat × Device) := do
  let position ← List.findIdx? (·.sitsAt place) board
  let device ← board[position]?
  return (position, device)

/-- The device that three call arguments name, if they name a place at all. -/
def findByArguments? (board : Board) (kind role index : Int32) : Option Device := do
  board.find? (← Place.ofArguments? kind role index)

def count (board : Board) (kind : Kind) : Nat :=
  List.countP (·.place.kind == kind) board

end Board

end Switchboard
