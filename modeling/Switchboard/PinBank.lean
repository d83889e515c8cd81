import Switchboard.SortedMap

/-!
A pin bank drives and reads physical pins by handle. Callers speak of logical states; the bank
inverts them for a device whose pin is active low. A bank may be faulty, and a pin that was never
driven is low but not recorded.
-/
namespace Switchboard

/-- How a bank treats a write. -/
inductive Behaviour where
  /-- Every write is accepted and reaches its pin. -/
  | sound
  /-- Every write is refused. -/
  | failing
  /-- Every write is accepted and none reaches its pin. -/
  | stuck
  /-- Pins below `size` are sound and there are no others. -/
  | sized (size : UInt32)
  deriving DecidableEq

structure PinBank where
  behaviour : Behaviour
  levels : SortedMap UInt32 Bool := .empty
  deriving DecidableEq

/-- One question to a bank, with its answer. -/
inductive PinCall where
  | write (handle : UInt32) (state activeLow accepted : Bool)
  | read (handle : UInt32) (activeLow state : Bool)
  deriving DecidableEq

namespace PinBank

def level (bank : PinBank) (handle : UInt32) : Bool := (bank.levels.get? handle).getD false

/-- Sets a physical level from outside; no behaviour stands in the way. -/
def drive (bank : PinBank) (handle : UInt32) (level : Bool) : PinBank :=
  { bank with levels := bank.levels.insert handle level }

def accepts (bank : PinBank) (handle : UInt32) : Bool :=
  match bank.behaviour with
  | .sound => true
  | .failing => false
  | .stuck => true
  | .sized size => handle < size

/-- The bank after a logical state was written. -/
def write (bank : PinBank) (handle : UInt32) (state activeLow : Bool) : PinBank :=
  if bank.accepts handle && bank.behaviour != .stuck then bank.drive handle (state != activeLow)
  else bank

/-- The logical state of a pin. -/
def read (bank : PinBank) (handle : UInt32) (activeLow : Bool) : Bool :=
  bank.level handle != activeLow

end PinBank

def PinCall.text : PinCall → String
  | .write handle state activeLow accepted =>
    s!"set {handle.toNat} {state} {activeLow} -> {accepted}"
  | .read handle activeLow state => s!"get {handle.toNat} {activeLow} -> {state}"

end Switchboard
