import Switchboard.Log.Notice
import Switchboard.Registry.Handler
import Switchboard.SortedMap

/-!
A registry holds at most one entry per call number. An entry knows the installation it stems
from, which a copy shares with what it was copied from, so that equal handlers of two
installations stay apart.
-/
namespace Switchboard

/-- One installation: the machine that made it and how many that machine had made before. -/
structure Origin where
  machine : Nat
  serial : Nat
  deriving DecidableEq

structure Entry where
  origin : Origin
  handler : Handler
  deriving DecidableEq

abbrev Registry := SortedMap CallNumber Entry

namespace Registry

/-- What is reported when an entry is put under a number. -/
def notice (registry : Registry) (number : CallNumber) : Notice :=
  if registry.contains number then .replaced number else .registered number

/-- Lists the numbers in use in ascending order. -/
def debugText (registry : Registry) : String :=
  let numbers := registry.keys.map fun number => toString number.toNat
  "HandlerRegistry \x7b ids: [" ++ ", ".intercalate numbers ++ "] \x7d"

end Registry

end Switchboard
