import Switchboard.Call.Standard
import Switchboard.Text.Quoted

/-!
The one-line text that shows every field of a call's table entry.
-/
namespace Switchboard

def CallInfo.debugText (info : CallInfo) : String :=
  "SysIdInfo \x7b id: " ++ toString info.number.toNat ++ ", name: " ++ Quoted.quote info.name ++
    ", description: " ++ Quoted.quote info.description ++ " \x7d"

end Switchboard
