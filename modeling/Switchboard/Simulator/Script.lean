import Switchboard.Call.Standard
import Switchboard.Session.Run
import Switchboard.Text.Column

/-!
A fixed board with simulated pins plays a short script of calls. What happens is told as lines,
each with a severity: the machine's own notices, the pins as they are driven, and every call with
its result.
-/
namespace Switchboard.Simulator

structure Line where
  level : Level
  text : String
  deriving DecidableEq

/-- Three LEDs, the last one active low, a button and a serial line. -/
def boardImage : List UInt8 :=
  [
    1, 1, 0, 0, 7, 0, 0, 0,
    1, 2, 0, 0, 8, 0, 0, 0,
    1, 2, 1, 1, 10, 0, 0, 0,
    2, 2, 0, 1, 9, 0, 0, 0,
    5, 4, 0, 0, 0, 0, 0, 0
  ]

def pinCount : UInt32 := 32

/-- The letters V and 4. -/
def platform : Int32 := 0x5634

/-- What one call asks and with which arguments. -/
def script : List (CallNumber × Arguments) :=
  [
    (.sysPlatform, ⟨0, 0, 0⟩),
    (.sysVersion, ⟨0, 0, 0⟩),
    (.capCount, ⟨1, 0, 0⟩),
    (.capExists, ⟨1, 2, 1⟩),
    (.ledOn, ⟨1, 1, 0⟩),
    (.ledGet, ⟨1, 1, 0⟩),
    (.ledSet, ⟨1, 2, Led.pack 1 true⟩),
    (.ledToggle, ⟨1, 2, 0⟩),
    (.ledToggle, ⟨1, 2, 0⟩),
    (.ledOff, ⟨1, 1, 0⟩),
    (.ledOn, ⟨2, 2, 0⟩),
    (.ledOn, ⟨1, 1, 3⟩),
    (.buttonRead, ⟨2, 2, 0⟩)
  ]

/-- A pin that is driven tells its physical level, and a pin that is missing is warned of. -/
def Line.ofEffect? : Effect → Option Line
  | .notice noted => some ⟨noted.level, noted.text⟩
  | .pin _ (.write handle state activeLow accepted) =>
    let pin := "GPIO" ++ toString handle.toNat
    if accepted then
      some ⟨.info, pin ++ " <- " ++ (if state != activeLow then "HIGH" else "LOW")⟩
    else some ⟨.warn, pin ++ " does not exist."⟩
  | .pin _ (.read _ _ _) => none

/-- A call's name, or a question mark, in a column of fourteen, then its arguments and result. -/
def callText (number : CallNumber) (arguments : Arguments) (result : Int32) : String :=
  Column.left 14 (number.name?.getD "?") ++ " (" ++ toString arguments.first.toInt ++ ", " ++
    toString arguments.second.toInt ++ ", " ++ Hex.pattern arguments.third ++ ") -> " ++
    toString result.toInt

/-- Plays calls on machine 0. -/
def play (rig : Rig) : List (CallNumber × Arguments) → List Line
  | [] => []
  | (number, arguments) :: rest =>
    let turn := rig.invoke 0 number arguments
    turn.effects.filterMap Line.ofEffect? ++
      ⟨.info, callText number arguments turn.answer⟩ :: play turn.rig rest

/-- The rig before it is set up, and the steps that set it up. -/
def bench (filter : Filter) : Rig where
  machines := [{ platform := some platform }]
  banks := [{ behaviour := .sized pinCount }]
  filter := some filter

def setup (image : List UInt8) : List Step :=
  [⟨0, .setBoard (some image)⟩, ⟨0, .setBank (some 0)⟩, ⟨0, .registerStandard⟩]

/-- The story of a board image, and whether it holds a board at all. -/
def story (filter : Filter) (image : List UInt8) : List Line × Bool :=
  match Board.decode image with
  | .error error => ([⟨.error, "Invalid board image: " ++ error.message ++ "."⟩], false)
  | .ok board =>
    let reports := (bench filter).run (setup image)
    let ready := (bench filter).after (setup image)
    let opening : Line := ⟨.info, "Board has " ++ toString board.length ++ " devices."⟩
    let counted : Line :=
      ⟨.info, toString (ready.registered 0) ++ " SYS handlers registered."⟩
    (opening :: reports.flatMap (fun report => report.effects.filterMap Line.ofEffect?) ++
      counted :: play ready script, true)

end Switchboard.Simulator
