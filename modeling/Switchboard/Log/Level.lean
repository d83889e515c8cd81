/-!
Severity levels, from errors down to traces, and filters that let the more severe ones through.
-/
namespace Switchboard

inductive Level where
  | error
  | warn
  | info
  | debug
  | trace
  deriving DecidableEq

namespace Level

/-- The less severe a level, the higher its rank. -/
def rank : Level → Nat
  | error => 1
  | warn => 2
  | info => 3
  | debug => 4
  | trace => 5

def name : Level → String
  | error => "ERROR"
  | warn => "WARN"
  | info => "INFO"
  | debug => "DEBUG"
  | trace => "TRACE"

end Level

inductive Filter where
  | off
  /-- Admits this level and everything more severe. -/
  | upTo (level : Level)
  deriving DecidableEq

namespace Filter

def admits : Filter → Level → Bool
  | off, _ => false
  | upTo least, level => level.rank ≤ least.rank

/-- Reads a filter's name in letters of either case, with nothing around it. -/
def ofName? (name : String) : Option Filter :=
  match name.toLower with
  | "off" => some off
  | "error" => some (upTo .error)
  | "warn" => some (upTo .warn)
  | "info" => some (upTo .info)
  | "debug" => some (upTo .debug)
  | "trace" => some (upTo .trace)
  | _ => none

end Filter

/-- Whether a line of this level is written at all: not without a filter. -/
def Level.passes (level : Level) (filter : Option Filter) : Bool :=
  filter.any (·.admits level)

end Switchboard
