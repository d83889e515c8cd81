import Switchboard.Call.Source
import Switchboard.Json.Value

/-!
Definition files are JSON arrays. An element is an object with the three fields of a definition,
each given once among any others, or an array of the three texts in order.
-/
namespace Switchboard

open Json

/-- The text of the one member with this key. -/
def Json.field? (members : List (Option String × Value)) (key : String) : Option String :=
  match members.filter (·.1 = some key) with
  | [(_, .text value)] => value
  | _ => none

/-- Keys of a definition must be proper text, also those that mean nothing here. -/
def Definition.ofValue? : Value → Option Definition
  | .object members =>
    if members.all (·.1.isSome) then do
      let name ← field? members "name"
      let value ← field? members "value"
      let description ← field? members "description"
      return ⟨name, value, description⟩
    else none
  | .array [.text name, .text value, .text description] => do
    return ⟨← name, ← value, ← description⟩
  | _ => none

/-- Why a definition file yields no source text. -/
inductive FileFault where
  /-- The text is no list of definitions. Where it goes wrong, and how, is not kept. -/
  | malformed
  | unsound (fault : Fault)
  deriving DecidableEq

/-- What is reported. For a malformed file it is how the report begins: what follows there, a colon
and the wording of the parser, is left out. -/
def FileFault.message : FileFault → String
  | malformed => "Malformed sys_ids.json"
  | unsound fault => fault.message

namespace DefinitionFile

def read (text : String) : Option (List Definition) :=
  match Value.read text with
  | some (.array items) => items.mapM Definition.ofValue?
  | _ => none

/-- The source text that definitions stand for, if they are sound. -/
def generate (definitions : List Definition) : Except FileFault String :=
  match Definition.validate definitions with
  | .error fault => .error (.unsound fault)
  | .ok numbers => .ok (Source.text definitions numbers)

/-- The source text that a file stands for. -/
def compile (text : String) : Except FileFault String :=
  match read text with
  | none => .error .malformed
  | some definitions => generate definitions

/-- What a build is told once the source text is written: what to look at for changes. -/
def buildLines : List String :=
  ["cargo:rerun-if-changed=build.rs", "cargo:rerun-if-changed=sys_ids.json"]

end DefinitionFile

end Switchboard
