import Switchboard.Call.Definition
import Switchboard.Text.Quoted

/-!
The source text that definitions are turned into: a documented constant for each, and a table of
them all. Descriptions stand raw in the documentation and quoted in the table.
-/
namespace Switchboard.Source

def constant (definition : Definition) (number : CallNumber) : String :=
  "/// " ++ definition.description ++ "\n" ++
    "pub const " ++ definition.name ++ ": u16 = " ++ Hex.word number ++ ";\n"

def heading : String :=
  "\n/// Every SYS ID in definition order.\npub static SYS_ID_TABLE: &[SysIdInfo] = &[\n"

def entry (definition : Definition) : String :=
  "    SysIdInfo \x7b id: " ++ definition.name ++ ", name: " ++ Quoted.quote definition.name ++
    ", description: " ++ Quoted.quote definition.description ++ " \x7d,\n"

def closing : String := "];\n"

/-- The text for definitions with their numbers. -/
def text (definitions : List Definition) (numbers : List CallNumber) : String :=
  String.join (List.zipWith constant definitions numbers) ++ heading ++
    String.join (definitions.map entry) ++ closing

end Switchboard.Source
