/-!
Text in columns: blanks on one side make short texts as wide as the column.
-/
namespace Switchboard.Column

def gap (width : Nat) (text : String) : String :=
  String.ofList (List.replicate (width - text.length) ' ')

def left (width : Nat) (text : String) : String := text ++ gap width text

def right (width : Nat) (text : String) : String := gap width text ++ text

end Switchboard.Column
