import Switchboard.Json.Token

/-!
JSON values, built from tokens by a machine that keeps the containers it has entered on a stack.
Objects keep their members in order, also when a key comes twice.
-/
namespace Switchboard.Json

inductive Value where
  | null
  | boolean (value : Bool)
  | number (digits : List Char)
  | text (value : Option String)
  | array (items : List Value)
  | object (members : List (Option String × Value))

/-- A container that has been entered and not left, with what it holds so far, the last first. -/
inductive Open where
  | array (items : List Value)
  | object (members : List (Option String × Value))
  /-- An object whose last member has a key and no value yet. -/
  | member (members : List (Option String × Value)) (key : Option String)

/-- What may come next. -/
inductive Awaiting where
  | value
  | itemOrEnd
  | key
  | keyOrEnd
  | colon (key : Option String)
  | commaOrEnd
  | nothing (whole : Value)

structure Build where
  entered : List Open := []
  awaiting : Awaiting := .value

namespace Build

/-- Puts a finished value where it belongs. -/
def put (entered : List Open) (value : Value) : Option Build :=
  match entered with
  | [] => some ⟨[], .nothing value⟩
  | .array items :: rest => some ⟨.array (value :: items) :: rest, .commaOrEnd⟩
  | .member members key :: rest => some ⟨.object ((key, value) :: members) :: rest, .commaOrEnd⟩
  | .object _ :: _ => none

/-- Takes the first token of a value. -/
def begin (entered : List Open) (token : Token) : Option Build :=
  match token with
  | .beginArray => some ⟨.array [] :: entered, .itemOrEnd⟩
  | .beginObject => some ⟨.object [] :: entered, .keyOrEnd⟩
  | .null => put entered .null
  | .boolean value => put entered (.boolean value)
  | .number digits => put entered (.number digits)
  | .text value => put entered (.text value)
  | _ => none

/-- Leaves the container entered last. -/
def leave (entered : List Open) (token : Token) : Option Build :=
  match entered, token with
  | .array items :: rest, .endArray => put rest (.array items.reverse)
  | .object members :: rest, .endObject => put rest (.object members.reverse)
  | _, _ => none

/-- Goes on to the next item or member of the container entered last. -/
def next (entered : List Open) : Option Build :=
  match entered with
  | .array _ :: _ => some ⟨entered, .value⟩
  | .object _ :: _ => some ⟨entered, .key⟩
  | _ => none

def key (entered : List Open) (token : Token) : Option Build :=
  match token with
  | .text key => some ⟨entered, .colon key⟩
  | _ => none

/-- Takes one token. -/
def feed (build : Build) (token : Token) : Option Build :=
  match build.awaiting with
  | .value => begin build.entered token
  | .itemOrEnd =>
    if token = .endArray then leave build.entered token else begin build.entered token
  | .key => key build.entered token
  | .keyOrEnd =>
    if token = .endObject then leave build.entered token else key build.entered token
  | .colon key =>
    match build.entered, token with
    | .object members :: rest, .colon => some ⟨.member members key :: rest, .value⟩
    | _, _ => none
  | .commaOrEnd =>
    if token = .comma then next build.entered else leave build.entered token
  | .nothing _ => none

def finish (build : Build) : Option Value :=
  match build.awaiting with
  | .nothing whole => some whole
  | _ => none

end Build

def Value.ofTokens? (tokens : List Token) : Option Value :=
  (tokens.foldlM Build.feed {}).bind Build.finish

/-- Reads one value with nothing but insignificant characters around it. -/
def Value.read (text : String) : Option Value := do
  let tokens ← tokens text.toList
  Value.ofTokens? tokens

end Switchboard.Json
