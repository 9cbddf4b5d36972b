import WorkflowLab.Json.Literal
import WorkflowLab.Json.Reader

/-!
# The configuration file

- `ConfigFile`: what stands where the file is looked for;
- `ConfigFault`: why the configuration cannot be used;
- `ConfigFile.read`: the settings of the file, none when there is no file or its text is no JSON object;
- `sectionOf`: one section of the settings.

How deep the reader goes into lists and objects depends on the program in which it runs, so it is given to `read`. A file
in which a string has half of a surrogate pair by itself has no settings here, since these are texts of characters.
-/

namespace WorkflowLab.Configuration

/-- What stands where the file is looked for. -/
inductive ConfigFile where
  | absent
  | directory
  | content (bytes : ByteArray)

/-- Why the configuration cannot be used. -/
inductive ConfigFault where
  /-- The file is no text. -/
  | notText
  /-- The file holds an integer with too many digits. -/
  | hugeInteger (digits : Nat)
  /-- The lists and objects of the file stand in each other deeper than the reader goes. -/
  | tooNested
  /-- A string of the file has half of a surrogate pair by itself. -/
  | halfPair
  /-- A section is no object. -/
  | notObject (name : String)
  /-- The name of the variable for the key is no text. -/
  | variableName (value : Json)
  /-- A setting is given that does not exist. -/
  | unknownSetting (name : String)
  /-- The branch mode does not exist. -/
  | branchMode (value : Json)

/-- The fault in words. -/
def ConfigFault.message : ConfigFault → String
  | .notText => "the configuration file is no text"
  | .hugeInteger digits => Number.hugeIntegerMessage digits
  | .tooNested => "the configuration file is nested too deeply"
  | .halfPair => "a string of the configuration file has half of a surrogate pair"
  | .notObject name => "the section " ++ name ++ " is no object"
  | .variableName value => "no name of a variable: " ++ value.literal
  | .unknownSetting name => "no setting is called " ++ name
  | .branchMode value => value.literal ++ " is not a valid BranchMode"

/-- The mark that may stand at the start of a text file. -/
def byteOrderMark : List UInt8 := [0xEF, 0xBB, 0xBF]

/-- Bytes without the mark at their start; nothing, if they are but a part of the mark. -/
def dropMark (bytes : List UInt8) : List UInt8 :=
  if byteOrderMark.isPrefixOf bytes then bytes.drop byteOrderMark.length
  else if bytes.isPrefixOf byteOrderMark then []
  else bytes

/-- The text of some bytes in UTF-8. -/
def decodeText? (bytes : List UInt8) : Option String := String.fromUTF8? ⟨bytes.toArray⟩

/-- The settings in the text of a file. -/
def readSettings (levels : Option Nat) (text : String) : Except ConfigFault Fields :=
  match Json.parseWithin levels text.toList with
  | .ok (.obj fields) => .ok fields
  | .ok _ => .ok []
  | .error .malformed => .ok []
  | .error (.hugeInteger digits) => .error (.hugeInteger digits)
  | .error .tooNested => .error .tooNested
  | .error .halfPair => .error .halfPair

/-- The settings of the file, for a reader that goes down as many levels. -/
def ConfigFile.read (levels : Option Nat) : ConfigFile → Except ConfigFault Fields
  | .absent => .ok []
  | .directory => .ok []
  | .content bytes =>
    match decodeText? (dropMark bytes.toList) with
    | some text => readSettings levels text
    | none => .error .notText

/-- One section of the settings, empty when it is missing. -/
def sectionOf (settings : Fields) (name : String) : Except ConfigFault Fields :=
  match settings.get? name with
  | none => .ok []
  | some (.obj fields) => .ok fields
  | some _ => .error (.notObject name)

end WorkflowLab.Configuration
