import ContainerLogs.Wire.Integer

/-!
Items, of which the value of a record is made: the content of one log file under its name, or a
diagnostic in its place. A diagnostic is marked by -1 where an entry has the length of its name.
-/
namespace ContainerLogs.Archive

inductive Item where
  | entry (name : String) (content : Bytes)
  | diagnostic (message : String)
  deriving DecidableEq, Repr

namespace Item

def diagnosticMark : Int := -1

def bytes : Item → Bytes
  | entry name content =>
      Wire.counted (Text.Utf8.encode name) ++ (Wire.long content.length ++ content)
  | diagnostic message => Wire.int diagnosticMark ++ Wire.counted (Text.Utf8.encode message)

/-- The parts that an entry is written in, under a length of its content that the caller answers for. -/
def entryParts (name : String) (content : Bytes) (length : Int) :
    List (Except Wire.OutOfRange Bytes) :=
  [Wire.counted? (Text.Utf8.encode name), Wire.long? length, .ok content]

/-- The parts that an item is written in, one after the other. -/
def parts : Item → List (Except Wire.OutOfRange Bytes)
  | entry name content => entryParts name content content.length
  | diagnostic message => [Wire.int? diagnosticMark, Wire.counted? (Text.Utf8.encode message)]

/-- What is written of parts: all of them, or those before the first that has no form. -/
def writtenOf : List (Except Wire.OutOfRange Bytes) → Bytes × Option Wire.OutOfRange
  | [] => ([], none)
  | .error fault :: _ => ([], some fault)
  | .ok bytes :: parts =>
      let (more, fault?) := writtenOf parts
      (bytes ++ more, fault?)

/-- What is written of an item, and the fault of a length that does not fit its field. -/
def written (item : Item) : Bytes × Option Wire.OutOfRange := writtenOf item.parts

def bytesOfAll (items : List Item) : Bytes := items.flatMap bytes

@[simp] theorem bytesOfAll_nil : bytesOfAll [] = [] := rfl

@[simp] theorem bytesOfAll_append (front back : List Item) :
    bytesOfAll (front ++ back) = bytesOfAll front ++ bytesOfAll back := by
  simp [bytesOfAll]

end Item

end ContainerLogs.Archive
