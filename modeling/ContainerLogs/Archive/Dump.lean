import ContainerLogs.Archive.Reader
import ContainerLogs.Archive.Rendering

/-!
The readable form of an archive: each container record under a header with its key and a rule as
long as that header, optionally only the records of one container.
-/
namespace ContainerLogs.Archive

/-- A text under construction, the number of records in it, what stopped it, and the reader as it
was left. -/
structure Dump where
  out : String
  count : Nat
  fault : Option ReadFault
  reader : Reader

namespace Dump

def header (key : Key) : String :=
  let title := "Container: " ++ key.text
  title ++ "\n" ++ String.ofList (List.replicate title.length '=') ++ "\n"

def wanted (container : Option String) (key : Key) : Bool :=
  match container with
  | none => true
  | some name => key.container = some name

/-- Renders what `bound` further records hold of a container. -/
def records (container : Option String) : (bound : Nat) → Dump → Dump
  | 0, dump => dump
  | bound + 1, dump =>
      match dump.reader.next? with
      | .error fault reader => { dump with fault := some fault, reader := reader }
      | .ok none reader => { dump with reader := reader }
      | .ok (some (key, number)) reader =>
          if wanted container key then
            let rendered := render (dump.out ++ header key) (reader.window number)
            let reader := reader.putBack number rendered.feed
            match rendered.fault with
            | some fault => { dump with out := rendered.out, fault := some fault, reader := reader }
            | none =>
                records container bound
                  ⟨rendered.out ++ "\n", dump.count + 1, none, reader⟩
          else records container bound { dump with reader := reader }

end Dump

/-- Renders all further records of an archive, or only those of one container. -/
def Reader.dump (reader : Reader) (container : Option String) : Dump :=
  Dump.records container (reader.source.rest.length + 1) ⟨"", 0, none, reader⟩

end ContainerLogs.Archive
