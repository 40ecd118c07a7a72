import Fleetwire.Assoc
import Fleetwire.Notice

namespace Fleetwire

inductive Presence where
  | online (addr : Endpoint)
  | offline
deriving DecidableEq, Repr

structure MachineRecords where
  presences : Assoc String Presence := .empty
  files : Assoc (String × String) ConfigFile := .empty
deriving DecidableEq, Repr

namespace MachineRecords

def markOnline (records : MachineRecords) (identity : String) (addr : Endpoint) : MachineRecords :=
  { records with presences := records.presences.insert identity (.online addr) }

def markOffline (records : MachineRecords) (identity : String) : MachineRecords :=
  { records with presences := records.presences.insert identity .offline }

def record (records : MachineRecords) (identity : String) (file : ConfigFile) : MachineRecords :=
  { records with files := records.files.insert (identity, file.path) file }

def presence? (records : MachineRecords) (identity : String) : Option Presence :=
  records.presences.get? identity

def file? (records : MachineRecords) (identity path : String) : Option ConfigFile :=
  records.files.get? (identity, path)

def online (records : MachineRecords) : List String :=
  let present := records.presences.entries.filter fun (_, presence) =>
    match presence with
    | .online _ => true
    | .offline => false
  (present.map Prod.fst).mergeSort fun a b => a ≤ b

theorem presence?_markOnline (records : MachineRecords) (identity other : String) (addr : Endpoint) :
    (records.markOnline identity addr).presence? other =
      if other = identity then some (.online addr) else records.presence? other :=
  Assoc.get?_insert ..

theorem presence?_markOffline (records : MachineRecords) (identity other : String) :
    (records.markOffline identity).presence? other =
      if other = identity then some .offline else records.presence? other :=
  Assoc.get?_insert ..

theorem file?_record (records : MachineRecords) (identity other path : String) (file : ConfigFile) :
    (records.record identity file).file? other path =
      if (other, path) = (identity, file.path) then some file else records.file? other path :=
  Assoc.get?_insert ..

end MachineRecords

end Fleetwire
