import Fleetwire.Directory
import Fleetwire.Schedule

namespace Fleetwire.Directory

/-- An entry by its name. Entries of one name are the same unless they are copies. -/
structure Token where
  name : String
  copy : Bool := false
deriving DecidableEq, Repr

inductive Claim where
  | waiting
  | holding
deriving DecidableEq, Repr

structure Client where
  name : String
  identity : String
  claim : Claim := .waiting
  leaving : Bool := false
deriving DecidableEq, Repr

inductive LockEvent where
  | locked (client : String)
  | unlocked (client : String)
deriving DecidableEq, Repr

structure Session where
  directory : Directory Token Nat := {}
  clients : Assoc Nat Client := .empty
  arrived : Nat := 0
  events : List LockEvent := []

namespace Session

def step (s : Session) (id : Nat) : Option Session := do
  let client ← s.clients.get? id
  match client.claim with
  | .waiting =>
    if (s.directory.transition client.identity).isHeldBy id then
      some { s with
        clients := s.clients.insert id { client with claim := .holding }
        events := s.events ++ [.locked client.name] }
    else none
  | .holding =>
    if client.leaving then
      some { s with
        directory := s.directory.leaveTransition client.identity id
        clients := s.clients.erase id
        events := s.events ++ [.unlocked client.name] }
    else none

def machine : Machine Session Nat where
  step := step
  tasks s := s.clients.keys.mergeSort fun a b => a ≤ b

inductive Order where
  | put (identity : String) (entry : Token)
  | putIfFree (identity : String) (entry : Token)
  | get (identity : String)
  | remove (identity : String)
  | removeIfHolder (identity : String) (entry : Token)
  | lock (identity : String) (client : String)
  | unlock (client : String)

inductive Answer where
  | nothing
  | entry (entry : Option Token)
  | done
  | held (holder : Token)
  | flag (value : Bool)

def obey (s : Session) : Order → Answer × Session
  | .put identity entry =>
    let (displaced, directory) := s.directory.put identity entry
    (.entry displaced, { s with directory })
  | .putIfFree identity entry =>
    match s.directory.putIfFree identity entry with
    | .ok directory => (.done, { s with directory })
    | .error holder => (.held holder, s)
  | .get identity => (.entry (s.directory.get? identity), s)
  | .remove identity =>
    let (removed, directory) := s.directory.remove identity
    (.entry removed, { s with directory })
  | .removeIfHolder identity entry =>
    let (removed, directory) := s.directory.removeIfHolder identity entry
    (.flag removed, { s with directory })
  | .lock identity name =>
    (.nothing, { s with
      directory := s.directory.joinTransition identity s.arrived
      clients := s.clients.insert s.arrived { name, identity }
      arrived := s.arrived + 1 })
  | .unlock name =>
    match s.clients.entries.find? fun (_, client) => client.name = name ∧ ¬ client.leaving with
    | some (id, client) =>
      (.flag true, { s with clients := s.clients.insert id { client with leaving := true } })
    | none => (.flag false, s)

def perform (s : Session) (order : Order) : Answer × Session :=
  let (answer, s) := { s with events := [] }.obey order
  (answer, machine.settle s)

end Session

end Fleetwire.Directory
