import Fleetwire.Catalog
import Fleetwire.Endpoint
import Fleetwire.Log

namespace Fleetwire

open MessagePack

structure Announcement where
  identity : String
  version : String
  ip : String
deriving DecidableEq, Repr

def Announcement.ofFields : Catalog.agentIdentity.Value → Announcement
  | (identity, version, ip, ()) => { identity, version, ip }

structure ConfigFile where
  machine : String
  path : String
  content : String
deriving DecidableEq, Repr

def ConfigFile.ofFields : Catalog.configFile.Value → ConfigFile
  | (machine, path, content, ()) => { machine, path, content }

inductive Notice where
  | connected (identity version : String) (addr : Endpoint)
  | disconnected (identity : String) (addr : Endpoint)
  | configFileChanged (identity path : String)
  | fileChanged (identity detail : String)
deriving DecidableEq, Repr

def Notice.identity : Notice → String
  | connected identity _ _ | disconnected identity _ | configFileChanged identity _
  | fileChanged identity _ => identity

def Notice.line : Notice → LogLine
  | connected identity version addr => ⟨.info, "Agent connected",
    [("identity", identity), ("version", version), ("addr", addr.display)]⟩
  | disconnected identity addr => ⟨.warn, "Agent disconnected",
    [("identity", identity), ("addr", addr.display)]⟩
  | configFileChanged identity path => ⟨.info, "Config file changed",
    [("identity", identity), ("path", path)]⟩
  | fileChanged identity detail => ⟨.warn, "File monitor notice",
    [("identity", identity), ("detail", detail)]⟩

end Fleetwire
