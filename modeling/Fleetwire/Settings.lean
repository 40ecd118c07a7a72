import Fleetwire.Endpoint
import Fleetwire.Frame
import Fleetwire.LinkError
import Fleetwire.Text.Quoted
import Fleetwire.Text.Utf8
import Fleetwire.Toml.Document

namespace Fleetwire

inductive DuplicatePolicy where
  | evict
  | reject
deriving DecidableEq, Repr

namespace DuplicatePolicy

def name : DuplicatePolicy → String
  | evict => "evict"
  | reject => "reject"

def ofName? (name : String) : Option DuplicatePolicy :=
  if name = "evict" then some evict else if name = "reject" then some reject else none

end DuplicatePolicy

structure Settings where
  listenAddr : Endpoint := .v4 0 0 0 0 8879
  callTimeoutSecs : Nat := 30
  handshakeTimeoutSecs : Nat := 10
  outboundQueueCapacity : Nat := 50
  maxConcurrentHandlers : Nat := 64
  handlerQueueCapacity : Nat := 256
  maxFrameSize : Nat := Frame.defaultLimit
  duplicateIdentity : DuplicatePolicy := .evict
  logLevel : String := "info"
deriving DecidableEq, Repr

namespace Settings

def callTimeout (settings : Settings) : Duration := .ofSeconds settings.callTimeoutSecs

def handshakeTimeout (settings : Settings) : Duration := .ofSeconds settings.handshakeTimeoutSecs

def positive (settings : Settings) : List (String × Nat) := [
  ("call_timeout_secs", settings.callTimeoutSecs),
  ("handshake_timeout_secs", settings.handshakeTimeoutSecs),
  ("outbound_queue_capacity", settings.outboundQueueCapacity),
  ("max_concurrent_handlers", settings.maxConcurrentHandlers),
  ("max_frame_size", settings.maxFrameSize)]

def validate (settings : Settings) : Except LinkError Unit :=
  match settings.positive.find? fun (_, value) => value = 0 with
  | some (key, _) => .error (.config s!"{key} must be greater than zero")
  | none =>
    if settings.maxFrameSize > Frame.maxLength then
      .error (.config
        s!"max_frame_size {settings.maxFrameSize} does not fit the 4-byte length prefix")
    else .ok ()

open Toml (Node Entries)

def describe : Node → String
  | .string s => "string " ++ Text.quote s
  | .integer i => s!"integer `{i}`"
  | .float x => s!"floating point `{x.display}`"
  | .boolean b => s!"boolean `{b}`"
  | .array _ | .tables _ => "sequence"
  | .datetime | .table _ _ => "map"

def wrongType (node : Node) (wanted : String) : String :=
  s!"invalid type: {describe node}, expected {wanted}"

def natural (wanted : String) : Node → Except String Nat
  | .integer i =>
    if i < 0 then .error s!"invalid value: integer `{i}`, expected {wanted}" else .ok i.toNat
  | node => .error (wrongType node wanted)

def text : Node → Except String String
  | .string s => .ok s
  | node => .error (wrongType node "a string")

def endpoint : Node → Except String Endpoint
  | .string s =>
    match Endpoint.ofString? s with
    | some endpoint => .ok endpoint
    | none => .error "invalid socket address syntax"
  | node => .error (wrongType node "socket address")

def policyOfName (name : String) : Except String DuplicatePolicy :=
  match DuplicatePolicy.ofName? name with
  | some policy => .ok policy
  | none => .error s!"unknown variant `{name}`, expected `evict` or `reject`"

/-- A policy is its name, or a table from its name alone to something empty. -/
def policy : Node → Except String DuplicatePolicy
  | .string name => policyOfName name
  | .table _ [] => .error "wanted exactly 1 element, found 0 elements"
  | .table _ [(name, content)] => do
    let policy ← policyOfName name
    match content with
    | .array [] | .tables [] | .table _ [] => return policy
    | .array _ | .table _ _ => .error "expected empty table"
    | .tables _ => .error "expected empty array"
    | .string _ => .error "expected table, found string"
    | .integer _ => .error "expected table, found integer"
    | .float _ => .error "expected table, found float"
    | .boolean _ => .error "expected table, found boolean"
    | .datetime => .error "expected table, found datetime"
  | .table _ _ => .error "wanted exactly 1 element, more than 1 element"
  | _ => .error "wanted string or table"

def set (settings : Settings) (key : String) (node : Node) : Except String Settings :=
  match key with
  | "listen_addr" => do return { settings with listenAddr := ← endpoint node }
  | "call_timeout_secs" => do return { settings with callTimeoutSecs := ← natural "u64" node }
  | "handshake_timeout_secs" => do
    return { settings with handshakeTimeoutSecs := ← natural "u64" node }
  | "outbound_queue_capacity" => do
    return { settings with outboundQueueCapacity := ← natural "usize" node }
  | "max_concurrent_handlers" => do
    return { settings with maxConcurrentHandlers := ← natural "usize" node }
  | "handler_queue_capacity" => do
    return { settings with handlerQueueCapacity := ← natural "usize" node }
  | "max_frame_size" => do return { settings with maxFrameSize := ← natural "usize" node }
  | "duplicate_identity" => do return { settings with duplicateIdentity := ← policy node }
  | "log_level" => do return { settings with logLevel := ← text node }
  | _ => .ok settings

def aboutTypes : List String := [
  "invalid type", "invalid value", "unknown variant", "invalid socket address syntax",
  "wanted string or table", "wanted exactly 1 element, ", "expected table, found "]

/-- The last line of a diagnostic about the type of a value; any other counts as one of syntax. -/
def diagnostic (reason : String) : String :=
  let last := (reason.splitOn "\n").getLastD ""
  if aboutTypes.any (fun start => start.isPrefixOf last) then last else "syntax"

def unreadable (reason : String) : LinkError := .config s!"TOML parse error: {diagnostic reason}"

/-- Settings from TOML text. The first entry that is at fault is reported. -/
def ofToml (content : String) : Except LinkError Settings :=
  match Toml.parse? content with
  | none => .error (unreadable "malformed")
  | some entries =>
    match entries.foldlM (fun settings (key, node) => settings.set key node) ({} : Settings) with
    | .error reason => .error (unreadable reason)
    | .ok settings => do
      settings.validate
      return settings

def ofFile : Option Bytes → Except LinkError Settings
  | none => .error (.config "cannot read <path>: No such file or directory (os error 2)")
  | some bytes =>
    match Utf8.decode? bytes with
    | some content => ofToml content
    | none => .error (.config "cannot read <path>: stream did not contain valid UTF-8")

end Settings

end Fleetwire
