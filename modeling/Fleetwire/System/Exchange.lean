import Fleetwire.System

namespace Fleetwire

/-- Sends a message over a connection. A sender in the line goes on when there is room for its envelope,
and gives up when the connection is to be closed. -/
def Sending.next (s : System) (c : ConnectionId) (t : TaskId) (message : Message) :
    Sending → List (Progress Sending (Except LinkError Unit) × System)
  | .check =>
    match s.connections[c]? with
    | none => []
    | some connection =>
      let limit := connection.settings.maxFrameSize
      let envelope := message.encode
      if connection.closed then [(.ended (.error .disconnected), s)]
      else if limit < envelope.length then
        [(.ended (.error (.stream (.frameTooLarge envelope.length limit))), s)]
      else [(.going (.queue envelope), s)]
  | .queue envelope =>
    [(.going (.wait envelope), s.update c fun x => { x with outbox := x.outbox.join t })]
  | .wait envelope =>
    match s.connections[c]? with
    | none => []
    | some connection =>
      let givenUp := (.ended (.error .disconnected),
        s.update c fun x => { x with outbox := x.outbox.leave t })
      if !connection.outbox.isOpen then [givenUp]
      else
        (if connection.outbox.hasRoomFor t then
          [(.ended (.ok ()), s.update c fun x => { x with outbox := x.outbox.accept t envelope })]
        else []) ++
        if connection.halted then [givenUp] else []

namespace Call

/-- The call has failed: it stands in no line, and its slot is no longer looked at. -/
def giveUp (s : System) (c : ConnectionId) (t : TaskId) (slot : SlotId) : System :=
  s.update c fun x =>
    { x with outbox := x.outbox.leave t, router := x.router.abandon slot }

def outcome (response : Message) : Except LinkError Bytes :=
  match response.result with
  | .ok payload => .ok payload
  | .error (kind, text) => .error (.remote kind text)

def expire (s : System) (c : ConnectionId) (t : TaskId) (request : Message) (slot : SlotId)
    (deadline : Nat) (timeout : Duration) : List (Progress Calling (Except LinkError Bytes) × System) :=
  if deadline ≤ s.now then [(.going (.forget request (.timeout timeout)), giveUp s c t slot)] else []

def timedOut (connection : Connection) (request : Message) (timeout : Duration) : LogLine :=
  ⟨.warn, "Call timed out", [connection.addrField, ("kind", request.kind.display),
    ("timeout", timeout.display)]⟩

/-- Carries a call on. Its time counts from its beginning, and is looked at only when nothing else
can be done. -/
def next (s : System) (c : ConnectionId) (t : TaskId) (call : Call) :
    List (Progress Calling (Except LinkError Bytes) × System) :=
  match s.connections[c]? with
  | none => []
  | some connection =>
    match call.phase with
    | .register =>
      let request := Message.request (.fresh s.nextId) call.kind call.payload
      let (slot, router) := connection.router.expect request.id
      [(.going (.send request slot (s.now + call.timeout.nanoseconds) .check),
        { s.update c (fun x => { x with router }) with nextId := s.nextId + 1 })]
    | .send request slot deadline phase =>
      match phase.next s c t request with
      | [] => expire s c t request slot deadline call.timeout
      | outcomes => outcomes.map fun (progress, s) =>
        match progress with
        | .going phase => (.going (.send request slot deadline phase), s)
        | .ended (.ok ()) => (.going (.wait request slot deadline), s)
        | .ended (.error error) => (.going (.forget request error), giveUp s c t slot)
    | .wait request slot deadline =>
      match connection.router.slots[slot]? with
      | some (.filled response) => [(.ended (outcome response), s)]
      | some .waiting => expire s c t request slot deadline call.timeout
      | _ => [(.going (.forget request .disconnected), s)]
    | .forget request error =>
      let s := s.update c fun x => { x with router := (x.router.cancel request.id).2 }
      match error with
      | .timeout after =>
        [(.ended (.error error), { s with logs := s.logs ++ [timedOut connection request after] })]
      | _ => [(.ended (.error error), s)]

def typed (kind : MessageKind) (shape : MessagePack.Shape) (payload : Bytes) :
    Except LinkError shape.Value :=
  match shape.decode payload with
  | .ok value => .ok value
  | .error e => .error (.decode s!"{kind.display} response: {e.message}")

/-- Breaks a call off. Its id is still expected. -/
def abort (s : System) (c : ConnectionId) (t : TaskId) (call : Call) : System :=
  match call.phase with
  | .send _ slot _ _ | .wait _ slot _ => giveUp s c t slot
  | _ => s

end Call

/-- Closes a connection. An unsupervised one is closed in place; a supervisor closes its own. -/
def Closing.next (s : System) (c : ConnectionId) : Closing → List (Progress Closing Unit × System)
  | .halt => [(.going .look, s.update c fun x => { x with halted := true })]
  | .look =>
    match s.connections[c]? with
    | none => []
    | some connection => [(.going (if connection.supervised then .wait else .claim), s)]
  | .claim =>
    match s.connections[c]? with
    | none => []
    | some connection =>
      if connection.closed then [(.going .wait, s)]
      else [(.going .failAll, s.update c fun x => { x with closed := true })]
  | .failAll =>
    [(.going .publish, s.update c fun x => { x with router := x.router.failAll.2 })]
  | .publish => [(.ended (), s.update c fun x => { x with stage := .closed })]
  | .wait =>
    match s.connections[c]? with
    | none => []
    | some connection => if connection.stage = .closed then [(.ended (), s)] else []

end Fleetwire
