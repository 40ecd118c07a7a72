import Fleetwire.Proofs.Dialogue.Sound

namespace Fleetwire

open MessagePack

namespace System

variable {s s' : System} {past : List System} {c : ConnectionId} {t : TaskId} {x : Connection} {call : Call}
  {answers : Answers} {command : Command} {value : command.request.Value} {request response : Message}

def Asks (s : System) (c : ConnectionId) (t : TaskId) (command : Command) (value : command.request.Value)
    (request : Message) : Prop :=
  ∃ call, s.call? c t = some call ∧ call.kind = command.kind ∧ call.payload = command.request.encode value ∧
    call.phase.request? = some request

def Calls (s : System) (c : ConnectionId) (t : TaskId) (command : Command) (value : command.request.Value) : Prop :=
  ∃ call, s.tasks[t]? = some (.operate c (.calling (some command.response) call)) ∧ call.kind = command.kind ∧
    call.payload = command.request.encode value

def Returns (s : System) (answers : Answers) (c : ConnectionId) (t : TaskId) (command : Command)
    (value : command.request.Value) (request : Message) : Prop :=
  s.tasks[t]? = some (.operate c (.finished (.ok (.value command.response (answers command request.id value)))))

theorem result_of_reply (member : command ∈ Command.all)
    (replied : response = request.reply (command.response.encode (answers command request.id value)))
    (small : response.encode.length ≤ Frame.maxLength) (kind : MessageKind) :
    Operating.result kind (some command.response) (Call.outcome response) =
      .ok (.value command.response (answers command request.id value)) := by
  have short := (Message.fits_of_length small).1
  subst replied
  have decoded := Shape.decode_encode (Command.proper member).2 short
  have outcome : Call.outcome (request.reply (command.response.encode (answers command request.id value))) =
      .ok (command.response.encode (answers command request.id value)) := rfl
  have typed : Call.typed kind command.response (command.response.encode (answers command request.id value)) =
      .ok (answers command request.id value) := by
    rw [Call.typed, decoded]
  rw [outcome, Operating.result]
  show (do return Reply.value command.response (← Call.typed kind command.response _)) = _
  rw [typed]
  rfl

theorem Advances.result (h : Advances answers c s' s past) (here : s.connections[c]? = some x) {slot : SlotId}
    {deadline : Nat} (calls : s.call? c t = some call) (waits : call.phase = .wait request slot deadline)
    (filled : x.router.slots[slot]? = some (.filled response)) (member : command ∈ Command.all)
    (kind : call.kind = command.kind) (payload : call.payload = command.request.encode value) :
    Operating.result call.kind (some command.response) (Call.outcome response) =
      .ok (.value command.response (answers command request.id value)) := by
  have named : call.phase.request? = some request := by rw [waits]; rfl
  obtain ⟨e, there, tracks⟩ := (h.tracked calls).inSlot request slot named (by rw [waits]; rfl)
  cases (exchange_of_connection here).symm.trans there
  generalize Traffic.delivered _ _ = came at tracks
  cases tracks with
  | waiting isOpen => cases filled.symm.trans isOpen.waits
  | closed isClosed => cases filled.symm.trans isClosed
  | @filled message filled' _ own routed =>
    obtain rfl : response = message := by
      cases filled.symm.trans filled'
      rfl
    obtain ⟨heard, -⟩ := (h.before x here).heard h.run.earlier here h.dialogue.typed h.dialogue.distinct
    obtain ⟨m, sent, small, small', replies⟩ := heard response routed
    have asked : request = command.ask request.id value := by
      obtain ⟨k, -, same⟩ := h.named.request t call request (call?_eq_some.1 calls) named
      rw [same, kind, payload]
      rfl
    -- No other message with this id was sent.
    obtain rfl : m = request := by
      have waits := h.dialogue.waiting t call request slot deadline calls waits
      exact List.inj_on_of_nodup_map h.dialogue.distinct sent waits ((Answers.reply?_same replies).1.symm.trans own)
    refine result_of_reply member ?_ small' call.kind
    rw [asked] at small replies
    rw [Answers.reply?_ask member small] at replies
    rw [asked]
    exact (Option.some.inj replies).symm

theorem Calls.step (h : Advances answers c s' s past) (calls : s.Calls c t command value)
    (member : command ∈ Command.all) : s'.Calls c t command value ∨ ∃ request, s.Asks c t command value request ∧
      request ∈ sends c (s :: past) ∧ s'.Returns answers c t command value request := by
  obtain ⟨call, found, kind, payload⟩ := calls
  have inside := h.founded.tasks _ (List.mem_of_getElem? found) c (List.mem_singleton_self c)
  have here := List.getElem?_eq_getElem inside
  generalize s.connections[c] = x at here
  have calls : s.call? c t = some call := by simp [call?, found, Task.call?, Task.part, Operating.part]
  rcases h.run.happening.operation h.founded found with same | broken | ⟨out, acts, result⟩
  · exact .inl ⟨call, same, kind, payload⟩
  · have inside' := h.run.basis.1.tasks _ (List.mem_of_getElem? broken) c (List.mem_singleton_self c)
    cases (h.after _ (List.getElem?_eq_getElem inside')).typed t _ broken
  · obtain ⟨⟨progress, s₁⟩, acted, rfl⟩ := List.mem_map.1 acts
    have queues := Operating.next_queues here acts
    have after {operation : Operating} : (s₁.setTask t (.operate c operation)).tasks[t]? =
        some (.operate c operation) := by
      have within : t < s₁.tasks.length := by
        have tasks : s₁.tasks = s.tasks := by cases progress <;> exact queues.tasks
        exact tasks ▸ (List.getElem?_eq_some_iff.1 found).1
      exact List.getElem?_set_self within
    cases progress with
    | going phase =>
      refine .inl ⟨{ call with phase }, ?_, kind, payload⟩
      rw [result]
      exact after
    | ended response =>
      obtain ⟨n, f, -, act, -⟩ := Call.next_comes here acted
      have thrives := h.thrives calls (exchange_of_connection here) act
      generalize phaseEq : call.phase = phase at thrives
      generalize ended : Progress.ended response = progress at thrives
      cases thrives with
      | @answer request slot deadline message filled =>
        cases ended
        have returns := h.result here calls phaseEq filled member kind payload
        refine .inr ⟨request, ⟨call, calls, kind, payload, by rw [phaseEq]; rfl⟩,
          h.dialogue.waiting t call request slot deadline calls phaseEq, ?_⟩
        rw [Returns, result]
        dsimp only
        rw [returns]
        exact after
      | forget => exact absurd phaseEq (h.dialogue.unforgotten t _ call _ _ found)
      | register | goOn | sent | tooLong => cases ended

theorem Returns.step (h : Advances answers c s' s past) (returns : s.Returns answers c t command value request) :
    s'.Returns answers c t command value request := by
  rcases h.run.happening.operation h.founded returns with same | broken | ⟨out, acts, -⟩
  · exact same
  · have inside := h.run.basis.1.tasks _ (List.mem_of_getElem? broken) c (List.mem_singleton_self c)
    cases (h.after _ (List.getElem?_eq_getElem inside)).typed t _ broken
  · cases acts

/-- A call that was ever begun goes on, or has returned what the peer has chosen in answer to its request. -/
theorem Dialogue.fate (h : Dialogue answers c s past) (member : command ∈ Command.all) {former : System}
    (earlier : former ∈ s :: past) (calls : former.Calls c t command value) :
    s.Calls c t command value ∨ ∃ state ∈ s :: past, ∃ request, state.Asks c t command value request ∧
      request ∈ sends c (s :: past) ∧ s.Returns answers c t command value request := by
  induction past generalizing s with
  | nil =>
    rw [List.mem_singleton.1 earlier] at calls
    exact .inl calls
  | cons before past ih =>
    rcases List.mem_cons.1 earlier with rfl | earlier
    · exact .inl calls
    · rcases ih h.earlier earlier with calls | ⟨state, among, request, asks, sent, returns⟩
      · refine (calls.step h.advances member).imp_right fun ⟨request, asks, sent, returns⟩ => ?_
        exact ⟨before, List.mem_cons_of_mem _ List.mem_cons_self, request, asks, List.mem_append_left _ sent, returns⟩
      · exact .inr ⟨state, List.mem_cons_of_mem _ among, request, asks, List.mem_append_left _ sent,
          returns.step h.advances⟩

end System

end Fleetwire
