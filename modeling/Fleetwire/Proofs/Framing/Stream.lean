import Fleetwire.Proofs.Framing.Laws

namespace Fleetwire

open FrameBuffer (Answer)

inductive FrameBuffer.Ended : List Arrival → Prop where
  | done : Ended []
  | closed (rest : List Arrival) : Ended (.bytes [] :: rest)
  | later {stream : List Arrival} (ended : Ended stream) : Ended (.notReady :: stream)

namespace Reader

/-- The reader answers whatever is asked of it without taking any more of the stream, which has come
to its end or to a frame over the limit. -/
def Exhausted (reader : Reader) : Prop :=
  reader.Drained ∧ (reader.stream = [] ∨
    ∃ length, Frame.announced? reader.buffer.held = some length ∧ reader.buffer.limit < length)

/-- The stream was used up to an end of it, and what it brought has not completed a frame. -/
def UsedUp (reader after : Reader) : Prop :=
  ∃ used, (reader.stream = used ∧ after.stream = [] ∨
      reader.stream = used ++ .bytes [] :: after.stream) ∧
    after.buffer.held = reader.buffer.held ++ used.flatMap Arrival.contents ∧
    Frame.Missing reader.buffer.limit after.buffer.held

variable {limit length : Nat} {reader : Reader} {u : Use} {answer : Answer} {arrival : Arrival}
  {later : List Arrival} {payload frame rest : Bytes}

theorem not_drained (encoded : Frame.encode payload = .ok frame)
    (fits : payload.length ≤ reader.buffer.limit) (held : reader.buffer.held = frame ++ rest) :
    ¬ reader.Drained :=
  fun drained => drained _ (FrameBuffer.next?_of_encode encoded fits held)

theorem drained_of_missing (missing : Frame.Missing reader.buffer.limit reader.buffer.held) :
    reader.Drained := by
  intro found there
  rw [FrameBuffer.next?_none_iff.mpr missing] at there
  cases there

theorem drained_of_oversize (announced : Frame.announced? reader.buffer.held = some length)
    (excess : reader.buffer.limit < length) : reader.Drained := by
  intro found there
  rw [FrameBuffer.next?_error_iff.mpr ⟨length, announced, excess, rfl⟩] at there
  cases there

theorem answer_of_answering {next : Reader} {given : Answer} {held : Bytes}
    (told : (reader.use u).answers = reader.answers ++ [answer])
    (law : reader.use u = next.answering given held) (same : next.answers = reader.answers) :
    answer = given := by
  rw [law, answering, same] at told
  simpa using told.symm

theorem missing_of_told_end (reads : u.reads)
    (told : (reader.use u).answers = reader.answers ++ [answer])
    (final : answer = .ok none ∨ ∃ n, answer = .error (.truncatedFrame n)) :
    Frame.Missing reader.buffer.limit reader.buffer.held := by
  have asks := Use.asks_of_reads reads
  obtain ⟨payload, frame, rest, encoded, fits, held⟩ | ⟨length, announced, excess⟩ | missing :=
    reader.held_cases
  · obtain rfl := answer_of_answering told (reader.lawful.complete asks encoded fits held) rfl
    obtain final | ⟨_, final⟩ := final <;> cases final
  · obtain rfl := answer_of_answering told (reader.lawful.oversize asks announced excess) rfl
    obtain final | ⟨_, final⟩ := final <;> cases final
  · exact missing

theorem UsedUp.behind {after : Reader} (next : reader.stream = arrival :: later)
    (usedUp : (reader.receiving arrival.contents later).UsedUp after) : reader.UsedUp after := by
  obtain ⟨used, split, held, missing⟩ := usedUp
  refine ⟨arrival :: used, ?_, ?_, missing⟩
  · rw [next]
    exact split.imp (fun ⟨all, stop⟩ => ⟨congrArg _ all, stop⟩) (congrArg _)
  · rw [held, receiving, List.flatMap_cons, List.append_assoc]

theorem UsedUp.here {answer : Answer}
    (missing : Frame.Missing reader.buffer.limit reader.buffer.held)
    (stop : reader.stream = [] ∧ later = [] ∨ reader.stream = .bytes [] :: later) :
    reader.UsedUp ({ reader with stream := later }.answering answer reader.buffer.held) :=
  ⟨[], stop.imp id id, (List.append_nil _).symm, missing⟩

theorem use_told_end (reads : u.reads)
    (told : (reader.use u).answers = reader.answers ++ [answer])
    (final : answer = .ok none ∨ ∃ n, answer = .error (.truncatedFrame n)) :
    reader.UsedUp (reader.use u) ∧ answer = .ofEnd (reader.use u).buffer.held := by
  induction next : reader.stream generalizing reader with
  | nil =>
    have missing := missing_of_told_end reads told final
    have law := reader.lawful.ended reads missing (.inl ⟨next, rfl⟩)
    obtain rfl := answer_of_answering told law rfl
    rw [law]
    exact ⟨.here missing (.inl ⟨next, rfl⟩), rfl⟩
  | cons arrival later ih =>
    have missing := missing_of_told_end reads told final
    -- An arrival that does not answer the read is passed over, and the end is told further on.
    have passed (law : reader.use u = (reader.receiving arrival.contents later).use u) :
        reader.UsedUp (reader.use u) ∧ answer = .ofEnd (reader.use u).buffer.held := by
      rw [law] at told ⊢
      obtain ⟨usedUp, told⟩ := ih told rfl
      exact ⟨usedUp.behind next, told⟩
    cases arrival with
    | bytes chunk =>
      by_cases empty : chunk = []
      · subst empty
        have law := reader.lawful.ended reads missing (.inr next)
        obtain rfl := answer_of_answering told law rfl
        rw [law]
        exact ⟨.here missing (.inr next), rfl⟩
      · exact passed (reader.lawful.arrived reads missing next empty)
    | fault reason =>
      obtain rfl := answer_of_answering told (reader.lawful.failed reads missing next) rfl
      obtain final | ⟨_, final⟩ := final <;> cases final
    | notReady =>
      cases u with
      | extend => cases reads
      | poll => cases reads
      | read =>
        have law := reader.lawful.waited missing next
        rw [← receiving_nil] at law
        exact passed law
      | attempt =>
        rw [reader.lawful.gaveUp missing next] at told
        simp at told

def total (reader : Reader) : Bytes := reader.received ++ reader.stream.flatMap Arrival.contents

/-- A bound on how many reads it takes until the reader is exhausted. -/
def work (reader : Reader) : Nat :=
  reader.buffer.held.length + (reader.stream.flatMap Arrival.contents).length + reader.stream.length

theorem total_use (asks : u.asks) : (reader.use u).total = reader.total := by
  obtain ⟨answer, after, rest, how, used, -, split, -⟩ := takes_use asks
  rw [how, total, received_answered split, total, split, List.flatMap_append, List.append_assoc]
  rfl

theorem total_run {uses : List Use} (asks : ∀ u ∈ uses, u.asks) :
    (reader.run uses).total = reader.total := by
  induction uses generalizing reader with
  | nil => rfl
  | cons u uses ih =>
    have rest : ((reader.use u).run uses).total = (reader.use u).total :=
      ih fun u mem => asks u (List.mem_cons_of_mem _ mem)
    exact rest.trans (total_use (asks u List.mem_cons_self))

theorem work_use (asks : u.asks) : (reader.use u).work ≤ reader.work := by
  obtain ⟨answer, after, rest, how, used, frames, split, -, -, -, same⟩ := takes_use asks
  have lengths := congrArg List.length same
  simp only [List.length_append] at lengths
  rw [how]
  simp only [work, answered, split, List.flatMap_append, List.length_append]
  omega

theorem work_use_lt (reads : u.reads) (going : ¬ reader.Exhausted) :
    (reader.use u).work < reader.work := by
  have law := reader.lawful
  have asks := Use.asks_of_reads reads
  obtain ⟨payload, frame, rest, encoded, fits, held⟩ | ⟨length, announced, excess⟩ | missing :=
    reader.held_cases
  · have size := Frame.length_encode encoded
    rw [law.complete asks encoded fits held]
    simp only [work, answering, held, List.length_append, size, Frame.lengthSize]
    omega
  · exact absurd ⟨drained_of_oversize announced excess, .inr ⟨length, announced, excess⟩⟩ going
  · rcases next : reader.stream with _ | ⟨arrival, later⟩
    · exact absurd ⟨drained_of_missing missing, .inl next⟩ going
    · have less : ({ reader with stream := later } : Reader).work < reader.work := by
        simp only [work, next, List.flatMap_cons, List.length_append, List.length_cons]
        omega
      cases arrival with
      | bytes chunk =>
        by_cases empty : chunk = []
        · subst empty
          rw [law.ended reads missing (.inr next)]
          exact less
        · rw [law.arrived reads missing next empty]
          refine Nat.lt_of_le_of_lt (work_use asks) ?_
          simp only [work, receiving, next, List.flatMap_cons, Arrival.contents, List.length_append,
            List.length_cons]
          omega
      | fault reason =>
        rw [law.failed reads missing next]
        exact less
      | notReady =>
        cases u with
        | extend => cases reads
        | poll => cases reads
        | read =>
          rw [law.waited missing next]
          exact Nat.lt_of_le_of_lt (work_use rfl) less
        | attempt =>
          rw [law.gaveUp missing next]
          exact less

theorem exhausted_of_work (none : reader.work = 0) : reader.Exhausted := by
  have held : reader.buffer.held = [] := List.eq_nil_of_length_eq_zero (by unfold work at none; omega)
  have stream : reader.stream = [] := List.eq_nil_of_length_eq_zero (by unfold work at none; omega)
  refine ⟨drained_of_missing (.inl ?_), .inl stream⟩
  simp [held, Frame.lengthSize]

theorem Exhausted.use (exhausted : reader.Exhausted) (asks : u.asks) :
    (reader.use u).Exhausted := by
  obtain ⟨drained, stop⟩ := exhausted
  have law := reader.lawful
  -- Nothing is left to take, so that only an answer is added.
  have same : ∃ answer, reader.use u = reader.answering answer reader.buffer.held := by
    obtain ⟨payload, frame, rest, encoded, fits, held⟩ | ⟨length, announced, excess⟩ | missing :=
      reader.held_cases
    · exact absurd drained (not_drained encoded fits held)
    · exact ⟨_, law.oversize asks announced excess⟩
    · have done : reader.stream = [] := by
        obtain done | ⟨length, announced, excess⟩ := stop
        · exact done
        · exact absurd (missing.within announced) (Nat.not_le.mpr excess)
      by_cases reads : u.reads
      · exact ⟨_, law.ended reads missing (.inl ⟨done, done⟩)⟩
      · cases u with
        | extend => cases asks
        | poll => exact ⟨_, law.polled missing⟩
        | _ => exact absurd rfl reads
  obtain ⟨answer, same⟩ := same
  rw [same]
  exact ⟨drained, stop⟩

theorem exhausted_run {uses : List Use} (asks : ∀ u ∈ uses, u.asks)
    (enough : reader.Exhausted ∨ reader.work ≤ uses.countP Use.reads) :
    (reader.run uses).Exhausted := by
  induction uses generalizing reader with
  | nil => exact enough.elim id fun none => exhausted_of_work (Nat.le_zero.mp none)
  | cons u uses ih =>
    have first := asks u List.mem_cons_self
    have rest := fun u mem => asks u (List.mem_cons_of_mem _ mem)
    have enough : (reader.use u).Exhausted ∨ (reader.use u).work ≤ uses.countP Use.reads := by
      by_cases exhausted : reader.Exhausted
      · exact .inl (exhausted.use first)
      · have enough := enough.resolve_left exhausted
        rw [List.countP_cons] at enough
        right
        by_cases reads : u.reads
        · have less := work_use_lt reads exhausted
          rw [if_pos reads] at enough
          omega
        · have less : (reader.use u).work ≤ reader.work := work_use first
          rw [if_neg reads] at enough
          omega
    exact ih rest enough

theorem Exhausted.cut (exhausted : reader.Exhausted) (kept : reader.Kept limit) :
    Cut limit reader.total reader.payloads
      (reader.buffer.held ++ reader.stream.flatMap Arrival.contents) := by
  obtain ⟨drained, stop⟩ := exhausted
  obtain ⟨⟨frames, written, split⟩, fits, ends⟩ := kept.cut drained
  refine ⟨⟨frames, written, by rw [total, split, List.append_assoc]⟩, fits, ?_⟩
  obtain done | ⟨length, announced, excess⟩ := stop
  · simpa [done] using ends
  · exact .oversize length (Frame.announced?_append announced _) (kept.bound ▸ excess)

theorem drains (reader : Reader) :
    ∃ polls, (reader.run (List.replicate polls .poll)).Drained ∧
      (reader.run (List.replicate polls .poll)).received = reader.received := by
  obtain ⟨payload, frame, rest, encoded, fits, held⟩ | ⟨length, announced, excess⟩ | missing :=
    reader.held_cases
  · have polled := reader.lawful.complete (u := .poll) rfl encoded fits held
    have shorter : (reader.use .poll).buffer.held.length < reader.buffer.held.length := by
      have size := Frame.length_encode encoded
      rw [polled, held, List.length_append, size, Frame.lengthSize]
      simp only [answering]
      omega
    have same : (reader.use .poll).received = reader.received := by rw [polled, answering]
    obtain ⟨polls, drained, received⟩ := drains (reader.use .poll)
    exact ⟨polls + 1, drained, received.trans same⟩
  · exact ⟨0, drained_of_oversize announced excess, rfl⟩
  · exact ⟨0, drained_of_missing missing, rfl⟩
termination_by reader.buffer.held.length

theorem use_of_oversize (announced : Frame.announced? reader.buffer.held = some length)
    (excess : reader.buffer.limit < length) (u : Use) :
    (∃ more, (reader.use u).buffer = reader.buffer.extend more) ∧
      (reader.use u).answers = reader.answers ++
        List.replicate (if u.asks then 1 else 0)
          (.error (.frameTooLarge length reader.buffer.limit)) := by
  by_cases asks : u.asks
  · rw [reader.lawful.oversize asks announced excess, if_pos asks]
    exact ⟨⟨[], (reader.buffer.extend_nil).symm⟩, rfl⟩
  · cases u with
    | extend chunk => exact ⟨⟨chunk, rfl⟩, (List.append_nil _).symm⟩
    | _ => exact absurd rfl asks

theorem run_of_oversize (announced : Frame.announced? reader.buffer.held = some length)
    (excess : reader.buffer.limit < length) (uses : List Use) :
    (reader.run uses).answers = reader.answers ++
      List.replicate (uses.countP Use.asks) (.error (.frameTooLarge length reader.buffer.limit)) := by
  induction uses generalizing reader with
  | nil => simp [run]
  | cons u uses ih =>
    obtain ⟨⟨more, buffer⟩, answers⟩ := use_of_oversize announced excess u
    have limit : (reader.use u).buffer.limit = reader.buffer.limit := by rw [buffer]; rfl
    have announced' : Frame.announced? (reader.use u).buffer.held = some length := by
      rw [buffer]
      exact Frame.announced?_append announced more
    have rest := ih announced' (limit ▸ excess)
    rw [limit, answers] at rest
    rw [List.countP_cons, Nat.add_comm, ← List.replicate_append_replicate, ← List.append_assoc]
    exact rest

theorem answers_read_of_ended {stream : List Arrival} (ended : FrameBuffer.Ended stream)
    (next : reader.stream = stream) (missing : Frame.Missing reader.buffer.limit reader.buffer.held) :
    (reader.use .read).answers = reader.answers ++ [.ofEnd reader.buffer.held] := by
  induction ended generalizing reader with
  | done => rw [reader.lawful.ended rfl missing (.inl ⟨next, rfl⟩), answering]
  | closed => rw [reader.lawful.ended rfl missing (.inr next), answering]
  | later _ ih =>
    rw [reader.lawful.waited missing next]
    exact ih rfl missing

theorem answers_of_ended (drained : reader.Drained) (ended : FrameBuffer.Ended reader.stream) :
    ((reader.use .read).answers = reader.answers ++ [.ok none] ↔ reader.buffer.held = []) ∧
      ∀ n, (reader.use .read).answers = reader.answers ++ [.error (.truncatedFrame n)] ↔
        n = reader.buffer.held.length ∧ reader.buffer.held ≠ [] ∧
          ∀ length, Frame.announced? reader.buffer.held = some length → length ≤ reader.buffer.limit := by
  obtain ⟨payload, frame, rest, encoded, fits, held⟩ | ⟨length, announced, excess⟩ | missing :=
    reader.held_cases
  · exact absurd drained (not_drained encoded fits held)
  · have held : reader.buffer.held ≠ [] := by
      rintro empty
      simp [empty, Frame.announced?, Frame.lengthSize] at announced
    rw [reader.lawful.oversize rfl announced excess]
    refine ⟨by simp [answering, held], fun n => ?_⟩
    simp only [answering, List.append_cancel_left_eq, List.cons.injEq, Except.error.injEq,
      reduceCtorEq, false_and, false_iff, not_and, not_forall]
    exact fun _ _ => ⟨length, announced, Nat.not_le.mpr excess⟩
  · have within : ∀ length, Frame.announced? reader.buffer.held = some length →
        length ≤ reader.buffer.limit := fun length => missing.within
    rw [answers_read_of_ended ended rfl missing, FrameBuffer.Answer.ofEnd]
    by_cases empty : reader.buffer.held = []
    · simp [empty]
    · simpa [empty, eq_comm] using within

end Reader

/-- However a stream arrives and whichever uses are mixed, what is returned are the frames of what was
received. Nothing is lost at any moment. Enough polls get all that is held, and enough reads get all of
the stream; what then is left decides what else is heard: a length over the limit for ever, and at the
end of the stream, and only there, whether it was cut short. -/
theorem frames_of_stream (limit : Nat) (stream : List Arrival) (uses : List Use) :
    let reader := (Reader.ofStream limit stream).run uses
    ((∃ frames, Written reader.payloads frames ∧ reader.received = frames ++ reader.buffer.held) ∧
      ∀ payload ∈ reader.payloads, payload.length ≤ limit) ∧
    reader.Lawful ∧
    (∃ polls, (reader.run (List.replicate polls .poll)).Drained ∧
      (reader.run (List.replicate polls .poll)).received = reader.received) ∧
    (∃ reads, ∀ later, (∀ u ∈ later, u.asks) → reads ≤ later.countP Use.reads →
      (reader.run later).Exhausted ∧
        Cut limit (reader.received ++ reader.stream.flatMap Arrival.contents)
          (reader.run later).payloads
          ((reader.run later).buffer.held ++ (reader.run later).stream.flatMap Arrival.contents)) ∧
    (reader.Drained → Cut limit reader.received reader.payloads reader.buffer.held ∧
      ∀ payloads rest, Cut limit reader.received payloads rest →
        payloads = reader.payloads ∧ rest = reader.buffer.held) ∧
    (∀ length, Frame.announced? reader.buffer.held = some length → limit < length →
      ∀ later, (reader.run later).answers = reader.answers ++
        List.replicate (later.countP Use.asks) (.error (.frameTooLarge length limit))) ∧
    (∀ u answer, u.reads → (reader.use u).answers = reader.answers ++ [answer] →
      (answer = .ok none ∨ ∃ n, answer = .error (.truncatedFrame n)) →
      reader.UsedUp (reader.use u) ∧ answer = .ofEnd (reader.use u).buffer.held) ∧
    (reader.Drained → FrameBuffer.Ended reader.stream →
      ((reader.use .read).answers = reader.answers ++ [.ok none] ↔ reader.buffer.held = []) ∧
      ∀ n, (reader.use .read).answers = reader.answers ++ [.error (.truncatedFrame n)] ↔
        n = reader.buffer.held.length ∧ reader.buffer.held ≠ [] ∧
          ∀ length, Frame.announced? reader.buffer.held = some length → length ≤ limit) := by
  intro reader
  have kept : reader.Kept limit := (Reader.kept_ofStream limit stream).run uses
  refine ⟨⟨kept.split, kept.fits⟩, reader.lawful, reader.drains,
    ⟨reader.work, fun later asks enough => ?_⟩, fun drained => ?_,
    fun length announced excess later => ?_,
    fun u answer reads told final => Reader.use_told_end reads told final, fun drained ended => ?_⟩
  · have exhausted := Reader.exhausted_run asks (.inr enough)
    have cut := exhausted.cut (kept.run later)
    rw [Reader.total_run asks] at cut
    exact ⟨exhausted, cut⟩
  · have cut := kept.cut drained
    exact ⟨cut, fun payloads rest other => other.unique cut⟩
  · have told := Reader.run_of_oversize announced (kept.bound ▸ excess) later
    rwa [kept.bound] at told
  · have told := Reader.answers_of_ended drained ended
    rwa [kept.bound] at told

/-- A frame in three pieces, with a read that is given up and one that fails on the way. -/
example :
    ((Reader.ofStream 2 [.bytes [0, 0], .notReady, .bytes [0, 1], .fault "reset", .bytes [7, 0]]).run
      [.attempt, .read, .read, .read]).answers =
      [.error (.io "reset"), .ok (some [7]), .error (.truncatedFrame 1)] := by
  decide

end Fleetwire
