import Fleetwire.Proofs.Lifecycle.History
import Fleetwire.Proofs.Replay

namespace Fleetwire

/-- Some come, each in the place of the one before it, and the last of them goes. -/
structure Round where
  displaced : List Endpoint
  addr : Endpoint

def Round.comings (round : Round) : List Coming :=
  round.displaced.map .arrival ++ [.arrival round.addr, .departure round.addr]

structure Orderly (strict : Prop) (comings : List Coming) (rounds : List Round)
    (present : List Endpoint) : Prop where
  comings : comings = rounds.flatMap Round.comings ++ present.map .arrival
  alone : strict → (∀ round ∈ rounds, round.displaced = []) ∧ present.length ≤ 1

section Orderly

variable {strict : Prop} {comings : List Coming} {rounds : List Round} {present : List Endpoint}
  {addr : Endpoint}

theorem orderly_nil : Orderly strict [] [] [] :=
  ⟨rfl, fun _ => ⟨nofun, Nat.zero_le 1⟩⟩

theorem Orderly.mono {strict' : Prop} (h : Orderly strict comings rounds present)
    (weaker : strict' → strict) : Orderly strict' comings rounds present :=
  ⟨h.comings, fun holds => h.alone (weaker holds)⟩

theorem Orderly.arrive (h : Orderly strict comings rounds present) (free : strict → present = []) :
    Orderly strict (comings ++ [.arrival addr]) rounds (present ++ [addr]) := by
  refine ⟨by simp [h.comings], fun holds => ⟨(h.alone holds).1, ?_⟩⟩
  rw [free holds]
  exact Nat.le_refl 1

theorem Orderly.depart (h : Orderly strict comings rounds present)
    (last : present.getLast? = some addr) :
    Orderly strict (comings ++ [.departure addr]) (rounds ++ [⟨present.dropLast, addr⟩]) [] := by
  obtain ⟨displaced, rfl⟩ := List.getLast?_eq_some_iff.1 last
  refine ⟨by simp [h.comings, Round.comings], fun holds => ?_⟩
  obtain ⟨rest, short⟩ := h.alone holds
  refine ⟨fun round member => ?_, Nat.zero_le 1⟩
  rcases List.mem_append.1 member with former | new
  · exact rest round former
  · rw [List.mem_singleton.1 new]
    simpa using short

theorem Orderly.alternates (h : Orderly strict comings rounds present) (holds : strict) :
    ∃ (addrs : List Endpoint) (last : Option Endpoint), comings =
      addrs.flatMap (fun addr => [.arrival addr, .departure addr]) ++ last.toList.map .arrival := by
  obtain ⟨rest, short⟩ := h.alone holds
  refine ⟨rounds.map Round.addr, present.head?, ?_⟩
  have plain : rounds.map Round.comings =
      rounds.map fun round => [.arrival round.addr, .departure round.addr] := by
    apply List.map_congr_left
    intro round member
    rw [Round.comings, rest round member]
    rfl
  have same : present.head?.toList = present := by
    cases present with
    | nil => rfl
    | cons addr others =>
      have nobody : others = [] := List.eq_nil_of_length_eq_zero (by simpa using short)
      rw [nobody]
      rfl
  rw [h.comings, List.flatMap_map, List.flatMap_def, plain, List.flatMap_def, same]

end Orderly

section Sound

variable {x : Life} {t u : TaskId} {p : Entering} {q : Leaving} {told : List Report} {n i : Nat}
  {identity : String} {addr : Endpoint}

theorem Life.course_markOnline (h : x.course[i]? = some (.markOnline identity addr)) :
    i = 0 ∧ ∃ version, x.course[1]? = some (.publish (.connected identity version addr)) := by
  unfold Life.course at h ⊢
  split at h
  · cases h
  · rcases i with _ | _ | _ | _ | i <;> simp at h
    obtain ⟨rfl, rfl⟩ := h
    exact ⟨rfl, _, rfl⟩

theorem Life.course_markOffline (h : x.course[i]? = some (.markOffline identity)) :
    i = 2 ∧ ∃ addr, x.course[3]? = some (.publish (.disconnected identity addr)) := by
  unfold Life.course at h ⊢
  split at h
  · cases h
  · rcases i with _ | _ | _ | _ | i <;> simp at h
    subst h
    exact ⟨rfl, _, rfl⟩

theorem Entering.telling?_of_count (one : p.count = 1 ∨ p.count = 3) :
    p.telling?.toList.length = 1 := by
  cases p with
  | announcing => rfl
  | releaseIdentity entered | releaseLifecycle entered => cases entered <;> simp [count] at one
  | _ => simp [count] at one

theorem Leaving.Counts.followed (h : q.Counts p n) (odd : n = 1 ∨ n = 3) :
    1 ≤ p.telling?.toList.length + q.telling?.toList.length := by
  have arriving : n = p.count → 1 ≤ p.telling?.toList.length := by
    intro same
    exact Nat.le_of_eq (Entering.telling?_of_count (same ▸ odd)).symm
  cases q with
  | marking =>
    have two := h.1
    omega
  | announcing => exact Nat.le_add_left _ _
  | releaseIdentity | releaseLifecycle | released | finished =>
    rcases h with same | ⟨four, _⟩
    · exact Nat.le_add_right_of_le (arriving same)
    · omega
  | _ => exact Nat.le_add_right_of_le (arriving h)

theorem Sound.telling?_ne_markOffline (h : Sound x t p u q told) :
    p.telling? ≠ some (.markOffline identity) := by
  intro underWay
  cases p with
  | marking report =>
    obtain ⟨announced, known, rfl⟩ := h.marking_eq
    cases underWay
  | announcing report =>
    obtain ⟨announced, known, rfl⟩ := h.announcing_eq
    cases underWay
  | _ => cases underWay

theorem Sound.told_followed (h : Sound x t p u q told) {mark : Report} (marked : mark ∈ told) :
    ∃ i, x.course[i]? = some mark ∧ (i = 0 ∨ i = 2 → ∀ notice, x.course[i + 1]? = some notice →
      notice ∈ told ++ p.telling?.toList ++ q.telling?.toList) := by
  obtain ⟨n, counts, rfl, all⟩ := h.tellings
  obtain ⟨i, place⟩ := List.mem_iff_getElem?.1 marked
  rw [List.getElem?_take] at place
  split at place
  next less =>
    refine ⟨i, place, fun odd notice next => ?_⟩
    -- The mark arrived last only if its notice is on its way.
    have enough : i + 1 < n + p.telling?.toList.length + q.telling?.toList.length := by
      by_cases last : n = i + 1
      · have more := counts.followed (by omega)
        omega
      · omega
    rw [all]
    apply List.mem_of_getElem? (i := i + 1)
    rw [List.getElem?_take, if_pos enough, next]
  · cases place

end Sound

namespace Lifecycle

def Strict (l : Lifecycle) : Prop := ∀ c x, l.life c = some x → x.policy = .reject

/-- Who is present, as far as it was announced, while an affair goes on. -/
def Shows (l : Lifecycle) (identity : String) (present : List Endpoint) : Option Affair → Prop
  | none => present.getLast? = (l.entry identity).bind l.address
  | some (.arriving _ _) | some (.arrived _ _) => l.Strict → present = []
  | some (.leaving _ addr) | some (.left _ addr) => present.getLast? = some addr

variable {fails : Report → Prop} {l l' : Lifecycle} {past : List Lifecycle} {c : ConnectionId}
  {identity : String} {a a' : Option Affair} {rounds : List Round} {present : List Endpoint}

theorem Strict.before (h : l'.Strict) (move : l.Move fails l') : l.Strict := by
  intro c x life
  obtain ⟨x', life', _, policy⟩ := move.life life
  rw [← policy]
  exact h c x' life'

def announced (l : Lifecycle) (identity : String) : List Coming :=
  (l.toldOf identity).filterMap Report.coming?

theorem announced_of_told {report : Report} (told : l'.toldOf identity = l.toldOf identity ++ [report]) :
    l'.announced identity = l.announced identity ++ report.coming?.toList := by
  rw [announced, told, List.filterMap_append, announced]
  cases coming : report.coming? <;> simp [coming]

theorem Shows.happens (shows : l.Shows identity present a) (inv : l.Invariant)
    (move : l.Move fails l') (happens : Happens fails l l' identity a a')
    (h : Orderly l.Strict (l.announced identity) rounds present) :
    ∃ rounds present, Orderly l'.Strict (l'.announced identity) rounds present ∧
      l'.Shows identity present a' := by
  have former := h.mono fun strict : l'.Strict => strict.before move
  cases happens with
  | nothing entry presence told =>
    have same : l'.announced identity = l.announced identity := by rw [announced, told, announced]
    refine ⟨rounds, present, same ▸ former, ?_⟩
    cases a with
    | none => exact shows.trans (inv.address_of_same move entry).symm
    | some affair =>
      cases affair with
      | arriving | arrived => exact fun strict => shows (strict.before move)
      | leaving | left => exact shows
  | enter life free entry presence told =>
    have same : l'.announced identity = l.announced identity := by rw [announced, told, announced]
    refine ⟨rounds, present, same ▸ former, fun strict => ?_⟩
    have nobody := free (strict.before move _ _ life)
    -- There was no entry, so nobody was announced to be present.
    rw [Shows, nobody] at shows
    exact List.getLast?_eq_none_iff.1 shows
  | markOnline life excused holder entry presence told =>
    have same := announced_of_told told
    rw [show (Report.markOnline _ _).coming? = none from rfl, Option.toList_none, List.append_nil] at same
    exact ⟨rounds, present, same ▸ former, fun strict => shows (strict.before move)⟩
  | @announceArrival c x version life holder entry presence told =>
    have grown := announced_of_told told
    refine ⟨rounds, present ++ [x.addr], grown ▸ former.arrive fun strict => ?_, ?_⟩
    · exact shows (strict.before move)
    · rw [Shows, List.getLast?_concat, entry, Option.bind_some, inv.address_of_entry move holder, address,
        life, Option.map_some]
  | @remove c x life holder entry presence told =>
    have same : l'.announced identity = l.announced identity := by rw [announced, told, announced]
    refine ⟨rounds, present, same ▸ former, ?_⟩
    rw [Shows, holder, Option.bind_some, address, life, Option.map_some] at shows
    exact shows
  | markOffline excused holder entry presence told =>
    have same := announced_of_told told
    rw [show (Report.markOffline _).coming? = none from rfl, Option.toList_none, List.append_nil] at same
    exact ⟨rounds, present, same ▸ former, shows⟩
  | announceDeparture holder entry presence told =>
    have grown := announced_of_told told
    refine ⟨_, [], grown ▸ former.depart shows, ?_⟩
    rw [Shows, entry]
    rfl

theorem Story.orderly (story : Story fails (l :: past)) (h : l.At identity a) :
    ∃ rounds present, Orderly l.Strict (l.announced identity) rounds present ∧
      l.Shows identity present a := by
  generalize all : l :: past = states at story
  induction story generalizing l past a with
  | start =>
    cases all
    rw [at_blank h]
    exact ⟨[], [], orderly_nil, rfl⟩
  | stay _ ih =>
    cases all
    exact ih h rfl
  | move story move ih =>
    cases all
    have inv := story.invariant _ (List.mem_cons_self ..)
    obtain ⟨a₀, before, happens⟩ := inv.happens move h
    obtain ⟨rounds, present, orderly, shows⟩ := ih before rfl
    exact shows.happens inv move happens orderly

theorem Shows.underWay (shows : l.Shows identity present a)
    (h : Orderly l.Strict (l.announced identity) rounds present) :
    ∃ rounds present, Orderly l.Strict
      (l.announced identity ++ (a.bind Affair.coming?).toList) rounds present := by
  cases a with
  | none => exact ⟨rounds, present, by simpa using h⟩
  | some affair =>
    cases affair with
    | arriving | leaving => exact ⟨rounds, present, by simpa [Affair.coming?] using h⟩
    | arrived => exact ⟨rounds, _, h.arrive shows⟩
    | left => exact ⟨_, [], h.depart shows⟩

end Lifecycle

namespace System

/-- Each connection makes its reports in order and each once, a mark and then its notice; and it takes them back
only if it was taken out of the directory while it was being closed. Of each identity it is announced that
some come and the last of them goes, over and over; and if nobody displaces another, that they come and go in
turns. -/
theorem notices_once_and_in_order {s : System} {past : List System} (run : Run Ordinary (s :: past)) :
    (∀ c x, s.connections[c]? = some x →
      s.tellingsBy c <+: x.life.course ∧
      (∀ identity addr, (c, .markOnline identity addr) ∈ s.reports →
        ∃ version, .publish (.connected identity version addr) ∈ s.tellingsBy c) ∧
      (∀ identity, (c, .markOffline identity) ∈ s.reports →
        ∃ addr, .publish (.disconnected identity addr) ∈ s.tellingsBy c) ∧
      (∀ identity, .markOffline identity ∈ s.tellingsBy c →
        ∃ before after x, [after, before] <:+: s :: past ∧
          before.directory.get? identity = some c ∧ after.directory.get? identity = none ∧
          before.connections[c]? = some x ∧ x.closed)) ∧
    (∀ identity, ∃ (rounds : List Round) (present : List Endpoint),
      s.comings identity = rounds.flatMap Round.comings ++ present.map .arrival) ∧
    ((∀ x ∈ s.connections, x.settings.duplicateIdentity = .reject) → ∀ identity,
      ∃ (addrs : List Endpoint) (last : Option Endpoint), s.comings identity =
        addrs.flatMap (fun addr => [.arrival addr, .departure addr]) ++ last.toList.map .arrival) := by
  have inv := run.story.invariant _ (List.mem_cons_self ..)
  have proper := run.proper _ (List.mem_cons_self ..)
  have orderly : ∀ identity, ∃ rounds present,
      Orderly s.lifecycle.Strict (s.comings identity) rounds present := by
    intro identity
    obtain ⟨a, here⟩ := s.lifecycle.exists_at identity
    obtain ⟨rounds, present, orderly, shows⟩ := run.story.orderly here
    rw [comings_of_at proper inv here]
    exact shows.underWay orderly
  refine ⟨fun c x found => ?_, fun identity => ?_, fun strict identity => ?_⟩
  · obtain ⟨t, p, u, q, stands⟩ := inv.staffed.stands (life_of_connection found)
    have sound := inv.sound stands
    have told : ∀ {report : Report}, report.isTransition → (c, report) ∈ s.reports →
        report ∈ s.lifecycle.toldBy c := by
      intro report transition member
      simp [Lifecycle.toldBy, lifecycle, member, transition]
    rw [tellingsBy_of_stands proper inv stands]
    refine ⟨?_, fun identity addr member => ?_, fun identity member => ?_, fun identity member => ?_⟩
    · obtain ⟨n, _, _, all⟩ := sound.tellings
      rw [all]
      exact List.take_prefix ..
    · obtain ⟨i, place, followed⟩ := sound.told_followed (told rfl member)
      obtain ⟨rfl, version, next⟩ := Life.course_markOnline place
      exact ⟨version, followed (Or.inl rfl) _ next⟩
    · obtain ⟨i, place, followed⟩ := sound.told_followed (told rfl member)
      obtain ⟨rfl, addr, next⟩ := Life.course_markOffline place
      exact ⟨addr, followed (Or.inr rfl) _ next⟩
    · have reported : .markOffline identity ∈ s.lifecycle.toldBy c ++ q.telling?.toList := by
        rw [List.mem_append, List.mem_append] at member
        rcases member with (arrived | entering) | leaving
        · exact List.mem_append_left _ arrived
        · exact absurd (Option.mem_toList.1 entering) sound.telling?_ne_markOffline
        · exact List.mem_append_right _ leaving
      obtain ⟨l, l', life, follows, entry, gone, living, closed⟩ := run.story.removed stands reported
      obtain ⟨before, after, consecutive, rfl, rfl⟩ := pair_infix_lifecycle (s :: past) follows
      obtain ⟨x, here, rfl⟩ := Option.map_eq_some_iff.1 living
      exact ⟨before, after, x, consecutive, entry, gone, here, closed⟩
  · obtain ⟨rounds, present, orderly⟩ := orderly identity
    exact ⟨rounds, present, orderly.comings⟩
  · obtain ⟨rounds, present, orderly⟩ := orderly identity
    apply orderly.alternates
    intro c life living
    obtain ⟨x, here, rfl⟩ := Option.map_eq_some_iff.1 living
    exact strict x (List.mem_of_getElem? here)

/-- After one agent has taken the place of another, it goes too. -/
def turnover : List Choice := handover ++ .react (.peerEnds 1) :: .act 3 0 :: takedown 1

theorem notices_after_turnover :
    let s := (replay {} [] turnover).1
    Run Ordinary (s :: (replay {} [] turnover).2) ∧
    s.comings "host" = [.arrival (.v4 10 0 0 1 4000), .arrival (.v4 10 0 0 2 4000),
      .departure (.v4 10 0 0 2 4000)] ∧
    s.tellingsBy 0 = [.markOnline "host" (.v4 10 0 0 1 4000),
      .publish (.connected "host" "1.0" (.v4 10 0 0 1 4000))] ∧
    (∀ c x, s.connections[c]? = some x → s.tellingsBy c <+: x.life.course) ∧
    ∃ (rounds : List Round) (present : List Endpoint),
      s.comings "host" = rounds.flatMap Round.comings ++ present.map .arrival := by
  have run := run_replay_empty turnover
  obtain ⟨own, rounds, turns⟩ := notices_once_and_in_order run
  exact ⟨run, by decide +kernel, by decide +kernel, fun c x found => (own c x found).1, rounds "host"⟩

end System

end Fleetwire
