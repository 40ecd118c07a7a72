import Fleetwire.Proofs.Lifecycle.Affairs
import Fleetwire.Proofs.Replay

namespace Fleetwire

namespace Lifecycle

def Known (past : List Lifecycle) (identity : String) : Prop :=
  ∃ former ∈ past, former.entry identity ≠ none

def Recorded (past : List Lifecycle) (l : Lifecycle) (identity : String) : Option Affair → Prop
  | none =>
    (∀ addr, l.presence identity = some (.online addr) ↔
      (l.entry identity).bind l.address = some addr) ∧
    (l.presence identity = none ↔ ¬ Known past identity)
  | some (.arrived _ addr) => l.presence identity = some (.online addr) ∧ Known past identity
  | some (.left _ _) => l.presence identity = some .offline ∧ Known past identity
  | some (.arriving _ _) | some (.leaving _ _) => Known past identity

variable {fails : Report → Prop} {l l' : Lifecycle} {past : List Lifecycle} {identity : String}
  {a a' : Option Affair}

theorem Known.later (h : Known past identity) : Known (l :: past) identity := by
  obtain ⟨former, member, entry⟩ := h
  exact ⟨former, List.mem_cons_of_mem _ member, entry⟩

theorem known_of_entry {c : ConnectionId} (entry : l.entry identity = some c) :
    Known (l :: past) identity :=
  ⟨l, List.mem_cons_self .., by simp [entry]⟩

theorem known_of_same (entry : l'.entry identity = l.entry identity) :
    Known (l' :: l :: past) identity ↔ Known (l :: past) identity := by
  refine ⟨?_, Known.later⟩
  rintro ⟨former, member, present⟩
  rcases List.mem_cons.1 member with rfl | member
  · exact ⟨l, List.mem_cons_self .., entry ▸ present⟩
  · exact ⟨former, member, present⟩

theorem recorded_blank : Recorded [blank] blank identity none := by
  refine ⟨fun addr => ⟨nofun, nofun⟩, fun _ => ?_, fun _ => rfl⟩
  rintro ⟨former, member, entry⟩
  rw [List.mem_singleton.1 member] at entry
  exact entry rfl

theorem Recorded.move (inv : l.Invariant) (move : l.Move fails l')
    (online : ∀ addr, ¬ fails (.markOnline identity addr)) (offline : ¬ fails (.markOffline identity))
    (happens : Happens fails l l' identity a a') (h : Recorded (l :: past) l identity a) :
    Recorded (l' :: l :: past) l' identity a' := by
  cases happens with
  | nothing entry presence told =>
    have known : Known (l' :: l :: past) identity ↔ Known (l :: past) identity := known_of_same entry
    cases a with
    | none =>
      simp only [Recorded, presence, inv.address_of_same move entry, known]
      exact h
    | some affair =>
      cases affair <;> simp only [Recorded, presence, known] <;> exact h
  | enter life free entry presence told => exact known_of_entry entry
  | @markOnline c x failed life excused former entry presence told =>
    have effective : failed = false := by
      cases failed with
      | false => rfl
      | true => exact absurd (excused rfl) (online _)
    refine ⟨?_, Known.later h⟩
    rw [presence, effective]
    rfl
  | @announceArrival c x version life former entry presence told =>
    obtain ⟨marked, known⟩ := h
    have address : (l'.entry identity).bind l'.address = some x.addr := by
      rw [entry, Option.bind_some, inv.address_of_entry move former, Lifecycle.address, life,
        Option.map_some]
    refine ⟨fun addr => ?_, ?_⟩
    · rw [presence, marked, address, Option.some.injEq, Option.some.injEq, Presence.online.injEq]
    · rw [presence, marked]
      refine ⟨fun unset => ?_, fun unknown => absurd known.later unknown⟩
      cases unset
  | remove life former entry presence told => exact (known_of_entry former).later
  | @markOffline c addr failed excused former entry presence told =>
    have effective : failed = false := by
      cases failed with
      | false => rfl
      | true => exact absurd (excused rfl) offline
    refine ⟨?_, Known.later h⟩
    rw [presence, effective]
    rfl
  | announceDeparture former entry presence told =>
    obtain ⟨marked, known⟩ := h
    refine ⟨fun addr => ?_, ?_⟩
    · rw [presence, marked, entry]
      refine ⟨fun marked => ?_, fun entered => ?_⟩
      · cases marked
      · cases entered
    · rw [presence, marked]
      refine ⟨fun unset => ?_, fun unknown => absurd known.later unknown⟩
      cases unset

theorem Story.recorded (story : Story fails (l :: past))
    (online : ∀ addr, ¬ fails (.markOnline identity addr)) (offline : ¬ fails (.markOffline identity))
    (h : l.At identity a) : Recorded (l :: past) l identity a := by
  generalize all : l :: past = states at story
  induction story generalizing l past a with
  | start =>
    cases all
    rw [at_blank h]
    exact recorded_blank
  | @stay l₀ past₀ _ ih =>
    cases all
    have before := ih h rfl
    have known : Known (l₀ :: l₀ :: past₀) identity ↔ Known (l₀ :: past₀) identity :=
      known_of_same rfl
    cases a with
    | none => simpa only [Recorded, known] using before
    | some affair => cases affair <;> simpa only [Recorded, known] using before
  | move story move ih =>
    cases all
    have inv := story.invariant _ (List.mem_cons_self ..)
    obtain ⟨a₀, before, happens⟩ := inv.happens move h
    exact (ih before rfl).move inv move online offline happens

end Lifecycle

namespace System

/-- While the lock of an identity is free, it is on record as online exactly if the directory has an entry
for it, and at that connection's address; otherwise it is offline, or was never registered. -/
theorem presence_agrees_with_directory {s : System} {past : List System}
    (run : Run Ordinary (s :: past))
    (online : ∀ identity addr, ¬ s.collaborators.mayFail (.markOnline identity addr))
    (offline : ∀ identity, ¬ s.collaborators.mayFail (.markOffline identity)) {identity : String}
    (free : (s.directory.transition identity).isFree) :
    (∀ addr, s.records.presence? identity = some (.online addr) ↔
      ∃ c x, s.directory.get? identity = some c ∧ s.connections[c]? = some x ∧ x.addr = addr) ∧
    (s.directory.get? identity = none →
      (s.records.presence? identity = some .offline ∧
        ∃ former ∈ past, former.directory.get? identity ≠ none) ∨
      (s.records.presence? identity = none ∧
        ∀ former ∈ past, former.directory.get? identity = none)) := by
  have inv := run.story.invariant _ (List.mem_cons_self ..)
  obtain ⟨same, never⟩ := run.story.recorded (online identity) (offline identity)
    (inv.at_none_of_free free)
  have agrees : ∀ addr, s.records.presence? identity = some (.online addr) ↔
      ∃ c x, s.directory.get? identity = some c ∧ s.connections[c]? = some x ∧ x.addr = addr := by
    intro addr
    refine (same addr).trans ⟨fun found => ?_, ?_⟩
    · obtain ⟨c, entry, found⟩ := Option.bind_eq_some_iff.1 found
      obtain ⟨life, living, rfl⟩ := Option.map_eq_some_iff.1 found
      obtain ⟨x, here, rfl⟩ := Option.map_eq_some_iff.1 living
      exact ⟨c, x, entry, here, rfl⟩
    · rintro ⟨c, x, entry, here, rfl⟩
      refine Option.bind_eq_some_iff.2 ⟨c, entry, ?_⟩
      rw [Lifecycle.address, life_of_connection here]
      rfl
  refine ⟨agrees, fun free => ?_⟩
  have known : Lifecycle.Known ((s :: past).map System.lifecycle) identity ↔
      ∃ former ∈ past, former.directory.get? identity ≠ none := by
    constructor
    · rintro ⟨l, member, entry⟩
      rcases List.mem_cons.1 member with rfl | member
      · exact absurd free entry
      · obtain ⟨former, earlier, rfl⟩ := List.mem_map.1 member
        exact ⟨former, earlier, entry⟩
    · rintro ⟨former, member, entry⟩
      exact ⟨former.lifecycle, List.mem_cons_of_mem _ (List.mem_map_of_mem member), entry⟩
  cases presence : s.records.presence? identity with
  | none =>
    refine Or.inr ⟨rfl, fun former member => ?_⟩
    by_cases entry : former.directory.get? identity = none
    · exact entry
    · exact absurd (known.2 ⟨former, member, entry⟩) (never.1 presence)
  | some status =>
    cases status with
    | online addr =>
      obtain ⟨c, x, entry, _⟩ := (agrees addr).1 presence
      rw [free] at entry
      cases entry
    | offline =>
      refine Or.inl ⟨rfl, known.1 ?_⟩
      by_cases present : Lifecycle.Known ((s :: past).map System.lifecycle) identity
      · exact present
      · have absent := never.2 present
        rw [show s.lifecycle.presence identity = s.records.presence? identity from rfl, presence] at absent
        cases absent

theorem presence_agrees_after_handover :
    let s := (replay {} [] handover).1
    let past := (replay {} [] handover).2
    (s.directory.transition "host").isFree ∧ s.directory.get? "host" = some 1 ∧
    (∀ addr, s.records.presence? "host" = some (.online addr) ↔
      ∃ c x, s.directory.get? "host" = some c ∧ s.connections[c]? = some x ∧ x.addr = addr) ∧
    (s.directory.get? "host" = none →
      (s.records.presence? "host" = some .offline ∧
        ∃ former ∈ past, former.directory.get? "host" ≠ none) ∨
      (s.records.presence? "host" = none ∧
        ∀ former ∈ past, former.directory.get? "host" = none)) := by
  have free : ((replay {} [] handover).1.directory.transition "host").isFree := by decide +kernel
  exact ⟨free, by decide +kernel, presence_agrees_with_directory (run_replay_empty handover)
    (fun _ _ => not_mayFail_replay_empty handover _) (fun _ => not_mayFail_replay_empty handover _) free⟩

end System

end Fleetwire
