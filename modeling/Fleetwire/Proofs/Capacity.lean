import Mathlib.Control.Monad.Basic
import Fleetwire.Proofs.Toml
import Fleetwire.System.Operating

namespace Fleetwire

namespace Settings

variable {settings : Settings}

theorem ne_zero_of_validate (valid : settings.validate = .ok ()) : ∀ entry ∈ settings.positive, entry.2 ≠ 0 := by
  unfold validate at valid
  split at valid
  · cases valid
  next none =>
    intro entry member
    simpa using List.find?_eq_none.1 none entry member

structure Representable (settings : Settings) : Prop where
  outbound : settings.outboundQueueCapacity ≤ 0x7FFFFFFFFFFFFFFF
  handlers : settings.maxConcurrentHandlers ≤ 0x7FFFFFFFFFFFFFFF
  backlog : settings.handlerQueueCapacity ≤ 0x7FFFFFFFFFFFFFFF

theorem natural_le {wanted : String} {node : Toml.Node} {n : Nat} (fits : node.Representable)
    (read : natural wanted node = .ok n) : n ≤ 0x7FFFFFFFFFFFFFFF := by
  unfold natural at read
  split at read
  next i =>
    split at read
    · cases read
    · cases read
      have most : i ≤ Int64.maxValue.toInt := fits.2
      have value : Int64.maxValue.toInt = 0x7FFFFFFFFFFFFFFF := by decide
      omega
  · cases read

theorem exists_of_bind_return {α β : Type} {result : Except String α} {f : α → β} {value : β}
    (whole : (do return f (← result)) = Except.ok value) : ∃ part, result = .ok part ∧ f part = value := by
  cases result with
  | error => cases whole
  | ok part => exact ⟨part, rfl, Except.ok.inj whole⟩

theorem Representable.set {later : Settings} (kept : settings.Representable) {key : String} {node : Toml.Node}
    (fits : node.Representable) (changed : settings.set key node = .ok later) : later.Representable := by
  obtain ⟨outbound, handlers, backlog⟩ := kept
  unfold Settings.set at changed
  -- First the keys of the three sizes and those that mean nothing; no other key touches a size.
  split at changed
  case h_4 =>
    obtain ⟨n, read, rfl⟩ := exists_of_bind_return changed
    exact ⟨natural_le fits read, handlers, backlog⟩
  case h_5 =>
    obtain ⟨n, read, rfl⟩ := exists_of_bind_return changed
    exact ⟨outbound, natural_le fits read, backlog⟩
  case h_6 =>
    obtain ⟨n, read, rfl⟩ := exists_of_bind_return changed
    exact ⟨outbound, handlers, natural_le fits read⟩
  case h_10 =>
    cases changed
    exact ⟨outbound, handlers, backlog⟩
  all_goals
    obtain ⟨_, _, rfl⟩ := exists_of_bind_return changed
    exact ⟨outbound, handlers, backlog⟩

theorem Representable.foldlM {entries : Toml.Entries} {later : Settings} (kept : settings.Representable)
    (fits : entries.Representable)
    (read : entries.foldlM (fun settings (key, node) => settings.set key node) settings = .ok later) :
    later.Representable := by
  induction entries generalizing settings with
  | nil =>
    cases read
    exact kept
  | cons entry entries ih =>
    obtain ⟨key, node⟩ := entry
    rw [List.foldlM_cons] at read
    dsimp only at read
    cases changed : settings.set key node with
    | error =>
      rw [changed] at read
      cases read
    | ok next =>
      rw [changed] at read
      have more : Toml.Entries.Representable entries := fun entry member => fits entry (List.mem_cons_of_mem _ member)
      exact ih (kept.set (fits _ (List.mem_cons_self ..)) changed) more read

theorem valid_of_ofToml {content : String} (read : ofToml content = .ok settings) :
    settings.validate = .ok () ∧ settings.Representable := by
  unfold ofToml at read
  split at read
  · cases read
  next entries parsed =>
    split at read
    · cases read
    next read' all =>
      obtain ⟨valid, rfl⟩ : read'.validate = .ok () ∧ read' = settings := by
        cases checked : read'.validate with
        | error =>
          rw [checked] at read
          cases read
        | ok =>
          rw [checked] at read
          exact ⟨rfl, Except.ok.inj read⟩
      have standard : Settings.Representable {} := ⟨by decide, by decide, by decide⟩
      exact ⟨valid, standard.foldlM (Toml.representable_of_parse? parsed) all⟩

end Settings

variable {settings : Settings} {addr : Endpoint} {socket : Socket} {x : Connection}

theorem Connection.isSome_ofSocket? : (Connection.ofSocket? addr settings socket).isSome ↔
    max settings.maxConcurrentHandlers 1 + settings.handlerQueueCapacity ≤ Line.placeLimit ∧
      max settings.outboundQueueCapacity 1 ≤ Line.placeLimit := by
  unfold ofSocket? Router.ofLimits?
  have room : (guard (max settings.outboundQueueCapacity 1 ≤ Line.placeLimit) : Option Unit) =
      if max settings.outboundQueueCapacity 1 ≤ Line.placeLimit then some () else none := rfl
  dsimp only
  rw [room]
  split
  next handlers =>
    split
    next outbound => exact iff_of_true rfl ⟨handlers, outbound⟩
    next excess => exact iff_of_false Bool.false_ne_true fun both => excess both.2
  next excess => exact iff_of_false Bool.false_ne_true fun both => excess both.1

theorem Connection.sizes_of_ofSocket? (made : Connection.ofSocket? addr settings socket = some x) :
    x.router.workers = max settings.maxConcurrentHandlers 1 ∧ x.router.backlog = settings.handlerQueueCapacity ∧
      x.outbox.capacity = max settings.outboundQueueCapacity 1 := by
  unfold ofSocket? at made
  obtain ⟨router, limits, made⟩ := Option.bind_eq_some_iff.1 made
  obtain ⟨_, _, made⟩ := Option.bind_eq_some_iff.1 made
  cases made
  unfold Router.ofLimits? at limits
  split at limits
  · cases limits
    exact ⟨rfl, rfl, rfl⟩
  · cases limits

theorem System.isSome_takeOver? (s : System) (addr : Endpoint) (settings : Settings) (socket : Socket)
    (belongs : Bool) :
    (s.takeOver? addr settings socket belongs).isSome ↔ (Connection.ofSocket? addr settings socket).isSome := by
  unfold takeOver?
  cases Connection.ofSocket? addr settings socket with
  | none => exact Iff.rfl
  | some => exact Iff.rfl

namespace Settings

/-- A line has room for all the places that a connection with the settings gives out. -/
structure Countable (settings : Settings) : Prop where
  handlers : settings.maxConcurrentHandlers + settings.handlerQueueCapacity ≤ Line.placeLimit
  outbound : settings.outboundQueueCapacity ≤ Line.placeLimit

/-- With settings that were checked a connection can be made if their sizes can be counted, and only then; it has these
sizes, none of which is zero but perhaps the backlog. No other socket is taken over. The sizes that were read from a
text can at least be added up in 64 bits. -/
theorem connection_iff_countable (valid : settings.validate = .ok ()) :
    (∀ addr socket, (Connection.ofSocket? addr settings socket).isSome ↔ settings.Countable) ∧
    (∀ addr socket x, Connection.ofSocket? addr settings socket = some x →
      x.router.workers = settings.maxConcurrentHandlers ∧ x.router.backlog = settings.handlerQueueCapacity ∧
      x.outbox.capacity = settings.outboundQueueCapacity ∧ 0 < x.router.workers ∧ 0 < x.outbox.capacity ∧
      x.router.capacity < UInt64.size) ∧
    (∀ (s : System) addr socket belongs, (s.takeOver? addr settings socket belongs).isSome ↔ settings.Countable) ∧
    ∀ content, ofToml content = .ok settings →
      settings.maxConcurrentHandlers + settings.handlerQueueCapacity < UInt64.size := by
  have outbound : settings.outboundQueueCapacity ≠ 0 :=
    ne_zero_of_validate valid ("outbound_queue_capacity", _) (by simp [positive])
  have handlers : settings.maxConcurrentHandlers ≠ 0 :=
    ne_zero_of_validate valid ("max_concurrent_handlers", _) (by simp [positive])
  have workers : max settings.maxConcurrentHandlers 1 = settings.maxConcurrentHandlers := by omega
  have room : max settings.outboundQueueCapacity 1 = settings.outboundQueueCapacity := by omega
  have countable (addr : Endpoint) (socket : Socket) :
      (Connection.ofSocket? addr settings socket).isSome ↔ settings.Countable := by
    rw [Connection.isSome_ofSocket?, workers, room]
    exact ⟨fun h => ⟨h.1, h.2⟩, fun h => ⟨h.handlers, h.outbound⟩⟩
  refine ⟨countable, fun addr socket x made => ?_,
    fun s addr socket belongs => (s.isSome_takeOver? ..).trans (countable addr socket), fun content read => ?_⟩
  · obtain ⟨most, -⟩ := (countable addr socket).1 (Option.isSome_of_eq_some made)
    obtain ⟨workers', backlog, capacity⟩ := Connection.sizes_of_ofSocket? made
    rw [workers] at workers'
    rw [room] at capacity
    refine ⟨workers', backlog, capacity, by omega, by omega, ?_⟩
    rw [Router.capacity, workers', backlog]
    exact Nat.lt_of_le_of_lt most (by decide)
  · obtain ⟨-, most, most'⟩ := (valid_of_ofToml read).2
    exact Nat.lt_of_le_of_lt (Nat.add_le_add most most') (by decide)

theorem connection_iff_countable_of_standard :
    ({} : Settings).validate = .ok () ∧
    ∃ x, Connection.ofSocket? (.v4 10 0 0 1 4000) {} (.ofCapacity 1024 none none) = some x ∧
      x.router.workers = 64 ∧ x.router.backlog = 256 ∧ x.outbox.capacity = 50 := by
  have valid : ({} : Settings).validate = .ok () := by decide
  obtain ⟨countable, sizes, -⟩ := connection_iff_countable valid
  obtain ⟨x, made⟩ := Option.isSome_iff_exists.1 ((countable _ _).2 ⟨by decide, by decide⟩)
  obtain ⟨workers, backlog, capacity, -⟩ := sizes _ _ x made
  exact ⟨valid, x, made, workers, backlog, capacity⟩

/-- Settings for a backlog of as many messages as a line has places. -/
def boundless : Settings := { handlerQueueCapacity := Line.placeLimit }

theorem valid_without_connection :
    ofToml "handler_queue_capacity = 2305843009213693951" = .ok boundless ∧ boundless.validate = .ok () ∧
      boundless.maxConcurrentHandlers + boundless.handlerQueueCapacity < UInt64.size ∧
      ∀ addr socket, Connection.ofSocket? addr boundless socket = none := by
  refine ⟨by decide +kernel, by decide, by decide, fun addr socket => ?_⟩
  rw [← Option.not_isSome_iff_eq_none, Connection.isSome_ofSocket?]
  decide

end Settings

end Fleetwire
