namespace Fleetwire

structure Broadcast (Value : Type) where
  capacity : Nat
  recent : List Value := []
  published : Nat := 0
deriving DecidableEq, Repr

structure Subscription where
  next : Nat
deriving DecidableEq, Repr

inductive Received (Value : Type) where
  | value (v : Value)
  | empty
  | lagged (missed : Nat)
deriving DecidableEq, Repr

namespace Broadcast

variable {Value : Type}

/-- A channel that keeps at least `wanted` values, and a power of two of them. -/
def ofCapacity (wanted : Nat) : Broadcast Value := { capacity := (max wanted 1).nextPowerOfTwo }

/-- A value is kept only for those who subscribed before. -/
def publish (channel : Broadcast Value) (value : Value) : Broadcast Value where
  capacity := channel.capacity
  recent :=
    let all := channel.recent ++ [value]
    all.drop (all.length - channel.capacity)
  published := channel.published + 1

def subscribe (channel : Broadcast Value) : Subscription := ⟨channel.published⟩

def receive (channel : Broadcast Value) (subscription : Subscription) :
    Received Value × Subscription :=
  let oldest := channel.published - channel.recent.length
  if subscription.next < oldest then (.lagged (oldest - subscription.next), ⟨oldest⟩)
  else match channel.recent[subscription.next - oldest]? with
    | some value => (.value value, ⟨subscription.next + 1⟩)
    | none => (.empty, subscription)

end Broadcast

end Fleetwire
