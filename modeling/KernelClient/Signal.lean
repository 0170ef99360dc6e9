/-!
# Signals

A signal hands each value to all of its subscribers. A subscriber keeps a bounded number of values
that it has not received yet: when more arrive, the oldest are lost, and the subscriber is told once
how many. After the signal is closed a subscriber receives what is left and then the end.
-/

namespace KernelClient

/-- What a subscriber receives. -/
inductive Received (α : Type) where
  | value (value : α)
  | lagged (lost : Nat)
  | empty
  | closed
deriving DecidableEq, Inhabited

/-- The values that a subscriber has not received yet, the oldest first. -/
structure Subscription (α : Type) where
  capacity : Nat
  pending : List α
  lost : Nat
  isClosed : Bool
deriving Inhabited

namespace Subscription

variable {α : Type}

/-- Add a value, and lose the oldest one if there are too many. -/
def push (subscription : Subscription α) (value : α) : Subscription α :=
  let pending := subscription.pending ++ [value]
  if pending.length ≤ subscription.capacity then { subscription with pending := pending }
  else { subscription with pending := pending.tail, lost := subscription.lost + 1 }

/-- Take what comes next. -/
def receive (subscription : Subscription α) : Received α × Subscription α :=
  if subscription.lost = 0 then
    match subscription.pending with
    | value :: rest => (.value value, { subscription with pending := rest })
    | [] => (if subscription.isClosed then .closed else .empty, subscription)
  else (.lagged subscription.lost, { subscription with lost := 0 })

/-- Take everything that is left, and tell the end once it is reached. -/
def drain (subscription : Subscription α) : List (Received α) × Subscription α :=
  let lagged := if subscription.lost = 0 then [] else [.lagged subscription.lost]
  let ending := if subscription.isClosed then [.closed] else []
  (lagged ++ subscription.pending.map .value ++ ending,
    { subscription with pending := [], lost := 0 })

/-- Whether there is something to receive. -/
def isReady (subscription : Subscription α) : Bool :=
  !subscription.pending.isEmpty || subscription.lost != 0 || subscription.isClosed

end Subscription

/-- A signal with its subscribers by number. All of their numbers were given to them before, so the
next one is nobody's. -/
structure Signal (α : Type) where
  capacity : Nat
  next : Nat
  subscribers : List (Nat × Subscription α)
  isClosed : Bool
  numbered : ∀ entry ∈ subscribers, entry.1 < next

namespace Signal

variable {α : Type}

/-- The number of values that a subscriber of most signals keeps. -/
def usualCapacity : Nat := 256

/-- The largest number of values for which room can be asked for. -/
def mostCapacity : Nat := 1 <<< 56

/-- A signal whose subscribers keep at least as many values as given. The number is rounded up to a
power of two, and must be neither zero nor too large. -/
def create? (capacity : Nat) : Option (Signal α) :=
  if capacity = 0 || mostCapacity < capacity then none
  else some {
    capacity := capacity.nextPowerOfTwo
    next := 0
    subscribers := []
    isClosed := false
    numbered := nofun }

/-- A signal whose subscribers keep at least one value. -/
def create (capacity : Nat) : Signal α where
  capacity := (max capacity 1).nextPowerOfTwo
  next := 0
  subscribers := []
  isClosed := false
  numbered := nofun

def usual : Signal α := create usualCapacity

instance : Inhabited (Signal α) := ⟨usual⟩

/-- Add a subscriber, who receives what is emitted from now on. -/
def subscribe (signal : Signal α) : Nat × Signal α :=
  (signal.next, { signal with
    next := signal.next + 1
    subscribers := signal.subscribers ++
      [(signal.next, ⟨signal.capacity, [], 0, signal.isClosed⟩)]
    numbered := by
      intro entry member
      rcases List.mem_append.mp member with earlier | last
      · exact Nat.lt_succ_of_lt (signal.numbered entry earlier)
      · rw [List.mem_singleton.mp last]
        exact Nat.lt_succ_self signal.next })

def unsubscribe (signal : Signal α) (subscriber : Nat) : Signal α :=
  { signal with
    subscribers := signal.subscribers.filter fun entry => entry.1 != subscriber
    numbered := fun entry member => signal.numbered entry (List.mem_filter.mp member).1 }

/-- Change what is kept for each subscriber. -/
def map (signal : Signal α) (change : Nat → Subscription α → Subscription α) : Signal α :=
  { signal with
    subscribers := signal.subscribers.map fun entry => (entry.1, change entry.1 entry.2)
    numbered := by
      intro entry member
      obtain ⟨before, earlier, rfl⟩ := List.mem_map.mp member
      exact signal.numbered before earlier }

def emit (signal : Signal α) (value : α) : Signal α :=
  signal.map fun _ kept => kept.push value

/-- Tell the subscribers that nothing more will be emitted. -/
def close (signal : Signal α) : Signal α :=
  { signal.map fun _ kept => { kept with isClosed := true } with isClosed := true }

def subscription? (signal : Signal α) (subscriber : Nat) : Option (Subscription α) :=
  signal.subscribers.lookup subscriber

/-- Change what a subscriber keeps. -/
def update (signal : Signal α) (subscriber : Nat) (kept : Subscription α) : Signal α :=
  signal.map fun other before => if other = subscriber then kept else before

/-- Hand a subscriber what comes next; nobody receives the end. -/
def receive (signal : Signal α) (subscriber : Nat) : Received α × Signal α :=
  match signal.subscription? subscriber with
  | some kept =>
      let (received, rest) := kept.receive
      (received, signal.update subscriber rest)
  | none => (.closed, signal)

/-- Hand a subscriber everything that is left. One who received the end is a subscriber no more. -/
def drain (signal : Signal α) (subscriber : Nat) : List (Received α) × Signal α :=
  match signal.subscription? subscriber with
  | some kept =>
      let (received, rest) := kept.drain
      if kept.isClosed then (received, signal.unsubscribe subscriber)
      else (received, signal.update subscriber rest)
  | none => ([], signal)

/-- Whether there is something for a subscriber. -/
def isReady (signal : Signal α) (subscriber : Nat) : Bool :=
  match signal.subscription? subscriber with
  | some kept => kept.isReady
  | none => true

end Signal

end KernelClient
