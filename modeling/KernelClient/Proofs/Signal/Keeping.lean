import KernelClient.Proofs.Signal.Waiting
import Mathlib.Data.List.DropRight
import Mathlib.Logic.Relation

/-!
# What a subscriber keeps

Subscribers have numbers of their own. Of the values that were emitted since somebody subscribed, or
last received everything, the signal keeps the last ones for him, as many as there is room for.
-/

namespace KernelClient

namespace Subscription

variable {α : Type}

/-- One more value takes the place of the oldest one if there is no room for both. -/
theorem pending_push {kept : Subscription α} {values : List α}
    (same : kept.pending = values.rtake kept.capacity) (value : α) :
    (kept.push value).pending = (values ++ [value]).rtake kept.capacity := by
  have length : kept.pending.length = min values.length kept.capacity := by
    rw [same, List.rtake, List.length_drop]
    omega
  have before : kept.pending ++ [value] =
      (values ++ [value]).drop (values.length - kept.capacity) := by
    rw [same, List.rtake, List.drop_append_of_le_length (Nat.sub_le ..)]
  unfold push
  dsimp only
  split
  case isTrue fits =>
    have room : values.length - kept.capacity = (values ++ [value]).length - kept.capacity := by
      simp only [List.length_append, List.length_singleton] at fits ⊢
      omega
    rw [List.rtake, ← room]
    exact before
  case isFalse full =>
    have lost : (values ++ [value]).length - kept.capacity =
        values.length - kept.capacity + 1 := by
      simp only [List.length_append, List.length_singleton] at full ⊢
      omega
    rw [List.rtake, lost, ← List.tail_drop, ← before]

end Subscription

namespace Signal

variable {α : Type} {signal : Signal α} {capacity listener : Nat} {values : List α}

theorem subscription?_next (signal : Signal α) : signal.subscription? signal.next = none := by
  refine List.lookup_eq_none_iff.mpr fun entry member => ?_
  simpa using (signal.numbered entry member).ne'

theorem subscription?_subscribe_next (signal : Signal α) :
    signal.subscribe.2.subscription? signal.next =
      some ⟨signal.capacity, [], 0, signal.isClosed⟩ := by
  rw [subscription?_subscribe, subscription?_next, if_pos rfl, Option.none_or]

/-- Nothing is left for somebody who has received everything before the end. -/
theorem subscription?_drain {kept : Subscription α}
    (known : signal.subscription? listener = some kept) (goesOn : kept.isClosed = false) :
    (signal.drain listener).2.subscription? listener = some kept.drain.2 := by
  have updated : (signal.drain listener).2 = signal.update listener kept.drain.2 := by
    rw [Signal.drain, known]
    dsimp only
    rw [goesOn]
    rfl
  rw [updated, subscription?_update, known, Option.map_some, if_pos rfl]

/-- What waits for a subscriber are the last ones of some values, as many as there is room for. -/
def Keeps (capacity listener : Nat) (values : List α) (signal : Signal α) : Prop :=
  ∃ kept, signal.subscription? listener = some kept ∧ kept.capacity = capacity ∧
    kept.pending = values.rtake capacity

/-- Nothing waits for somebody who has just subscribed. -/
theorem keeps_subscribe (signal : Signal α) :
    signal.subscribe.2.Keeps signal.capacity signal.subscribe.1 [] :=
  ⟨_, subscription?_subscribe_next signal, rfl, by simp [List.rtake]⟩

/-- What waits for a subscriber stays, and there is room for as many values. -/
def Spares (listener : Nat) (before after : Signal α) : Prop :=
  ∀ kept, before.subscription? listener = some kept →
    ∃ later, after.subscription? listener = some later ∧ later.capacity = kept.capacity ∧
      later.pending = kept.pending

theorem Spares.refl (listener : Nat) (signal : Signal α) : signal.Spares listener signal :=
  fun kept known => ⟨kept, known, rfl, rfl⟩

theorem Spares.trans {before middle after : Signal α} (first : before.Spares listener middle)
    (second : middle.Spares listener after) : before.Spares listener after := by
  intro kept known
  obtain ⟨between, there, room, pending⟩ := first kept known
  obtain ⟨later, present, sameRoom, same⟩ := second between there
  exact ⟨later, present, sameRoom.trans room, same.trans pending⟩

theorem spares_subscribe (listener : Nat) (signal : Signal α) :
    signal.Spares listener signal.subscribe.2 := by
  intro kept known
  exact ⟨kept, by rw [subscription?_subscribe, known, Option.some_or], rfl, rfl⟩

theorem spares_unsubscribe {other : Nat} (differs : listener ≠ other) (signal : Signal α) :
    signal.Spares listener (signal.unsubscribe other) := by
  intro kept known
  exact ⟨kept, by rw [subscription?_unsubscribe, if_neg differs, known], rfl, rfl⟩

theorem spares_close (listener : Nat) (signal : Signal α) :
    signal.Spares listener signal.close := by
  intro kept known
  exact ⟨{ kept with isClosed := true }, by rw [subscription?_close, known]; rfl, rfl, rfl⟩

theorem spares_drain {other : Nat} (differs : listener ≠ other) (signal : Signal α) :
    signal.Spares listener (signal.drain other).2 := by
  unfold Signal.drain
  split
  case h_1 mine present =>
    dsimp only
    split
    · exact spares_unsubscribe differs signal
    · intro kept known
      refine ⟨kept, ?_, rfl, rfl⟩
      rw [subscription?_update, known, Option.map_some, if_neg differs]
  case h_2 => exact .refl listener signal

/-- What others do with a signal to which somebody listens. -/
inductive ByOthers (listener : Nat) : Signal α → Signal α → Prop where
  | subscribes {signal : Signal α} : ByOthers listener signal signal.subscribe.2
  | unsubscribes {signal : Signal α} {other : Nat} (differs : listener ≠ other) :
      ByOthers listener signal (signal.unsubscribe other)
  | receives {signal : Signal α} {other : Nat} (differs : listener ≠ other) :
      ByOthers listener signal (signal.drain other).2
  | closes {signal : Signal α} : ByOthers listener signal signal.close

theorem ByOthers.spares {before after : Signal α} (done : ByOthers listener before after) :
    before.Spares listener after := by
  cases done with
  | subscribes => exact spares_subscribe listener before
  | unsubscribes differs => exact spares_unsubscribe differs before
  | receives differs => exact spares_drain differs before
  | closes => exact spares_close listener before

/-- However much others do, what waits for a subscriber stays. -/
theorem spares_of_others {before after : Signal α}
    (done : Relation.ReflTransGen (ByOthers listener) before after) :
    before.Spares listener after := by
  induction done with
  | refl => exact .refl listener before
  | tail _ last ih => exact ih.trans last.spares

/-- Who takes everything stays a listener, and nothing waits for him. -/
theorem IsOpen.drained (isOpen : signal.IsOpen)
    (subscribed : (signal.subscription? listener).isSome = true) :
    ((signal.drain listener).2.subscription? listener).isSome = true ∧
      (signal.drain listener).2.waiting listener = ([], 0) := by
  obtain ⟨kept, known⟩ := Option.isSome_iff_exists.mp subscribed
  rw [waiting, subscription?_drain known (isOpen.subscription known)]
  exact ⟨rfl, rfl⟩

namespace Keeps

theorem spares {after : Signal α} (keeps : signal.Keeps capacity listener values)
    (spares : signal.Spares listener after) : after.Keeps capacity listener values := by
  obtain ⟨kept, known, room, pending⟩ := keeps
  obtain ⟨later, present, sameRoom, same⟩ := spares kept known
  exact ⟨later, present, sameRoom.trans room, same.trans pending⟩

theorem emit (keeps : signal.Keeps capacity listener values) (value : α) :
    (signal.emit value).Keeps capacity listener (values ++ [value]) := by
  obtain ⟨kept, known, rfl, same⟩ := keeps
  refine ⟨kept.push value, ?_, ?_, Subscription.pending_push same value⟩
  · rw [subscription?_emit, known, Option.map_some]
  · unfold Subscription.push
    dsimp only
    split <;> rfl

/-- Who receives everything receives the values that were kept. -/
theorem mem_drain (keeps : signal.Keeps capacity listener values) (value : α) :
    .value value ∈ (signal.drain listener).1 ↔ value ∈ values.rtake capacity := by
  obtain ⟨kept, known, rfl, same⟩ := keeps
  have received : (signal.drain listener).1 = kept.drain.1 := by
    rw [Signal.drain, known]
    dsimp only
    split <;> rfl
  rw [received, ← same]
  simp only [Subscription.drain, List.mem_append]
  constructor
  · rintro ((lagged | held) | ending)
    · split at lagged <;> simp at lagged
    · simpa using held
    · split at ending <;> simp at ending
  · exact fun held => .inl (.inr (List.mem_map_of_mem held))

/-- Afterwards nothing waits, unless that was the end. -/
theorem drain (keeps : signal.Keeps capacity listener values)
    (goesOn : .closed ∉ (signal.drain listener).1) :
    (signal.drain listener).2.Keeps capacity listener [] := by
  obtain ⟨kept, known, rfl, same⟩ := keeps
  have isOpen : kept.isClosed = false := by
    cases closed : kept.isClosed with
    | false => rfl
    | true => simp [Signal.drain, known, Subscription.drain, closed] at goesOn
  refine ⟨kept.drain.2, ?_, rfl, by simp [Subscription.drain, List.rtake]⟩
  rw [subscription?_drain known isOpen]

end Keeps

end Signal

end KernelClient
