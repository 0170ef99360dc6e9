import KernelClient.Signal

/-!
# What waits for the subscribers of a signal

What a subscriber has not received yet grows only when something is emitted. Subscribing, receiving,
leaving and closing take nothing from the others and add nothing, so after any of them what waited
for a subscriber either still waits or has been received as a whole.
-/

namespace KernelClient.Signal

variable {α : Type} {signal : Signal α}

/-- What waits for a subscriber: values, the oldest first, and how many were lost before them. -/
def waiting (signal : Signal α) (subscriber : Nat) : List α × Nat :=
  match signal.subscription? subscriber with
  | some kept => (kept.pending, kept.lost)
  | none => ([], 0)

/-- Nothing was emitted meanwhile: what waited for a subscriber still does, or nothing waits. -/
def Quiet (before after : Signal α) : Prop :=
  ∀ subscriber, after.waiting subscriber = before.waiting subscriber ∨
    after.waiting subscriber = ([], 0)

/-- Nothing waits for anybody. -/
def IsIdle (signal : Signal α) : Prop :=
  ∀ subscriber, signal.waiting subscriber = ([], 0)

theorem isIdle_create (capacity : Nat) : (create capacity : Signal α).IsIdle :=
  fun _ => rfl

namespace Quiet

theorem refl (signal : Signal α) : signal.Quiet signal :=
  fun _ => .inl rfl

theorem trans {before middle after : Signal α} (first : before.Quiet middle)
    (second : middle.Quiet after) : before.Quiet after := by
  intro subscriber
  rcases second subscriber with same | none
  · rw [same]
    exact first subscriber
  · exact .inr none

theorem isIdle {before after : Signal α} (quiet : before.Quiet after) (idle : before.IsIdle) :
    after.IsIdle := by
  intro subscriber
  rcases quiet subscriber with same | none
  · exact same.trans (idle subscriber)
  · exact none

end Quiet

theorem lookup_map {Kept Other : Type} (change : Nat → Kept → Other) (subscriber : Nat)
    (table : List (Nat × Kept)) :
    (table.map fun entry => (entry.1, change entry.1 entry.2)).lookup subscriber =
      (table.lookup subscriber).map (change subscriber) := by
  induction table with
  | nil => rfl
  | cons entry rest ih =>
      obtain ⟨number, kept⟩ := entry
      by_cases here : subscriber = number
      · subst here
        simp
      · have other : (subscriber == number) = false := by simpa using here
        simp only [List.map_cons, List.lookup_cons, other]
        exact ih

theorem lookup_filter_ne {Kept : Type} (leaving subscriber : Nat) (table : List (Nat × Kept)) :
    (table.filter fun entry => entry.1 != leaving).lookup subscriber =
      if subscriber = leaving then none else table.lookup subscriber := by
  induction table with
  | nil => simp
  | cons entry rest ih =>
      obtain ⟨number, kept⟩ := entry
      by_cases leaves : number = leaving
      · subst leaves
        rw [List.filter_cons_of_neg (by simp), ih, List.lookup_cons]
        by_cases here : subscriber = number
        · simp [here]
        · have other : (subscriber == number) = false := by simpa using here
          simp [here, other]
      · rw [List.filter_cons_of_pos (by simpa using leaves), List.lookup_cons, List.lookup_cons, ih]
        by_cases here : subscriber = number
        · simp [here, leaves]
        · have other : (subscriber == number) = false := by simpa using here
          simp [other]

theorem subscription?_subscribe (signal : Signal α) (subscriber : Nat) :
    signal.subscribe.2.subscription? subscriber = (signal.subscription? subscriber).or
      (if subscriber = signal.next then some ⟨signal.capacity, [], 0, signal.isClosed⟩
      else none) := by
  rw [subscription?, subscribe, List.lookup_append, List.lookup_cons, List.lookup_nil,
    subscription?]
  by_cases new : subscriber = signal.next
  · simp [new]
  · have other : (subscriber == signal.next) = false := by simpa using new
    simp [new, other]

theorem subscription?_unsubscribe (leaving : Nat) (signal : Signal α) (subscriber : Nat) :
    (signal.unsubscribe leaving).subscription? subscriber =
      if subscriber = leaving then none else signal.subscription? subscriber :=
  lookup_filter_ne leaving subscriber signal.subscribers

theorem subscription?_map (change : Nat → Subscription α → Subscription α) (signal : Signal α)
    (subscriber : Nat) :
    (signal.map change).subscription? subscriber =
      (signal.subscription? subscriber).map (change subscriber) :=
  lookup_map change subscriber signal.subscribers

theorem subscription?_emit (value : α) (signal : Signal α) (subscriber : Nat) :
    (signal.emit value).subscription? subscriber =
      (signal.subscription? subscriber).map fun kept => kept.push value :=
  subscription?_map _ signal subscriber

theorem subscription?_close (signal : Signal α) (subscriber : Nat) :
    signal.close.subscription? subscriber =
      (signal.subscription? subscriber).map fun kept => { kept with isClosed := true } :=
  subscription?_map (fun _ kept => { kept with isClosed := true }) signal subscriber

theorem subscription?_update (receiver : Nat) (kept : Subscription α) (signal : Signal α)
    (subscriber : Nat) :
    (signal.update receiver kept).subscription? subscriber =
      (signal.subscription? subscriber).map fun before =>
        if subscriber = receiver then kept else before :=
  subscription?_map _ signal subscriber

theorem quiet_subscribe (signal : Signal α) : signal.Quiet signal.subscribe.2 := by
  intro subscriber
  rw [waiting, waiting, subscription?_subscribe]
  cases signal.subscription? subscriber with
  | some kept => exact .inl rfl
  | none =>
      right
      by_cases new : subscriber = signal.next <;> simp [new]

theorem quiet_unsubscribe (leaving : Nat) (signal : Signal α) :
    signal.Quiet (signal.unsubscribe leaving) := by
  intro subscriber
  by_cases leaves : subscriber = leaving
  · right
    rw [waiting, subscription?_unsubscribe, if_pos leaves]
  · left
    rw [waiting, waiting, subscription?_unsubscribe, if_neg leaves]

theorem quiet_close (signal : Signal α) : signal.Quiet signal.close := by
  intro subscriber
  left
  rw [waiting, waiting, subscription?_close]
  cases signal.subscription? subscriber <;> rfl

/-- To receive everything leaves nothing. -/
theorem quiet_update_nothing (receiver : Nat) {kept : Subscription α} (noValue : kept.pending = [])
    (noneLost : kept.lost = 0) (signal : Signal α) :
    signal.Quiet (signal.update receiver kept) := by
  intro subscriber
  rw [waiting, waiting, subscription?_update]
  cases signal.subscription? subscriber with
  | none => exact .inl rfl
  | some before =>
      by_cases here : subscriber = receiver
      · right
        simp [here, noValue, noneLost]
      · left
        simp [here]

theorem quiet_drain (receiver : Nat) (signal : Signal α) :
    signal.Quiet (signal.drain receiver).2 := by
  unfold drain
  split
  case h_1 kept known =>
    simp only [apply_ite Prod.snd]
    split
    · exact quiet_unsubscribe receiver signal
    · exact quiet_update_nothing receiver rfl rfl signal
  case h_2 => exact .refl signal

/-- Nobody was told of the end. -/
structure IsOpen (signal : Signal α) : Prop where
  isClosed : signal.isClosed = false
  subscribers : ∀ entry ∈ signal.subscribers, entry.2.isClosed = false

theorem isOpen_create (capacity : Nat) : (create capacity : Signal α).IsOpen :=
  ⟨rfl, by simp [create]⟩

namespace IsOpen

theorem subscribe (isOpen : signal.IsOpen) : signal.subscribe.2.IsOpen := by
  refine ⟨isOpen.isClosed, fun entry member => ?_⟩
  rcases List.mem_append.mp member with earlier | last
  · exact isOpen.subscribers entry earlier
  · cases List.mem_singleton.mp last
    exact isOpen.isClosed

theorem unsubscribe (isOpen : signal.IsOpen) (leaving : Nat) :
    (signal.unsubscribe leaving).IsOpen :=
  ⟨isOpen.isClosed, fun entry member => isOpen.subscribers entry (List.mem_filter.mp member).1⟩

/-- What is kept for the subscribers changes, and none of them is told of the end. -/
theorem map (isOpen : signal.IsOpen) {change : Nat → Subscription α → Subscription α}
    (goesOn : ∀ subscriber kept, kept.isClosed = false →
      (change subscriber kept).isClosed = false) : (signal.map change).IsOpen := by
  refine ⟨isOpen.isClosed, fun entry member => ?_⟩
  obtain ⟨before, earlier, rfl⟩ := List.mem_map.mp member
  exact goesOn _ _ (isOpen.subscribers before earlier)

theorem update (isOpen : signal.IsOpen) (receiver : Nat) {kept : Subscription α}
    (goesOn : kept.isClosed = false) : (signal.update receiver kept).IsOpen := by
  refine isOpen.map fun subscriber before still => ?_
  split
  · exact goesOn
  · exact still

theorem emit (isOpen : signal.IsOpen) (value : α) : (signal.emit value).IsOpen := by
  refine isOpen.map fun subscriber kept still => ?_
  unfold Subscription.push
  dsimp only
  split <;> exact still

theorem subscription (isOpen : signal.IsOpen) {receiver : Nat} {kept : Subscription α}
    (known : signal.subscription? receiver = some kept) : kept.isClosed = false := by
  obtain ⟨earlier, later, same, -⟩ := List.lookup_eq_some_iff.mp known
  refine isOpen.subscribers (receiver, kept) ?_
  rw [same]
  exact List.mem_append_right earlier List.mem_cons_self

theorem drain (isOpen : signal.IsOpen) (receiver : Nat) : (signal.drain receiver).2.IsOpen := by
  unfold Signal.drain
  split
  case h_1 kept known =>
    have goesOn := isOpen.subscription known
    simp only [goesOn, Bool.false_eq_true, if_false]
    exact isOpen.update receiver goesOn
  case h_2 => exact isOpen

/-- Before the end nobody receives it. -/
theorem closed_notMem_drain (isOpen : signal.IsOpen) (receiver : Nat) :
    .closed ∉ (signal.drain receiver).1 := by
  unfold Signal.drain
  split
  case h_1 kept known =>
    have goesOn := isOpen.subscription known
    simp [Subscription.drain, goesOn]
  case h_2 => exact List.not_mem_nil

/-- Before the end nobody receives anything if nothing waits. -/
theorem drain_of_isIdle (isOpen : signal.IsOpen) (idle : signal.IsIdle) (receiver : Nat) :
    (signal.drain receiver).1 = [] := by
  have nothing := idle receiver
  unfold Signal.drain
  split
  case h_1 kept known =>
    rw [waiting, known] at nothing
    obtain ⟨pending, lost⟩ := Prod.mk.inj nothing
    simp [Subscription.drain, isOpen.subscription known, pending, lost]
  case h_2 => rfl

end IsOpen

/-- A signal is listened to: nothing is emitted meanwhile, and nobody is told of the end. -/
structure Listened (before after : Signal α) : Prop where
  quiet : before.Quiet after
  isOpen : before.IsOpen → after.IsOpen

namespace Listened

theorem refl (signal : Signal α) : signal.Listened signal :=
  ⟨.refl signal, id⟩

theorem subscribe (signal : Signal α) : signal.Listened signal.subscribe.2 :=
  ⟨quiet_subscribe signal, .subscribe⟩

theorem unsubscribe (leaving : Nat) (signal : Signal α) :
    signal.Listened (signal.unsubscribe leaving) :=
  ⟨quiet_unsubscribe leaving signal, fun isOpen => isOpen.unsubscribe leaving⟩

theorem drain (receiver : Nat) (signal : Signal α) : signal.Listened (signal.drain receiver).2 :=
  ⟨quiet_drain receiver signal, fun isOpen => isOpen.drain receiver⟩

end Listened

theorem isSome_subscription?_foldl_emit {subscriber : Nat} (values : List α)
    (subscribed : (signal.subscription? subscriber).isSome = true) :
    ((values.foldl emit signal).subscription? subscriber).isSome = true := by
  induction values generalizing signal with
  | nil => exact subscribed
  | cons value rest ih =>
      refine ih ?_
      rw [subscription?_emit, Option.isSome_map]
      exact subscribed

/-- A value waits, or that one was lost. -/
theorem waiting_emit_ne {subscriber : Nat}
    (subscribed : (signal.subscription? subscriber).isSome = true) (value : α) :
    (signal.emit value).waiting subscriber ≠ ([], 0) := by
  obtain ⟨kept, known⟩ := Option.isSome_iff_exists.mp subscribed
  rw [waiting, subscription?_emit, known, Option.map_some, Subscription.push]
  dsimp only
  split <;> simp

/-- Something waits for a subscriber if it did before or something was emitted. -/
theorem waiting_foldl_emit_ne_iff {subscriber : Nat} (values : List α)
    (subscribed : (signal.subscription? subscriber).isSome = true) :
    (values.foldl emit signal).waiting subscriber ≠ ([], 0) ↔
      signal.waiting subscriber ≠ ([], 0) ∨ values ≠ [] := by
  induction values generalizing signal with
  | nil => simp
  | cons value rest ih =>
      have again : ((signal.emit value).subscription? subscriber).isSome = true :=
        isSome_subscription?_foldl_emit [value] subscribed
      rw [List.foldl_cons, ih again]
      exact iff_of_true (.inl (waiting_emit_ne subscribed value)) (.inr (List.cons_ne_nil _ _))

end KernelClient.Signal
