import KernelClient.Proofs.Session.Identity

/-!
# How a session hands over its kernel

A change of a session either leaves the connection to its kernel alone, or it connects to the kernel
that the session should have from then on, if any, and disposes the connection that it had.
-/

namespace KernelClient.Session

/-- Whether an effect makes a connection. -/
def Effect.connects : Effect → Bool
  | .connectKernel _ _ => true
  | _ => false

/-- The kernel that a session should be connected to. -/
def wanted? (session : Session) : Option KernelModel :=
  if session.isDisposed then none else session.model.kernel

/-- A change that leaves the connection of a session to its kernel alone. -/
structure Leaves (before : Session) (change : Change) : Prop where
  kernel : change.1.kernel = before.kernel
  wanted : change.1.wanted?.map KernelModel.id = before.wanted?.map KernelModel.id
  silent : ∀ effect ∈ change.2, effect.connects = false

/-- A change after which a session has a new connection, to the kernel that it should have, or none.
The connection comes first and the previous one is disposed. -/
structure HandsOver (next : Nat) (previous : Option Nat) (change : Change) : Prop where
  kernel : change.1.kernel = change.1.wanted?.map fun _ => next
  effects : ∃ rest, change.2 = (change.1.wanted?.map (Effect.connectKernel next)).toList ++ rest ∧
    (∀ effect ∈ rest, effect.connects = false) ∧
    ∀ kernel, previous = some kernel → .disposeKernel kernel ∈ rest

theorem Leaves.nil (session : Session) : Leaves session (session, []) :=
  ⟨rfl, rfl, by simp⟩

theorem handsOver_create (model : SessionModel) (next : Nat) :
    HandsOver next none (create model next) := by
  unfold create
  cases named : model.kernel with
  | some kernel => exact ⟨by simp [wanted?, named], [], by simp [wanted?, named], by simp, by simp⟩
  | none => exact ⟨by simp [wanted?, named], [], by simp [wanted?, named], by simp, by simp⟩

theorem connects_of_mem_properties {before after : SessionModel} {effect : Effect}
    (member : effect ∈ (changedProperties before after).map Effect.property) :
    effect.connects = false := by
  obtain ⟨property, -, rfl⟩ := List.mem_map.mp member
  rfl

/-- A fresh model hands over if and only if it names another kernel. -/
theorem leaves_or_handsOver_update (model : SessionModel) (next : Nat) (session : Session) :
    Leaves session (update model next session) ∨
      HandsOver next session.kernel (update model next session) := by
  unfold update
  split
  case isTrue => exact .inl (.nil session)
  case isFalse changes =>
    have alive : session.isDisposed = false := by simp_all
    dsimp only
    split
    case isTrue same =>
      refine .inl ⟨rfl, ?_, fun effect => connects_of_mem_properties⟩
      simpa [wanted?, alive, kernelId?] using same.symm
    case isFalse =>
      refine .inr ⟨by simp [wanted?, alive],
        (changedProperties session.model model).map Effect.property ++
          session.kernel.toList.map Effect.disposeKernel ++ [.kernel model.kernel], ?_, ?_, ?_⟩
      · cases named : model.kernel <;> cases held : session.kernel <;>
          simp [wanted?, alive, named]
      · simp only [List.mem_append, List.mem_singleton]
        rintro effect ((property | disposes) | rfl)
        · exact connects_of_mem_properties property
        · obtain ⟨previous, -, rfl⟩ := List.mem_map.mp disposes
          rfl
        · rfl
      · intro kernel held
        simp [held]

/-- A disposal hands over to no kernel, the first time. -/
theorem leaves_or_handsOver_dispose (next : Nat) (session : Session) :
    Leaves session (dispose session) ∨ HandsOver next session.kernel (dispose session) := by
  unfold dispose
  split
  case isTrue => exact .inl (.nil session)
  case isFalse =>
    refine .inr ⟨rfl, ?_⟩
    cases held : session.kernel with
    | none => exact ⟨[.disposed], rfl, by simp [Effect.connects], by simp⟩
    | some previous =>
        exact ⟨[.disposeKernel previous, .disposed], rfl, by simp [Effect.connects], by simp⟩

theorem leaves_or_handsOver_shutDown (next : Nat) (session : Session) :
    Leaves session (shutDown session) ∨ HandsOver next session.kernel (shutDown session) := by
  have terminated : Effect.terminated.connects = false := rfl
  rcases leaves_or_handsOver_dispose next session with leaves | handsOver
  · refine .inl ⟨leaves.kernel, leaves.wanted, ?_⟩
    simpa [shutDown, terminated] using leaves.silent
  · obtain ⟨rest, effects, silent, disposes⟩ := handsOver.effects
    have gone : (dispose session).1.wanted? = none := by simp [wanted?, dispose_isDisposed]
    refine .inr ⟨handsOver.kernel, .terminated :: rest, ?_, ?_, fun kernel held => ?_⟩
    · simpa [shutDown, gone] using effects
    · simpa [terminated] using silent
    · exact List.mem_cons_of_mem _ (disposes kernel held)

/-- A disposed session takes no model. -/
theorem update_of_isDisposed {session : Session} (disposed : session.isDisposed = true)
    (model : SessionModel) (next : Nat) : update model next session = (session, []) := by
  rw [update, if_pos (.inl disposed)]

end KernelClient.Session
