import KernelClient.Session.Connection

/-!
# What a session connection is for

A session connection belongs to one session for all its life, and once it is disposed it stays so.
Its model changes only to a fresh one of the same session, and no more after the disposal.
-/

namespace KernelClient.Session

/-- What a session connection can become: one of the same session, which is disposed if it was
before. -/
structure Continues (before after : Session) : Prop where
  sameId : after.model.id = before.model.id
  disposed : before.isDisposed = true → after.isDisposed = true

theorem Continues.refl (session : Session) : Continues session session :=
  ⟨rfl, id⟩

theorem update_isDisposed (model : SessionModel) (connection : Nat) (session : Session) :
    (update model connection session).1.isDisposed = session.isDisposed := by
  unfold update
  split
  · rfl
  · dsimp only
    split <;> rfl

/-- A session that is not disposed takes on every model of its own. -/
theorem update_model (model : SessionModel) (connection : Nat) (session : Session) :
    (update model connection session).1.model =
      if session.isDisposed = false ∧ session.model.id = model.id then model
      else session.model := by
  unfold update
  split
  case isTrue kept =>
    rcases kept with disposed | other | same
    · simp [disposed]
    · simp [other]
    · simp [same]
  case isFalse changes =>
    have alive : session.isDisposed = false := by simp_all
    have own : session.model.id = model.id := by simp_all
    dsimp only
    split <;> simp [alive, own]

theorem continues_update (model : SessionModel) (connection : Nat) (session : Session) :
    Continues session (update model connection session).1 where
  sameId := by
    rw [update_model]
    split
    case isTrue own => exact own.2.symm
    case isFalse => rfl
  disposed := by
    rw [update_isDisposed]
    exact id

theorem dispose_isDisposed (session : Session) : (dispose session).1.isDisposed = true := by
  unfold dispose
  split
  · assumption
  · rfl

theorem dispose_model (session : Session) : (dispose session).1.model = session.model := by
  unfold dispose
  split <;> rfl

theorem continues_dispose (session : Session) : Continues session (dispose session).1 where
  sameId := congrArg SessionModel.id (dispose_model session)
  disposed _ := dispose_isDisposed session

theorem continues_shutDown (session : Session) : Continues session (shutDown session).1 :=
  continues_dispose session

/-- A fresh model tells neither the end nor the disposal of a session. -/
theorem ending_notMem_update (model : SessionModel) (connection : Nat) (session : Session) :
    .terminated ∉ (update model connection session).2 ∧
      .disposed ∉ (update model connection session).2 := by
  unfold update
  split
  · exact ⟨List.not_mem_nil, List.not_mem_nil⟩
  · dsimp only
    split
    · simp
    · cases model.kernel <;> cases session.kernel <;> simp

/-- A session that is disposed disposes the connection to its kernel. -/
theorem kernel_of_mem_dispose {session : Session} {kernel : Nat}
    (disposes : .disposeKernel kernel ∈ (dispose session).2) : session.kernel = some kernel := by
  unfold dispose at disposes
  split at disposes
  · simp at disposes
  · cases held : session.kernel with
    | none => simp [held] at disposes
    | some known =>
        have same : kernel = known := by simpa [held] using disposes
        rw [same]

/-- A fresh model has the connection to the kernel disposed if it names another kernel. -/
theorem kernel_of_mem_update {model : SessionModel} {connection : Nat} {session : Session}
    {kernel : Nat} (disposes : .disposeKernel kernel ∈ (update model connection session).2) :
    session.kernel = some kernel ∧ kernelId? session.model ≠ kernelId? model := by
  unfold update at disposes
  split at disposes
  · simp at disposes
  · dsimp only at disposes
    split at disposes
    case isTrue => simp at disposes
    case isFalse other =>
      refine ⟨?_, other⟩
      cases held : session.kernel with
      | none => cases named : model.kernel <;> simp [held, named] at disposes
      | some known =>
          have same : kernel = known := by
            cases named : model.kernel <;> simpa [held, named] using disposes
          rw [same]

/-- What becomes of a session while lists are applied: it keeps its identifier, and the connection
to its kernel is either the one that it had, to the same kernel, or a later one. -/
structure Renewed (count : Nat) (before after : Session) : Prop where
  sameId : after.model.id = before.model.id
  kernel : ∀ kernel, after.kernel = some kernel →
    count ≤ kernel ∨ before.kernel = some kernel ∧ kernelId? after.model = kernelId? before.model

namespace Renewed

variable {count : Nat} {before after : Session}

theorem refl (count : Nat) (session : Session) : Renewed count session session :=
  ⟨rfl, fun _ held => .inr ⟨held, rfl⟩⟩

theorem dispose (renewed : Renewed count before after) :
    Renewed count before (dispose after).1 where
  sameId := (continues_dispose after).sameId.trans renewed.sameId
  kernel kernel held := by
    unfold Session.dispose at held
    split at held
    case isTrue disposed =>
      rw [Session.dispose, if_pos disposed]
      exact renewed.kernel kernel held
    case isFalse => cases held

theorem update {model : SessionModel} {connection : Nat} (renewed : Renewed count before after)
    (later : count ≤ connection) : Renewed count before (update model connection after).1 where
  sameId := (continues_update model connection after).sameId.trans renewed.sameId
  kernel kernel held := by
    unfold Session.update at held ⊢
    split at held
    case isTrue same =>
      rw [if_pos same]
      exact renewed.kernel kernel held
    case isFalse changes =>
      rw [if_neg changes]
      dsimp only at held ⊢
      split at held
      case isTrue sameKernel =>
        rw [if_pos sameKernel]
        rcases renewed.kernel kernel held with new | ⟨known, agrees⟩
        · exact .inl new
        · exact .inr ⟨known, sameKernel.symm.trans agrees⟩
      case isFalse =>
        obtain ⟨_, -, rfl⟩ := Option.map_eq_some_iff.mp held
        exact .inl later

end Renewed

end KernelClient.Session
