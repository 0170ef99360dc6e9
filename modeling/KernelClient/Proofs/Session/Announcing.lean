import KernelClient.Proofs.Session.Identity

/-!
# What a session tells of its changes

A session that takes on a fresh model tells which of its properties differ, one after the other, and
then its kernel if that has another identifier. So a change of the model is told, with one exception:
when the kernel keeps its identifier and only its name differs, the model changes and nothing is
told.
-/

namespace KernelClient

/-- The text of a property. -/
def SessionModel.property : SessionProperty → SessionModel → String
  | .path => SessionModel.path
  | .name => SessionModel.name
  | .type => SessionModel.type

namespace Session

/-- Whether an effect is a signal. The others concern the connection to the kernel. -/
def Effect.isTold : Effect → Bool
  | .connectKernel _ _ | .disposeKernel _ => false
  | .property _ | .kernel _ | .terminated | .disposed => true

/-- What is told when one model takes the place of another. -/
def announced (before after : SessionModel) : List Effect :=
  if before = after then []
  else
    (changedProperties before after).map .property ++
      if kernelId? before = kernelId? after then [] else [.kernel after.kernel]

/-- What is told when models are applied one after the other. -/
def announcements : SessionModel → List SessionModel → List Effect
  | _, [] => []
  | before, model :: rest => announced before model ++ announcements model rest

/-- The model that is left when models are applied one after the other. -/
def finalModel : SessionModel → List SessionModel → SessionModel
  | before, [] => before
  | _, model :: rest => finalModel model rest

/-- Only the name of the kernel differs, which keeps its identifier. -/
def RenamesKernel (before after : SessionModel) : Prop :=
  ∃ old new : KernelModel, before.kernel = some old ∧ after = { before with kernel := some new } ∧
    old.id = new.id ∧ old.name ≠ new.name

variable {before after model : SessionModel} {session : Session}

/-- The properties that are told are those that differ, in a fixed order. -/
theorem changedProperties_eq_filter (before after : SessionModel) :
    changedProperties before after = [SessionProperty.path, .name, .type].filter
      fun property => before.property property != after.property property := by
  simp only [List.filter_cons, List.filter_nil, SessionModel.property, changedProperties]
  by_cases path : before.path = after.path
  all_goals by_cases name : before.name = after.name
  all_goals by_cases type : before.type = after.type
  all_goals simp [path, name, type]

theorem changedProperties_eq_nil_iff :
    changedProperties before after = [] ↔
      before.path = after.path ∧ before.name = after.name ∧ before.type = after.type := by
  rw [changedProperties_eq_filter, List.filter_eq_nil_iff]
  simp [SessionModel.property]

/-- A fresh model takes the place of the one before, and what is told is told in its order. -/
theorem update_of_not_isDisposed (alive : session.isDisposed = false)
    (same : session.model.id = model.id) (connection : Nat) :
    (session.update model connection).1.model = model ∧
      (session.update model connection).1.isDisposed = false ∧
      (session.update model connection).2.filter Effect.isTold = announced session.model model := by
  unfold update announced
  by_cases equal : session.model = model
  · rw [if_pos (.inr (.inr equal)), if_pos equal]
    exact ⟨equal, alive, rfl⟩
  · have changes : ¬(session.isDisposed = true ∨ session.model.id ≠ model.id ∨
        session.model = model) := by
      simp [alive, same, equal]
    have properties : ((changedProperties session.model model).map Effect.property).filter
        Effect.isTold = (changedProperties session.model model).map .property := by
      rw [List.filter_eq_self]
      rintro effect member
      obtain ⟨property, -, rfl⟩ := List.mem_map.mp member
      rfl
    rw [if_neg changes, if_neg equal]
    dsimp only
    by_cases kept : kernelId? session.model = kernelId? model
    · rw [if_pos kept, if_pos kept, List.append_nil]
      exact ⟨rfl, alive, properties⟩
    · rw [if_neg kept, if_neg kept]
      refine ⟨rfl, alive, ?_⟩
      -- To connect to a kernel and to dispose a connection is not told.
      cases model.kernel <;> cases session.kernel <;>
        simp [List.filter_append, properties, Effect.isTold]

/-- Nothing is told of a fresh model if it is the same or renames the kernel. -/
theorem announced_eq_nil_iff (same : before.id = after.id) :
    announced before after = [] ↔ before = after ∨ RenamesKernel before after := by
  unfold announced
  by_cases equal : before = after
  · simp [equal]
  · rw [if_neg equal, or_iff_right equal, List.append_eq_nil_iff, List.map_eq_nil_iff,
      changedProperties_eq_nil_iff]
    constructor
    · rintro ⟨⟨path, name, type⟩, kernel⟩
      have kept : kernelId? before = kernelId? after := by
        split at kernel
        case isTrue same => exact same
        case isFalse => cases kernel
      obtain ⟨id, oldPath, oldName, oldType, oldKernel⟩ := before
      obtain ⟨newId, newPath, newName, newType, newKernel⟩ := after
      dsimp only at same path name type
      subst same path name type
      -- The models differ, and of what they hold only the kernels are left.
      cases oldKernel with
      | none =>
          cases newKernel with
          | none => exact absurd rfl equal
          | some new => cases kept
      | some old =>
          cases newKernel with
          | none => cases kept
          | some new =>
              have sameId : old.id = new.id := Option.some.inj kept
              refine ⟨old, new, rfl, rfl, sameId, fun sameName => equal ?_⟩
              obtain rfl : old = new := by
                cases old
                cases new
                simp_all
              rfl
    · rintro ⟨old, new, held, rfl, sameId, -⟩
      have kept : kernelId? before = kernelId? { before with kernel := some new } := by
        simp [kernelId?, held, sameId]
      exact ⟨⟨rfl, rfl, rfl⟩, by rw [if_pos kept]⟩

theorem id_finalModel {models : List SessionModel} (same : ∀ model ∈ models, model.id = before.id) :
    (finalModel before models).id = before.id := by
  induction models generalizing before with
  | nil => rfl
  | cons model rest ih =>
      obtain ⟨first, others⟩ := List.forall_mem_cons.mp same
      rw [finalModel, ih (first.symm ▸ others), first]

end Session

end KernelClient
