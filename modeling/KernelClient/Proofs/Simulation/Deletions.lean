import KernelClient.Proofs.Simulation.Dialogue
import KernelClient.Rest.Terminals

/-!
# Deletion of a whole collection

To delete all kernels, sessions or terminals is to ask for their list and then to delete each entry
of it. All deletions are sent together as soon as the list is there, so that none of them depends on
how another one ends. The result is told when all of them are answered, in whatever order that
happens, and it is the first failure in the order of the list.
-/

namespace KernelClient

namespace Exchange

theorem map_map {α β γ : Type} (first : α → β) (second : β → γ) (exchange : Exchange α) :
    (exchange.map first).map second = exchange.map (second ∘ first) := by
  simp only [map]
  congr 1
  funext response
  cases (exchange.read response).1 <;> rfl

end Exchange

/-- The collections of resources that a server keeps. -/
inductive Collection where
  | kernels
  | sessions
  | terminals

namespace Collection

/-- The part of the URL that names a collection. -/
def segment : Collection → String
  | .kernels => "kernels"
  | .sessions => "sessions"
  | .terminals => "terminals"

/-- Ask for the identifiers of all resources. -/
def list (settings : Settings) : Collection → Exchange (List String)
  | .kernels => (Rest.Kernels.list settings).map (List.map KernelModel.id)
  | .sessions => (Rest.Sessions.list settings).map (List.map SessionModel.id)
  | .terminals => (Rest.Terminals.list settings).map (List.map TerminalModel.name)

/-- Delete one resource. -/
def deletion (settings : Settings) : Collection → String → Exchange Unit
  | .kernels => Rest.Kernels.shutdown settings
  | .sessions => Rest.Sessions.shutdown settings
  | .terminals => Rest.Terminals.shutdown settings

/-- Delete all resources. -/
def shutdownAll (settings : Settings) : Collection → Exchange (List (Exchange Unit))
  | .kernels => Rest.Kernels.shutdownAll settings
  | .sessions => Rest.Sessions.shutdownAll settings
  | .terminals => Rest.Terminals.shutdownAll settings

/-- What is said of a failure beside the response itself. -/
def remark? : Collection → Response → Option String
  | .sessions, response =>
      if response.status = 410 then some "The kernel was deleted but the session was not" else none
  | _, _ => none

/-- Why a resource does not count as deleted, if it does not: no response came, or one that says
neither that the resource was deleted nor that it is unknown. -/
def failure? (collection : Collection) : Except ServiceError Response → Option ServiceError
  | .error error => some error
  | .ok response =>
      if response.status = 204 ∨ response.status = 404 then none
      else some (.ofResponse response (collection.remark? response))

variable (collection : Collection) (settings : Settings)

end Collection

namespace Simulation

open World (plain)

variable {turns : List CallTurn} {outcome : CallOutcome} {answers : List Answer}
  {requests : List Request} {collection : Collection} {settings : Settings}

namespace World

theorem awaits_deletingEach :
    Awaits .deleting (fun slots world => world.checkEach slots)
      (fun slots => slots.mapM Slot.result?) (fun slots => slots.mapM Slot.outcome?)
      fun results world => (plain (Exchange.allOk results), world) := by
  apply Awaits.ofSlots
  · intro slots world pending
    simp only [runCall, runDeleting, pending]
  · intro slots world results settled
    simp only [runCall, runDeleting, settled]
    rfl

theorem waitsIn_listing : WaitsIn CallStage.listing := by
  intro slot world pending
  cases waiting : (world.check slot).1 with
  | waiting exchange timer answer => simp only [runCall, runListing, waiting]
  | settled result =>
      rw [waiting] at pending
      cases pending

/-- When the list is there, all deletions are sent at once, and the call goes on with them. -/
theorem runCall_listing {slot : Slot (List (Exchange Unit))} {exchanges : List (Exchange Unit)}
    {world : World} (arrived : (world.check slot).1 = .settled (.ok exchanges)) :
    world.runCall (.listing slot) =
      ((world.check slot).2.askEach exchanges).2.runCall
        (.deleting ((world.check slot).2.askEach exchanges).1) := by
  simp only [runCall, runListing, arrived, checkEach_askEach]

end World

/-- The turns from the request for a list on. -/
theorem CallRun.listing {slot : Slot (List (Exchange Unit))}
    (run : CallRun (.listing slot) turns outcome) :
    (∃ error, slot.outcome? = some (.error error) ∧ Sends turns [] [] ∧ outcome = .error error) ∨
    ∃ exchanges, slot.outcome? = some (.ok exchanges) ∧
      ∀ requests : List Request, exchanges.map Exchange.request = requests.map .ok →
        ∃ answers, answers.length = requests.length ∧ Sends turns requests answers ∧
          outcome = plain (Exchange.allOk (Exchange.results exchanges answers)) := by
  obtain ⟨earlier, last, before, after, rest, result, rfl, waits, run, arrived, comes⟩ :=
    run.exists_arrival World.waitsIn_listing
  have quiet := (World.asks_check last before).sent
  rw [List.append_nil] at quiet
  cases result with
  | error error =>
      have turn : before.runCall (.listing last) =
          (.finished (.error error), (before.check last).2) := by
        simp only [World.runCall, World.runListing, arrived]
      cases run with
      | ends ends =>
          cases turn.symm.trans ends
          exact .inl ⟨error, comes, .afterWaits waits (.silent quiet .nothing), rfl⟩
      | waits waits => cases turn.symm.trans waits
  | ok exchanges =>
      refine .inr ⟨exchanges, comes, fun requests composed => ?_⟩
      obtain ⟨sends, results, world, come, told⟩ :=
        World.awaits_deletingEach.callRun (fun _ _ => rfl)
          (run.ofMiddle (World.runCall_listing arrived))
      rw [mapM_eq_some_iff, World.outcomes_askEach, Server.outcomes_eq composed,
        World.server_check] at come
      have asks := (World.asks_check last before).trans (World.asks_askEach composed _)
      have sends : Sends (⟨.listing last, before, after⟩ :: rest) _ _ := sends.ofMiddle asks
      rw [List.append_nil, List.append_nil] at sends
      exact ⟨_, Server.length_answerEach requests _, .afterWaits waits sends,
        told.trans (by rw [results_of_answered come])⟩

namespace CallStage

variable {next : CallStage} {world after : World} {slot : Slot (List (Exchange Unit))}
  {slots : List (Slot Unit)}

end CallStage

namespace World

end World

end Simulation

end KernelClient
