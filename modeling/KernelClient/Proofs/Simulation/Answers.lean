import KernelClient.Proofs.Simulation.Loading

/-!
# Answers to exchanges

How an exchange ends is settled when its request is sent: the server chooses the answer, and all
that is left open is when it arrives. So of exchanges that are sent together, as of those that are
sent one after the other, the outcomes can be read from what the server is set to answer.
-/

namespace KernelClient.Simulation

namespace Server

variable {α : Type}

/-- The outcome of an exchange, unless its answer never comes, and the server after it. -/
def outcome (exchange : Exchange α) (server : Server) : Option (Except ServiceError α) × Server :=
  match exchange.request with
  | .error error => (some (.error error), server)
  | .ok request =>
      let (answer, server) := server.answer request
      (if answer.isHanging then none else some (exchange.settle answer.outcome).1, server)

/-- The outcomes of exchanges, in the order in which they are sent. -/
def outcomes : List (Exchange α) → Server → List (Option (Except ServiceError α))
  | [], _ => []
  | exchange :: rest, server =>
      (server.outcome exchange).1 :: outcomes rest (server.outcome exchange).2

theorem answer_script (request : Request) (server : Server) :
    server.script.answer request =
      ((server.answer request).1, (server.answer request).2.script) := by
  unfold answer script
  split
  · rfl
  · dsimp only
    split <;> rfl

theorem outcome_script (exchange : Exchange α) (server : Server) :
    server.script.outcome exchange =
      ((server.outcome exchange).1, (server.outcome exchange).2.script) := by
  unfold outcome
  split
  · rfl
  · rw [answer_script]

theorem outcome_congr {server other : Server} (same : server.script = other.script)
    (exchange : Exchange α) :
    (server.outcome exchange).1 = (other.outcome exchange).1 ∧
      (server.outcome exchange).2.script = (other.outcome exchange).2.script := by
  have both := (outcome_script exchange server).symm.trans
    ((congrArg (outcome exchange) same).trans (outcome_script exchange other))
  exact Prod.mk.inj both

/-- Nothing else of a server decides outcomes. -/
theorem outcomes_congr {server other : Server} (same : server.script = other.script)
    (exchanges : List (Exchange α)) : server.outcomes exchanges = other.outcomes exchanges := by
  induction exchanges generalizing server other with
  | nil => rfl
  | cons exchange rest ih =>
      obtain ⟨first, others⟩ := outcome_congr same exchange
      rw [outcomes, outcomes, first, ih others]

end Server

/-- All items have a result exactly if each of them has. -/
theorem mapM_eq_some_iff {α β : Type} {read : α → Option β} {items : List α}
    {results : List β} :
    items.mapM read = some results ↔ items.map read = results.map some := by
  induction items generalizing results with
  | nil => cases results <;> simp
  | cons item rest ih =>
      rw [List.mapM_cons, List.map_cons]
      cases read item with
      | none => cases results <;> simp
      | some result =>
          cases results with
          | nil => cases rest.mapM read <;> simp
          | cons first others =>
              rw [List.map_cons, List.cons.injEq, ← ih]
              cases rest.mapM read <;> simp

namespace Slot

variable {α : Type}

/-- The outcome of an exchange that is under way, unless its answer never comes. -/
def outcome? : Slot α → Option (Except ServiceError α)
  | .waiting exchange timer answer => timer.due.map fun _ => (exchange.settle answer).1
  | .settled result => some result

theorem outcome?_of_resultAt {slot : Slot α} {clock : Nat} {result : Except ServiceError α}
    (arrived : slot.resultAt clock = some result) : slot.outcome? = some result := by
  cases slot with
  | waiting exchange timer answer =>
      simp only [resultAt, Timer.isDue] at arrived
      cases due : timer.due with
      | none => simp [due] at arrived
      | some time =>
          simp only [due] at arrived
          split at arrived
          · rw [outcome?, due]
            exact arrived
          · cases arrived
  | settled result => exact arrived

/-- An answer that comes has arrived after some time. -/
theorem exists_resultAt {slot : Slot α} {result : Except ServiceError α}
    (comes : slot.outcome? = some result) :
    ∃ time, ∀ clock, time ≤ clock → slot.resultAt clock = some result := by
  cases slot with
  | waiting exchange timer answer =>
      obtain ⟨time, due, settles⟩ := Option.map_eq_some_iff.mp comes
      refine ⟨time, fun clock late => ?_⟩
      simp [resultAt, Timer.isDue, due, late, settles]
  | settled result => exact ⟨0, fun _ _ => comes⟩

theorem exists_resultAt_all {slots : List (Slot α)} {results : List (Except ServiceError α)}
    (come : slots.map outcome? = results.map some) :
    ∃ time, ∀ clock, time ≤ clock → slots.map (resultAt clock) = results.map some := by
  induction slots generalizing results with
  | nil =>
      refine ⟨0, fun _ _ => ?_⟩
      rw [← come]
      rfl
  | cons slot rest ih =>
      obtain ⟨result, others, rfl, first, later⟩ := List.map_eq_cons_iff.mp come.symm
      obtain ⟨time, arrives⟩ := exists_resultAt first.symm
      obtain ⟨last, all⟩ := ih later.symm
      refine ⟨max time last, fun clock late => ?_⟩
      rw [List.map_cons, List.map_cons, arrives clock (Nat.le_trans (Nat.le_max_left ..) late),
        all clock (Nat.le_trans (Nat.le_max_right ..) late)]

theorem outcomes_of_results {slots : List (Slot α)} {results : List (Except ServiceError α)}
    (arrived : slots.map result? = results.map some) :
    slots.map outcome? = results.map some := by
  induction slots generalizing results with
  | nil => simpa using arrived
  | cons slot rest ih =>
      obtain ⟨result, others, rfl, first, later⟩ := List.map_eq_cons_iff.mp arrived.symm
      rw [List.map_cons, List.map_cons, eq_of_result? first.symm, ih later.symm]
      rfl

end Slot

namespace World

variable {α : Type} {world : World}

/-- What is asked is answered as the server is set to. -/
theorem outcome?_ask (exchange : Exchange α) (world : World) :
    (world.ask exchange).1.outcome? = (world.server.outcome exchange).1 ∧
      (world.ask exchange).2.server = (world.server.outcome exchange).2 := by
  unfold ask Server.outcome
  cases exchange.request with
  | error error => exact ⟨rfl, rfl⟩
  | ok request =>
      dsimp only
      cases (world.server.answer request).1.isHanging with
      | true => exact ⟨rfl, rfl⟩
      | false =>
          rw [if_neg Bool.false_ne_true, if_neg Bool.false_ne_true]
          split <;> exact ⟨rfl, rfl⟩

theorem outcomes_askEach (exchanges : List (Exchange α)) (world : World) :
    (world.askEach exchanges).1.map Slot.outcome? = world.server.outcomes exchanges := by
  induction exchanges generalizing world with
  | nil => rfl
  | cons exchange rest ih =>
      obtain ⟨first, server⟩ := outcome?_ask exchange world
      rw [askEach, List.map_cons, first, ih, server, Server.outcomes]

theorem outcome?_check (slot : Slot α) (world : World) :
    (world.check slot).1.outcome? = slot.outcome? := by
  cases slot with
  | waiting exchange timer answer =>
      rw [check]
      split
      case isTrue due =>
        have arrived : (Slot.waiting exchange timer answer).resultAt world.clock =
            some (exchange.settle answer).1 := if_pos due
        exact (Slot.outcome?_of_resultAt arrived).symm
      case isFalse => rfl
  | settled result => rfl

theorem aside_askEach (exchanges : List (Exchange α)) (world : World) :
    Aside world (world.askEach exchanges).2 := by
  induction exchanges generalizing world with
  | nil => exact .refl world
  | cons exchange rest ih => exact (aside_ask exchange world).trans (ih _)

theorem aside_checkEach (slots : List (Slot α)) (world : World) :
    Aside world (world.checkEach slots).2 := by
  induction slots generalizing world with
  | nil => exact .refl world
  | cons slot rest ih => exact (aside_check slot world).trans (ih _)

theorem contact_checkEach (slots : List (Slot α)) (world : World) :
    (world.checkEach slots).2.contact = world.contact := by
  induction slots generalizing world with
  | nil => rfl
  | cons slot rest ih => exact (ih _).trans (contact_check slot world)

theorem outcomes_checkEach (slots : List (Slot α)) (world : World) :
    (world.checkEach slots).1.map Slot.outcome? = slots.map Slot.outcome? := by
  induction slots generalizing world with
  | nil => rfl
  | cons slot rest ih => rw [checkEach, List.map_cons, outcome?_check, ih, List.map_cons]

theorem results_checkEach (slots : List (Slot α)) (world : World) :
    (world.checkEach slots).1.map Slot.result? = slots.map (Slot.resultAt world.clock) := by
  induction slots generalizing world with
  | nil => rfl
  | cons slot rest ih =>
      rw [checkEach, List.map_cons, result_check, ih, (aside_check slot world).clock, List.map_cons]

theorem checkEach_of_not_isDue {slots : List (Slot α)}
    (early : ∀ slot ∈ slots, slot.isDue world.clock = false) :
    world.checkEach slots = (slots, world) := by
  induction slots with
  | nil => rfl
  | cons slot rest ih =>
      rw [checkEach, check_of_not_isDue (early slot List.mem_cons_self)]
      dsimp only
      rw [ih fun other member => early other (List.mem_cons_of_mem _ member)]

theorem isDue_askEach (exchanges : List (Exchange α)) (world : World) :
    ∀ slot ∈ (world.askEach exchanges).1, slot.isDue world.clock = false := by
  induction exchanges generalizing world with
  | nil => simp [askEach]
  | cons exchange rest ih =>
      intro slot member
      rcases List.mem_cons.mp member with rfl | later
      · exact isDue_ask exchange world
      · have early := ih (world.ask exchange).2 slot later
        rwa [(aside_ask exchange world).clock] at early

/-- Of requests that have just been sent, no answer has arrived that is not there already. -/
theorem checkEach_askEach (exchanges : List (Exchange α)) (world : World) :
    (world.askEach exchanges).2.checkEach (world.askEach exchanges).1 =
      world.askEach exchanges := by
  refine checkEach_of_not_isDue fun slot member => ?_
  rw [(aside_askEach exchanges world).clock]
  exact isDue_askEach exchanges world slot member

end World

end KernelClient.Simulation
