import KernelClient.Proofs.Simulation.Refusals
import KernelClient.Proofs.Simulation.Shutdowns

/-!
# What a call sends

A call sends requests in some of its turns, and the server chooses an answer to each of them as it
is sent. Whatever goes on between two turns, what the call sends and how that is answered is read
off the turns. A call that only waits sends nothing. It comes to an end if its turns come late
enough and no answer is left out.
-/

namespace KernelClient

/-- A server of which one resource has a URL has URLs for all. -/
theorem Exchange.exists_ask {settings : Settings} {method : Method} {segments : List String}
    {body : Option Json} {request : Request}
    (composed : Exchange.ask settings method segments body = .ok request)
    (other : Method) (more : List String) (content : Option Json) :
    ∃ request, Exchange.ask settings other more content = .ok request := by
  unfold Exchange.ask Settings.apiUrl Settings.join Url.extend? at composed ⊢
  cases path : settings.baseUrl.path with
  | plain text =>
      rw [path] at composed
      cases composed
  | segments before => exact ⟨_, rfl⟩

/-- The result of an exchange by the answer of a server, unless that never comes. -/
def Exchange.answered? {α : Type} (exchange : Exchange α) (answer : Simulation.Answer) :
    Option (Except ServiceError α) :=
  if answer.isHanging then none else some (exchange.settle answer.outcome).1

/-- The results of exchanges by what the server answered to each of them. -/
def Exchange.results {α : Type} (exchanges : List (Exchange α))
    (answers : List Simulation.Answer) : List (Except ServiceError α) :=
  exchanges.zipWith (fun exchange answer => (exchange.settle answer.outcome).1) answers

namespace Simulation

namespace Server

variable {α : Type}

/-- How requests that are sent one after the other are answered, and the server after them. -/
def answerEach : List Request → Server → List Answer × Server
  | [], server => ([], server)
  | request :: rest, server =>
      let (answer, server) := server.answer request
      let (answers, server) := answerEach rest server
      (answer :: answers, server)

/-- Whether no request is left without an answer, however many are sent. -/
def AnswersAll (server : Server) : Prop :=
  ∀ requests, ∀ answer ∈ (server.answerEach requests).1, answer.isHanging = false

theorem answerEach_append (first second : List Request) (server : Server) :
    server.answerEach (first ++ second) =
      ((server.answerEach first).1 ++ ((server.answerEach first).2.answerEach second).1,
        ((server.answerEach first).2.answerEach second).2) := by
  induction first generalizing server with
  | nil => rfl
  | cons request rest ih => simp only [List.cons_append, answerEach, ih]

@[simp]
theorem length_answerEach (requests : List Request) (server : Server) :
    (server.answerEach requests).1.length = requests.length := by
  induction requests generalizing server with
  | nil => rfl
  | cons request rest ih => simp only [answerEach, List.length_cons, ih]

theorem answerEach_congr {server other : Server} (same : server.script = other.script)
    (requests : List Request) :
    (server.answerEach requests).1 = (other.answerEach requests).1 := by
  induction requests generalizing server other with
  | nil => rfl
  | cons request rest ih =>
      have both := (answer_script request server).symm.trans
        ((congrArg (answer request) same).trans (answer_script request other))
      obtain ⟨first, later⟩ := Prod.mk.inj both
      simp only [answerEach, first, ih later]

/-- Nothing else of a server decides whether it answers. -/
theorem AnswersAll.congr {server other : Server} (answers : server.AnswersAll)
    (same : other.script = server.script) : other.AnswersAll := by
  intro requests
  rw [answerEach_congr same]
  exact answers requests

theorem outcome_of_composed {exchange : Exchange α} {request : Request}
    (composed : exchange.request = .ok request) (server : Server) :
    server.outcome exchange =
      (exchange.answered? (server.answer request).1, (server.answer request).2) := by
  rw [outcome, composed]
  rfl

/-- The outcomes of exchanges are read from the answers to their requests. -/
theorem outcomes_eq {exchanges : List (Exchange α)} {requests : List Request}
    (composed : exchanges.map Exchange.request = requests.map .ok) (server : Server) :
    server.outcomes exchanges =
      exchanges.zipWith Exchange.answered? (server.answerEach requests).1 := by
  induction exchanges generalizing requests server with
  | nil => rfl
  | cons exchange rest ih =>
      obtain ⟨request, others, rfl, first, later⟩ := List.map_eq_cons_iff.mp composed.symm
      rw [outcomes, outcome_of_composed first.symm, ih later.symm]
      rfl

end Server

/-- When all answers have come, the results are those that the answers settle. -/
theorem results_of_answered {α : Type} {exchanges : List (Exchange α)} {answers : List Answer}
    {results : List (Except ServiceError α)}
    (come : exchanges.zipWith Exchange.answered? answers = results.map some) :
    results = Exchange.results exchanges answers := by
  induction exchanges generalizing answers results with
  | nil =>
      cases results with
      | nil => rfl
      | cons => simp at come
  | cons exchange rest ih =>
      cases answers with
      | nil =>
          cases results with
          | nil => rfl
          | cons => simp at come
      | cons answer others =>
          cases results with
          | nil => simp at come
          | cons result more =>
              obtain ⟨first, later⟩ := List.cons_eq_cons.mp come
              rw [Exchange.answered?] at first
              split at first
              · cases first
              · cases first
                rw [ih later]
                rfl

namespace World

variable {α : Type} {world before middle after : World}

/-- Some requests are sent, and the server has chosen its answers to them. -/
structure Asks (before : World) (requests : List Request) (after : World) : Prop where
  sent : after.trace.requests = before.trace.requests ++ requests
  server : after.server = (before.server.answerEach requests).2

theorem Asks.trans {first second : List Request} (start : Asks before first middle)
    (rest : Asks middle second after) : Asks before (first ++ second) after where
  sent := by rw [rest.sent, start.sent, List.append_assoc]
  server := by rw [rest.server, start.server, Server.answerEach_append]

theorem asks_ask {exchange : Exchange α} {request : Request}
    (composed : exchange.request = .ok request) (world : World) :
    Asks world [request] (world.ask exchange).2 where
  sent := by
    rw [requests_ask, composed]
    rfl
  server := by
    rw [(outcome?_ask exchange world).2, Server.outcome_of_composed composed]
    rfl

/-- A request that cannot be composed is not sent. -/
theorem asks_nothing {exchange : Exchange α} {error : ServiceError}
    (refused : exchange.request = .error error) (world : World) :
    Asks world [] (world.ask exchange).2 where
  sent := by
    rw [requests_ask, refused]
    rfl
  server := by
    rw [(outcome?_ask exchange world).2, Server.outcome, refused]
    rfl

theorem asks_askEach {exchanges : List (Exchange α)} {requests : List Request}
    (composed : exchanges.map Exchange.request = requests.map .ok) (world : World) :
    Asks world requests (world.askEach exchanges).2 := by
  induction exchanges generalizing requests world with
  | nil =>
      obtain rfl := List.map_eq_nil_iff.mp composed.symm
      exact ⟨(List.append_nil _).symm, rfl⟩
  | cons exchange rest ih =>
      obtain ⟨request, others, rfl, first, later⟩ := List.map_eq_cons_iff.mp composed.symm
      exact (asks_ask first.symm world).trans (ih later.symm _)

/-- To look whether an answer has arrived asks for nothing. -/
theorem asks_check (slot : Slot α) (world : World) : Asks world [] (world.check slot).2 := by
  cases slot with
  | waiting exchange timer answer =>
      simp only [check]
      split <;> exact ⟨(List.append_nil _).symm, rfl⟩
  | settled result => exact ⟨(List.append_nil _).symm, rfl⟩

theorem server_check (slot : Slot α) (world : World) :
    (world.check slot).2.server = world.server :=
  (asks_check slot world).server

end World

variable {stage other : CallStage} {before middle after : World} {turns : List CallTurn}
  {outcome : CallOutcome} {requests first : List Request} {answers : List Answer}

/-- What is sent in some turns, and how the server answers, in the order of the requests. -/
inductive Sends : List CallTurn → List Request → List Answer → Prop where
  | nothing : Sends [] [] []
  | turn {turn : CallTurn} {turns : List CallTurn} {requests more : List Request}
      {answers : List Answer}
      (sent : turn.after.trace.requests = turn.before.trace.requests ++ requests)
      (rest : Sends turns more answers) :
      Sends (turn :: turns) (requests ++ more)
        ((turn.before.server.answerEach requests).1 ++ answers)

/-- Each request has one answer. -/
theorem Sends.length_eq (sends : Sends turns requests answers) :
    answers.length = requests.length := by
  induction sends with
  | nothing => rfl
  | turn sent rest ih =>
      rw [List.length_append, List.length_append, Server.length_answerEach, ih]

/-- A turn in which nothing is sent. -/
theorem Sends.silent {turn : CallTurn}
    (silent : turn.after.trace.requests = turn.before.trace.requests)
    (rest : Sends turns requests answers) : Sends (turn :: turns) requests answers :=
  .turn (silent.trans (List.append_nil _).symm) rest

/-- What is sent at the beginning of a turn comes first. -/
theorem Sends.ofMiddle (asks : World.Asks before first middle)
    (sends : Sends (⟨stage, middle, after⟩ :: turns) requests answers) :
    Sends (⟨other, before, after⟩ :: turns) (first ++ requests)
      ((before.server.answerEach first).1 ++ answers) := by
  cases sends with
  | @turn _ _ here more others sent rest =>
      have all : after.trace.requests = before.trace.requests ++ (first ++ here) := by
        rw [← List.append_assoc, ← asks.sent]
        exact sent
      have sends : Sends (⟨other, before, after⟩ :: turns) _ _ := .turn all rest
      rw [Server.answerEach_append, ← asks.server, List.append_assoc, List.append_assoc] at sends
      exact sends

/-- The requests of a turn of which the first ones are known, whatever the server answers. -/
theorem Sends.exists_ofMiddle
    (sent : middle.trace.requests = before.trace.requests ++ first)
    (sends : Sends (⟨stage, middle, after⟩ :: turns) requests answers) :
    ∃ answers, Sends (⟨other, before, after⟩ :: turns) (first ++ requests) answers := by
  cases sends with
  | @turn _ _ here more others later rest =>
      have all : after.trace.requests = before.trace.requests ++ (first ++ here) := by
        rw [← List.append_assoc, ← sent]
        exact later
      have sends : Sends (⟨other, before, after⟩ :: turns) _ _ := .turn all rest
      rw [List.append_assoc] at sends
      exact ⟨_, sends⟩

/-- A call goes on as it would from another stage if its next turn does the same. -/
theorem CallRun.ofMiddle (same : before.runCall stage = middle.runCall other)
    (run : CallRun stage (⟨stage, before, after⟩ :: turns) outcome) :
    CallRun other (⟨other, middle, after⟩ :: turns) outcome := by
  cases run with
  | ends ends => exact .ends (same.symm.trans ends)
  | waits waits rest => exact .waits (same.symm.trans waits) rest

theorem CallRun.exists_first (run : CallRun stage turns outcome) :
    ∃ before after rest, turns = ⟨stage, before, after⟩ :: rest := by
  cases run with
  | ends => exact ⟨_, _, _, rfl⟩
  | waits => exact ⟨_, _, _, rfl⟩

/-- The world after the first turn. -/
theorem CallRun.after_eq (run : CallRun stage (⟨stage, before, after⟩ :: turns) outcome) :
    after = (before.runCall stage).2 := by
  cases run with
  | ends ends => rw [ends]
  | waits waits => rw [waits]

/-- The turns of a call, the later ones of them at given times, and its outcome, while nothing else
goes on. -/
def World.callAt : List Nat → CallStage → World → Option (List CallTurn × CallOutcome)
  | [], stage, world =>
      match world.runCall stage with
      | (.finished outcome, after) => some ([⟨stage, world, after⟩], outcome)
      | (.waiting _, _) => none
  | time :: times, stage, world =>
      match world.runCall stage with
      | (.finished outcome, after) => some ([⟨stage, world, after⟩], outcome)
      | (.waiting next, after) =>
          (callAt times next (after.setClock time)).map fun (turns, outcome) =>
            (⟨stage, world, after⟩ :: turns, outcome)

theorem World.callRun_of_callAt {times : List Nat} {world : World}
    (called : world.callAt times stage = some (turns, outcome)) :
    CallRun stage turns outcome := by
  induction times generalizing stage world turns with
  | nil =>
      unfold callAt at called
      split at called
      case h_1 ends =>
        cases called
        exact .ends ends
      case h_2 => cases called
  | cons time times ih =>
      unfold callAt at called
      split at called
      case h_1 ends =>
        cases called
        exact .ends ends
      case h_2 next after waits =>
        obtain ⟨⟨rest, told⟩, later, same⟩ := Option.map_eq_some_iff.mp called
        cases same
        exact .waits waits (ih later)

/-- How a call waits for an answer: it looks whether that is there, and that is all. -/
def WaitsIn {α : Type} (slotStage : Slot α → CallStage) : Prop :=
  ∀ slot (world : World), (world.check slot).1.result? = none →
    world.runCall (slotStage slot) =
      (.waiting (slotStage (world.check slot).1), (world.check slot).2)

section Waiting

variable {α : Type} {slotStage : Slot α → CallStage} {slot : Slot α} {earlier : List CallTurn}

/-- A turn after which a call still waits for an answer. -/
structure CallTurn.WaitsIn (slotStage : Slot α → CallStage) (turn : CallTurn) : Prop where
  waits : ∃ next, turn.before.runCall turn.stage = (.waiting (slotStage next), turn.after)
  idles : World.Idles turn.before turn.after

/-- Before the turn in which the answer is there, a call only waits. -/
theorem CallRun.exists_arrival (waitsIn : WaitsIn slotStage)
    (run : CallRun (slotStage slot) turns outcome) :
    ∃ earlier last before after later result,
      turns = earlier ++ ⟨slotStage last, before, after⟩ :: later ∧
      (∀ turn ∈ earlier, turn.WaitsIn slotStage) ∧
      CallRun (slotStage last) (⟨slotStage last, before, after⟩ :: later) outcome ∧
      (before.check last).1 = .settled result ∧ slot.outcome? = some result := by
  induction turns generalizing slot with
  | nil => cases run
  | cons turn rest ih =>
      obtain ⟨before, after, _, ⟨rfl, rfl⟩⟩ := run.exists_first
      have keeps := World.outcome?_check slot before
      cases arrived : (before.check slot).1.result? with
      | some result =>
          have arrived := Slot.eq_of_result? arrived
          rw [arrived] at keeps
          exact ⟨[], slot, before, after, rest, result, rfl, by simp, run, arrived, keeps.symm⟩
      | none =>
          have turn := waitsIn slot before arrived
          cases run with
          | ends ends => cases turn.symm.trans ends
          | waits waits goesOn =>
              cases turn.symm.trans waits
              obtain ⟨earlier, last, first, second, later, result, rfl, idle, run, arrived,
                comes⟩ := ih goesOn
              have turn : (CallTurn.mk (slotStage slot) before _).WaitsIn slotStage :=
                ⟨⟨_, turn⟩, World.idles_check slot before⟩
              exact ⟨_ :: earlier, last, first, second, later, result, rfl,
                List.forall_mem_cons.mpr ⟨turn, idle⟩, run, arrived, keeps.symm.trans comes⟩

/-- Nothing is sent while a call waits. -/
theorem Sends.afterWaits (waits : ∀ turn ∈ earlier, turn.WaitsIn slotStage)
    (sends : Sends turns requests answers) : Sends (earlier ++ turns) requests answers := by
  induction earlier with
  | nil => exact sends
  | cons turn rest ih =>
      obtain ⟨first, others⟩ := List.forall_mem_cons.mp waits
      exact .silent (congrArg Contact.requests first.idles.contact) (ih others)

end Waiting

namespace World.Awaits

variable {Wait Result : Type} {stageOf : Wait → CallStage} {look : Wait → World → Wait × World}
  {result? outcome? : Wait → Option Result} {finish : Result → World → CallOutcome × World}
  {wait : Wait}

/-- A call that only waits for its answers sends nothing until they are there, whatever goes on
meanwhile, and then it is over. -/
theorem callRun (awaits : Awaits stageOf look result? outcome? finish)
    (silent : ∀ result world,
      (finish result world).2.trace.requests = world.trace.requests)
    (run : CallRun (stageOf wait) turns outcome) :
    Sends turns [] [] ∧
      ∃ result last, outcome? wait = some result ∧ outcome = (finish result last).1 := by
  have looked (wait : Wait) (world : World) :
      (look wait world).2.trace.requests = world.trace.requests :=
    congrArg Contact.requests (awaits.idles wait world).contact
  generalize isStage : stageOf wait = stage at run
  induction run generalizing wait with
  | @ends stage before after outcome ends =>
      subst isStage
      cases arrived : result? (look wait before).1 with
      | none =>
          rw [awaits.waits wait before arrived] at ends
          cases ends
      | some result =>
          rw [awaits.ends wait before result arrived] at ends
          cases ends
          have comes := (awaits.keeps wait before).symm.trans (awaits.settles _ _ arrived)
          exact ⟨.silent ((silent result _).trans (looked wait before)) .nothing,
            result, _, comes, rfl⟩
  | @waits stage next before after turns outcome waits rest ih =>
      subst isStage
      cases arrived : result? (look wait before).1 with
      | some result =>
          rw [awaits.ends wait before result arrived] at waits
          cases waits
      | none =>
          rw [awaits.waits wait before arrived] at waits
          cases waits
          obtain ⟨sends, result, last, comes, told⟩ := ih rfl
          rw [awaits.keeps] at comes
          exact ⟨.silent (looked wait before) sends, result, last, comes, told⟩

end World.Awaits

/-- A call that comes to an end from a stage on if each of its turns comes late enough and meets a
server that leaves no request without an answer. -/
inductive CallStage.Ends : CallStage → Prop where
  | intro {stage : CallStage} (time : Nat)
      (goesOn : ∀ world : World, time ≤ world.clock → world.server.AnswersAll →
        ∀ next after, world.runCall stage = (.waiting next, after) → next.Ends) : stage.Ends

/-- A call comes to an end if it is over in each turn that comes late enough. -/
theorem CallStage.Ends.of_late (time : Nat)
    (finishes : ∀ world : World, time ≤ world.clock →
      ∃ outcome after, world.runCall stage = (.finished outcome, after)) : stage.Ends := by
  apply Ends.intro time
  intro world late _ next after waits
  obtain ⟨outcome, last, finished⟩ := finishes world late
  cases finished.symm.trans waits

namespace World

variable {α : Type} {world : World}

/-- What is asked of a server that leaves nothing without an answer has an outcome. -/
theorem exists_outcome_ask (answers : world.server.AnswersAll) (exchange : Exchange α) :
    (∃ result, (world.ask exchange).1.outcome? = some result) ∧
      (world.ask exchange).2.server.AnswersAll := by
  obtain ⟨asked, server⟩ := outcome?_ask exchange world
  rw [asked, server]
  cases composed : exchange.request with
  | error error =>
      rw [Server.outcome, composed]
      exact ⟨⟨_, rfl⟩, answers⟩
  | ok request =>
      rw [Server.outcome_of_composed composed]
      have comes := answers [request] _ (List.mem_singleton_self _)
      constructor
      · exact ⟨_, if_neg (Bool.eq_false_iff.mp comes)⟩
      · intro more answer member
        exact answers (request :: more) answer (List.mem_cons_of_mem _ member)

end World

namespace CallStage

variable {α : Type} {slotStage : Slot α → CallStage} {stage : CallStage}

/-- A call that waits for an answer which will come ends if it does so from the answer on. -/
theorem ends_of_slot {slot : Slot α} {result : Except ServiceError α}
    (goesOn : ∀ slot result next (world after : World),
      (world.check slot).1 = .settled result → world.server.AnswersAll →
        world.runCall (slotStage slot) = (.waiting next, after) → next.Ends)
    (comes : slot.outcome? = some result) : (slotStage slot).Ends := by
  obtain ⟨time, arrives⟩ := Slot.exists_resultAt comes
  apply Ends.intro time
  intro world late answers next after waits
  have arrived := (World.result_check slot world).trans (arrives _ late)
  exact goesOn slot result next world after (Slot.eq_of_result? arrived) answers waits

/-- A call that begins with a question ends if it does so from the answer on. -/
theorem ends_of_ask (waitsIn : WaitsIn slotStage) (exchange : World → Exchange α)
    (begins : ∀ world : World, world.runCall stage =
      (world.ask (exchange world)).2.runCall (slotStage (world.ask (exchange world)).1))
    (goesOn : ∀ slot result next (world after : World),
      (world.check slot).1 = .settled result → world.server.AnswersAll →
        world.runCall (slotStage slot) = (.waiting next, after) → next.Ends) : stage.Ends := by
  apply Ends.intro 0
  intro world _ answers next after waits
  rw [begins] at waits
  obtain ⟨⟨result, comes⟩, still⟩ := World.exists_outcome_ask answers (exchange world)
  generalize world.ask (exchange world) = asked at comes still waits
  cases arrived : (asked.2.check asked.1).1.result? with
  | some result =>
      exact goesOn _ _ _ _ _ (Slot.eq_of_result? arrived) still waits
  | none =>
      rw [waitsIn asked.1 asked.2 arrived] at waits
      cases waits
      exact ends_of_slot goesOn ((World.outcome?_check asked.1 asked.2).trans comes)

end CallStage

end Simulation

end KernelClient
