import KernelClient.Proofs.Simulation.Releasing

/-!
# Shutdown of all resources

A manager shuts down all its resources at once, or one after the other. Both leave the same cache
and report the same error. But one after the other lets go of a connection only if the server has
deleted its resource, whereas all at once lets go of every connection to a resource that was listed,
also if its deletion has failed.
-/

namespace KernelClient.Simulation

namespace World

variable {world before middle after : World} {stage : CallStage} {outcome : CallOutcome}
  {id : ManagerId} {resource : String} {listed : List String} {tracked : List (String × Nat)}

/-- A call that is made while nothing else goes on: between its turns only time passes. -/
inductive Completes : CallStage → World → CallOutcome → World → Prop where
  | ends {stage : CallStage} {before after : World} {outcome : CallOutcome}
      (ends : before.runCall stage = (.finished outcome, after)) :
      Completes stage before outcome after
  | waits {stage next : CallStage} {before middle after : World} {outcome : CallOutcome}
      (waits : before.runCall stage = (.waiting next, middle)) (time : Nat)
      (rest : Completes next (middle.setClock time) outcome after) :
      Completes stage before outcome after

theorem Completes.acts (completes : Completes stage before outcome after) : Acts before after := by
  induction completes with
  | @ends stage before after outcome ends =>
      have acts : Acts before (before.runCall stage).2 := acts_runCall stage
      rwa [ends] at acts
  | @waits stage next before middle after outcome waits time _ ih =>
      have acts : Acts before (before.runCall stage).2 := acts_runCall stage
      rw [waits] at acts
      exact (acts.trans (acts_setClock time)).trans ih

/-- What a call comes to is decided by its first turn. -/
theorem Completes.congr {other : World} {otherStage : CallStage}
    (completes : Completes stage before outcome after)
    (same : other.runCall otherStage = before.runCall stage) :
    Completes otherStage other outcome after := by
  cases completes with
  | ends ends => exact .ends (same.trans ends)
  | waits waits time rest => exact .waits (same.trans waits) time rest

/-- Neither the objects nor the contact with the server change. -/
structure Idles (before after : World) : Prop extends SameObjects before after where
  contact : after.contact = before.contact

theorem Idles.trans (first : Idles before middle) (second : Idles middle after) :
    Idles before after where
  toSameObjects := first.toSameObjects.trans second.toSameObjects
  contact := second.contact.trans first.contact

theorem idles_check {α : Type} (slot : Slot α) (world : World) :
    Idles world (world.check slot).2 :=
  ⟨(aside_check slot world).toSameObjects, contact_check slot world⟩

theorem idles_checkEach {α : Type} (slots : List (Slot α)) (world : World) :
    Idles world (world.checkEach slots).2 :=
  ⟨(aside_checkEach slots world).toSameObjects, contact_checkEach slots world⟩

theorem idles_setClock (time : Nat) (world : World) : Idles world (world.setClock time) := by
  have set : Idles world { world with clock := time } := ⟨⟨rfl, rfl, rfl, rfl⟩, rfl⟩
  exact set.trans ⟨(Aside.wake _).toSameObjects, contact_wake _⟩

/-- Stages in which a call waits for answers: it looks what has arrived, and goes on to its end as
soon as all answers are there. -/
structure Awaits {Wait Result : Type} (stageOf : Wait → CallStage)
    (look : Wait → World → Wait × World) (result? outcome? : Wait → Option Result)
    (finish : Result → World → CallOutcome × World) : Prop where
  waits : ∀ wait world, result? (look wait world).1 = none →
    world.runCall (stageOf wait) = (.waiting (stageOf (look wait world).1), (look wait world).2)
  ends : ∀ wait world result, result? (look wait world).1 = some result →
    world.runCall (stageOf wait) =
      (.finished (finish result (look wait world).2).1, (finish result (look wait world).2).2)
  idles : ∀ wait world, Idles world (look wait world).2
  keeps : ∀ wait world, outcome? (look wait world).1 = outcome? wait
  settles : ∀ wait result, result? wait = some result → outcome? wait = some result
  arrives : ∀ wait result, outcome? wait = some result →
    ∃ time, ∀ world, world.clock = time → result? (look wait world).1 = some result

namespace Awaits

variable {Wait Result : Type} {stageOf : Wait → CallStage} {look : Wait → World → Wait × World}
  {result? outcome? : Wait → Option Result} {finish : Result → World → CallOutcome × World}
  {wait : Wait} {result : Result}

/-- Nothing happens before the answers are there. -/
theorem finishes (awaits : Awaits stageOf look result? outcome? finish)
    (comes : outcome? wait = some result)
    (completes : Completes (stageOf wait) world outcome after) :
    ∃ last, Idles world last ∧ (outcome, after) = finish result last := by
  generalize isStage : stageOf wait = stage at completes
  induction completes generalizing wait with
  | @ends stage world after outcome ends =>
      subst isStage
      cases arrived : result? (look wait world).1 with
      | none =>
          rw [awaits.waits wait world arrived] at ends
          cases ends
      | some settled =>
          have kept := (awaits.settles _ _ arrived).symm.trans (awaits.keeps wait world)
          obtain rfl : settled = result := Option.some.inj (kept.trans comes)
          rw [awaits.ends wait world settled arrived] at ends
          cases ends
          exact ⟨_, awaits.idles wait world, rfl⟩
  | @waits stage next world middle after outcome waits time rest ih =>
      subst isStage
      cases arrived : result? (look wait world).1 with
      | some settled =>
          rw [awaits.ends wait world settled arrived] at waits
          cases waits
      | none =>
          rw [awaits.waits wait world arrived] at waits
          cases waits
          obtain ⟨last, idles, finished⟩ := ih ((awaits.keeps wait world).trans comes) rfl
          exact ⟨last, ((awaits.idles wait world).trans (idles_setClock time _)).trans idles,
            finished⟩

/-- A call whose answers come is completed. -/
theorem exists_completes (awaits : Awaits stageOf look result? outcome? finish)
    (comes : outcome? wait = some result) (world : World) :
    ∃ outcome after, Completes (stageOf wait) world outcome after := by
  cases arrived : result? (look wait world).1 with
  | some settled => exact ⟨_, _, .ends (awaits.ends wait world settled arrived)⟩
  | none =>
      obtain ⟨time, arrives⟩ :=
        awaits.arrives (look wait world).1 result ((awaits.keeps wait world).trans comes)
      have late : ((look wait world).2.setClock time).clock = time := (Aside.wake _).clock
      exact ⟨_, _, .waits (awaits.waits wait world arrived) time
        (.ends (awaits.ends _ _ result (arrives _ late)))⟩

section Slots

variable {α : Type} {slotStage : Slot α → CallStage} {slotsStage : List (Slot α) → CallStage}
  {finishOne : Except ServiceError α → World → CallOutcome × World}
  {finishAll : List (Except ServiceError α) → World → CallOutcome × World}

/-- Stages in which a call waits for one answer. -/
theorem ofSlot
    (waits : ∀ slot (world : World), (world.check slot).1.result? = none →
      world.runCall (slotStage slot) =
        (.waiting (slotStage (world.check slot).1), (world.check slot).2))
    (ends : ∀ slot (world : World) result, (world.check slot).1.result? = some result →
      world.runCall (slotStage slot) =
        (.finished (finishOne result (world.check slot).2).1,
          (finishOne result (world.check slot).2).2)) :
    Awaits slotStage (fun slot world => world.check slot) Slot.result? Slot.outcome? finishOne where
  waits := waits
  ends := ends
  idles := idles_check
  keeps := outcome?_check
  settles slot result arrived := by
    rw [Slot.eq_of_result? arrived]
    rfl
  arrives slot result comes := by
    obtain ⟨time, arrives⟩ := Slot.exists_resultAt comes
    refine ⟨time, fun world late => ?_⟩
    rw [result_check, late, arrives time (Nat.le_refl time)]

/-- Stages in which a call waits for several answers. -/
theorem ofSlots
    (waits : ∀ slots (world : World), (world.checkEach slots).1.mapM Slot.result? = none →
      world.runCall (slotsStage slots) =
        (.waiting (slotsStage (world.checkEach slots).1), (world.checkEach slots).2))
    (ends : ∀ slots (world : World) results,
      (world.checkEach slots).1.mapM Slot.result? = some results →
      world.runCall (slotsStage slots) =
        (.finished (finishAll results (world.checkEach slots).2).1,
          (finishAll results (world.checkEach slots).2).2)) :
    Awaits slotsStage (fun slots world => world.checkEach slots)
      (fun slots => slots.mapM Slot.result?) (fun slots => slots.mapM Slot.outcome?)
      finishAll where
  waits := waits
  ends := ends
  idles := idles_checkEach
  keeps slots world := by
    refine Option.ext fun results => ?_
    rw [mapM_eq_some_iff, mapM_eq_some_iff, outcomes_checkEach]
  settles slots results arrived :=
    mapM_eq_some_iff.mpr (Slot.outcomes_of_results (mapM_eq_some_iff.mp arrived))
  arrives slots results comes := by
    obtain ⟨time, arrives⟩ := Slot.exists_resultAt_all (mapM_eq_some_iff.mp comes)
    refine ⟨time, fun world late => ?_⟩
    rw [mapM_eq_some_iff, results_checkEach, late, arrives time (Nat.le_refl time)]

end Slots

end Awaits

/-- What a call without a value is told. -/
def plain (result : Except ServiceError Unit) : CallOutcome := result.map fun () => .nothing

/-- Whether a resource is the one that a deletion has deleted. -/
def deletes (resource : String) (result : Except ServiceError Unit) (other : String) : Bool :=
  result.isOk && other == resource

/-- What follows a deletion. -/
def afterDeletion (id : ManagerId) (resource : String) (result : Except ServiceError Unit)
    (world : World) : World :=
  match result with
  | .ok () => world.changeManager id (endShutdown resource)
  | .error _ => world

theorem releases_afterDeletion (managed : world.Managed)
    (shown : world.desk? id = some ⟨listed, tracked⟩) (resource : String)
    (result : Except ServiceError Unit) :
    Releases id (deletes resource result) listed tracked world
      (world.afterDeletion id resource result) := by
  cases result with
  | error error => exact .of_same ⟨rfl, rfl, rfl, rfl⟩ shown
  | ok value => exact managed.releases_manager shown rfl rfl

theorem contact_afterDeletion (id : ManagerId) (resource : String)
    (result : Except ServiceError Unit) (world : World) :
    (world.afterDeletion id resource result).contact = world.contact := by
  cases result with
  | error error => rfl
  | ok value => exact contact_changeManager id (endShutdown resource) world

theorem awaits_deletion (id : ManagerId) (resource : String) (isQuiet : Bool) :
    Awaits (.deletingOne id resource isQuiet) (fun slot world => world.check slot) Slot.result?
      Slot.outcome? fun result world =>
        (plain (if isQuiet then .ok () else result), world.afterDeletion id resource result) := by
  apply Awaits.ofSlot
  · intro slot world pending
    rw [runCall]
    generalize world.check slot = looked at pending ⊢
    obtain ⟨slot, after⟩ := looked
    cases slot with
    | waiting exchange timer answer => rfl
    | settled result => cases pending
  · intro slot world result settled
    rw [runCall]
    generalize world.check slot = looked at settled ⊢
    obtain ⟨slot, after⟩ := looked
    obtain rfl := Slot.eq_of_result? settled
    cases isQuiet <;> cases result <;> rfl

theorem awaits_deletingOne (id : ManagerId) (resource : String) :
    Awaits (.deletingOne id resource false) (fun slot world => world.check slot) Slot.result?
      Slot.outcome? fun result world =>
        (plain result, world.afterDeletion id resource result) :=
  awaits_deletion id resource false

theorem settings_ask {α : Type} (exchange : Exchange α) (world : World) :
    (world.ask exchange).2.settings = world.settings := by
  unfold ask
  split
  · rfl
  · dsimp only
    repeat' split
    all_goals rfl

theorem deleteExchange_congr {other : World} (same : other.settings = world.settings)
    (resource : String) : other.deleteExchange id resource = world.deleteExchange id resource := by
  cases id <;> rw [deleteExchange, deleteExchange, same]

/-- The shutdown of the first resource begins with the others listed, and goes on as the deletion
of that resource. -/
theorem Managed.exists_deletion (managed : world.Managed) {rest : List String}
    (shown : world.desk? id = some ⟨resource :: rest, tracked⟩) :
    ∃ begun, Releases id (fun _ => false) rest tracked world begun ∧
      begun.contact = world.contact ∧ Acts world begun ∧
      world.runCall (.begin (.shutdown id resource)) =
        (begun.ask (world.deleteExchange id resource)).2.runCall
          (.deletingOne id resource false (begun.ask (world.deleteExchange id resource)).1) := by
  obtain ⟨begun, begins, releases, contact⟩ := managed.beginManagerShutdown shown
  have acts : Acts world begun := by
    have acts : Acts world (world.beginManagerShutdown id resource).2 :=
      acts_beginManagerShutdown id resource
    rwa [begins] at acts
  refine ⟨begun, releases, contact, acts, ?_⟩
  rw [← deleteExchange_congr (congrArg Contact.settings contact)]
  simp only [runCall, beginCall, beginShutdown, begins, check_ask]

/-- What is asked of another world with the same contact is answered in the same way. -/
theorem answers_of_contact {α : Type} {begun : World} (contact : begun.contact = world.contact)
    (exchange : Exchange α) :
    (begun.ask exchange).1.outcome? = (world.server.outcome exchange).1 ∧
      (begun.ask exchange).2.settings = world.settings ∧
      (begun.ask exchange).2.server.script = (world.server.outcome exchange).2.script := by
  have script : begun.server.script = world.server.script := congrArg Contact.script contact
  obtain ⟨answered, server⟩ := outcome?_ask exchange begun
  obtain ⟨same, sameScript⟩ := Server.outcome_congr script exchange
  have settings : begun.settings = world.settings := congrArg Contact.settings contact
  exact ⟨answered.trans same, (settings_ask exchange begun).trans settings,
    (congrArg Server.script server).trans sameScript⟩

/-- The shutdown of the first resource tells how its deletion ended, and lets go of its connections
if it was deleted. -/
theorem Completes.shutdown (arises : world.Arises) {rest : List String}
    (shown : world.desk? id = some ⟨resource :: rest, tracked⟩)
    {result : Except ServiceError Unit}
    (comes : (world.server.outcome (world.deleteExchange id resource)).1 = some result)
    (completes : Completes (.begin (.shutdown id resource)) world outcome after) :
    outcome = plain result ∧ Releases id (deletes resource result) rest tracked world after ∧
      after.settings = world.settings ∧
      after.server.script =
        (world.server.outcome (world.deleteExchange id resource)).2.script := by
  obtain ⟨begun, early, contact, acts, turn⟩ := arises.reachable.managed.exists_deletion shown
  obtain ⟨answered, settings, script⟩ :=
    answers_of_contact contact (world.deleteExchange id resource)
  obtain ⟨last, idles, finished⟩ := (awaits_deletingOne id resource).finishes
    (answered.trans comes) (completes.congr turn.symm)
  obtain ⟨rfl, rfl⟩ := Prod.mk.inj finished
  have same : SameObjects begun last :=
    (aside_ask (world.deleteExchange id resource) begun).toSameObjects.trans idles.toSameObjects
  have managed := (arises.steps (acts.trans (.aside same)).steps).reachable.managed
  have late := releases_afterDeletion managed ((desk?_of_same same).trans early.desk) resource
    result
  have kept := (contact_afterDeletion id resource result last).trans idles.contact
  exact ⟨rfl, early.trans (late.after_same same),
    (congrArg Contact.settings kept).trans settings, (congrArg Contact.script kept).trans script⟩

/-- The shutdown of the first resource is completed if the deletion is answered. -/
theorem Managed.exists_completes_shutdown (managed : world.Managed) {rest : List String}
    (shown : world.desk? id = some ⟨resource :: rest, tracked⟩)
    {result : Except ServiceError Unit}
    (comes : (world.server.outcome (world.deleteExchange id resource)).1 = some result) :
    ∃ outcome after, Completes (.begin (.shutdown id resource)) world outcome after := by
  obtain ⟨begun, -, contact, -, turn⟩ := managed.exists_deletion shown
  obtain ⟨answered, -⟩ := answers_of_contact contact (world.deleteExchange id resource)
  obtain ⟨outcome, after, completes⟩ :=
    (awaits_deletingOne id resource).exists_completes (answered.trans comes) _
  exact ⟨outcome, after, completes.congr turn⟩

/-- Shut down resources one after the other. -/
inductive CompletesEach (id : ManagerId) :
    List String → World → List CallOutcome → World → Prop where
  | nil (world : World) : CompletesEach id [] world [] world
  | cons {resource : String} {rest : List String} {world middle after : World}
      {outcome : CallOutcome} {outcomes : List CallOutcome}
      (first : Completes (.begin (.shutdown id resource)) world outcome middle)
      (others : CompletesEach id rest middle outcomes after) :
      CompletesEach id (resource :: rest) world (outcome :: outcomes) after

/-- Whether a resource is one of those that deletions have deleted. -/
def deletesAny (listed : List String) (results : List (Except ServiceError Unit))
    (other : String) : Bool :=
  (listed.zip results).any fun deletion => deletes deletion.1 deletion.2 other

/-- The outcomes of the deletions of resources, in their order. -/
def deletions (id : ManagerId) (listed : List String) (world : World) :
    List (Option (Except ServiceError Unit)) :=
  world.server.outcomes (listed.map fun resource => world.deleteExchange id resource)

/-- When deletions are answered, the first of them is, and the others are after it. -/
theorem exists_deletions_cons {rest : List String} {results : List (Except ServiceError Unit)}
    (come : world.deletions id (resource :: rest) = results.map some) :
    ∃ result others, results = result :: others ∧
      (world.server.outcome (world.deleteExchange id resource)).1 = some result ∧
      ∀ middle : World, middle.settings = world.settings →
        middle.server.script =
          (world.server.outcome (world.deleteExchange id resource)).2.script →
        middle.deletions id rest = others.map some := by
  rw [deletions, List.map_cons, Server.outcomes] at come
  obtain ⟨result, others, rfl, comes, comeLater⟩ := List.map_eq_cons_iff.mp come.symm
  refine ⟨result, others, rfl, comes.symm, fun middle settings script => ?_⟩
  have exchanges : (rest.map fun other => middle.deleteExchange id other) =
      rest.map fun other => world.deleteExchange id other :=
    List.map_congr_left fun other _ => deleteExchange_congr settings other
  rw [deletions, exchanges, comeLater, Server.outcomes_congr script]

/-- Each shutdown tells how its deletion ended, and the connections to those resources are let go of
that were deleted. -/
theorem CompletesEach.releases (arises : world.Arises)
    (shown : world.desk? id = some ⟨listed, tracked⟩) {results : List (Except ServiceError Unit)}
    (come : world.deletions id listed = results.map some) {told : List CallOutcome}
    (completes : CompletesEach id listed world told after) :
    told = results.map plain ∧ Releases id (deletesAny listed results) [] tracked world after := by
  induction listed generalizing world results told tracked with
  | nil =>
      cases completes
      obtain rfl : results = [] := by simpa [deletions, Server.outcomes] using come.symm
      exact ⟨rfl, .of_same ⟨rfl, rfl, rfl, rfl⟩ shown⟩
  | cons resource rest ih =>
      obtain ⟨result, more, rfl, comes, comeLater⟩ := exists_deletions_cons come
      cases completes with
      | cons first others =>
          obtain ⟨rfl, early, settings, script⟩ := first.shutdown arises shown comes
          obtain ⟨rfl, late⟩ := ih (arises.steps first.acts.steps) early.desk
            (comeLater _ settings script) others
          exact ⟨rfl, early.trans late⟩

/-- Shutdowns are completed if the deletions are answered. -/
theorem exists_completesEach (arises : world.Arises)
    (shown : world.desk? id = some ⟨listed, tracked⟩) {results : List (Except ServiceError Unit)}
    (come : world.deletions id listed = results.map some) :
    ∃ told after, CompletesEach id listed world told after := by
  induction listed generalizing world results tracked with
  | nil => exact ⟨[], world, .nil world⟩
  | cons resource rest ih =>
      obtain ⟨result, more, rfl, comes, comeLater⟩ := exists_deletions_cons come
      obtain ⟨outcome, middle, first⟩ :=
        arises.reachable.managed.exists_completes_shutdown shown comes
      obtain ⟨-, early, settings, script⟩ := first.shutdown arises shown comes
      obtain ⟨told, after, others⟩ := ih (arises.steps first.acts.steps) early.desk
        (comeLater _ settings script)
      exact ⟨_, after, .cons first others⟩

theorem awaits_deletingAll (id : ManagerId) (ids : List String) :
    Awaits (.deletingAll id ids) (fun slots world => world.checkEach slots)
      (fun slots => slots.mapM Slot.result?) (fun slots => slots.mapM Slot.outcome?)
      fun results world =>
        (plain (Exchange.allOk results), world.changeManager id (endShutdownAll ids)) := by
  apply Awaits.ofSlots
  · intro slots world pending
    simp only [runCall, runDeletingAll, pending]
  · intro slots world results settled
    simp only [runCall, runDeletingAll, settled]
    rfl

/-- The shutdown of all resources begins with none listed, and goes on as all the deletions. -/
theorem Managed.exists_deletions (managed : world.Managed)
    (shown : world.desk? id = some ⟨listed, tracked⟩) (some : listed ≠ []) :
    ∃ begun, Releases id (fun _ => false) [] tracked world begun ∧
      begun.contact = world.contact ∧ Acts world begun ∧
      world.runCall (.begin (.shutdownAll id)) =
        (begun.askEach (listed.map fun other => world.deleteExchange id other)).2.runCall
          (.deletingAll id listed
            (begun.askEach (listed.map fun other => world.deleteExchange id other)).1) := by
  obtain ⟨begun, begins, releases, contact⟩ := managed.beginManagerShutdownAll shown
  have acts : Acts world begun := by
    have acts : Acts world (world.beginManagerShutdownAll id).2 := acts_beginManagerShutdownAll id
    rwa [begins] at acts
  have exchanges : (listed.map fun other => begun.deleteExchange id other) =
      listed.map fun other => world.deleteExchange id other :=
    List.map_congr_left fun other _ =>
      deleteExchange_congr (congrArg Contact.settings contact) other
  refine ⟨begun, releases, contact, acts, ?_⟩
  obtain ⟨first, rest, rfl⟩ := List.exists_cons_of_ne_nil some
  rw [← exchanges]
  simp only [runCall, beginCall, beginShutdownAll, begins, checkEach_askEach]

/-- The shutdown of no resources is over at once. -/
theorem Managed.runCall_shutdownNone (managed : world.Managed)
    (shown : world.desk? id = some ⟨[], tracked⟩) :
    ∃ after, Releases id (fun _ => false) [] tracked world after ∧
      world.runCall (.begin (.shutdownAll id)) = (.finished (plain (.ok ())), after) := by
  obtain ⟨begun, begins, releases, -⟩ := managed.beginManagerShutdownAll shown
  refine ⟨begun, releases, ?_⟩
  simp only [runCall, beginCall, beginShutdownAll, begins]
  rfl

theorem outcomes_of_contact {begun : World} (contact : begun.contact = world.contact)
    {results : List (Except ServiceError Unit)}
    (come : world.deletions id listed = results.map some) :
    (begun.askEach (listed.map fun other => world.deleteExchange id other)).1.mapM
      Slot.outcome? = some results := by
  rw [mapM_eq_some_iff, outcomes_askEach, ← come, deletions]
  exact Server.outcomes_congr (congrArg Contact.script contact) _

/-- The shutdown of all resources tells the first error of their deletions, and lets go of all their
connections. -/
theorem Completes.shutdownAll (arises : world.Arises)
    (shown : world.desk? id = some ⟨listed, tracked⟩) {results : List (Except ServiceError Unit)}
    (come : world.deletions id listed = results.map some)
    (completes : Completes (.begin (.shutdownAll id)) world outcome after) :
    outcome = plain (Exchange.allOk results) ∧
      Releases id (fun other => listed.contains other) [] tracked world after := by
  have managed := arises.reachable.managed
  cases listed with
  | nil =>
      obtain rfl : results = [] := by simpa [deletions, Server.outcomes] using come.symm
      obtain ⟨begun, releases, turn⟩ := managed.runCall_shutdownNone shown
      cases completes with
      | ends ends =>
          cases turn.symm.trans ends
          exact ⟨rfl, releases⟩
      | waits waits => cases turn.symm.trans waits
  | cons first rest =>
      obtain ⟨begun, early, contact, acts, turn⟩ :=
        managed.exists_deletions shown (List.cons_ne_nil first rest)
      obtain ⟨last, idles, finished⟩ := (awaits_deletingAll id (first :: rest)).finishes
        (outcomes_of_contact contact come) (completes.congr turn.symm)
      obtain ⟨rfl, rfl⟩ := Prod.mk.inj finished
      have same : SameObjects begun last :=
        (aside_askEach _ begun).toSameObjects.trans idles.toSameObjects
      have managedLast := (arises.steps (acts.trans (.aside same)).steps).reachable.managed
      have late : Releases id (fun other => (first :: rest).contains other) [] _ last
          (last.changeManager id (endShutdownAll (first :: rest))) :=
        managedLast.releases_manager ((desk?_of_same same).trans early.desk) rfl rfl
      exact ⟨rfl, early.trans (late.after_same same)⟩

/-- The shutdown of all resources is completed if the deletions are answered. -/
theorem exists_completes_shutdownAll (arises : world.Arises)
    (shown : world.desk? id = some ⟨listed, tracked⟩) {results : List (Except ServiceError Unit)}
    (come : world.deletions id listed = results.map some) :
    ∃ outcome after, Completes (.begin (.shutdownAll id)) world outcome after := by
  have managed := arises.reachable.managed
  by_cases none : listed = []
  · subst none
    obtain ⟨after, -, turn⟩ := managed.runCall_shutdownNone shown
    exact ⟨_, after, .ends turn⟩
  · obtain ⟨begun, -, contact, -, turn⟩ := managed.exists_deletions shown none
    obtain ⟨outcome, after, completes⟩ := (awaits_deletingAll id listed).exists_completes
      (outcomes_of_contact contact come)
      (begun.askEach (listed.map fun other => world.deleteExchange id other)).2
    exact ⟨outcome, after, completes.congr turn⟩

/-- Connections of one number are tracked for one resource. -/
theorem Managed.resource_eq (managed : world.Managed)
    (shown : world.desk? id = some ⟨listed, tracked⟩) {first second : String × Nat}
    (isFirst : first ∈ tracked) (isSecond : second ∈ tracked) (same : first.2 = second.2) :
    first.1 = second.1 := by
  cases id with
  | kernels number =>
      obtain ⟨object, known, shown⟩ := Option.bind_eq_some_iff.mp shown
      obtain ⟨-, -, rfl⟩ := deskOf_eq_some_iff.mp shown
      obtain ⟨handle, tracks, rfl⟩ := List.mem_map.mp isFirst
      obtain ⟨other, tracksOther, rfl⟩ := List.mem_map.mp isSecond
      obtain ⟨standing, there, sameId⟩ := managed.standsAsKernel known handle tracks
      obtain ⟨otherStanding, thereOther, sameOther⟩ :=
        managed.standsAsKernel known other tracksOther
      rw [show handle.connection = other.connection from same, thereOther] at there
      cases there
      exact sameId.symm.trans sameOther
  | sessions number =>
      obtain ⟨object, known, shown⟩ := Option.bind_eq_some_iff.mp shown
      obtain ⟨-, -, rfl⟩ := deskOf_eq_some_iff.mp shown
      obtain ⟨handle, tracks, rfl⟩ := List.mem_map.mp isFirst
      obtain ⟨other, tracksOther, rfl⟩ := List.mem_map.mp isSecond
      obtain ⟨session, there, sameId⟩ := managed.standsAsSession known handle tracks
      obtain ⟨otherSession, thereOther, sameOther⟩ :=
        managed.standsAsSession known other tracksOther
      rw [show handle.connection = other.connection from same, thereOther] at there
      cases there
      exact sameId.symm.trans sameOther

/-- What two shutdowns let go of is the same exactly if what only one of them lets go of was
disposed before. -/
theorem Managed.disposes_same_iff (managed : world.Managed)
    (shown : world.desk? id = some ⟨listed, tracked⟩) {more fewer : String → Bool}
    (includes : ∀ resource, fewer resource = true → more resource = true)
    {together apart : World} (releases : Releases id more [] tracked world together)
    (releasesFewer : Releases id fewer [] tracked world apart) :
    (∀ number, together.IsConnectionDisposed id number ↔ apart.IsConnectionDisposed id number) ↔
      ∀ entry ∈ tracked, more entry.1 = true → fewer entry.1 = false →
        world.IsConnectionDisposed id entry.2 := by
  constructor
  · intro same entry member isMore isNotFewer
    have gone := (releases.disposed entry.2).mpr (.inr ⟨entry, member, isMore, rfl⟩)
    rcases (releasesFewer.disposed entry.2).mp ((same entry.2).mp gone) with before | released
    · exact before
    · obtain ⟨other, otherMember, isFewer, here⟩ := released
      rw [managed.resource_eq shown otherMember member here, isNotFewer] at isFewer
      cases isFewer
  · intro only number
    rw [releases.disposed, releasesFewer.disposed]
    constructor
    · rintro (before | ⟨entry, member, isMore, rfl⟩)
      · exact .inl before
      · cases isFewer : fewer entry.1 with
        | true => exact .inr ⟨entry, member, isFewer, rfl⟩
        | false => exact .inl (only entry member isMore isFewer)
    · rintro (before | ⟨entry, member, isFewer, rfl⟩)
      · exact .inl before
      · exact .inr ⟨entry, member, includes _ isFewer, rfl⟩

/-- What was deleted was listed. -/
theorem mem_of_deletesAny {results : List (Except ServiceError Unit)}
    (deleted : deletesAny listed results resource = true) : resource ∈ listed := by
  obtain ⟨deletion, member, deletes⟩ := List.any_eq_true.mp deleted
  obtain rfl : resource = deletion.1 := by
    have both : deletion.2.isOk = true ∧ (resource == deletion.1) = true := by
      simpa [World.deletes] using deletes
    exact eq_of_beq both.2
  exact (List.of_mem_zip member).1

/-- A manager shuts down all its resources at once, or one after the other in the order in which it
lists them, while nothing else goes on. If the server answers each deletion, then both come to an
end. Each of the single shutdowns tells how its deletion ended, and the one of all tells the first
error of these. Nothing is listed afterwards. All at once lets go of the connections to everything
that was listed, and one after the other of those to what was deleted. So they dispose the same
exactly if no connection to a resource whose deletion failed was left to be disposed. -/
theorem Arises.shutdownAll_against_each (arises : world.Arises)
    (shown : world.desk? id = some ⟨listed, tracked⟩) {results : List (Except ServiceError Unit)}
    (come : world.deletions id listed = results.map some) :
    (∃ outcome together, Completes (.begin (.shutdownAll id)) world outcome together) ∧
    (∃ told apart, CompletesEach id listed world told apart) ∧
    ∀ outcome together told apart,
      Completes (.begin (.shutdownAll id)) world outcome together →
      CompletesEach id listed world told apart →
      told = results.map plain ∧ outcome = plain (Exchange.allOk results) ∧
      Releases id (fun resource => listed.contains resource) [] tracked world together ∧
      Releases id (deletesAny listed results) [] tracked world apart ∧
      ((∀ number, together.IsConnectionDisposed id number ↔
          apart.IsConnectionDisposed id number) ↔
        ∀ entry ∈ tracked, listed.contains entry.1 = true →
          deletesAny listed results entry.1 = false → world.IsConnectionDisposed id entry.2) := by
  refine ⟨exists_completes_shutdownAll arises shown come, exists_completesEach arises shown come,
    fun outcome together told apart completes completesEach => ?_⟩
  obtain ⟨tells, releases⟩ := completes.shutdownAll arises shown come
  obtain ⟨tellsEach, releasesDeleted⟩ := completesEach.releases arises shown come
  refine ⟨tellsEach, tells, releases, releasesDeleted, ?_⟩
  refine arises.reachable.managed.disposes_same_iff shown (fun resource deleted => ?_) releases
    releasesDeleted
  exact List.contains_iff_mem.mpr (mem_of_deletesAny deleted)

/-- A manager that is connected to two kernels, of which the server deletes only the second one,
after a while. -/
def deletingSecond : World :=
  scripted [
    answering .delete "/api/kernels/a" 500 "" 0,
    answering .delete "/api/kernels/b" 204 "" 100,
    ⟨.createManager "m" .kernels ⟨.off, .usual⟩ true, false⟩,
    ⟨.connectThrough "m" "a" ⟨some ⟨"a", "python3"⟩, none⟩, false⟩,
    ⟨.connectThrough "m" "b" ⟨some ⟨"b", "python3"⟩, none⟩, false⟩]

theorem desk?_deletingSecond : deletingSecond.desk? (.kernels 0) =
    some ⟨["a", "b"], [("a", 0), ("b", 1)]⟩ := by
  decide +kernel

theorem exists_deletions_deletingSecond : ∃ error,
    deletingSecond.deletions (.kernels 0) ["a", "b"] = [.error error, .ok ()].map some := by
  have evaluated : (deletingSecond.deletions (.kernels 0) ["a", "b"]).map (Option.map Except.isOk) =
      [some false, some true] := by
    decide +kernel
  obtain ⟨first, rest, all, isFirst, others⟩ := List.map_eq_cons_iff.mp evaluated
  obtain ⟨second, none, rfl, isSecond, nothing⟩ := List.map_eq_cons_iff.mp others
  obtain ⟨failed, rfl, isFailed⟩ := Option.map_eq_some_iff.mp isFirst
  obtain ⟨done, rfl, isDone⟩ := Option.map_eq_some_iff.mp isSecond
  obtain rfl := List.map_eq_nil_iff.mp nothing
  cases failed with
  | ok => cases isFailed
  | error error =>
      cases done with
      | error => cases isDone
      | ok => exact ⟨error, all⟩

/-- All at once disposes the connection to the first kernel, and one after the other does not. -/
theorem disposes_first_deletingSecond {error : ServiceError} {together apart : World}
    (releases : Releases (.kernels 0) (fun resource => ["a", "b"].contains resource) []
      [("a", 0), ("b", 1)] deletingSecond together)
    (releasesDeleted : Releases (.kernels 0) (deletesAny ["a", "b"] [.error error, .ok ()]) []
      [("a", 0), ("b", 1)] deletingSecond apart) :
    together.IsConnectionDisposed (.kernels 0) 0 ∧ ¬apart.IsConnectionDisposed (.kernels 0) 0 := by
  have alive : ¬deletingSecond.IsConnectionDisposed (.kernels 0) 0 := by
    rw [IsConnectionDisposed, isKernelDisposed_iff]
    decide +kernel
  have undeleted : deletesAny ["a", "b"] [.error error, .ok ()] "a" = false := rfl
  constructor
  · exact (releases.disposed 0).mpr (.inr ⟨("a", 0), by simp, by decide, rfl⟩)
  · rw [releasesDeleted.disposed]
    simp [alive, undeleted]

/-- The first deletion fails and the second one comes later. -/
theorem shutdownAll_against_each_deletingSecond :
    deletingSecond.Arises ∧
    deletingSecond.desk? (.kernels 0) = some ⟨["a", "b"], [("a", 0), ("b", 1)]⟩ ∧
    ∃ error, deletingSecond.deletions (.kernels 0) ["a", "b"] = [.error error, .ok ()].map some ∧
      (∃ outcome together,
        Completes (.begin (.shutdownAll (.kernels 0))) deletingSecond outcome together) ∧
      (∃ told apart, CompletesEach (.kernels 0) ["a", "b"] deletingSecond told apart) ∧
      ∀ outcome together told apart,
        Completes (.begin (.shutdownAll (.kernels 0))) deletingSecond outcome together →
        CompletesEach (.kernels 0) ["a", "b"] deletingSecond told apart →
        told = [.error error, .ok .nothing] ∧ outcome = .error error ∧
        together.desk? (.kernels 0) = some ⟨[], []⟩ ∧
        apart.desk? (.kernels 0) = some ⟨[], [("a", 0)]⟩ ∧
        together.IsConnectionDisposed (.kernels 0) 0 ∧
        ¬apart.IsConnectionDisposed (.kernels 0) 0 := by
  have arises : deletingSecond.Arises := arises_scripted _
  obtain ⟨error, come⟩ := exists_deletions_deletingSecond
  obtain ⟨existsTogether, existsEach, compares⟩ :=
    arises.shutdownAll_against_each desk?_deletingSecond come
  refine ⟨arises, desk?_deletingSecond, error, come, existsTogether, existsEach, ?_⟩
  intro outcome together told apart completes completesEach
  obtain ⟨tellsEach, tells, releases, releasesDeleted, -⟩ :=
    compares outcome together told apart completes completesEach
  exact ⟨tellsEach, tells, releases.desk, releasesDeleted.desk,
    disposes_first_deletingSecond releases releasesDeleted⟩

/-- The two shutdowns do not dispose the same: all at once disposes the connection to a kernel that
the server did not delete. -/
theorem not_shutdownAll_as_each :
    ∃ outcome together told apart,
      Completes (.begin (.shutdownAll (.kernels 0))) deletingSecond outcome together ∧
      CompletesEach (.kernels 0) ["a", "b"] deletingSecond told apart ∧
      together.IsConnectionDisposed (.kernels 0) 0 ∧
      ¬apart.IsConnectionDisposed (.kernels 0) 0 := by
  have arises : deletingSecond.Arises := arises_scripted _
  obtain ⟨error, come⟩ := exists_deletions_deletingSecond
  obtain ⟨outcome, together, completes⟩ :=
    exists_completes_shutdownAll arises desk?_deletingSecond come
  obtain ⟨told, apart, completesEach⟩ := exists_completesEach arises desk?_deletingSecond come
  exact ⟨outcome, together, told, apart, completes, completesEach,
    disposes_first_deletingSecond (completes.shutdownAll arises desk?_deletingSecond come).2
      (completesEach.releases arises desk?_deletingSecond come).2⟩

end World

end KernelClient.Simulation
