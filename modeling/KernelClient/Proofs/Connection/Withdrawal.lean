import KernelClient.Proofs.Connection.CommEvents
import KernelClient.Proofs.Connection.Disposal

/-!
# How comms lose their routes

A route is taken away by its identifier: when a handle of that name is dropped or closed, when the
kernel closes the comm of that name, or together with all others when the connection is cleared. The
handle of a comm whose route is gone does not know of it before it takes the closing message from
its queue. Until then it still counts as open, and to let go of it takes away whatever is registered
under its identifier by then.
-/

namespace KernelClient.Connection

variable {occurrence : Occurrence} {commId : String} {entry : String × Nat}

/-- What is registered under an identifier is gone after it was taken away. -/
theorem Occurrence.Withdraws.comms_after (withdraws : occurrence.Withdraws commId) :
    occurrence.after.connection.comms = erase commId occurrence.before.connection.comms := by
  cases withdraws with
  | @drop comm happened unclosed named =>
      have dropped : occurrence.after.connection =
          (dropComm comm occurrence.before.connection).1 := by
        rw [after, Situation.after, happened]
        rfl
      rw [dropped, dropComm, if_neg (by simp [unclosed]), named]
      rfl
  | @close now comm data metadata happened succeeded named =>
      have closed : occurrence.after.connection =
          (closeComm now comm data metadata occurrence.before.connection).2.1 := by
        rw [after, Situation.after, happened]
        rfl
      have keeps : KeepsRoutes occurrence.before.connection _ :=
        keepsRoutes_sendComm now comm (.closing comm data metadata)
      rw [closed]
      unfold closeComm at succeeded ⊢
      split at succeeded
      case h_1 => cases succeeded
      case h_2 msgId key change sent =>
        rw [sent] at keeps
        rw [← named]
        exact congrArg (erase comm.commId) keeps.same
  | closeArrives arrives closing named => exact comms_of_close arrives closing named

/-- A connection that is cleared has no routes. -/
theorem Occurrence.comms_of_clears
    (ended : occurrence.before.connection.isDisposed = true → IsOver occurrence.before.connection)
    {cause : Clearing} (clears : Clears occurrence.event occurrence.effects cause) :
    occurrence.after.connection.comms = [] := by
  have ofShown {effect : Effect} (shown : effect ∈ occurrence.effects)
      (clearing : effect.isClearing = true) : occurrence.after.connection.comms = [] := by
    have loud (quiet : ∀ effect ∈ occurrence.effects, effect.isClearing = false) : False := by
      cases (quiet effect shown).symm.trans clearing
    have rerouting := occurrence.rerouting
    generalize occurrence.opened = opened at rerouting
    cases rerouting with
    | upkeep upkeep =>
        cases upkeep with
        | kept keeps => exact (loud keeps.quiet).elim
        | cleared cause empty => exact empty
    | opened concerns fresh key added ascends quiet => exact (loud quiet).elim
    | withdrawn withdraws erased ascends quiet => exact (loud quiet).elim
  cases cause with
  | death => exact ofShown clears rfl
  | autoRestart => exact ofShown clears rfl
  | disposal => exact ofShown clears rfl
  | restart =>
      have answered : occurrence.event = .restartAnswered true := clears
      have change : occurrence.after.connection =
          (Event.change (.restartAnswered true) occurrence.before.connection).1 := by
        rw [after, Situation.after, answered]
      rw [change]
      cases disposed : occurrence.before.connection.isDisposed with
      | true =>
          simp only [Event.change, restarted, disposed, if_true]
          exact (ended disposed).comms
      | false => simp [Event.change, restarted, disposed, Change.andThen, clear]

/-- A route is gone after an event exactly if what is registered under its identifier was taken
away, or everything was. -/
theorem Occurrence.gone_iff
    (ended : occurrence.before.connection.isDisposed = true → IsOver occurrence.before.connection)
    (registered : entry ∈ occurrence.before.connection.comms) :
    entry ∉ occurrence.after.connection.comms ↔
      occurrence.Withdraws entry.1 ∨
        ∃ cause, Clears occurrence.event occurrence.effects cause := by
  constructor
  · intro gone
    have rerouting := occurrence.rerouting
    generalize occurrence.opened = opened at rerouting
    cases rerouting with
    | upkeep upkeep =>
        cases upkeep with
        | kept keeps => exact absurd (keeps.same ▸ registered) gone
        | cleared cause empty ascends clears => exact .inr ⟨cause, clears⟩
    | opened concerns fresh key added =>
        exact absurd (added ▸ List.mem_append_left _ registered) gone
    | @withdrawn commId withdraws erased =>
        have named : entry.1 = commId := by
          by_contra other
          exact gone (erased ▸ mem_erase.mpr ⟨registered, other⟩)
        exact .inl (named ▸ withdraws)
  · rintro (withdraws | ⟨cause, clears⟩)
    · rw [withdraws.comms_after]
      exact fun member => (mem_erase.mp member).2 rfl
    · rw [comms_of_clears ended clears]
      exact List.not_mem_nil

variable {situation : Situation} {history : List Occurrence}

/-- In every run, while the route of a comm is in the table, an event takes it away exactly in these
cases: a handle with the identifier of the comm, its own or another one, is dropped or closed and
does not know yet that it is closed; the kernel closes the comm of that name; or the connection is
cleared by a death, a restart of either kind or its disposal. -/
theorem Run.route_leaves_iff {model : KernelModel} {clientId : String}
    {options : ConnectionOptions} (run : Run (.initial model clientId options) history situation) :
    ∀ occurrence ∈ history, ∀ comm ∈ openedIn history,
      comm.route ∈ occurrence.before.connection.comms →
        (comm.route ∉ occurrence.after.connection.comms ↔
          occurrence.Withdraws comm.commId ∨
            ∃ cause, Clears occurrence.event occurrence.effects cause) := by
  intro occurrence happened comm opened registered
  obtain ⟨earlier, later, rfl⟩ := List.append_of_mem happened
  obtain ⟨middle, first, second⟩ := run.split earlier (occurrence :: later) rfl
  obtain ⟨rfl, -, -⟩ := second.of_cons
  have ended := first.isOver rfl (fun disposed => by cases disposed)
  exact Occurrence.gone_iff ended registered

theorem route_leaves_when_first_is_dropped :
    Run .usual (reopening ++ [⟨reopened, .dropComm ⟨0, "c", "t", false⟩⟩])
        (reopened.after (.dropComm ⟨0, "c", "t", false⟩)) ∧
      ("c", 1) ∈ reopened.connection.comms ∧
      ("c", 1) ∉ (reopened.after (.dropComm ⟨0, "c", "t", false⟩)).connection.comms := by
  have run := run_reopening.next (.dropComm ⟨0, "c", "t", false⟩) rfl
  have registered : ("c", 1) ∈ reopened.connection.comms := by decide +kernel
  have leaves := run.route_leaves_iff _ (List.mem_append_right _ (List.mem_singleton_self _)) _
    (openedIn_subset (List.subset_append_left _ _) opened_reopening.2) registered
  exact ⟨run, registered, leaves.mpr (.inl (.drop rfl rfl rfl))⟩

/-- To drop a comm may take away the route of another one. -/
theorem other_route_leaves :
    ¬∀ history situation, Run .usual history situation →
      ∀ dropped ∈ openedIn history, ∀ other ∈ openedIn history, dropped.key ≠ other.key →
        other.route ∈ situation.connection.comms →
          other.route ∈ (situation.after (.dropComm dropped)).connection.comms := by
  intro stays
  obtain ⟨first, second⟩ := opened_reopening
  have registered : ("c", 1) ∈ reopened.connection.comms := by decide +kernel
  have kept := stays reopening reopened run_reopening _ first _ second (by decide) registered
  have gone : (reopened.after (.dropComm ⟨0, "c", "t", false⟩)).connection.comms = [] := by
    decide +kernel
  rw [gone] at kept
  cases kept

end KernelClient.Connection
