import Mathlib.Data.List.Induction
import SecretAccess.Proofs.Transaction.History

namespace SecretAccess

theorem Ending.uncaught_concat (ending : Ending) (records : List StepRecord) (record : StepRecord) :
    ending.uncaught (records ++ [record]) =
      (ending.uncaught records).or (if ending.catches then none else record.failure?) := by
  unfold uncaught
  cases ending.catches with
  | true => rfl
  | false => simp [List.findSome?_append]

structure Job.Runs (job : Job) (turns : List (Step × StepRecord)) (running : Running) : Prop where
  ending : running.ending = job.ending
  records : running.records = turns.map (·.2)
  failure : running.failure = job.ending.uncaught running.records
  steps : running.failure = none → turns.map (·.1) ++ running.rest = job.steps
  stopped : running.failure ≠ none → running.rest = [] ∧ turns.map (·.1) <+: job.steps

/-- The end of a transaction comes from its own steps: from all of them, unless one has failed. -/
structure Job.Ran (job : Job) (turns : List (Step × StepRecord)) (told : Settled) : Prop where
  records : told.records = turns.map (·.2)
  outcome : told.outcome = job.ending.outcome (job.ending.uncaught told.records)
  steps : turns.map (·.1) <+: job.steps
  all : job.ending.uncaught told.records = none → turns.map (·.1) = job.steps

namespace Job

variable {job : Job} {turns : List (Step × StepRecord)} {running : Running}

theorem runs_opened (job : Job) (ticket : Nat) : job.Runs [] (job.opened ticket) := by
  have hnone : (none : Option Failure) = job.ending.uncaught [] := by
    unfold Ending.uncaught
    exact (ite_self _).symm
  exact ⟨rfl, rfl, hnone, fun _ => rfl, fun hne => absurd rfl hne⟩

theorem Runs.took (h : job.Runs turns running) {step : Step} {rest : List Step} (hrest : running.rest = step :: rest)
    (record : StepRecord) : job.Runs (turns ++ [(step, record)]) (running.took record rest) := by
  have hnone : running.failure = none := by
    by_contra hfailed
    obtain ⟨hstopped, _⟩ := h.stopped hfailed
    rw [hrest] at hstopped
    cases hstopped
  have hsteps : turns.map (·.1) ++ step :: rest = job.steps := hrest ▸ h.steps hnone
  have hbefore : job.ending.uncaught running.records = none := h.failure ▸ hnone
  have huncaught : job.ending.uncaught (running.records ++ [record]) =
      if job.ending.catches then none else record.failure? := by
    rw [Ending.uncaught_concat, hbefore, Option.none_or]
  have hrecords : running.records ++ [record] = (turns ++ [(step, record)]).map (·.2) := by
    rw [List.map_append, h.records]
    rfl
  unfold Running.took
  split
  · rename_i failure houtcome hcatches
    rw [h.ending] at hcatches
    refine ⟨h.ending, hrecords, ?_, fun hno => (by cases hno), fun _ => ⟨rfl, rest, ?_⟩⟩
    · simp [huncaught, hcatches, StepRecord.failure?, houtcome]
    · simp [hsteps]
  · rename_i hcatches
    refine ⟨h.ending, hrecords, ?_, fun _ => ?_, fun hne => absurd hnone hne⟩
    · simp only [hnone, huncaught]
      cases hcatch : job.ending.catches with
      | true => rfl
      | false =>
          cases houtcome : record.outcome with
          | ok => simp [StepRecord.failure?, houtcome]
          | error failure => exact absurd (h.ending ▸ hcatch) (hcatches failure houtcome)
    · simp [hsteps]

theorem Runs.told (h : job.Runs turns running) (hrest : running.rest = []) : job.Ran turns running.told := by
  have hall (hnone : running.failure = none) : turns.map (·.1) = job.steps := by
    rw [← h.steps hnone, hrest, List.append_nil]
  refine ⟨h.records, ?_, ?_, fun hnone => hall (h.failure.trans hnone)⟩
  · rw [Running.told, h.ending, h.failure]
  · by_cases hnone : running.failure = none
    · exact hall hnone ▸ List.prefix_rfl
    · exact (h.stopped hnone).2

end Job

namespace Queue

structure Untried (q : Queue) : Prop where
  running : q.running = none
  waiting : q.waiting = []
  called : q.called = 0
  begun : q.begun = 0

/-- All that were called have begun or wait, in this order and as they were called. All that have begun have ended,
in this order, but for the one that is running. -/
structure InTurn (q : Queue) (events : List Event) : Prop where
  order : q.trace beginsOf events ++ (q.run events).waiting.map (fun next => next.job.opened next.ticket) =
    (q.trace callsOf events).mapIdx fun n job => job.opened n
  alone : (q.trace beginsOf events).map (·.ticket) =
    (q.trace endsOf events).map (·.ticket) ++ ((q.run events).running.map (·.ticket)).toList
  called : (q.run events).called = (q.trace callsOf events).length
  begun : (q.run events).begun = (q.trace beginsOf events).length

variable {q : Queue} {events : List Event}

theorem InTurn.tickets (h : q.InTurn events) :
    (q.trace beginsOf events).map (·.ticket) ++ (q.run events).waiting.map (·.ticket) =
      List.range (q.run events).called := by
  have hnumbered (jobs : List Job) :
      (jobs.mapIdx fun n job => job.opened n).map (·.ticket) = List.range jobs.length := by
    apply List.ext_getElem
    · simp
    · intro n _ _
      simp [Job.opened]
  have htickets := congrArg (List.map (·.ticket)) h.order
  rw [hnumbered, ← h.called, List.map_append, List.map_map] at htickets
  exact htickets

theorem InTurn.begun_tickets (h : q.InTurn events) :
    (q.trace beginsOf events).map (·.ticket) = List.range (q.run events).begun := by
  have hlength : ((q.trace beginsOf events).map (·.ticket)).length = (q.run events).begun := by
    rw [List.length_map, h.begun]
  have hle : (q.run events).begun ≤ (q.run events).called := by
    have hlengths := congrArg List.length h.tickets
    rw [List.length_append, hlength, List.length_range] at hlengths
    omega
  have hprefix := congrArg (List.take (q.run events).begun) h.tickets
  rwa [List.take_left' hlength, List.take_range, Nat.min_eq_left hle] at hprefix

theorem InTurn.ticket_next (h : q.InTurn events) {next : Waiting} {others : List Waiting}
    (hnext : (q.run events).waiting = next :: others) : next.ticket = (q.run events).begun := by
  have hall := h.tickets
  rw [h.begun_tickets, hnext, List.map_cons] at hall
  have hget : (List.range (q.run events).called)[(q.run events).begun]? = some next.ticket := by
    rw [← hall, List.getElem?_append_right (by simp)]
    simp
  obtain ⟨_, hticket⟩ := List.getElem?_eq_some_iff.1 hget
  rw [← hticket, List.getElem_range]

theorem InTurn.ended_of_idle (h : q.InTurn events) (hidle : (q.run events).running = none) :
    (q.trace endsOf events).map (·.ticket) = List.range (q.run events).begun := by
  have halone := h.alone
  rw [h.begun_tickets, hidle] at halone
  simpa using halone.symm

theorem InTurn.ended_of_running (h : q.InTurn events) {running : Running}
    (hrunning : (q.run events).running = some running) :
    (q.trace endsOf events).map (·.ticket) = List.range running.ticket ∧
      (q.run events).begun = running.ticket + 1 := by
  have halone := h.alone
  rw [h.begun_tickets, hrunning] at halone
  have hlength := congrArg List.length halone
  simp only [List.length_range, List.length_append, Option.map_some, Option.toList_some, List.length_singleton]
    at hlength
  rw [hlength, List.range_succ] at halone
  obtain ⟨hended, hlast⟩ := List.append_inj' halone rfl
  have hticket : running.ticket = ((q.trace endsOf events).map (·.ticket)).length := (List.cons.inj hlast).1.symm
  rw [hticket]
  exact ⟨hended.symm, hlength⟩

theorem opened_numbered (jobs : List Job) (called : Nat) :
    (jobs.mapIdx fun n job => (⟨called + n, job⟩ : Waiting)).map (fun next => next.job.opened next.ticket) =
      jobs.mapIdx fun n job => job.opened (n + called) := by
  apply List.ext_getElem
  · simp
  · intro n _ _
    simp [Nat.add_comm]

theorem InTurn.concat (h : q.InTurn events) (e : Event) : q.InTurn (events ++ [e]) := by
  have hmove := callMove (q.run events) e
  constructor <;> simp only [trace_concat, run_concat]
  · cases hmove with
    | called begins waiting =>
        rw [begins, List.append_nil, waiting, List.map_append, ← List.append_assoc, h.order, List.mapIdx_append,
          opened_numbered, h.called]
    | @begun next waiting begins calls =>
        have hticket := h.ticket_next waiting
        rw [begins, calls, List.append_nil, ← h.order, waiting, List.map_cons, Job.opened, hticket,
          List.append_assoc]
        rfl
  · rw [List.map_append, List.map_append, h.alone]
    cases phase (q.run events) e with
    | stays running begins ends => simp [running, begins, ends]
    | begins idle after begins ends => simp [idle, after, begins, ends]
    | turns isRunning _ after begins ends => simp [isRunning, after, begins, ends, ticket_took]
    | ends isRunning _ after begins ends => simp [isRunning, after, begins, ends, Running.told, settle]
  · cases hmove with
    | called _ _ called => rw [called, h.called, List.length_append]
    | begun _ _ calls called => rw [called, calls, h.called, List.append_nil]
  · cases hmove with
    | called begins _ _ begun => rw [begun, begins, h.begun, List.append_nil]
    | begun _ begins _ _ begun => rw [begun, begins, h.begun, List.length_append, List.length_singleton]

theorem InTurn.exists_job (h : q.InTurn events) {running : Running} (hbegun : running ∈ q.trace beginsOf events) :
    ∃ job, (q.trace callsOf events)[running.ticket]? = some job ∧ running = job.opened running.ticket := by
  have hmem := List.mem_append_left ((q.run events).waiting.map fun next => next.job.opened next.ticket) hbegun
  rw [h.order, List.mem_mapIdx] at hmem
  obtain ⟨n, hn, rfl⟩ := hmem
  exact ⟨_, List.getElem?_eq_getElem hn, rfl⟩

theorem begun_le_after (q : Queue) (e : Event) : q.begun ≤ (q.after e).begun := by
  cases callMove q e with
  | called _ _ _ begun => omega
  | begun _ _ _ _ begun => omega

/-- What each transaction does is its own doing, and what its caller is told is how it ended itself. -/
structure Own (q : Queue) (events : List Event) : Prop where
  fresh : ∀ ticket, (q.run events).begun ≤ ticket → q.trace (turnsOf ticket) events = []
  running : ∀ running, (q.run events).running = some running →
    ∃ job, (q.trace callsOf events)[running.ticket]? = some job ∧
      job.Runs (q.trace (turnsOf running.ticket) events) running
  ended : ∀ told ∈ q.trace endsOf events,
    ∃ job, (q.trace callsOf events)[told.ticket]? = some job ∧ job.Ran (q.trace (turnsOf told.ticket) events) told

theorem getElem?_append_of_eq_some {α : Type} {first : List α} {n : Nat} {a : α} (h : first[n]? = some a)
    (second : List α) : (first ++ second)[n]? = some a := by
  obtain ⟨hn, _⟩ := List.getElem?_eq_some_iff.1 h
  rw [List.getElem?_append_left hn, h]

theorem InTurn.ended_lt (h : q.InTurn events) {told : Settled} (htold : told ∈ q.trace endsOf events) {running : Running}
    (hrunning : (q.run events).running = some running) : told.ticket < running.ticket := by
  have hmem : told.ticket ∈ (q.trace endsOf events).map (·.ticket) := List.mem_map_of_mem htold
  rw [(h.ended_of_running hrunning).1, List.mem_range] at hmem
  exact hmem

theorem turnsOf_eq_nil {ticket : Nat} (h : ∀ running, q.running = some running → running.ticket ≠ ticket) (e : Event) :
    q.turnsOf ticket e = [] := by
  cases e with
  | step | call | collect => rfl
  | move =>
      apply if_neg
      intro hticket
      obtain ⟨running, hrunning, heq⟩ := Option.map_eq_some_iff.1 hticket
      exact h running hrunning heq

theorem getElem?_callsOf_concat {n : Nat} {job : Job} (hjob : (q.trace callsOf events)[n]? = some job) (e : Event) :
    (q.trace callsOf (events ++ [e]))[n]? = some job := by
  rw [trace_concat]
  exact getElem?_append_of_eq_some hjob _

theorem Own.running_concat (h : q.Own events) (hturn : q.InTurn events) {e : Event} {running : Running}
    (hrunning : (q.run (events ++ [e])).running = some running) :
    ∃ job, (q.trace callsOf (events ++ [e]))[running.ticket]? = some job ∧
      job.Runs (q.trace (turnsOf running.ticket) (events ++ [e])) running := by
  have hturn' := hturn.concat e
  rw [run_concat] at hrunning
  rw [trace_concat (turnsOf _)]
  cases phase (q.run events) e with
  | stays same _ _ turns =>
      obtain ⟨job, hjob, hruns⟩ := h.running running (same ▸ hrunning)
      rw [turns, List.append_nil]
      exact ⟨job, getElem?_callsOf_concat hjob e, hruns⟩
  | begins _ after begins _ turns =>
      cases Option.some.inj (after.symm.trans hrunning)
      have hmem : running ∈ q.trace beginsOf (events ++ [e]) := by
        rw [trace_concat, begins]
        exact List.mem_append_right _ (List.mem_singleton_self running)
      obtain ⟨job, hjob, hopened⟩ := hturn'.exists_job hmem
      -- its ticket was the next one to begin, and no step has been taken under such a ticket
      have hfresh : (q.run events).begun ≤ running.ticket := by
        obtain ⟨_, hbegun⟩ := hturn'.ended_of_running (by rw [run_concat, hrunning])
        have hlength := hturn'.begun
        rw [run_concat, trace_concat, begins, List.length_append, ← hturn.begun, List.length_singleton] at hlength
        rw [run_concat] at hbegun
        omega
      rw [turns, h.fresh running.ticket hfresh, List.append_nil]
      refine ⟨job, hjob, ?_⟩
      rw [hopened]
      exact job.runs_opened running.ticket
  | @turns before step rest record isRunning isRest after _ _ turns =>
      cases Option.some.inj (after.symm.trans hrunning)
      obtain ⟨job, hjob, hruns⟩ := h.running before isRunning
      rw [ticket_took, turns, if_pos rfl]
      exact ⟨job, getElem?_callsOf_concat hjob e, hruns.took isRest record⟩
  | ends _ _ after =>
      rw [after] at hrunning
      cases hrunning

theorem Own.ended_concat (h : q.Own events) (hturn : q.InTurn events) {e : Event} {told : Settled}
    (htold : told ∈ q.trace endsOf (events ++ [e])) :
    ∃ job, (q.trace callsOf (events ++ [e]))[told.ticket]? = some job ∧
      job.Ran (q.trace (turnsOf told.ticket) (events ++ [e])) told := by
  rw [trace_concat] at htold
  rcases List.mem_append.1 htold with htold | htold
  · obtain ⟨job, hjob, hran⟩ := h.ended told htold
    -- whoever runs now was called later, so the step that it takes is not one of theirs
    rw [trace_concat (turnsOf _), turnsOf_eq_nil, List.append_nil]
    · exact ⟨job, getElem?_callsOf_concat hjob e, hran⟩
    · intro running hrunning
      exact Nat.ne_of_gt (hturn.ended_lt htold hrunning)
  · obtain ⟨running, hrunning, hrest, _, rfl, hturns⟩ := ends_of_mem htold
    obtain ⟨job, hjob, hruns⟩ := h.running running hrunning
    rw [trace_concat (turnsOf _), hturns, List.append_nil]
    exact ⟨job, getElem?_callsOf_concat hjob e, hruns.told hrest⟩

theorem Own.concat (h : q.Own events) (hturn : q.InTurn events) (e : Event) : q.Own (events ++ [e]) where
  fresh := by
    intro ticket hticket
    have hle := begun_le_after (q.run events) e
    rw [run_concat] at hticket
    rw [trace_concat, h.fresh ticket (by omega), turnsOf_eq_nil, List.append_nil]
    intro running hrunning
    obtain ⟨_, hbegun⟩ := hturn.ended_of_running hrunning
    omega
  running := fun _ hrunning => h.running_concat hturn hrunning
  ended := fun _ htold => h.ended_concat hturn htold

theorem Untried.inTurn (h : q.Untried) : q.InTurn [] := by
  constructor <;> simp [trace, run, h.running, h.waiting, h.called, h.begun]

theorem Untried.own (h : q.Untried) : q.Own [] := by
  constructor <;> simp [trace, run, h.running]

theorem Untried.run (h : q.Untried) (events : List Event) : q.InTurn events ∧ q.Own events := by
  -- from the last event, since both speak of the history and of the queue at its end
  induction events using List.reverseRecOn with
  | nil => exact ⟨h.inTurn, h.own⟩
  | append_singleton events e ih => exact ⟨ih.1.concat e, ih.2.concat ih.1 e⟩

theorem InTurn.begun_of_nil (h : q.InTurn events) (hwaiting : (q.run events).waiting = []) :
    (q.run events).begun = (q.run events).called := by
  have htickets := congrArg List.length h.tickets
  rwa [h.begun_tickets, hwaiting, List.map_nil, List.append_nil, List.length_range, List.length_range] at htickets

theorem InTurn.head_waiting (h : q.InTurn events) :
    ((q.run events).waiting.map fun next => next.job.opened next.ticket).head? =
      (q.trace callsOf events)[(q.run events).begun]?.map (·.opened (q.run events).begun) := by
  have hget := congrArg (·[(q.trace beginsOf events).length]?) h.order
  rwa [List.getElem?_append_right (Nat.le_refl _), Nat.sub_self, ← List.head?_eq_getElem?, List.getElem?_mapIdx,
    ← h.begun] at hget

theorem InTurn.begins_next (h : q.InTurn events) {running : Running} (hrunning : (q.run events).running = some running) :
    ((q.run events).settle running).beginsOf .move =
      ((q.trace callsOf events)[running.ticket + 1]?.map (·.opened (running.ticket + 1))).toList := by
  obtain ⟨-, hbegun⟩ := h.ended_of_running hrunning
  rw [← hbegun, ← h.head_waiting]
  cases hwaiting : (q.run events).waiting with
  | nil =>
      have hafter : ((q.run events).settle running).after .move = (q.run events).settle running := by
        simp [after, Queue.next, settle, hwaiting]
      rw [beginsOf_eq_nil (by rw [hafter])]
      rfl
  | cons next others =>
      have hidle : ((q.run events).settle running).running = none := rfl
      have hticket := h.ticket_next hwaiting
      rw [beginsOf_move hidle hwaiting]
      simp [Job.opened, settle, hticket]

theorem settled_after (q : Queue) {e : Event} (he : e ≠ .collect) : (q.after e).settled = q.settled ++ q.endsOf e := by
  have hsame (h : (q.after e).settled = q.settled) : (q.after e).settled = q.settled ++ q.endsOf e := by
    rw [endsOf_eq_nil h, h, List.append_nil]
  cases e with
  | collect => exact absurd rfl he
  | call => exact hsame rfl
  | step step => exact hsame (settled_take q step)
  | move =>
      cases q.move with
      | stays _ hafter | begins _ _ hafter => exact hsame (by simp [hafter, begin])
      | settles _ _ hafter => simp [endsOf, hafter, settle]
      | @advances running step rest _ _ hafter => exact hsame ((congrArg settled hafter).trans (settled_take q step))

theorem settled_run (q : Queue) {events : List Event} (hcollect : .collect ∉ events) :
    (q.run events).settled = q.settled ++ q.trace endsOf events := by
  induction events generalizing q with
  | nil => exact (List.append_nil _).symm
  | cons e events ih =>
      rw [List.mem_cons, not_or] at hcollect
      obtain ⟨he, hrest⟩ := hcollect
      rw [run_cons, ih _ hrest, settled_after q (Ne.symm he), trace, List.append_assoc]

theorem InTurn.ended_of_begins (h : q.InTurn events) {e : Event} {running : Running}
    (hbegins : running ∈ (q.run events).beginsOf e) :
    (q.trace endsOf events).map (·.ticket) = List.range running.ticket := by
  obtain ⟨_, hafter, hends⟩ := begins_of_mem hbegins
  obtain ⟨hended, _⟩ := (h.concat e).ended_of_running (by rwa [run_concat])
  rwa [trace_concat, hends, List.append_nil] at hended

end Queue

end SecretAccess
