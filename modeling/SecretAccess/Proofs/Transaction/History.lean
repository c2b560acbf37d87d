import SecretAccess.Proofs.Transaction.Rollback

namespace SecretAccess

def StepRecord.failure? (record : StepRecord) : Option Failure :=
  match record.outcome with
  | .error failure => some failure
  | .ok _ => none

/-- The failure that ends a transaction: the first one of its steps, unless it catches them. -/
def Ending.uncaught (ending : Ending) (records : List StepRecord) : Option Failure :=
  if ending.catches then none else records.findSome? StepRecord.failure?

def Job.opened (job : Job) (ticket : Nat) : Running :=
  ⟨ticket, ticket + 1, job.steps, job.ending, [], none⟩

def Step.spawned : Step → List Job
  | .spawn steps ending => [⟨steps, ending⟩]
  | _ => []

namespace Queue

def trace {α : Type} (observe : Queue → Event → List α) (q : Queue) : List Event → List α
  | [] => []
  | e :: events => observe q e ++ (q.after e).trace observe events

def callsOf (q : Queue) : Event → List Job
  | .call job => [job]
  | e => (q.stepOf e).elim [] Step.spawned

def beginsOf (q : Queue) (e : Event) : List Running :=
  -- also where one runs before and after, so that no change of hands goes unseen
  if (q.after e).running.map (·.ticket) = q.running.map (·.ticket) then [] else (q.after e).running.toList

def endsOf (q : Queue) (e : Event) : List Settled :=
  (q.after e).settled.drop q.settled.length

def turnsOf (ticket : Nat) (q : Queue) : Event → List (Step × StepRecord)
  | .move => if q.running.map (·.ticket) = some ticket then
      (q.stepOf .move).toList.map fun step => (step, (q.take step).1) else []
  | _ => []

theorem trace_append {α : Type} (observe : Queue → Event → List α) (q : Queue) (first second : List Event) :
    q.trace observe (first ++ second) = q.trace observe first ++ (q.run first).trace observe second := by
  induction first generalizing q with
  | nil => rfl
  | cons e first ih => rw [List.cons_append, trace, trace, ih, run_cons, List.append_assoc]

theorem trace_concat {α : Type} (observe : Queue → Event → List α) (q : Queue) (events : List Event) (e : Event) :
    q.trace observe (events ++ [e]) = q.trace observe events ++ observe (q.run events) e := by
  rw [trace_append, trace, trace, List.append_nil]

theorem trace_singleton {α : Type} (observe : Queue → Event → List α) (q : Queue) (e : Event) :
    q.trace observe [e] = observe q e :=
  List.append_nil _

theorem run_concat (q : Queue) (events : List Event) (e : Event) :
    q.run (events ++ [e]) = (q.run events).after e := by
  rw [run_append, run_cons]
  rfl

theorem waiting_take (q : Queue) (step : Step) :
    (q.take step).2.waiting = q.waiting ++ step.spawned.mapIdx fun n job => ⟨q.called + n, job⟩ := by
  cases step with
  | spawn => rfl
  | call | clock | clear | dump => exact (List.append_nil _).symm

theorem called_take (q : Queue) (step : Step) : (q.take step).2.called = q.called + step.spawned.length := by
  cases step <;> rfl

theorem begun_take (q : Queue) (step : Step) : (q.take step).2.begun = q.begun := by
  cases step <;> rfl

theorem settled_take (q : Queue) (step : Step) : (q.take step).2.settled = q.settled := by
  cases step <;> rfl

theorem running_advance (q : Queue) (running : Running) (step : Step) (rest : List Step) :
    (q.advance running step rest).running = some (running.took (q.take step).1 rest) := rfl

theorem store_settle (q : Queue) (running : Running) :
    (q.settle running).session.store = match running.told.outcome with
      | .ok _ => q.session.store
      | .error _ => q.session.store.rollBack q.session.journal := by
  cases houtcome : running.ending.outcome running.failure <;>
    simp [settle, Session.close, Running.told, houtcome, Except.toBool]

theorem beginsOf_eq_nil {q : Queue} {e : Event}
    (h : (q.after e).running.map (·.ticket) = q.running.map (·.ticket)) : q.beginsOf e = [] :=
  if_pos h

theorem endsOf_eq_nil {q : Queue} {e : Event} (h : (q.after e).settled = q.settled) : q.endsOf e = [] := by
  rw [endsOf, h, List.drop_length]

theorem beginsOf_move {q : Queue} (hidle : q.running = none) {next : Waiting} {others : List Waiting}
    (hnext : q.waiting = next :: others) :
    q.beginsOf .move = [⟨next.ticket, q.begun + 1, next.job.steps, next.job.ending, [], none⟩] := by
  have hafter : q.after .move = q.begin next others := by simp [after, Queue.next, hidle, hnext]
  rw [beginsOf, hafter, if_neg (by simp [begin, hidle])]
  rfl

/-- What an event does to those that wait: more of them are called, or the first one begins. -/
inductive CallMove (q : Queue) (e : Event) : Prop
  | called (begins : q.beginsOf e = [])
      (waiting : (q.after e).waiting = q.waiting ++ (q.callsOf e).mapIdx fun n job => ⟨q.called + n, job⟩)
      (called : (q.after e).called = q.called + (q.callsOf e).length) (begun : (q.after e).begun = q.begun)
  | begun {next : Waiting} (waiting : q.waiting = next :: (q.after e).waiting)
      (begins : q.beginsOf e = [⟨next.ticket, q.begun + 1, next.job.steps, next.job.ending, [], none⟩])
      (calls : q.callsOf e = []) (called : (q.after e).called = q.called) (begun : (q.after e).begun = q.begun + 1)

/-- What an event does to the one that runs: nothing, or it begins, takes a step or ends. -/
inductive Phase (q : Queue) (e : Event) : Prop
  | stays (running : (q.after e).running = q.running) (begins : q.beginsOf e = []) (ends : q.endsOf e = [])
      (turns : ∀ ticket, q.turnsOf ticket e = [])
  | begins {running : Running} (idle : q.running = none) (after : (q.after e).running = some running)
      (begins : q.beginsOf e = [running]) (ends : q.endsOf e = []) (turns : ∀ ticket, q.turnsOf ticket e = [])
  | turns {running : Running} {step : Step} {rest : List Step} {record : StepRecord}
      (isRunning : q.running = some running) (isRest : running.rest = step :: rest)
      (after : (q.after e).running = some (running.took record rest)) (begins : q.beginsOf e = [])
      (ends : q.endsOf e = [])
      (turns : ∀ ticket, q.turnsOf ticket e = if running.ticket = ticket then [(step, record)] else [])
  | ends {running : Running} (isRunning : q.running = some running) (rest : running.rest = [])
      (after : q.after e = q.settle running) (begins : q.beginsOf e = []) (ends : q.endsOf e = [running.told])
      (turns : ∀ ticket, q.turnsOf ticket e = [])

theorem callMove (q : Queue) (e : Event) : CallMove q e := by
  cases e with
  | step step =>
      have hbegins : q.beginsOf (.step step) = [] := beginsOf_eq_nil (by rw [after, running_take])
      exact .called hbegins (waiting_take q step) (called_take q step) (begun_take q step)
  | call job => exact .called (beginsOf_eq_nil rfl) rfl rfl rfl
  | collect => exact .called (beginsOf_eq_nil rfl) (List.append_nil _).symm rfl rfl
  | move =>
      cases q.move with
      | stays running hafter =>
          have hcalls : q.callsOf .move = [] := by simp [callsOf, stepOf, running]
          exact .called (beginsOf_eq_nil (by rw [hafter])) (by simp [hafter, hcalls]) (by simp [hafter, hcalls])
            (by rw [hafter])
      | @begins waiting others running isWaiting hafter =>
          exact .begun (by rw [isWaiting, hafter]; rfl) (beginsOf_move running isWaiting)
            (by simp [callsOf, stepOf, running]) (by rw [hafter]; rfl) (by rw [hafter]; rfl)
      | @settles running isRunning rest hafter =>
          have hcalls : q.callsOf .move = [] := by simp [callsOf, stepOf, isRunning, rest]
          refine .called ?_ (by simp [hafter, hcalls, settle]) (by simp [hafter, hcalls, settle]) (by rw [hafter]; rfl)
          rw [beginsOf, hafter]
          exact ite_self _
      | @advances running step rest isRunning isRest hafter =>
          have hcalls : q.callsOf .move = step.spawned := by simp [callsOf, stepOf, isRunning, isRest]
          have hbegins : q.beginsOf .move = [] :=
            beginsOf_eq_nil (by rw [hafter, ticket_advance, isRunning]; rfl)
          refine .called hbegins ?_ ?_ ?_ <;> rw [hafter]
          · rw [hcalls]
            exact waiting_take q step
          · rw [hcalls]
            exact called_take q step
          · exact begun_take q step

theorem phase (q : Queue) (e : Event) : Phase q e := by
  cases e with
  | step step =>
      have hrunning : (q.after (.step step)).running = q.running := running_take q step
      exact .stays hrunning (beginsOf_eq_nil (by rw [hrunning])) (endsOf_eq_nil (settled_take q step)) fun _ => rfl
  | call job => exact .stays rfl (beginsOf_eq_nil rfl) (endsOf_eq_nil rfl) fun _ => rfl
  | collect => exact .stays rfl (beginsOf_eq_nil rfl) List.drop_nil fun _ => rfl
  | move =>
      cases q.move with
      | stays running hafter =>
          exact .stays (by rw [hafter]) (beginsOf_eq_nil (by rw [hafter])) (endsOf_eq_nil (by rw [hafter]))
            fun ticket => by simp [turnsOf, running]
      | @begins waiting others running isWaiting hafter =>
          exact .begins running (by rw [hafter]; rfl) (beginsOf_move running isWaiting)
            (endsOf_eq_nil (by rw [hafter]; rfl)) fun ticket => by simp [turnsOf, running]
      | @settles running isRunning rest hafter =>
          refine .ends isRunning rest hafter ?_ ?_ fun ticket => by simp [turnsOf, stepOf, isRunning, rest]
          · rw [beginsOf, hafter]
            exact ite_self _
          · rw [endsOf, hafter, settle]
            exact List.drop_left
      | @advances running step rest isRunning isRest hafter =>
          refine .turns isRunning isRest (by rw [hafter, running_advance]) ?_ ?_ ?_
          · exact beginsOf_eq_nil (by rw [hafter, ticket_advance, isRunning]; rfl)
          · refine endsOf_eq_nil ?_
            rw [hafter]
            exact settled_take q step
          · intro ticket
            have hstep : q.stepOf .move = some step := by simp [stepOf, isRunning, isRest]
            simp only [turnsOf, hstep, isRunning, Option.map_some, Option.some.injEq]
            rfl

theorem begins_of_mem {q : Queue} {e : Event} {running : Running} (h : running ∈ q.beginsOf e) :
    q.running = none ∧ (q.after e).running = some running ∧ q.endsOf e = [] := by
  cases q.phase e with
  | stays _ begins | turns _ _ _ begins | ends _ _ _ begins =>
      rw [begins] at h
      cases h
  | begins idle after begins ends =>
      rw [begins, List.mem_singleton] at h
      exact ⟨idle, h ▸ after, ends⟩

theorem ends_of_mem {q : Queue} {e : Event} {told : Settled} (h : told ∈ q.endsOf e) :
    ∃ running, q.running = some running ∧ running.rest = [] ∧ q.after e = q.settle running ∧ told = running.told ∧
      ∀ ticket, q.turnsOf ticket e = [] := by
  cases q.phase e with
  | stays _ _ ends | begins _ _ _ ends | turns _ _ _ _ ends =>
      rw [ends] at h
      cases h
  | ends isRunning rest after _ ends turns =>
      rw [ends, List.mem_singleton] at h
      exact ⟨_, isRunning, rest, after, h, turns⟩

end Queue

end SecretAccess
