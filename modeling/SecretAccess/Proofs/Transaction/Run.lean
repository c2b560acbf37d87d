import SecretAccess.Proofs.Transaction.Call
import SecretAccess.Transaction.Script

namespace SecretAccess

inductive Event where
  | step (step : Step)
  | call (job : Job)
  | move
  /-- Those who called the transactions that are settled learn how they ended. -/
  | collect

namespace Step

def writes : Step → Bool
  | .call _ c => c.writes
  | .clear => true
  | _ => false

def Textual : Step → Prop
  | .call _ c => c.Textual
  | _ => True

instance : (step : Step) → Decidable step.Textual
  | .call _ c => inferInstanceAs (Decidable c.Textual)
  | .clock _ | .clear | .dump | .spawn .. => inferInstanceAs (Decidable True)

end Step

namespace Queue

def after (q : Queue) : Event → Queue
  | .step step => (q.take step).2
  | .call job => q.call job
  | .move => q.next.getD q
  | .collect => { q with settled := [] }

def run (q : Queue) (events : List Event) : Queue := events.foldl after q

def stepOf (q : Queue) : Event → Option Step
  | .step step => some step
  | .move => q.running.bind (·.rest.head?)
  | .call _ | .collect => none

/-- An event in which nobody but the open transaction writes, if one is open. -/
def Exclusive (q : Queue) (e : Event) : Prop :=
  ∀ step ∈ q.stepOf e, step.writes = true → q.running.isSome = true → q.owns step = true

def Textual (q : Queue) (e : Event) : Prop :=
  ∀ step ∈ q.stepOf e, step.Textual

instance (q : Queue) (e : Event) : Decidable (q.Exclusive e) := inferInstanceAs (Decidable (∀ step ∈ _, _))

instance (q : Queue) (e : Event) : Decidable (q.Textual e) := inferInstanceAs (Decidable (∀ step ∈ _, _))

def Along (allowed : Queue → Event → Prop) (q : Queue) : List Event → Prop
  | [] => True
  | e :: events => allowed q e ∧ (q.after e).Along allowed events

instance Along.decidable (allowed : Queue → Event → Prop) [∀ q e, Decidable (allowed q e)] :
    (q : Queue) → (events : List Event) → Decidable (q.Along allowed events)
  | _, [] => inferInstanceAs (Decidable True)
  | q, e :: events =>
      have := Along.decidable allowed (q.after e) events
      inferInstanceAs (Decidable (allowed q e ∧ (q.after e).Along allowed events))

theorem run_cons (q : Queue) (e : Event) (events : List Event) :
    q.run (e :: events) = (q.after e).run events := rfl

theorem run_append (q : Queue) (first second : List Event) :
    q.run (first ++ second) = (q.run first).run second :=
  List.foldl_append

theorem along_append {allowed : Queue → Event → Prop} {q : Queue} {first second : List Event} :
    q.Along allowed (first ++ second) ↔ q.Along allowed first ∧ (q.run first).Along allowed second := by
  induction first generalizing q with
  | nil => simp [Along, run]
  | cons e first ih => simp only [List.cons_append, Along, ih, run_cons, and_assoc]

theorem run_invariant {holds : Queue → Prop} {allowed : Queue → Event → Prop}
    (hstep : ∀ q e, holds q → allowed q e → holds (q.after e)) {q : Queue} (h : holds q)
    {events : List Event} (hrun : q.Along allowed events) : holds (q.run events) := by
  induction events generalizing q with
  | nil => exact h
  | cons e events ih => exact ih (hstep q e h hrun.1) hrun.2

/-- What became of the rows and of the journal when a step was taken, or none. -/
inductive Effect (q : Queue) (step : Option Step) (s : Session) : Prop
  | still (store : s.store = q.session.store) (journal : s.journal = q.session.journal)
  | clear (clears : step = some .clear) (store : s.store = q.session.store.cleared)
      (journal : s.journal = q.session.journal)
  | request {taken : Step} (takes : step = some taken) (writes : taken.writes = true) (request : Request)
      (textual : taken.Textual → request.Textual) (asked : q.session.Asked (q.owns taken) request s)

theorem Effect.journal_eq {q : Queue} {step : Option Step} {s : Session} (h : Effect q step s)
    (hother : ∀ taken ∈ step, q.owns taken = false) : s.journal = q.session.journal := by
  cases h with
  | still _ journal => exact journal
  | clear _ _ journal => exact journal
  | request takes _ _ _ asked => rw [asked.journal, hother _ takes, if_neg Bool.false_ne_true]

theorem take_effect (q : Queue) (step : Step) : Effect q (some step) (q.take step).2.session := by
  cases step with
  | call scope call =>
      have hstart : q.session.Untouched { q.session with log := [] } := ⟨rfl, rfl, rfl⟩
      rcases Session.run_cases { q.session with log := [] } (q.journaled scope) call with
        h | ⟨request, hwrites, htextual, hasked⟩
      · exact .still (hstart.trans h).store (hstart.trans h).journal
      · exact .request rfl hwrites request htextual (hstart.asked hasked)
  | clear => exact .clear rfl rfl rfl
  | clock | dump | spawn => exact .still rfl rfl

theorem outcome_take_call (q : Queue) (scope : Scope) (call : Call) :
    (q.take (.call scope call)).1.outcome =
      (Session.run { q.session with log := [] } (q.journaled scope) call).1.map (.answer call) := rfl

theorem running_take (q : Queue) (step : Step) : (q.take step).2.running = q.running := by
  cases step <;> rfl

theorem session_advance (q : Queue) (running : Running) (step : Step) (rest : List Step) :
    (q.advance running step rest).session = (q.take step).2.session := rfl

theorem ticket_took (running : Running) (record : StepRecord) (rest : List Step) :
    (running.took record rest).ticket = running.ticket := by
  unfold Running.took
  split <;> rfl

theorem ticket_advance (q : Queue) (running : Running) (step : Step) (rest : List Step) :
    (q.advance running step rest).running.map (·.ticket) = some running.ticket := by
  rw [advance, Option.map_some, ticket_took]

inductive Move (q : Queue) : Prop
  | stays (running : q.running = none) (after : q.after .move = q)
  | begins {waiting : Waiting} {others : List Waiting} (running : q.running = none)
      (isWaiting : q.waiting = waiting :: others) (after : q.after .move = q.begin waiting others)
  | settles {running : Running} (isRunning : q.running = some running) (rest : running.rest = [])
      (after : q.after .move = q.settle running)
  | advances {running : Running} {step : Step} {rest : List Step} (isRunning : q.running = some running)
      (isRest : running.rest = step :: rest) (after : q.after .move = q.advance running step rest)

theorem move (q : Queue) : Move q := by
  cases hrunning : q.running with
  | none =>
      cases hwaiting : q.waiting with
      | nil => exact .stays hrunning (by simp [after, next, hrunning, hwaiting])
      | cons waiting others => exact .begins hrunning hwaiting (by simp [after, next, hrunning, hwaiting])
  | some running =>
      cases hrest : running.rest with
      | nil => exact .settles hrunning hrest (by simp [after, next, hrunning, hrest])
      | cons step rest => exact .advances hrunning hrest (by simp [after, next, hrunning, hrest])

/-- All that an event can do: a transaction ends, or one step is taken at most. -/
inductive Turn (q : Queue) (e : Event) : Prop
  | effect (effect : Effect q (q.stepOf e) (q.after e).session)
      (running : q.running.isSome = true → (q.after e).running.map (·.ticket) = q.running.map (·.ticket))
  | settle {running : Running} (isRunning : q.running = some running) (noStep : q.stepOf e = none)
      (after : q.after e = q.settle running)

theorem turn (q : Queue) (e : Event) : Turn q e := by
  cases e with
  | step step =>
      refine .effect (take_effect q step) fun _ => ?_
      rw [after, running_take]
  | call | collect => exact .effect (.still rfl rfl) fun _ => rfl
  | move =>
      cases q.move with
      | stays running hafter => exact .effect (.still (by rw [hafter]) (by rw [hafter])) (by simp [running])
      | begins running isWaiting hafter =>
          exact .effect (.still (by rw [hafter]; rfl) (by rw [hafter]; rfl)) (by simp [running])
      | settles isRunning rest hafter =>
          exact .settle isRunning (by simp [stepOf, isRunning, rest]) hafter
      | @advances running step rest isRunning isRest hafter =>
          have hstep : q.stepOf .move = some step := by simp [stepOf, isRunning, isRest]
          refine .effect ?_ fun _ => ?_
          · rw [hstep, hafter, session_advance]
            exact take_effect q step
          · rw [hafter, ticket_advance, isRunning]
            rfl

theorem session_after_of_stepOf {q : Queue} {e : Event} {step : Step} (h : q.stepOf e = some step) :
    (q.after e).session = (q.take step).2.session := by
  cases e with
  | step => cases h; rfl
  | call | collect => cases h
  | move =>
      cases q.move with
      | stays running | begins running => simp [stepOf, running] at h
      | settles isRunning rest => simp [stepOf, isRunning, rest] at h
      | @advances running other rest isRunning isRest hafter =>
          have hother : q.stepOf .move = some other := by simp [stepOf, isRunning, isRest]
          cases Option.some.inj (h.symm.trans hother)
          rw [hafter, session_advance]

theorem Turn.running_eq_none {q : Queue} {e : Event}
    (h : q.running.isSome = true → (q.after e).running.map (·.ticket) = q.running.map (·.ticket))
    (hnone : (q.after e).running = none) : q.running = none := by
  cases hq : q.running with
  | none => rfl
  | some running =>
      rw [hq, hnone] at h
      cases h rfl

theorem Exclusive.running_eq_none {q : Queue} {e : Event} (h : q.Exclusive e) {step : Step}
    (takes : q.stepOf e = some step) (writes : step.writes = true) (howns : q.owns step = false) :
    q.running = none := by
  cases hq : q.running with
  | none => rfl
  | some running =>
      have howned := h step takes writes (by rw [hq]; rfl)
      rw [howns] at howned
      cases howned

theorem isSome_running_of_owns {q : Queue} {step : Step} (h : q.owns step = true) :
    q.running.isSome = true := by
  cases step with
  | call scope call =>
      cases scope with
      | current => exact h
      | autocommit => cases h
      | kept name =>
          simp only [owns, journaled] at h
          split at h
          · simp [*]
          · cases h
  | clock | clear | dump | spawn => cases h

theorem idle_after {q : Queue} (h : q.running = none → q.session.journal = []) (e : Event)
    (hnone : (q.after e).running = none) : (q.after e).session.journal = [] := by
  cases q.turn e with
  | settle _ _ hafter =>
      rw [hafter]
      rfl
  | effect effect hrunning =>
      have hidle := Turn.running_eq_none hrunning hnone
      cases effect with
      | still _ journal => exact journal ▸ h hidle
      | clear _ _ journal => exact journal ▸ h hidle
      | @request step _ _ _ _ asked =>
          cases howns : q.owns step with
          | true =>
              have hsome := isSome_running_of_owns howns
              rw [hidle] at hsome
              cases hsome
          | false => rw [asked.journal, howns, if_neg Bool.false_ne_true, h hidle]

theorem idle_run {q : Queue} (h : q.running = none → q.session.journal = []) (events : List Event) :
    (q.run events).running = none → (q.run events).session.journal = [] := by
  induction events generalizing q with
  | nil => exact h
  | cons e events ih => exact ih (idle_after h e)

theorem drain_eq_run (q : Queue) : ∃ n, q.drain = q.run (List.replicate n .move) := by
  induction q using drain.induct with
  | case1 q hnext => exact ⟨0, by rw [drain, hnext]; rfl⟩
  | case2 q r hnext ih =>
      obtain ⟨n, h⟩ := ih
      refine ⟨n + 1, ?_⟩
      rw [drain, hnext, List.replicate_succ, run_cons, after, hnext]
      exact h

theorem command_eq_run (q : Queue) (command : Command) : ∃ events, (q.command command).2 = q.run events := by
  have hcalls (jobs : List Job) (q : Queue) : jobs.foldl call q = q.run (jobs.map .call) := by
    rw [run, List.foldl_map]
    rfl
  have hjobs (jobs : List Job) : ∃ events, (q.runJobs jobs).2 = q.run events := by
    obtain ⟨n, h⟩ := drain_eq_run (jobs.foldl call { q with settled := [] })
    refine ⟨.collect :: (jobs.map .call ++ List.replicate n .move), ?_⟩
    rw [run_cons, run_append, ← hcalls]
    exact h
  cases command with
  | step step => exact ⟨[.step step], rfl⟩
  | parallel jobs => exact hjobs jobs
  | transaction job =>
      obtain ⟨events, h⟩ := hjobs [job]
      refine ⟨events, ?_⟩
      rw [← h, Queue.command]
      rcases q.runJobs [job] with ⟨_ | ⟨own, spawned⟩, last⟩ <;> rfl

end Queue

end SecretAccess
