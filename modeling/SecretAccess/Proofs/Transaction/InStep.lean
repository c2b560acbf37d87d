import SecretAccess.Proofs.Transaction.Reacts

namespace SecretAccess.Chain

variable {c : Chain} {q : Queue} {events more : List Event} {moves moves' : List SecretAccess.Event}

theorem run_append (c : Chain) (first second : List Event) : c.run (first ++ second) = (c.run first).run second :=
  List.foldl_append

theorem trace_append {α : Type} (observe : Chain → Event → List α) (c : Chain) (first second : List Event) :
    c.trace observe (first ++ second) = c.trace observe first ++ (c.run first).trace observe second := by
  induction first generalizing c with
  | nil => rfl
  | cons e first ih =>
      rw [List.cons_append, trace, trace, ih, List.append_assoc]
      rfl

theorem trace_singleton {α : Type} (observe : Chain → Event → List α) (c : Chain) (e : Event) :
    c.trace observe [e] = observe c e :=
  List.append_nil _

theorem beginsOf_eq_nil {e : Event}
    (h : ∀ running ∈ (c.after e).opened, ∃ before ∈ c.opened, before.ticket = running.ticket) : c.beginsOf e = [] := by
  rw [beginsOf, List.filter_eq_nil_iff]
  intro running hrunning hnone
  obtain ⟨before, hbefore, hticket⟩ := h running hrunning
  rw [running?, Option.isNone_iff_eq_none, List.find?_eq_none] at hnone
  exact hnone before hbefore (decide_eq_true hticket)

theorem endsOf_eq_nil {e : Event}
    (h : ∀ running ∈ c.opened, ∃ later ∈ (c.after e).opened, later.ticket = running.ticket) : c.endsOf e = [] := by
  rw [endsOf, List.map_eq_nil_iff, List.filter_eq_nil_iff]
  intro running hrunning hnone
  obtain ⟨later, hlater, hticket⟩ := h running hrunning
  rw [running?, Option.isNone_iff_eq_none, List.find?_eq_none] at hnone
  exact hnone later hlater (decide_eq_true hticket)

theorem beginsOf_of_opened {e : Event} (h : (c.after e).opened = c.opened) : c.beginsOf e = [] :=
  beginsOf_eq_nil fun running hrunning => ⟨running, h ▸ hrunning, rfl⟩

theorem endsOf_of_opened {e : Event} (h : (c.after e).opened = c.opened) : c.endsOf e = [] :=
  endsOf_eq_nil fun running hrunning => ⟨running, h.symm ▸ hrunning, rfl⟩

theorem beginsOf_of_idle {e : Event} (h : c.opened = []) : c.beginsOf e = (c.after e).opened := by
  refine List.filter_eq_self.2 fun running _ => ?_
  rw [running?, h]
  rfl

/-- A run of the chain and the moves of the queue that it amounts to, with nothing between them to be told apart. -/
structure InStep (c : Chain) (q : Queue) (events : List Event) (moves : List SecretAccess.Event) : Prop where
  linked : Linked (c.run events) (q.run moves)
  calls : c.trace callsOf events = q.trace Queue.callsOf moves
  begins : c.trace beginsOf events = q.trace Queue.beginsOf moves
  ends : c.trace endsOf events = q.trace Queue.endsOf moves
  turns : ∀ ticket, c.trace (turnsOf ticket) events = q.trace (Queue.turnsOf ticket) moves

theorem InStep.append (h : InStep c q events moves) (h' : InStep (c.run events) (q.run moves) more moves') :
    InStep c q (events ++ more) (moves ++ moves') where
  linked := by
    rw [run_append, Queue.run_append]
    exact h'.linked
  calls := by rw [trace_append, Queue.trace_append, h.calls, h'.calls]
  begins := by rw [trace_append, Queue.trace_append, h.begins, h'.begins]
  ends := by rw [trace_append, Queue.trace_append, h.ends, h'.ends]
  turns ticket := by rw [trace_append, Queue.trace_append, h.turns, h'.turns]

theorem InStep.of_same {e : Event} (hlinked : Linked (c.after e) (q.run moves)) (hopened : (c.after e).opened = c.opened)
    (hcalls : c.callsOf e = q.trace Queue.callsOf moves) (hbegins : q.trace Queue.beginsOf moves = [])
    (hends : q.trace Queue.endsOf moves = [])
    (hturns : ∀ ticket, c.turnsOf ticket e = q.trace (Queue.turnsOf ticket) moves) : InStep c q [e] moves where
  linked := hlinked
  calls := (List.append_nil _).trans hcalls
  begins := by
    rw [trace_singleton, hbegins]
    exact beginsOf_of_opened hopened
  ends := by
    rw [trace_singleton, hends]
    exact endsOf_of_opened hopened
  turns ticket := (List.append_nil _).trans (hturns ticket)

theorem Linked.inStep_step (h : Linked c q) (step : Step) : InStep c q [.step step] [.step step.apart] := by
  have howns : ∀ running ∈ q.running, q.owns step.apart = true ↔ c.context none step = some running.ticket :=
    fun running hrunning => h.owns_apart_iff hrunning step
  obtain ⟨_, hlinked⟩ := h.take (.inr rfl) howns
  have hopened : (c.take none step).2.opened = c.opened := by rw [hlinked.opened, Queue.running_take, h.opened]
  have hspawned : step.apart.spawned = step.spawned := by
    cases step with
    | call scope => cases scope <;> rfl
    | clock | clear | dump | spawn => rfl
  refine .of_same hlinked hopened ?_ ?_ ?_ fun _ => rfl
  · rw [Queue.trace_singleton]
    exact hspawned.symm
  · rw [Queue.trace_singleton]
    exact Queue.beginsOf_eq_nil (by rw [Queue.after, Queue.running_take])
  · rw [Queue.trace_singleton]
    exact Queue.endsOf_eq_nil (Queue.settled_take q step.apart)

theorem Linked.inStep_call (h : Linked c q) (job : Job) : InStep c q [.call job] [.call job] := by
  have hlinked := h.call job
  have hopened : (c.call job).opened = c.opened := by rw [hlinked.opened, h.opened]; rfl
  refine .of_same hlinked hopened rfl ?_ ?_ fun _ => rfl
  · rw [Queue.trace_singleton]
    exact Queue.beginsOf_eq_nil rfl
  · rw [Queue.trace_singleton]
    exact Queue.endsOf_eq_nil rfl

theorem Linked.inStep_react (h : Linked c q) : InStep c q [.react] (c.move? .react).toList := by
  cases h.react with
  | settles opened linked =>
      have hbegins : c.beginsOf .react = [] := beginsOf_of_opened opened
      rw [move?, hbegins]
      exact .of_same linked opened rfl rfl rfl fun _ => rfl
  | @starts next others _ running waiting _ opened linked =>
      have hnone : c.opened = [] := by rw [h.opened, running]; rfl
      have hbegins : c.beginsOf .react = [⟨next.ticket, q.begun + 1, next.job.steps, next.job.ending, [], none⟩] := by
        rw [← h.begun, ← opened]
        exact beginsOf_of_idle hnone
      have hafter : q.after .move = q.begin next others := by simp [Queue.after, Queue.next, running, waiting]
      rw [move?, hbegins]
      change InStep c q [.react] [.move]
      constructor
      · change Linked c.react (q.after .move)
        rwa [hafter]
      · simp [trace, callsOf, stepOf, Queue.trace, Queue.callsOf, Queue.stepOf, running]
      · rw [trace_singleton, Queue.trace_singleton, hbegins, Queue.beginsOf_move running waiting]
      · rw [Queue.trace_singleton, Queue.endsOf_eq_nil (by rw [hafter]; rfl)]
        simp [trace, endsOf, hnone]
      · intro ticket
        rw [Queue.trace_singleton]
        simp [trace, turnsOf, Queue.turnsOf, running]

theorem Linked.opened_of_running (h : Linked c q) {running : Running} (hrunning : q.running = some running) :
    c.opened = [running] ∧ c.running? running.ticket = some running := by
  have hopened : c.opened = [running] := by rw [h.opened, hrunning]; rfl
  exact ⟨hopened, by simp [running?, hopened]⟩

theorem Linked.inStep_advance (h : Linked c q) {running : Running} (hrunning : q.running = some running) {step : Step}
    {rest : List Step} (hrest : running.rest = step :: rest) : InStep c q [.proceed running.ticket] [.move] := by
  obtain ⟨hopened, hfound⟩ := h.opened_of_running hrunning
  have hproceed : c.after (.proceed running.ticket) = c.advance running step rest := by
    simp only [after, Chain.proceed, hfound, hrest]
  have hafter : q.after .move = q.advance running step rest := by simp [Queue.after, Queue.next, hrunning, hrest]
  obtain ⟨hrecord, hlinked⟩ := h.advance hrunning step rest
  have hlater : (c.advance running step rest).opened = [running.took (q.take step).1 rest] := by
    rw [hlinked.opened]
    rfl
  have hticket : (running.took (q.take step).1 rest).ticket = running.ticket := Queue.ticket_took _ _ _
  have hstep : c.stepOf (.proceed running.ticket) = some step := by simp [stepOf, hfound, hrest]
  have hmove : q.stepOf .move = some step := by simp [Queue.stepOf, hrunning, hrest]
  constructor
  · change Linked (c.after (.proceed running.ticket)) (q.after .move)
    rwa [hproceed, hafter]
  · rw [trace_singleton, Queue.trace_singleton]
    simp only [callsOf, Queue.callsOf, hstep, hmove]
  · rw [trace_singleton, Queue.trace_singleton, Queue.beginsOf_eq_nil, beginsOf_eq_nil]
    · rw [hproceed, hlater, hopened]
      simp [hticket]
    · rw [hafter, Queue.ticket_advance, hrunning]
      rfl
  · rw [trace_singleton, Queue.trace_singleton, Queue.endsOf_eq_nil, endsOf_eq_nil]
    · rw [hproceed, hlater, hopened]
      simp [hticket]
    · rw [hafter]
      exact Queue.settled_take q step
  · intro ticket
    rw [trace_singleton, Queue.trace_singleton, turnsOf, Queue.turnsOf, hstep, hmove, hrunning]
    simp [hrecord]

theorem Linked.inStep_finish (h : Linked c q) {running : Running} (hrunning : q.running = some running)
    (hrest : running.rest = []) : InStep c q [.proceed running.ticket] [.move] := by
  obtain ⟨hopened, hfound⟩ := h.opened_of_running hrunning
  have hproceed : c.after (.proceed running.ticket) = c.finish running := by
    simp only [after, Chain.proceed, hfound, hrest]
  have hafter : q.after .move = q.settle running := by simp [Queue.after, Queue.next, hrunning, hrest]
  have hlinked := h.finish hrunning
  have hlater : (c.finish running).opened = [] := hlinked.opened
  have hstep : c.stepOf (.proceed running.ticket) = none := by simp [stepOf, hfound, hrest]
  have hmove : q.stepOf .move = none := by simp [Queue.stepOf, hrunning, hrest]
  constructor
  · change Linked (c.after (.proceed running.ticket)) (q.after .move)
    rwa [hproceed, hafter]
  · rw [trace_singleton, Queue.trace_singleton]
    simp only [callsOf, Queue.callsOf, hstep, hmove]
  · rw [trace_singleton, Queue.trace_singleton, beginsOf, Queue.beginsOf, hproceed, hlater, hafter]
    exact (ite_self _).symm
  · rw [trace_singleton, Queue.trace_singleton, endsOf, Queue.endsOf, hproceed, hafter, hopened]
    simp [running?, hlater, Queue.settle]
  · intro ticket
    rw [trace_singleton, Queue.trace_singleton, turnsOf, Queue.turnsOf, hstep, hmove]
    simp

theorem Linked.running_of_found (h : Linked c q) {ticket : Nat} {running : Running}
    (hfound : c.running? ticket = some running) : q.running = some running ∧ running.ticket = ticket := by
  have hmem := List.mem_of_find?_eq_some hfound
  rw [h.opened, Option.mem_toList] at hmem
  exact ⟨hmem, by simpa using List.find?_some hfound⟩

theorem Linked.inStep_proceed (h : Linked c q) (ticket : Nat) :
    InStep c q [.proceed ticket] (c.move? (.proceed ticket)).toList := by
  cases hfound : c.running? ticket with
  | none =>
      have hproceed : c.proceed ticket = c := by rw [Chain.proceed, hfound]
      have hafter : Linked (c.after (.proceed ticket)) q := by rwa [after, hproceed]
      rw [move?, hfound]
      refine .of_same hafter (congrArg Chain.opened hproceed) ?_ rfl rfl fun n => ?_
      · simp [callsOf, stepOf, hfound, Queue.trace]
      · simp [turnsOf, stepOf, hfound, Queue.trace]
  | some running =>
      obtain ⟨hrunning, rfl⟩ := h.running_of_found hfound
      rw [move?, hfound]
      cases hrest : running.rest with
      | nil => exact h.inStep_finish hrunning hrest
      | cons step rest => exact h.inStep_advance hrunning hrest

theorem Linked.inStep_after (h : Linked c q) (e : Event) : InStep c q [e] (c.move? e).toList := by
  cases e with
  | step step => exact h.inStep_step step
  | call job => exact h.inStep_call job
  | react => exact h.inStep_react
  | proceed ticket => exact h.inStep_proceed ticket

/-- Whatever the platform does and whoever takes a step, the chain serves its transactions as a queue does. -/
theorem Linked.inStep (h : Linked c q) (events : List Event) : InStep c q events (c.moves events) := by
  induction events generalizing c q with
  | nil => exact ⟨h, rfl, rfl, rfl, fun _ => rfl⟩
  | cons e events ih =>
      have hafter := h.inStep_after e
      exact hafter.append (ih hafter.linked)

theorem collect_not_mem_moves (c : Chain) (events : List Event) : .collect ∉ c.moves events := by
  induction events generalizing c with
  | nil => nofun
  | cons e events ih =>
      have hmove : .collect ∉ (c.move? e).toList := by cases e <;> simp [move?]
      exact fun hmem => (List.mem_append.1 hmem).elim hmove (ih _)

theorem mem_of_trace_eq {α : Type} {observe : Chain → Event → List α} {observe' : Queue → SecretAccess.Event → List α}
    {e : Event} {move : Option SecretAccess.Event} (h : c.trace observe [e] = q.trace observe' move.toList) {a : α}
    (ha : a ∈ observe c e) : ∃ e', move = some e' ∧ a ∈ observe' q e' := by
  rw [trace_singleton] at h
  rw [h] at ha
  cases move with
  | none => cases ha
  | some e' => exact ⟨e', rfl, Queue.trace_singleton observe' q e' ▸ ha⟩

/-- Who begins was started by the tail, when nothing else was left to the platform. -/
theorem Linked.begins_of_mem (h : Linked c q) {e : Event} {next : Running} (hnext : next ∈ c.beginsOf e) :
    c.opened = [] ∧ (∃ first outcome, c.microtasks = [.react (.starts first) outcome]) ∧
      ∃ e', next ∈ q.beginsOf e' := by
  obtain ⟨e', hmove, hmem⟩ := mem_of_trace_eq (h.inStep_after e).begins hnext
  obtain ⟨hrunning, -⟩ := Queue.begins_of_mem hmem
  have hopened : c.opened = [] := by rw [h.opened, hrunning]; rfl
  refine ⟨hopened, ?_, e', hmem⟩
  cases e with
  | step step =>
      cases hmove
      rw [Queue.beginsOf_eq_nil (by rw [Queue.after, Queue.running_take])] at hmem
      cases hmem
  | call job =>
      cases hmove
      rw [Queue.beginsOf_eq_nil rfl] at hmem
      cases hmem
  | proceed ticket => simp [move?, running?, hopened] at hmove
  | react =>
      cases h.react with
      | starts _ _ tasks => exact ⟨_, _, tasks⟩
      | settles opened =>
          have hbegins : c.beginsOf .react = [] := beginsOf_of_opened opened
          rw [hbegins] at hnext
          cases hnext

theorem Linked.ends_of_mem (h : Linked c q) {e : Event} {told : Settled} (htold : told ∈ c.endsOf e) :
    ∃ running, q.running = some running ∧ told = running.told ∧ Linked (c.after e) (q.settle running) := by
  have hafter := h.inStep_after e
  obtain ⟨e', hmove, hmem⟩ := mem_of_trace_eq hafter.ends htold
  obtain ⟨running, hrunning, -, hsettle, htold, -⟩ := Queue.ends_of_mem hmem
  have hlinked := hafter.linked
  rw [hmove] at hlinked
  change Linked (c.after e) (q.after e') at hlinked
  exact ⟨running, hrunning, htold, hsettle ▸ hlinked⟩

theorem Linked.store_of_ends (h : Linked c q) {e : Event} {told : Settled} (htold : told ∈ c.endsOf e) :
    (c.after e).store = match told.outcome with
      | .ok _ => c.store
      | .error _ => c.store.rollBack (c.journals told.ticket) := by
  obtain ⟨running, hrunning, rfl, hlinked⟩ := h.ends_of_mem htold
  have hjournal : c.journals running.told.ticket = q.session.journal := h.journal running hrunning
  cases houtcome : running.told.outcome <;> simp [hlinked.store, Queue.store_settle, houtcome, h.store, hjournal]

end SecretAccess.Chain
