import SecretAccess.Proofs.Transaction.Run

namespace SecretAccess.Queue

def tickets (q : Queue) : List Nat :=
  (q.running.map (·.ticket)).toList ++ q.waiting.map (·.ticket)

structure Ordered (q : Queue) : Prop where
  ascending : q.tickets.Pairwise (· < ·)
  below : ∀ n ∈ q.tickets, n < q.called

/-- A ticket that is neither running nor waiting, and will not be given out any more. -/
structure Spent (q : Queue) (ticket : Nat) : Prop where
  called : ticket < q.called
  passed : ∀ n ∈ q.tickets, ticket < n

/-- What an event does to the tickets: nothing, a new one is called last, or the first one is done. -/
inductive TicketMove (q r : Queue) : Prop
  | same (tickets : r.tickets = q.tickets) (called : r.called = q.called)
  | called (tickets : r.tickets = q.tickets ++ [q.called]) (called : r.called = q.called + 1)
  | done {running : Running} (tickets : q.tickets = running.ticket :: r.tickets) (called : r.called = q.called)

theorem ticketMove_call (q : Queue) (job : Job) : TicketMove q (q.call job) :=
  .called (by simp [tickets, call]) rfl

theorem ticketMove_take (q : Queue) (step : Step) : TicketMove q (q.take step).2 := by
  cases step with
  | spawn steps ending => exact .called (by simp [tickets, take, call]) rfl
  | call | clock | clear | dump => exact .same rfl rfl

theorem tickets_advance {q : Queue} {running : Running} (h : q.running = some running) (step : Step)
    (rest : List Step) : (q.advance running step rest).tickets = (q.take step).2.tickets := by
  have hwaiting : (q.advance running step rest).waiting = (q.take step).2.waiting := rfl
  rw [tickets, tickets, ticket_advance, hwaiting, running_take, h]
  rfl

theorem tickets_settle {q : Queue} {running : Running} (h : q.running = some running) :
    q.tickets = running.ticket :: (q.settle running).tickets := by
  simp [tickets, settle, h]

theorem ticketMove_after (q : Queue) (e : Event) : TicketMove q (q.after e) := by
  cases e with
  | step step => exact ticketMove_take q step
  | call job => exact ticketMove_call q job
  | collect => exact .same rfl rfl
  | move =>
      cases q.move with
      | stays _ hafter =>
          rw [hafter]
          exact .same rfl rfl
      | begins running isWaiting hafter =>
          rw [hafter]
          exact .same (by simp [tickets, begin, running, isWaiting]) rfl
      | settles isRunning _ hafter =>
          rw [hafter]
          exact .done (tickets_settle isRunning) rfl
      | @advances running step rest isRunning _ hafter =>
          have htickets := tickets_advance isRunning step rest
          have hcalled : (q.advance running step rest).called = (q.take step).2.called := rfl
          rw [hafter]
          cases ticketMove_take q step with
          | same ht hc => exact .same (htickets.trans ht) (hcalled.trans hc)
          | called ht hc => exact .called (htickets.trans ht) (hcalled.trans hc)
          | done ht hc => exact .done (by rw [htickets]; exact ht) (hcalled.trans hc)

theorem Ordered.after {q : Queue} (h : q.Ordered) (e : Event) : (q.after e).Ordered := by
  cases ticketMove_after q e with
  | same htickets hcalled =>
      constructor <;> rw [htickets]
      · exact h.ascending
      · rw [hcalled]
        exact h.below
  | called htickets hcalled =>
      constructor
      · rw [htickets, List.pairwise_append]
        refine ⟨h.ascending, by simp, ?_⟩
        intro n hn m hm
        rw [List.mem_singleton] at hm
        exact hm ▸ h.below n hn
      · intro n hn
        rw [htickets, List.mem_append, List.mem_singleton] at hn
        rw [hcalled]
        rcases hn with hn | rfl
        · exact Nat.lt_succ_of_lt (h.below n hn)
        · exact Nat.lt_succ_self _
  | done htickets hcalled =>
      constructor
      · have hall := h.ascending
        rw [htickets, List.pairwise_cons] at hall
        exact hall.2
      · intro n hn
        rw [hcalled]
        exact h.below n (htickets ▸ List.mem_cons_of_mem _ hn)

theorem Ordered.run {q : Queue} (h : q.Ordered) (events : List Event) : (q.run events).Ordered := by
  induction events generalizing q with
  | nil => exact h
  | cons e events ih => exact ih (h.after e)

theorem Spent.after {q : Queue} {ticket : Nat} (h : q.Spent ticket) (e : Event) :
    (q.after e).Spent ticket := by
  cases ticketMove_after q e with
  | same htickets hcalled =>
      constructor
      · rw [hcalled]
        exact h.called
      · rw [htickets]
        exact h.passed
  | called htickets hcalled =>
      constructor
      · rw [hcalled]
        exact Nat.lt_succ_of_lt h.called
      · intro n hn
        rw [htickets, List.mem_append, List.mem_singleton] at hn
        rcases hn with hn | rfl
        · exact h.passed n hn
        · exact h.called
  | done htickets hcalled =>
      constructor
      · rw [hcalled]
        exact h.called
      · intro n hn
        exact h.passed n (htickets ▸ List.mem_cons_of_mem _ hn)

theorem Ordered.spent_settle {q : Queue} (h : q.Ordered) {running : Running}
    (hrunning : q.running = some running) : (q.settle running).Spent running.ticket := by
  have htickets := tickets_settle hrunning
  constructor
  · exact h.below running.ticket (htickets ▸ List.mem_cons_self)
  · have hall := h.ascending
    rw [htickets, List.pairwise_cons] at hall
    exact hall.1

theorem Spent.run {q : Queue} {ticket : Nat} (h : q.Spent ticket) (events : List Event) :
    (q.run events).Spent ticket := by
  induction events generalizing q with
  | nil => exact h
  | cons e events ih => exact ih (h.after e)

theorem Spent.journaled_eq_false {q : Queue} {ticket : Nat} (h : q.Spent ticket) {name : String}
    (hname : q.kept.lookup name = some ticket) : q.journaled (.kept name) = false := by
  simp only [journaled, hname]
  cases hrunning : q.running with
  | none => rfl
  | some running =>
      have hlater : ticket < running.ticket := h.passed _ (by simp [tickets, hrunning])
      simpa using Nat.ne_of_lt hlater

end SecretAccess.Queue
