import SecretAccess.Proofs.Transaction.InStep

namespace SecretAccess.Chain

variable {c : Chain} {q : Queue} {events : List Event} {n : Nat} {outcome : Settlement}

theorem linked_ofStore (s : Store) (now : Instant) (quiet : Bool) :
    Linked (ofStore s now quiet) (Queue.ofStore s now quiet) where
  store := rfl
  clock := rfl
  quiet := rfl
  opened := rfl
  journal := nofun
  idle _ := rfl
  called := rfl
  begun := rfl
  kept := rfl
  unmade _ _ := ⟨rfl, rfl, rfl⟩
  unbegun := nofun
  ordered := ⟨.nil, nofun⟩
  unrejected := nofun
  tells n outcome := by simp [Tells, ofStore, Queue.ofStore, Queue.make]
  front := .idle rfl rfl rfl rfl

theorem settled_settle {p : Promise} (h : c.promises p = .settled outcome) (other : Promise) (outcome' : Settlement) :
    (c.settle other outcome').promises p = .settled outcome := by
  unfold settle
  split
  · rename_i hother
    have hne : p ≠ other := by
      rintro rfl
      rw [h] at hother
      cases hother
    exact (if_neg hne).trans h
  · exact h

theorem settled_react {p : Promise} (h : c.promises p = .settled outcome) : c.react.promises p = .settled outcome := by
  unfold react
  split
  · exact h
  · rename_i task tasks _
    have hpast : Chain.promises { c with microtasks := tasks } p = .settled outcome := h
    unfold perform
    split
    · exact (settled_hang _ _ _ p outcome).2 hpast
    · split
      · exact hpast
      · exact settled_settle hpast _ _
      · exact settled_settle hpast _ _

theorem Linked.settled_of_passes (h : Linked c q) (htasks : c.microtasks = [.react (.passes (.result n)) outcome]) :
    c.react.promises (.result n) = .settled outcome := by
  cases h.front with
  | answers _ _ tasks follows =>
      cases htasks.symm.trans tasks
      rw [react_settle htasks (perform_passes · _ _) follows.1]
      exact if_pos rfl
  | idle _ _ tasks | ready _ _ tasks | begun _ tasks | adopted _ tasks | ended _ _ tasks | answered _ _ tasks =>
      cases htasks.symm.trans tasks

theorem Linked.settled_of_tells (h : Linked c q) (htells : c.Tells n outcome) :
    (c.run [.react, .react]).promises (.result n) = .settled outcome := by
  obtain hsettled | htasks | ⟨htasks, hcallback⟩ := htells
  · exact settled_react (settled_react hsettled)
  · exact settled_react (h.settled_of_passes htasks)
  · have hreact := react_adopt_of_settled htasks hcallback
    have hadopted : c.react.microtasks = [.react (.passes (.result n)) outcome] := by rw [hreact]
    cases h.react with
    | starts running _ _ opened =>
        rw [hreact, h.opened, running] at opened
        cases opened
    | settles _ linked => exact linked.settled_of_passes hadopted

theorem Linked.trace_beginsOf_react (h : Linked c q) (hbusy : q.running = none → q.waiting = []) (n : Nat) :
    c.trace beginsOf (List.replicate n .react) = [] := by
  induction n generalizing c with
  | zero => rfl
  | succ n ih =>
      cases h.react with
      | starts running waiting =>
          rw [hbusy running] at waiting
          cases waiting
      | settles opened linked =>
          have hbegins : c.beginsOf .react = [] := beginsOf_of_opened opened
          rw [List.replicate_succ, trace, hbegins, List.nil_append]
          exact ih linked

theorem Linked.trace_beginsOf_due (h : Linked c q) (hrunning : q.running = none) (hdue : c.due < n) :
    c.trace beginsOf (List.replicate n .react) = q.beginsOf .move := by
  cases hwaiting : q.waiting with
  | nil =>
      have hafter : q.after .move = q := by simp [Queue.after, Queue.next, hrunning, hwaiting]
      rw [h.trace_beginsOf_react fun _ => hwaiting, Queue.beginsOf_eq_nil (by rw [hafter])]
  | cons next others =>
      rw [Queue.beginsOf_move hrunning hwaiting]
      induction n generalizing c with
      | zero => cases hdue
      | succ n ih =>
          rw [List.replicate_succ, trace]
          cases h.react with
          | @starts first rest _ _ waiting _ opened linked =>
              cases hwaiting.symm.trans waiting
              have hopened : c.opened = [] := by rw [h.opened, hrunning]; rfl
              have hbegins : c.beginsOf .react = c.react.opened := beginsOf_of_idle hopened
              have hrest : (c.after .react).trace beginsOf (List.replicate n .react) = [] :=
                linked.trace_beginsOf_react (fun hnone => (Option.some_ne_none _ hnone).elim) n
              rw [hbegins, hrest, opened, h.begun, List.append_nil]
          | settles opened linked due =>
              have hbegins : c.beginsOf .react = [] := beginsOf_of_opened opened
              rw [hbegins, List.nil_append]
              have hless := due (h.microtasks_ne_nil hrunning hwaiting)
              exact ih linked (Nat.lt_of_lt_of_le hless (Nat.le_of_lt_succ hdue))

/-- Each microtask and each step of a callback is a move of the queue, or leaves less to the platform. -/
theorem Linked.nearer (h : Linked c q) {e : Event} (hworks : c.Works e) :
    ∃ r, Linked (c.after e) r ∧ r.drain = q.drain ∧ 4 * r.weight + (c.after e).due < 4 * q.weight + c.due := by
  have hnext {r : Queue} (hlinked : Linked (c.after e) r) (hmove : q.next = some r) :
      ∃ r, Linked (c.after e) r ∧ r.drain = q.drain ∧ 4 * r.weight + (c.after e).due < 4 * q.weight + c.due := by
    have hweight := Queue.weight_next hmove
    have hdue := hlinked.due_le
    refine ⟨r, hlinked, ?_, by omega⟩
    rw [Queue.drain.eq_def q, hmove]
  cases e with
  | step | call => cases hworks
  | react =>
      cases h.react with
      | starts running waiting _ _ linked => exact hnext linked (by simp [Queue.next, running, waiting])
      | settles _ linked due => exact ⟨q, linked, rfl, Nat.add_lt_add_left (due hworks) _⟩
  | proceed ticket =>
      obtain ⟨running, hfound⟩ := Option.isSome_iff_exists.1 hworks
      obtain ⟨hrunning, rfl⟩ := h.running_of_found hfound
      have hmove : q.next = some (q.after .move) := by
        cases hrest : running.rest <;> simp [Queue.after, Queue.next, hrunning, hrest]
      cases hrest : running.rest with
      | nil => exact hnext (h.inStep_finish hrunning hrest).linked hmove
      | cons step rest => exact hnext (h.inStep_advance hrunning hrest).linked hmove

theorem Linked.length_le (h : Linked c q) (hbusy : c.Busy events) : events.length ≤ 4 * q.weight + c.due := by
  induction events generalizing c q with
  | nil => exact Nat.zero_le _
  | cons e events ih =>
      obtain ⟨r, hlinked, -, hlt⟩ := h.nearer hbusy.1
      have hle := ih hlinked hbusy.2
      rw [List.length_cons]
      omega

/-- In whatever order the microtasks and the callbacks go on, they end where the queue does when it is drained. -/
theorem Linked.drain (h : Linked c q) (hbusy : c.Busy events) (hworks : ∀ e, ¬(c.run events).Works e) :
    Linked (c.run events) q.drain := by
  induction events generalizing c q with
  | nil =>
      obtain ⟨hrunning, hwaiting, -⟩ := h.idle_of_not_works hworks
      have hnext : q.next = none := by simp [Queue.next, hrunning, hwaiting]
      rwa [Queue.drain, hnext]
  | cons e events ih =>
      obtain ⟨r, hlinked, hdrain, -⟩ := h.nearer hbusy.1
      exact hdrain ▸ ih hlinked hbusy.2 hworks

/-- Transactions are served in the order in which they were called, and one at a time. -/
structure FirstInFirstOut (c : Chain) (events : List Event) : Prop where
  order : c.trace beginsOf events <+: (c.trace callsOf events).mapIdx fun n job => job.opened n
  alone : (c.run events).opened.length ≤ 1
  begins : ∀ e, ∀ next ∈ (c.run events).beginsOf e,
    (c.trace endsOf events).map (·.ticket) = List.range next.ticket ∧ (c.run events).opened = [] ∧
      ∀ told ∈ c.trace endsOf events, (c.run events).promises (.result told.ticket) = .settled told.outcome
  /-- What a callback has written is undone by the time its promise is rejected. -/
  ends : ∀ e, ∀ told ∈ (c.run events).endsOf e,
    ((c.run events).after e).store = match told.outcome with
      | .ok _ => (c.run events).store
      | .error _ => (c.run events).store.rollBack ((c.run events).journals told.ticket)
  own : ∀ told ∈ c.trace endsOf events, ∃ job, (c.trace callsOf events)[told.ticket]? = some job ∧
    job.Ran (c.trace (turnsOf told.ticket) events) told
  answers : ∀ n outcome, (c.run events).promises (.result n) = .settled outcome →
    ∃ told ∈ c.trace endsOf events, told.ticket = n ∧ told.outcome = outcome
  unrejected : ∀ n outcome, (c.run events).promises (.tail n) = .settled outcome → outcome = .ok none
  /-- However a callback ends, the platform is at most four microtasks away from the next one. -/
  next : ∀ e, ∀ told ∈ (c.run events).endsOf e,
    (((c.run events).after e).run [.react, .react]).promises (.result told.ticket) = .settled told.outcome ∧
      ((c.run events).after e).trace beginsOf (List.replicate 4 .react) =
        ((c.trace callsOf events)[told.ticket + 1]?.map (·.opened (told.ticket + 1))).toList
  bounded : ∃ bound, ∀ more, (c.run events).Busy more → more.length ≤ bound
  served : (∀ e, ¬(c.run events).Works e) →
    (c.trace endsOf events).map (·.ticket) = List.range (c.trace callsOf events).length ∧
      ∀ told ∈ c.trace endsOf events, (c.run events).promises (.result told.ticket) = .settled told.outcome

theorem InStep.firstInFirstOut (h : InStep c q events (c.moves events)) (huntried : q.Untried) (hnone : q.settled = []) :
    c.FirstInFirstOut events := by
  obtain ⟨hturn, hown⟩ := huntried.run (c.moves events)
  have hsettled : (q.run (c.moves events)).settled = c.trace endsOf events := by
    rw [Queue.settled_run q (c.collect_not_mem_moves events), hnone, List.nil_append, h.ends]
  have htells (told : Settled) (htold : told ∈ c.trace endsOf events) :
      (c.run events).Tells told.ticket told.outcome :=
    (h.linked.tells told.ticket told.outcome).2 ⟨told, hsettled ▸ htold, rfl, rfl⟩
  constructor
  case order =>
    rw [h.begins, h.calls, ← hturn.order]
    exact List.prefix_append _ _
  case alone =>
    rw [h.linked.opened]
    exact Option.length_toList_le
  case begins =>
    intro e next hnext
    obtain ⟨hopened, ⟨first, outcome, htasks⟩, e', hmem⟩ := h.linked.begins_of_mem hnext
    refine ⟨h.ends ▸ hturn.ended_of_begins hmem, hopened, fun told htold => ?_⟩
    simpa [Tells, htasks, Reaction.starts, Reaction.passes] using htells told htold
  case ends => exact fun e told htold => h.linked.store_of_ends htold
  case own =>
    intro told htold
    rw [h.calls, h.turns]
    exact hown.ended told (h.ends ▸ htold)
  case answers =>
    intro n outcome hanswer
    exact hsettled ▸ (h.linked.tells n outcome).1 (.inl hanswer)
  case unrejected => exact h.linked.unrejected
  case next =>
    intro e told htold
    obtain ⟨running, hrunning, rfl, hlinked⟩ := h.linked.ends_of_mem htold
    constructor
    · refine hlinked.settled_of_tells ((hlinked.tells _ _).2 ⟨running.told, ?_, rfl, rfl⟩)
      exact List.mem_append_right _ (List.mem_singleton_self _)
    · rw [hlinked.trace_beginsOf_due rfl (Nat.lt_succ_of_le hlinked.due_le), h.calls]
      exact hturn.begins_next hrunning
  case bounded => exact ⟨_, fun more hbusy => h.linked.length_le hbusy⟩
  case served =>
    intro hworks
    obtain ⟨hrunning, hwaiting, htasks⟩ := h.linked.idle_of_not_works hworks
    constructor
    · rw [h.ends, h.calls, hturn.ended_of_idle hrunning, hturn.begun_of_nil hwaiting, hturn.called]
    · exact fun told htold => by simpa [Tells, htasks] using htells told htold

/-- Whatever the rows are, whoever calls transactions and takes steps in between, and however far the platform
is behind. -/
theorem firstInFirstOut_run (s : Store) (now : Instant) (quiet : Bool) (events : List Event) :
    (ofStore s now quiet).FirstInFirstOut events :=
  ((linked_ofStore s now quiet).inStep events).firstInFirstOut ⟨rfl, rfl, rfl, rfl⟩ rfl

example :
    let ending (abort : Given) : Ending := ⟨abort, false, none, none⟩
    let events : List Event := [.call ⟨[.spawn [] (ending none)], ending (some (.text "no"))⟩,
      .call ⟨[.clock 5], ending none⟩, .react, .proceed 0, .proceed 0] ++ List.replicate 4 .react ++
      [.proceed 1, .proceed 1] ++ List.replicate 4 .react ++ [.proceed 2]
    ((ofStore .empty 0 true).trace endsOf events).map (fun told => (told.ticket, told.outcome.toBool)) =
      [(0, false), (1, true), (2, true)] := by
  decide

end SecretAccess.Chain
