import SecretAccess.Proofs.Transaction.Linked

namespace SecretAccess.Chain

variable {c : Chain} {q : Queue} {n : Nat}

/-- What the next microtask does: it starts what has waited longest, or the queue does not see it. -/
inductive Reacts (c : Chain) (q : Queue) : Prop
  | starts {next : Waiting} {others : List Waiting} {outcome : Settlement} (running : q.running = none)
      (waiting : q.waiting = next :: others) (tasks : c.microtasks = [.react (.starts next) outcome])
      (opened : c.react.opened = [⟨next.ticket, c.begun + 1, next.job.steps, next.job.ending, [], none⟩])
      (linked : Linked c.react (q.begin next others))
  | settles (opened : c.react.opened = c.opened) (linked : Linked c.react q)
      (due : c.microtasks ≠ [] → c.react.due < c.due)

theorem react_adopt_of_pending {p derived : Promise} {reactions : List Reaction}
    (htasks : c.microtasks = [.adopt p derived]) (hp : c.promises p = .pending reactions) : c.react =
      { c with
        promises := (c.setPromise p (.pending (reactions ++ [.passes derived]))).promises
        microtasks := [] } := by
  have hpending : Chain.promises { c with microtasks := [] } p = .pending reactions := hp
  rw [Chain.react, htasks]
  exact hang_of_pending hpending _

theorem react_adopt_of_settled {p derived : Promise} {outcome : Settlement}
    (htasks : c.microtasks = [.adopt p derived]) (hp : c.promises p = .settled outcome) :
    c.react = { c with promises := c.promises, microtasks := [.react (.passes derived) outcome] } := by
  have hsettled : Chain.promises { c with microtasks := [] } p = .settled outcome := hp
  rw [Chain.react, htasks]
  exact hang_of_settled hsettled _

theorem perform_passes (c : Chain) (p : Promise) (outcome : Settlement) :
    c.perform (.react (.passes p) outcome) = c.settle p outcome := by
  cases outcome <;> rfl

theorem perform_swallows (c : Chain) (n : Nat) (outcome : Settlement) :
    c.perform (.react (.swallows n) outcome) = c.settle (.tail n) (.ok none) := by
  cases outcome <;> rfl

theorem react_settle {task : Microtask} {p : Promise} {outcome : Settlement} {reactions : List Reaction}
    (htasks : c.microtasks = [task]) (htask : ∀ c : Chain, c.perform task = c.settle p outcome)
    (hp : c.promises p = .pending reactions) : c.react =
      { c with
        promises := (c.setPromise p (.settled outcome)).promises
        microtasks := reactions.map fun reaction => .react reaction outcome } := by
  have hpending : Chain.promises { c with microtasks := [] } p = .pending reactions := hp
  rw [Chain.react, htasks]
  exact (htask _).trans (settle_of_pending hpending _)

theorem Linked.begins (h : Linked c q) {next : Waiting} {others : List Waiting} {outcome : Settlement}
    (hrunning : q.running = none) (hwaiting : q.waiting = next :: others)
    (htasks : c.microtasks = [.react (.starts next) outcome]) (hfollows : c.Follows next.ticket others) :
    Reacts c q := by
  have hreact : c.react = { c with microtasks := [] }.begin next (.result next.ticket) := by
    rw [Chain.react, htasks]
    cases outcome <;> rfl
  have hopened : c.opened = [] := by rw [h.opened, hrunning]; rfl
  have hopened' : c.react.opened = [⟨next.ticket, c.begun + 1, next.job.steps, next.job.ending, [], none⟩] := by
    rw [hreact, begin, hopened]
    rfl
  have htickets : (q.begin next others).tickets = q.tickets := by simp [Queue.tickets, Queue.begin, hrunning, hwaiting]
  refine .starts hrunning hwaiting htasks hopened' ?_
  constructor
  case opened =>
    rw [hopened', h.begun]
    rfl
  case idle => exact fun hnone => (Option.some_ne_none _ hnone).elim
  case ordered => exact ⟨htickets ▸ h.ordered.ascending, htickets ▸ h.ordered.below⟩
  case tells =>
    have hcallback := h.unbegun next (hwaiting ▸ List.mem_cons_self)
    intro n outcome'
    rw [hreact]
    refine Iff.trans ?_ (h.tells n outcome')
    by_cases hn : n = next.ticket
    · subst hn
      simp [Tells, begin, setJournal, enqueue, htasks, hcallback, Reaction.starts, Reaction.passes]
    · simp [Tells, begin, setJournal, enqueue, htasks, Ne.symm hn, Reaction.starts, Reaction.passes]
  all_goals rw [hreact]
  case store => exact h.store
  case clock => exact h.clock
  case quiet => exact h.quiet
  case journal =>
    rintro _ ⟨⟩
    exact (if_pos rfl).trans (h.idle hrunning).symm
  case called => exact h.called
  case unrejected => exact h.unrejected
  case begun => exact congrArg (· + 1) h.begun
  case kept => cases hkeep : next.job.ending.keep <;> simp [begin, Queue.begin, hkeep, h.kept]
  case unmade => exact fun n hn => ⟨(h.unmade n hn).result, (h.unmade n hn).tail, (h.unmade n hn).callback⟩
  case unbegun => exact fun later hlater => h.unbegun later (hwaiting ▸ List.mem_cons_of_mem _ hlater)
  case front =>
    refine .begun rfl rfl (h.unbegun next (hwaiting ▸ List.mem_cons_self)) ?_
    exact ⟨hfollows.1, hfollows.2.of_eq rfl rfl⟩

theorem Linked.settles (h : Linked c q) (hn : n < c.called) (hbefore : ∀ next ∈ q.waiting, n < next.ticket)
    {promises : Promise → PromiseState} {tasks : List Microtask}
    (hreact : c.react = { c with promises := promises, microtasks := tasks })
    (hpromises : ∀ p, promises p = c.promises p ∨ p = .result n ∨ p = .tail n ∨ p = .callback n)
    (htail : ∀ outcome, promises (.tail n) = .settled outcome → outcome = .ok none)
    (htells : ∀ m outcome, Tells { c with promises := promises, microtasks := tasks } m outcome ↔ c.Tells m outcome)
    (hfront : Front { c with promises := promises, microtasks := tasks } q)
    (hdue : (tasks.map Microtask.due).sum < c.due) : Reacts c q := by
  refine .settles (by rw [hreact]) ?_ fun _ => by rwa [hreact]
  rw [hreact]
  exact h.platform hn hbefore hpromises htail htells hfront

theorem setPromise_cases (c : Chain) (p : Promise) (state : PromiseState) (other : Promise) :
    (c.setPromise p state).promises other = c.promises other ∨ other = p :=
  (em (other = p)).symm.imp_left fun hne => if_neg hne

theorem Linked.swallows (h : Linked c q) {outcome : Settlement} (hn : n < c.called)
    (hbefore : ∀ next ∈ q.waiting, n < next.ticket) (running : q.running = none)
    (tasks : c.microtasks = [.react (.swallows n) outcome]) (hangs : c.Hangs n q.waiting) : Reacts c q := by
  have htail (p : Promise) := (c.setPromise_cases (.tail n) (.settled (.ok none)) p).imp_right fun hp =>
    (.inr (.inl hp) : p = .result n ∨ p = .tail n ∨ p = .callback n)
  have hrejected (outcome : Settlement)
      (hsettled : (c.setPromise (.tail n) (.settled (.ok none))).promises (.tail n) = .settled outcome) :
      outcome = .ok none :=
    PromiseState.settled.inj (hsettled.symm.trans (if_pos rfl))
  cases hwaiting : q.waiting with
  | nil =>
      rw [hwaiting] at hangs
      refine h.settles hn hbefore (react_settle tasks (perform_swallows · n _) hangs.2) htail hrejected
        (fun m outcome' => ?_) ?_ ?_
      · simp [Tells, setPromise, tasks, Reaction.swallows, Reaction.passes]
      · refine .idle running hwaiting rfl ?_
        rw [hangs.1]
        exact if_pos rfl
      · simp [due, Microtask.due, Handler.due, Reaction.swallows, tasks]
  | cons next others =>
      rw [hwaiting] at hangs
      have hlater : n < next.ticket := hbefore next (hwaiting ▸ List.mem_cons_self)
      have hascend := h.ascending hbefore
      rw [hwaiting, List.map_cons, List.pairwise_cons] at hascend
      refine h.settles hn hbefore (react_settle tasks (perform_swallows · n _) hangs.1) htail hrejected
        (fun m outcome' => ?_) ?_ ?_
      · simp [Tells, setPromise, tasks, Reaction.swallows, Reaction.passes, Reaction.starts]
      · refine .ready running hwaiting rfl ⟨hangs.2.1, ?_⟩
        refine hangs.2.2.congr hascend.2 rfl (fun m hm => if_neg ?_) fun _ _ => rfl
        exact fun heq => Nat.ne_of_gt (Nat.lt_of_lt_of_le hlater hm) (Promise.tail.inj heq)
      · simp [due, Microtask.due, Handler.due, Reaction.swallows, Reaction.starts, tasks]

theorem Linked.react (h : Linked c q) : Reacts c q := by
  have hspent {n : Nat} (hs : q.Spent n) (hrunning : q.running = none) :
      n < c.called ∧ ∀ next ∈ q.waiting, n < next.ticket := by
    refine ⟨h.called ▸ hs.called, fun next hnext => hs.passed _ ?_⟩
    exact List.mem_append_right _ (List.mem_map_of_mem hnext)
  cases h.front with
  | idle running waiting tasks tail =>
      have hreact : c.react = c := by rw [Chain.react, tasks]
      exact .settles (by rw [hreact]) (by rwa [hreact]) fun hne => absurd tasks hne
  | adopted isRunning tasks callback follows =>
      have hreact : c.react = c := by rw [Chain.react, tasks]
      exact .settles (by rw [hreact]) (by rwa [hreact]) fun hne => absurd tasks hne
  | ready running waiting tasks follows => exact h.begins running waiting tasks follows
  | @begun running isRunning tasks callback follows =>
      refine h.settles (h.ticket_lt isRunning) (h.before isRunning) (react_adopt_of_pending tasks callback)
        (fun p => (c.setPromise_cases _ _ p).imp_right fun hp => .inr (.inr hp)) (h.unrejected running.ticket) ?_ ?_ ?_
      · intro m outcome
        by_cases hm : m = running.ticket
        · subst hm
          simp [Tells, setPromise, tasks, callback]
        · simp [Tells, setPromise, tasks, Ne.symm hm]
      · refine .adopted isRunning rfl (if_pos rfl) ⟨follows.1, ?_⟩
        exact follows.2.congr (h.ascending (h.before isRunning)) rfl (fun _ _ => rfl) fun _ _ => rfl
      · simp [due, Microtask.due, tasks]
  | @ended n outcome running spent tasks callback follows =>
      obtain ⟨hn, hbefore⟩ := hspent spent running
      refine h.settles hn hbefore (react_adopt_of_settled tasks callback) (fun _ => .inl rfl) (h.unrejected n) ?_ ?_ ?_
      · intro m outcome'
        by_cases hm : m = n
        · subst hm
          simp [Tells, tasks, callback, Reaction.passes]
        · simp [Tells, tasks, Ne.symm hm, Reaction.passes]
      · exact .answers running spent rfl ⟨follows.1, follows.2.of_eq rfl rfl⟩
      · simp [due, Microtask.due, Handler.due, Reaction.passes, tasks]
  | @answers n outcome running spent tasks follows =>
      obtain ⟨hn, hbefore⟩ := hspent spent running
      refine h.settles hn hbefore (react_settle tasks (perform_passes · _ _) follows.1)
        (fun p => (c.setPromise_cases _ _ p).imp_right .inl) (h.unrejected n) ?_ ?_ ?_
      · intro m outcome'
        by_cases hm : m = n
        · subst hm
          simp [Tells, setPromise, tasks, follows.1, Reaction.passes, Reaction.swallows]
        · simp [Tells, setPromise, tasks, hm, Ne.symm hm, Reaction.passes, Reaction.swallows]
      · refine .answered running spent rfl ?_
        refine follows.2.congr (h.ascending hbefore) rfl (fun _ _ => rfl) fun m hm => if_neg ?_
        exact fun heq => Nat.ne_of_gt hm (Promise.result.inj heq)
      · simp [due, Microtask.due, Handler.due, Reaction.passes, Reaction.swallows, tasks]
  | @answered n outcome running spent tasks hangs =>
      obtain ⟨hn, hbefore⟩ := hspent spent running
      exact h.swallows hn hbefore running tasks hangs

theorem Linked.due_le (h : Linked c q) : c.due ≤ 3 := by
  cases h.front with
  | idle _ _ tasks | ready _ _ tasks | begun _ tasks | adopted _ tasks | ended _ _ tasks | answers _ _ tasks
  | answered _ _ tasks =>
      simp [due, tasks, Microtask.due, Handler.due, Reaction.starts, Reaction.swallows, Reaction.passes]

theorem Linked.microtasks_ne_nil (h : Linked c q) (hrunning : q.running = none) {next : Waiting} {others : List Waiting}
    (hwaiting : q.waiting = next :: others) : c.microtasks ≠ [] := by
  intro htasks
  cases h.front with
  | idle _ waiting =>
      rw [hwaiting] at waiting
      cases waiting
  | begun isRunning | adopted isRunning =>
      rw [hrunning] at isRunning
      cases isRunning
  | ready _ _ tasks | ended _ _ tasks | answers _ _ tasks | answered _ _ tasks =>
      rw [htasks] at tasks
      cases tasks

theorem Linked.idle_of_not_works (h : Linked c q) (hworks : ∀ e, ¬c.Works e) :
    q.running = none ∧ q.waiting = [] ∧ c.microtasks = [] := by
  have htasks : c.microtasks = [] := Classical.not_not.1 (hworks .react)
  cases h.front with
  | idle running waiting tasks => exact ⟨running, waiting, tasks⟩
  | @adopted running isRunning =>
      have hopened : c.opened = [running] := by rw [h.opened, isRunning]; rfl
      exact absurd (by simp [Works, running?, hopened]) (hworks (.proceed running.ticket))
  | ready _ _ tasks | begun _ tasks | ended _ _ tasks | answers _ _ tasks | answered _ _ tasks =>
      rw [tasks] at htasks
      cases htasks

end SecretAccess.Chain
