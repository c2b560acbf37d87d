import SecretAccess.Proofs.Transaction.Chain

namespace SecretAccess.Chain

variable {c : Chain} {q : Queue} {n : Nat} {waiting : List Waiting} {job : Job}

theorem hang_of_pending {p : Promise} {reactions : List Reaction} (h : c.promises p = .pending reactions)
    (reaction : Reaction) : c.hang p reaction = c.setPromise p (.pending (reactions ++ [reaction])) := by
  rw [hang, h]

theorem hang_of_settled {p : Promise} {outcome : Settlement} (h : c.promises p = .settled outcome)
    (reaction : Reaction) : c.hang p reaction = c.enqueue [.react reaction outcome] := by
  rw [hang, h]

theorem settle_of_pending {p : Promise} {reactions : List Reaction} (h : c.promises p = .pending reactions)
    (outcome : Settlement) : c.settle p outcome =
      (c.setPromise p (.settled outcome)).enqueue (reactions.map fun reaction => .react reaction outcome) := by
  rw [settle, h]

theorem call_of_pending {m : Nat} (htail : c.tail = .tail m) (hpending : c.promises (.tail m) = .pending [])
    (hunmade : c.Unmade c.called) (job : Job) : c.call job =
      { (c.setPromise (.tail m) (.pending [.starts ⟨c.called, job⟩])).setPromise (.result c.called)
          (.pending [.swallows c.called]) with tail := .tail c.called, called := c.called + 1 } := by
  have hresult :
      (c.setPromise (.tail m) (.pending [.starts ⟨c.called, job⟩])).promises (.result c.called) = .pending [] :=
    hunmade.result
  rw [call, htail, hang_of_pending hpending, List.nil_append, hang_of_pending hresult]
  rfl

theorem call_of_settled {outcome : Settlement} (htail : c.promises c.tail = .settled outcome)
    (hunmade : c.Unmade c.called) (job : Job) : c.call job =
      { (c.enqueue [.react (.starts ⟨c.called, job⟩) outcome]).setPromise (.result c.called)
          (.pending [.swallows c.called]) with tail := .tail c.called, called := c.called + 1 } := by
  have hresult : (c.enqueue [.react (.starts ⟨c.called, job⟩) outcome]).promises (.result c.called) = .pending [] :=
    hunmade.result
  rw [call, hang_of_settled htail, hang_of_pending hresult]
  rfl

theorem Hangs.exists_tail (h : c.Hangs n waiting) : ∃ m, c.tail = .tail m ∧ c.promises (.tail m) = .pending [] ∧
    (m = n ∨ ∃ next ∈ waiting, next.ticket = m) := by
  induction waiting generalizing n with
  | nil => exact ⟨n, h.1, h.2, .inl rfl⟩
  | cons next others ih =>
      obtain ⟨m, htail, hpending, hm⟩ := ih h.2.2
      refine ⟨m, htail, hpending, .inr ?_⟩
      rcases hm with rfl | ⟨later, hlater, rfl⟩
      · exact ⟨next, List.mem_cons_self, rfl⟩
      · exact ⟨later, List.mem_cons_of_mem _ hlater, rfl⟩

theorem Hangs.congr {c' : Chain} (h : c.Hangs n waiting) (hascend : (n :: waiting.map (·.ticket)).Pairwise (· < ·))
    (htail : c'.tail = c.tail) (htails : ∀ m, n ≤ m → c'.promises (.tail m) = c.promises (.tail m))
    (hresults : ∀ m, n < m → c'.promises (.result m) = c.promises (.result m)) : c'.Hangs n waiting := by
  induction waiting generalizing n with
  | nil => exact ⟨htail.trans h.1, (htails n (Nat.le_refl n)).trans h.2⟩
  | cons next others ih =>
      obtain ⟨hlater, hrest⟩ := List.pairwise_cons.1 hascend
      have hlt : n < next.ticket := hlater _ List.mem_cons_self
      refine ⟨(htails n (Nat.le_refl n)).trans h.1, (hresults _ hlt).trans h.2.1, ?_⟩
      exact ih h.2.2 hrest (fun m hm => htails m (by omega)) fun m hm => hresults m (by omega)

theorem Hangs.call (h : c.Hangs n waiting) (hn : n < c.called) (hbelow : ∀ next ∈ waiting, next.ticket < c.called)
    (hunmade : c.Unmade c.called) (job : Job) : (c.call job).Hangs n (waiting ++ [⟨c.called, job⟩]) := by
  obtain ⟨m, htail, hpending, -⟩ := h.exists_tail
  have hcall := call_of_pending htail hpending hunmade job
  have htails (k : Nat) : (c.call job).promises (.tail k) =
      if k = m then .pending [.starts ⟨c.called, job⟩] else c.promises (.tail k) := by
    rw [hcall]
    by_cases hk : k = m <;> simp [setPromise, hk]
  have hresults (k : Nat) : (c.call job).promises (.result k) =
      if k = c.called then .pending [.swallows c.called] else c.promises (.result k) := by
    rw [hcall]
    by_cases hk : k = c.called <;> simp [setPromise, hk]
  induction waiting generalizing n with
  | nil =>
      obtain rfl : m = n := Promise.tail.inj (htail.symm.trans h.1)
      refine ⟨by rw [htails, if_pos rfl], by rw [hresults, if_pos rfl], ?_, ?_⟩
      · rw [hcall]
      · rw [htails, if_neg (Nat.ne_of_gt hn)]
        exact hunmade.tail
  | cons next others ih =>
      -- a promise on which something hangs is not the last one
      have hne : n ≠ m := by
        rintro rfl
        rw [h.1] at hpending
        cases hpending
      have hnext : next.ticket < c.called := hbelow next List.mem_cons_self
      refine ⟨by rw [htails, if_neg hne, h.1], by rw [hresults, if_neg (Nat.ne_of_lt hnext), h.2.1], ?_⟩
      exact ih h.2.2 hnext fun later hlater => hbelow later (List.mem_cons_of_mem _ hlater)

theorem promises_call {m : Nat} (htail : c.tail = .tail m) (hpending : c.promises (.tail m) = .pending [])
    (hunmade : c.Unmade c.called) (job : Job) {p : Promise} (hm : p ≠ .tail m) (hresult : p ≠ .result c.called) :
    (c.call job).promises p = c.promises p := by
  rw [call_of_pending htail hpending hunmade]
  simp [setPromise, hm, hresult]

theorem Follows.call (h : c.Follows n waiting) (hn : n < c.called) (hbelow : ∀ next ∈ waiting, next.ticket < c.called)
    (hunmade : c.Unmade c.called) (job : Job) : (c.call job).Follows n (waiting ++ [⟨c.called, job⟩]) := by
  refine ⟨?_, h.2.call hn hbelow hunmade job⟩
  obtain ⟨m, htail, hpending, -⟩ := h.2.exists_tail
  have htails : Promise.result n ≠ .tail m := nofun
  have hresult : Promise.result n ≠ .result c.called := fun heq => Nat.ne_of_lt hn (Promise.result.inj heq)
  rw [promises_call htail hpending hunmade job htails hresult, h.1]

theorem settled_hang (c : Chain) (p : Promise) (reaction : Reaction) (other : Promise) (outcome : Settlement) :
    (c.hang p reaction).promises other = .settled outcome ↔ c.promises other = .settled outcome := by
  unfold hang
  split
  · rename_i hp
    by_cases heq : other = p
    · subst heq
      simp [setPromise, hp]
    · simp [setPromise, heq]
  · rfl

theorem settled_call (c : Chain) (job : Job) (p : Promise) (outcome : Settlement) :
    (c.call job).promises p = .settled outcome ↔ c.promises p = .settled outcome :=
  (settled_hang _ _ _ p outcome).trans (settled_hang _ _ _ p outcome)

theorem call_eq (c : Chain) (job : Job) : ∃ promises tasks, c.call job =
    { c with promises := promises, microtasks := tasks, tail := .tail c.called, called := c.called + 1 } := by
  have hhang (c : Chain) (p : Promise) (r : Reaction) :
      ∃ promises tasks, c.hang p r = { c with promises := promises, microtasks := tasks } := by
    unfold hang
    split
    · exact ⟨_, _, rfl⟩
    · exact ⟨_, _, rfl⟩
  obtain ⟨_, _, hfirst⟩ := hhang c c.tail (.starts ⟨c.called, job⟩)
  obtain ⟨promises, tasks, hsecond⟩ :=
    hhang (c.hang c.tail (.starts ⟨c.called, job⟩)) (.result c.called) (.swallows c.called)
  refine ⟨promises, tasks, ?_⟩
  rw [call, hsecond, hfirst]

section

variable (h : Linked c q)

include h

theorem Linked.below : ∀ next ∈ q.waiting, next.ticket < c.called := by
  intro next hnext
  rw [h.called]
  exact h.ordered.below _ (List.mem_append_right _ (List.mem_map_of_mem hnext))

theorem Linked.ticket_lt {running : Running} (hrunning : q.running = some running) : running.ticket < c.called := by
  rw [h.called]
  exact h.ordered.below _ (by simp [Queue.tickets, hrunning])

theorem Linked.tail : q.running = none ∧ q.waiting = [] ∧ c.microtasks = [] ∧ c.promises c.tail = .settled (.ok none) ∨
    ∃ m, c.tail = .tail m ∧ c.promises (.tail m) = .pending [] ∧ m < c.called := by
  have hlast {n : Nat} (hn : n < c.called) {waiting : List Waiting}
      (hwaiting : ∀ next ∈ waiting, next.ticket < c.called) (hhangs : c.Hangs n waiting) : ∃ m, c.tail = .tail m ∧ c.promises (.tail m) = .pending [] ∧ m < c.called := by
    obtain ⟨m, htail, hpending, hm⟩ := hhangs.exists_tail
    refine ⟨m, htail, hpending, ?_⟩
    rcases hm with rfl | ⟨next, hnext, rfl⟩
    · exact hn
    · exact hwaiting next hnext
  have hbelow := h.below
  cases h.front with
  | idle running waiting tasks tail => exact .inl ⟨running, waiting, tasks, tail⟩
  | ready _ waiting _ follows =>
      rw [waiting] at hbelow
      exact .inr (hlast (hbelow _ List.mem_cons_self) (fun later hlater => hbelow _ (List.mem_cons_of_mem _ hlater))
        follows.2)
  | begun isRunning _ _ follows | adopted isRunning _ _ follows =>
      exact .inr (hlast (h.ticket_lt isRunning) hbelow follows.2)
  | ended _ spent _ _ follows | answers _ spent _ follows =>
      exact .inr (hlast (h.called ▸ spent.called) hbelow follows.2)
  | answered _ spent _ hangs => exact .inr (hlast (h.called ▸ spent.called) hbelow hangs)

theorem Linked.front_call (job : Job) : Front (c.call job) (q.call job) := by
  have hunmade := h.unmade c.called (Nat.le_refl _)
  have hbelow := h.below
  have hwaiting : (q.call job).waiting = q.waiting ++ [⟨c.called, job⟩] := by rw [h.called]; rfl
  have hspent {n : Nat} (hspent : q.Spent n) : (q.call job).Spent n := hspent.after (.call job)
  rcases h.tail with ⟨running, waiting, tasks, tail⟩ | ⟨m, htail, hpending, _⟩
  · have hcall := call_of_settled tail hunmade job
    have hfollows : (c.call job).Follows c.called [] := by
      rw [hcall]
      exact ⟨if_pos rfl, rfl, hunmade.tail⟩
    have htasks : (c.call job).microtasks = [.react (.starts ⟨c.called, job⟩) (.ok none)] := by
      rw [hcall]
      simp [setPromise, enqueue, tasks]
    exact .ready running (hwaiting.trans (by rw [waiting]; rfl)) htasks hfollows
  · have htasks : (c.call job).microtasks = c.microtasks := by rw [call_of_pending htail hpending hunmade]; rfl
    have hcallback (n : Nat) : (c.call job).promises (.callback n) = c.promises (.callback n) :=
      promises_call htail hpending hunmade job nofun nofun
    cases h.front with
    | idle _ _ _ tail =>
        rw [htail, hpending] at tail
        cases tail
    | ready running waiting tasks follows =>
        rw [waiting] at hbelow hwaiting
        refine .ready running hwaiting (htasks.trans tasks) (follows.call (hbelow _ List.mem_cons_self) ?_ hunmade job)
        exact fun later hlater => hbelow _ (List.mem_cons_of_mem _ hlater)
    | begun isRunning tasks callback follows =>
        exact .begun isRunning (htasks.trans tasks) ((hcallback _).trans callback)
          (hwaiting ▸ follows.call (h.ticket_lt isRunning) hbelow hunmade job)
    | adopted isRunning tasks callback follows =>
        exact .adopted isRunning (htasks.trans tasks) ((hcallback _).trans callback)
          (hwaiting ▸ follows.call (h.ticket_lt isRunning) hbelow hunmade job)
    | ended running spent tasks callback follows =>
        exact .ended running (hspent spent) (htasks.trans tasks) ((hcallback _).trans callback)
          (hwaiting ▸ follows.call (h.called ▸ spent.called) hbelow hunmade job)
    | answers running spent tasks follows =>
        exact .answers running (hspent spent) (htasks.trans tasks)
          (hwaiting ▸ follows.call (h.called ▸ spent.called) hbelow hunmade job)
    | answered running spent tasks hangs =>
        exact .answered running (hspent spent) (htasks.trans tasks)
          (hwaiting ▸ hangs.call (h.called ▸ spent.called) hbelow hunmade job)

theorem Linked.tells_call (job : Job) (n : Nat) (outcome : Settlement) :
    (c.call job).Tells n outcome ↔ c.Tells n outcome := by
  have hunmade := h.unmade c.called (Nat.le_refl _)
  rcases h.tail with ⟨_, _, tasks, tail⟩ | ⟨m, htail, hpending, _⟩
  · have htasks : (c.call job).microtasks = [.react (.starts ⟨c.called, job⟩) (.ok none)] := by
      rw [call_of_settled tail hunmade job]
      simp [setPromise, enqueue, tasks]
    simp [Tells, settled_call, htasks, tasks, Reaction.starts, Reaction.passes]
  · have htasks : (c.call job).microtasks = c.microtasks := by rw [call_of_pending htail hpending hunmade]; rfl
    rw [Tells, Tells, settled_call, settled_call, htasks]

theorem Linked.call (job : Job) : Linked (c.call job) (q.call job) := by
  have hunmade := h.unmade c.called (Nat.le_refl _)
  obtain ⟨promises, tasks, hcall⟩ := call_eq c job
  have hsame (p : Promise) (htails : ∀ m, m < c.called → p ≠ .tail m) (hresult : p ≠ .result c.called) :
      (c.call job).promises p = c.promises p := by
    rcases h.tail with ⟨_, _, _, tail⟩ | ⟨m, htail, hpending, hm⟩
    · rw [call_of_settled tail hunmade job]
      exact if_neg hresult
    · exact promises_call htail hpending hunmade job (htails m hm) hresult
  have hcallback (n : Nat) : (c.call job).promises (.callback n) = c.promises (.callback n) :=
    hsame (.callback n) (fun _ _ => nofun) nofun
  constructor
  case front => exact h.front_call job
  case ordered => exact h.ordered.after (.call job)
  case unmade =>
    intro n hn
    have hlt : c.called < n := by rwa [hcall] at hn
    obtain ⟨hresult, htail, hmade⟩ := h.unmade n (Nat.le_of_lt hlt)
    constructor
    · exact (hsame (.result n) (fun _ _ => nofun) (by simp [Nat.ne_of_gt hlt])).trans hresult
    · refine (hsame (.tail n) (fun m hm heq => ?_) nofun).trans htail
      cases heq
      exact Nat.lt_asymm hm hlt
    · exact (hcallback n).trans hmade
  case unbegun =>
    intro next hnext
    rw [hcallback]
    rcases List.mem_append.1 hnext with hnext | hnext
    · exact h.unbegun next hnext
    · rw [List.mem_singleton.1 hnext, ← h.called]
      exact hunmade.callback
  case idle => exact h.idle
  case unrejected => exact fun n outcome hsettled => h.unrejected n outcome ((c.settled_call job _ _).1 hsettled)
  case tells => exact fun n outcome => (h.tells_call job n outcome).trans (h.tells n outcome)
  all_goals rw [hcall]
  case store => exact h.store
  case clock => exact h.clock
  case quiet => exact h.quiet
  case opened => exact h.opened
  case journal => exact h.journal
  case called => exact congrArg (· + 1) h.called
  case begun => exact h.begun
  case kept => exact h.kept

theorem Linked.calls (jobs : List Job) : Linked (jobs.foldl Chain.call c) (jobs.foldl Queue.call q) := by
  induction jobs generalizing c q with
  | nil => exact h
  | cons job jobs ih => exact ih (h.call job)

end

theorem Hangs.of_eq {c' : Chain} (h : c.Hangs n waiting) (htail : c'.tail = c.tail)
    (hpromises : c'.promises = c.promises) : c'.Hangs n waiting := by
  induction waiting generalizing n with
  | nil => exact ⟨htail.trans h.1, hpromises ▸ h.2⟩
  | cons next others ih => exact ⟨hpromises ▸ h.1, hpromises ▸ h.2.1, ih h.2.2⟩

theorem Front.of_eq {c' : Chain} {q' : Queue} (h : Front c q) (htail : c'.tail = c.tail)
    (hpromises : c'.promises = c.promises) (htasks : c'.microtasks = c.microtasks)
    (hticket : q'.running.map (·.ticket) = q.running.map (·.ticket)) (hwaiting : q'.waiting = q.waiting)
    (hcalled : q'.called = q.called) : Front c' q' := by
  have hfollows {n : Nat} {waiting : List Waiting} (hf : c.Follows n waiting) : c'.Follows n waiting :=
    ⟨hpromises ▸ hf.1, hf.2.of_eq htail hpromises⟩
  have hnone (hq : q.running = none) : q'.running = none := by
    rwa [hq, Option.map_none, Option.map_eq_none_iff] at hticket
  have hsome {running : Running} (hq : q.running = some running) :
      ∃ running', q'.running = some running' ∧ running'.ticket = running.ticket := by
    rw [hq] at hticket
    exact Option.map_eq_some_iff.1 hticket
  have hspent {n : Nat} (hs : q.Spent n) : q'.Spent n := by
    have htickets : q'.tickets = q.tickets := by rw [Queue.tickets, Queue.tickets, hticket, hwaiting]
    exact ⟨hcalled ▸ hs.called, htickets ▸ hs.passed⟩
  cases h with
  | idle running waiting tasks tail =>
      exact .idle (hnone running) (hwaiting.trans waiting) (htasks.trans tasks) (by rw [htail, hpromises, tail])
  | ready running waiting tasks follows =>
      exact .ready (hnone running) (hwaiting.trans waiting) (htasks.trans tasks) (hfollows follows)
  | begun isRunning tasks callback follows =>
      obtain ⟨running', hrunning', heq⟩ := hsome isRunning
      refine .begun hrunning' ?_ ?_ (hwaiting ▸ heq ▸ hfollows follows)
      · rw [htasks, tasks, heq]
      · rw [hpromises, heq, callback]
  | adopted isRunning tasks callback follows =>
      obtain ⟨running', hrunning', heq⟩ := hsome isRunning
      refine .adopted hrunning' (htasks.trans tasks) ?_ (hwaiting ▸ heq ▸ hfollows follows)
      rw [hpromises, heq, callback]
  | ended running spent tasks callback follows =>
      exact .ended (hnone running) (hspent spent) (htasks.trans tasks) (by rw [hpromises, callback])
        (hwaiting ▸ hfollows follows)
  | answers running spent tasks follows =>
      exact .answers (hnone running) (hspent spent) (htasks.trans tasks) (hwaiting ▸ hfollows follows)
  | answered running spent tasks hangs =>
      exact .answered (hnone running) (hspent spent) (htasks.trans tasks) (hwaiting ▸ hangs.of_eq htail hpromises)

theorem Linked.session (h : Linked c q) {journals : Nat → List Undo} {s u : Session} (hbeside : s.Beside u)
    (hjournal : ∀ running ∈ q.running, journals running.ticket = u.journal)
    (hidle : q.running = none → u.journal = []) :
    Linked { c.holding s with journals := journals } { q with session := u } where
  store := hbeside.store
  clock := hbeside.clock
  quiet := hbeside.quiet
  opened := h.opened
  journal := hjournal
  idle := hidle
  called := h.called
  begun := h.begun
  kept := h.kept
  unmade n hn := ⟨(h.unmade n hn).result, (h.unmade n hn).tail, (h.unmade n hn).callback⟩
  unbegun := h.unbegun
  ordered := ⟨h.ordered.ascending, h.ordered.below⟩
  unrejected := h.unrejected
  tells := h.tells
  front := h.front.of_eq rfl rfl rfl rfl rfl rfl

theorem spawn_eq (c : Chain) (step : Step) : c.spawn step = step.spawned.foldl Chain.call c := by
  cases step <;> rfl

theorem take_eq (q : Queue) (step : Step) : q.take step =
    (⟨(q.session.take (q.owns step) step).1, (q.session.take (q.owns step) step).2.log,
        (q.session.take (q.owns step) step).2.store.sizes⟩,
      step.spawned.foldl Queue.call { q with session := (q.session.take (q.owns step) step).2 }) := by
  cases step <;> rfl

/-- A step comes to the same in both, if it is journaled in both or in neither of them. -/
theorem Linked.take (h : Linked c q) {own : Option Nat} {step step' : Step} (hstep : step' = step ∨ step' = step.apart)
    (howns : ∀ running ∈ q.running, q.owns step' = true ↔ c.context own step = some running.ticket) :
    (c.take own step).1 = (q.take step').1 ∧ Linked (c.take own step).2 (q.take step').2 := by
  have hsame (s : Session) (journaled : Bool) : s.take journaled step' = s.take journaled step := by
    rcases hstep with rfl | rfl
    · rfl
    · exact s.take_apart journaled step
  have hspawned : step'.spawned = step.spawned := by
    rcases hstep with rfl | rfl
    · rfl
    · cases step with
      | call scope => cases scope <;> rfl
      | clock | clear | dump | spawn => rfl
  have hapart (howned : q.owns step' = false) :
      (q.session.take (q.owns step') step').2.journal = q.session.journal := by
    rw [howned]
    exact q.session.journal_take step'
  have hidle (hrunning : q.running = none) : (q.session.take (q.owns step') step').2.journal = [] := by
    cases howned : q.owns step' with
    | false => exact (howned ▸ hapart howned).trans (h.idle hrunning)
    | true =>
        have hsome := Queue.isSome_running_of_owns howned
        rw [hrunning] at hsome
        cases hsome
  have hboth (journal : List Undo) (journaled : Bool) :
      ((c.sight journal).take journaled step).1 = (q.session.take (q.owns step') step').1 ∧
        ((c.sight journal).take journaled step).2.Beside (q.session.take (q.owns step') step').2 := by
    rw [hsame]
    exact Session.take_beside h.store h.clock h.quiet _ _ _
  have hother {running : Running} (hrunning : q.running = some running)
      (hne : c.context own step ≠ some running.ticket) :
      c.journals running.ticket = (q.session.take (q.owns step') step').2.journal := by
    rw [hapart (Bool.eq_false_iff.2 fun howned => hne ((howns running hrunning).1 howned)), h.journal running hrunning]
  rw [take_eq q, hspawned, Chain.take]
  cases hcontext : c.context own step with
  | none =>
      obtain ⟨houtcome, hbeside⟩ := hboth [] false
      refine ⟨by simp only [houtcome, hbeside.log, hbeside.store], ?_⟩
      simp only [spawn_eq]
      refine Linked.calls (h.session hbeside (fun running hrunning => hother hrunning ?_) hidle) _
      rw [hcontext]
      nofun
  | some ticket =>
      obtain ⟨houtcome, hbeside⟩ := hboth (c.journals ticket) true
      refine ⟨by simp only [houtcome, hbeside.log, hbeside.store], ?_⟩
      simp only [spawn_eq]
      refine Linked.calls (h.session hbeside (fun running hrunning => ?_) hidle) _
      by_cases hticket : running.ticket = ticket
      · -- the context of the one that runs: both journals begin alike and grow alike
        have howned : q.owns step' = true := (howns running hrunning).2 (by rw [hcontext, hticket])
        have hstart : { q.session with log := [] } = c.sight (c.journals ticket) := by
          rw [sight, ← hticket, h.journal running hrunning, h.store, h.clock, h.quiet]
        have hreset (s : Session) (journaled : Bool) :
            Session.take { s with log := [] } journaled step = s.take journaled step := by cases step <;> rfl
        rw [if_pos hticket, howned, hsame, ← hreset q.session, hstart]
      · rw [if_neg hticket]
        exact hother hrunning (by simp [hcontext, Ne.symm hticket])

theorem Linked.owns_iff (h : Linked c q) {running : Running} (hrunning : q.running = some running) (step : Step) :
    q.owns step = true ↔ c.context (some running.ticket) step = some running.ticket := by
  cases step with
  | call scope call =>
      cases scope with
      | current => simp [Queue.owns, Queue.journaled, context, hrunning]
      | autocommit => simp [Queue.owns, Queue.journaled, context]
      | kept name =>
          rw [context, h.kept]
          cases hname : q.kept.lookup name <;> simp [Queue.owns, Queue.journaled, hname, hrunning]
  | clock | clear | dump | spawn => simp [Queue.owns, context]

theorem Linked.owns_apart_iff (h : Linked c q) {running : Running} (hrunning : q.running = some running) (step : Step) :
    q.owns step.apart = true ↔ c.context none step = some running.ticket := by
  cases step with
  | call scope call =>
      cases scope with
      | current | autocommit => simp [Step.apart, Queue.owns, Queue.journaled, context]
      | kept name => exact h.owns_iff hrunning (.call (.kept name) call)
  | clock | clear | dump | spawn => simp [Step.apart, Queue.owns, context]

theorem Linked.took (h : Linked c q) {running running' : Running} (hrunning : q.running = some running)
    (hticket : running'.ticket = running.ticket) :
    Linked { c with opened := [running'] } { q with running := some running' } where
  store := h.store
  clock := h.clock
  quiet := h.quiet
  opened := rfl
  journal := by
    rintro _ ⟨⟩
    rw [hticket]
    exact h.journal running hrunning
  idle := nofun
  called := h.called
  begun := h.begun
  kept := h.kept
  unmade n hn := ⟨(h.unmade n hn).result, (h.unmade n hn).tail, (h.unmade n hn).callback⟩
  unbegun := h.unbegun
  ordered := by
    have htickets : Queue.tickets { q with running := some running' } = q.tickets := by
      simp [Queue.tickets, hrunning, hticket]
    exact ⟨htickets ▸ h.ordered.ascending, htickets ▸ h.ordered.below⟩
  unrejected := h.unrejected
  tells := h.tells
  front := h.front.of_eq rfl rfl rfl (by simp [hrunning, hticket]) rfl rfl

theorem Linked.advance (h : Linked c q) {running : Running} (hrunning : q.running = some running) (step : Step)
    (rest : List Step) : (c.take (some running.ticket) step).1 = (q.take step).1 ∧
      Linked (c.advance running step rest) (q.advance running step rest) := by
  have howns : ∀ other ∈ q.running, q.owns step = true ↔ c.context (some running.ticket) step = some other.ticket := by
    intro other hother
    cases Option.some.inj (hrunning.symm.trans hother)
    exact h.owns_iff hrunning step
  obtain ⟨hrecord, hlinked⟩ := h.take (.inl rfl) howns
  have hrunning' : (q.take step).2.running = some running := (Queue.running_take q step).trans hrunning
  have hopened : (c.take (some running.ticket) step).2.opened = [running] := by
    rw [hlinked.opened, hrunning']
    rfl
  refine ⟨hrecord, ?_⟩
  have htook := hlinked.took hrunning' (Queue.ticket_took running (q.take step).1 rest)
  have hadvance : c.advance running step rest = { (c.take (some running.ticket) step).2 with
      opened := (c.take (some running.ticket) step).2.opened.map fun r =>
        if r.ticket = running.ticket then r.took (c.take (some running.ticket) step).1 rest else r } := rfl
  rw [hopened, hrecord, List.map_singleton, if_pos rfl] at hadvance
  rw [hadvance]
  exact htook

theorem Linked.before (h : Linked c q) {running : Running} (hrunning : q.running = some running) :
    ∀ next ∈ q.waiting, running.ticket < next.ticket := by
  have hascend := h.ordered.ascending
  rw [Queue.tickets, hrunning, Option.map_some, Option.toList_some, List.singleton_append, List.pairwise_cons] at hascend
  exact fun next hnext => hascend.1 _ (List.mem_map_of_mem hnext)

theorem Linked.ascending (h : Linked c q) (hbefore : ∀ next ∈ q.waiting, n < next.ticket) :
    (n :: q.waiting.map (·.ticket)).Pairwise (· < ·) := by
  refine List.pairwise_cons.2 ⟨?_, (List.pairwise_append.1 h.ordered.ascending).2.1⟩
  intro m hm
  obtain ⟨next, hnext, rfl⟩ := List.mem_map.1 hm
  exact hbefore next hnext

theorem Linked.platform (h : Linked c q) (hn : n < c.called) (hbefore : ∀ next ∈ q.waiting, n < next.ticket)
    {promises : Promise → PromiseState} {tasks : List Microtask}
    (hpromises : ∀ p, promises p = c.promises p ∨ p = .result n ∨ p = .tail n ∨ p = .callback n)
    (htail : ∀ outcome, promises (.tail n) = .settled outcome → outcome = .ok none)
    (htells : ∀ m outcome, Tells { c with promises := promises, microtasks := tasks } m outcome ↔ c.Tells m outcome)
    (hfront : Front { c with promises := promises, microtasks := tasks } q) :
    Linked { c with promises := promises, microtasks := tasks } q where
  store := h.store
  clock := h.clock
  quiet := h.quiet
  opened := h.opened
  journal := h.journal
  idle := h.idle
  called := h.called
  begun := h.begun
  kept := h.kept
  unmade m hm := by
    have hne : m ≠ n := Nat.ne_of_gt (Nat.lt_of_lt_of_le hn hm)
    obtain ⟨hresult, htail, hcallback⟩ := h.unmade m hm
    constructor
    · exact ((hpromises (.result m)).resolve_right (by simp [hne])).trans hresult
    · exact ((hpromises (.tail m)).resolve_right (by simp [hne])).trans htail
    · exact ((hpromises (.callback m)).resolve_right (by simp [hne])).trans hcallback
  unbegun next hnext := by
    have hne : next.ticket ≠ n := Nat.ne_of_gt (hbefore next hnext)
    exact ((hpromises (.callback next.ticket)).resolve_right (by simp [hne])).trans (h.unbegun next hnext)
  ordered := h.ordered
  unrejected m outcome hsettled := by
    by_cases hm : m = n
    · exact htail outcome (hm ▸ hsettled)
    · exact h.unrejected m outcome (((hpromises (.tail m)).resolve_right (by simp [hm])).symm.trans hsettled)
  tells m outcome := (htells m outcome).trans (h.tells m outcome)
  front := hfront

theorem Linked.close (h : Linked c q) {running : Running} (hrunning : q.running = some running)
    {promises : Promise → PromiseState} {tasks : List Microtask}
    (hpromises : ∀ p, promises p = c.promises p ∨ p = .callback running.ticket)
    (htells : ∀ n outcome, Tells { c.close running with promises := promises, microtasks := tasks } n outcome ↔
      c.Tells n outcome ∨ running.ticket = n ∧ running.told.outcome = outcome)
    (hfront : Front { c.close running with promises := promises, microtasks := tasks } (q.settle running)) :
    Linked { c.close running with promises := promises, microtasks := tasks } (q.settle running) where
  store := by
    rw [Queue.store_settle, Chain.close, h.journal running hrunning, h.store]
    cases running.told.outcome <;> rfl
  clock := h.clock
  quiet := h.quiet
  opened := by
    have hopened : c.opened = [running] := by rw [h.opened, hrunning]; rfl
    simp [Chain.close, hopened, Queue.settle]
  journal _ hmem := (Option.not_mem_none _ hmem).elim
  idle _ := rfl
  called := h.called
  begun := h.begun
  kept := h.kept
  unmade n hn := by
    have hne : n ≠ running.ticket := Nat.ne_of_gt (Nat.lt_of_lt_of_le (h.ticket_lt hrunning) hn)
    obtain ⟨hresult, htail, hcallback⟩ := h.unmade n hn
    constructor
    · exact ((hpromises (.result n)).resolve_right (by simp)).trans hresult
    · exact ((hpromises (.tail n)).resolve_right (by simp)).trans htail
    · exact ((hpromises (.callback n)).resolve_right (by simp [hne])).trans hcallback
  unbegun next hnext := by
    have hne : next.ticket ≠ running.ticket := Nat.ne_of_gt (h.before hrunning next hnext)
    exact ((hpromises (.callback next.ticket)).resolve_right (by simp [hne])).trans (h.unbegun next hnext)
  ordered := by
    have htickets := Queue.tickets_settle hrunning
    have hascend := h.ordered.ascending
    rw [htickets, List.pairwise_cons] at hascend
    exact ⟨hascend.2, fun n hn => h.ordered.below n (htickets ▸ List.mem_cons_of_mem _ hn)⟩
  unrejected n outcome hsettled :=
    h.unrejected n outcome (((hpromises (.tail n)).resolve_right (by simp)).symm.trans hsettled)
  tells n outcome := by
    rw [htells, h.tells, Queue.settle]
    simp [or_and_right, exists_or, Running.told]
  front := hfront

theorem Linked.finish (h : Linked c q) {running : Running} (hrunning : q.running = some running) :
    Linked (c.finish running) (q.settle running) := by
  have hspent : (q.settle running).Spent running.ticket := h.ordered.spent_settle hrunning
  have hpromises (p : Promise) :
      ((c.close running).setPromise (.callback running.ticket) (.settled running.told.outcome)).promises p =
        c.promises p ∨ p = .callback running.ticket :=
    (em (p = .callback running.ticket)).symm.imp_left fun hne => if_neg hne
  have hfollows (hf : c.Follows running.ticket q.waiting) (tasks : List Microtask) :
      Follows { (c.close running).setPromise (.callback running.ticket) (.settled running.told.outcome) with
        microtasks := tasks } running.ticket q.waiting :=
    ⟨hf.1, hf.2.congr (h.ascending (h.before hrunning)) rfl (fun _ _ => rfl) fun _ _ => rfl⟩
  cases h.front with
  | idle none | ready none | ended none | answers none | answered none =>
      rw [hrunning] at none
      cases none
  | begun isRunning tasks callback follows =>
      cases Option.some.inj (hrunning.symm.trans isRunning)
      have hcallback : (c.close running).promises (.callback running.ticket) = _ := callback
      rw [Chain.finish, settle_of_pending hcallback]
      refine h.close hrunning hpromises (fun n outcome => ?_) (.ended rfl hspent ?_ (if_pos rfl) (hfollows follows _))
      · by_cases hn : n = running.ticket
        · subst hn
          simp [Tells, Chain.close, setPromise, tasks, callback]
        · simp [Tells, Chain.close, setPromise, tasks, Ne.symm hn]
      · exact (List.append_nil _).trans tasks
  | adopted isRunning tasks callback follows =>
      cases Option.some.inj (hrunning.symm.trans isRunning)
      have hcallback : (c.close running).promises (.callback running.ticket) = _ := callback
      rw [Chain.finish, settle_of_pending hcallback]
      have htasks : c.microtasks ++ [.react (.passes (.result running.ticket)) running.told.outcome] =
          [.react (.passes (.result running.ticket)) running.told.outcome] := by rw [tasks]; rfl
      refine h.close hrunning hpromises (fun n outcome => ?_) (.answers rfl hspent htasks (hfollows follows _))
      simp [Tells, Chain.close, setPromise, tasks, Reaction.passes]

end SecretAccess.Chain
