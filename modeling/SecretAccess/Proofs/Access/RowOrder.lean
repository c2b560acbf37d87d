import SecretAccess.Proofs.Access.View
import SecretAccess.Proofs.Store.Same
import SecretAccess.Proofs.Transaction.Restored

namespace SecretAccess

theorem Distinguished.exists_distinct_of_perm {kind : EntityKind} {rows others : List (Entity kind)}
    (h : Distinguished rows) (hperm : rows.Perm others) :
    ∃ listed, distinctByName rows = .ok listed ∧ distinctByName others = .ok listed := by
  obtain ⟨listed, hlisted, hmem, hascend⟩ := h.exists_distinct
  obtain ⟨listed', hlisted', hmem', hascend'⟩ := (h.subset hperm.symm.subset).exists_distinct
  have hsame : listed = listed' := by
    apply eq_of_below hascend hascend'
    intro row
    rw [hmem, hmem', hperm.mem_iff]
  exact ⟨listed, hlisted, hsame ▸ hlisted'⟩

structure DistinguishedPaths (paths : List SecretPath) : Prop where
  secrets : Distinguished (paths.map (·.secret))
  groups : ∀ path ∈ paths, path.groupId.IsText ∧ path.groupName.IsText
  agree : GroupsAgree paths

structure ListedOn (paths : List SecretPath) (entry : SanitizedSecret) : Prop where
  leads : ∃ path ∈ paths, path.secret = entry.secret
  names : ∀ name, name ∈ entry.groups ↔ ∃ path ∈ paths, path.secret = entry.secret ∧ path.groupName = name
  ascend : entry.groups.Pairwise Given.Below

section

variable {paths others : List SecretPath}

theorem ListedOn.eq_of_secret {entry twin : SanitizedSecret} (h : ListedOn paths entry) (htwin : ListedOn paths twin)
    (hsecret : entry.secret = twin.secret) : entry = twin := by
  apply Sanitized.eq_of_ascend hsecret h.ascend htwin.ascend
  intro name
  rw [h.names, htwin.names, hsecret]

theorem listedOn_of_perm (hperm : paths.Perm others) {entry : SanitizedSecret} :
    ListedOn paths entry ↔ ListedOn others entry := by
  have hmem (path : SecretPath) : path ∈ paths ↔ path ∈ others := hperm.mem_iff
  constructor <;> rintro ⟨hleads, hnames, hascend⟩ <;> constructor <;>
    first | simpa only [hmem] using hleads | simpa only [hmem] using hnames | exact hascend

theorem DistinguishedPaths.perm (h : DistinguishedPaths paths) (hperm : paths.Perm others) :
    DistinguishedPaths others where
  secrets := h.secrets.subset (hperm.map _).symm.subset
  groups path hpath := h.groups path (hperm.mem_iff.2 hpath)
  agree := h.agree.subset hperm.symm.subset

theorem DistinguishedPaths.exists_collapsed (h : DistinguishedPaths paths) :
    ∃ reached, collapsePaths paths = .ok reached ∧ (∀ r ∈ reached, ∀ name ∈ r.groupNames, name.IsText) ∧
      (∀ entry, entry ∈ reached.map ReachedSecret.listed ↔ ListedOn paths entry) ∧
      (reached.map ReachedSecret.listed).Pairwise fun a b => a.secret.name.Below b.secret.name := by
  have hsecret {path : SecretPath} (hpath : path ∈ paths) : path.secret ∈ paths.map (·.secret) :=
    List.mem_map_of_mem hpath
  have htext : ∀ path ∈ paths, path.Textual (·.id) :=
    fun path hpath => ⟨(h.secrets.texts _ (hsecret hpath)).1, (h.groups path hpath).1⟩
  obtain ⟨honce, hall, heach⟩ := gather_of_textual htext h.agree
  have hfrom : ∀ r ∈ gather (·.id) paths, r.secret ∈ paths.map (·.secret) :=
    fun r hr => List.mem_map.2 (heach r hr).1
  have hnames := h.secrets.nodup_names hfrom honce
  obtain ⟨reached, hsorted, hperm, hascend⟩ :=
    sortByName_of_texts (fun r hr => (h.secrets.texts _ (hfrom r hr)).2) hnames
  have htexts : ∀ r ∈ reached, ∀ name ∈ r.groupNames, name.IsText := by
    intro r hr name hname
    obtain ⟨path, hpath, _, rfl⟩ := ((heach r (hperm.mem_iff.1 hr)).2 name).1 hname
    exact (h.groups path hpath).2
  have hlisted : ∀ r ∈ reached, ListedOn paths (ReachedSecret.listed r) := by
    intro r hr
    have hr' := hperm.mem_iff.1 hr
    refine ⟨(heach r hr').1, fun name => ?_, ascending_below (htexts r hr)⟩
    refine mem_ascending.trans (((heach r hr').2 name).trans ?_)
    constructor
    · rintro ⟨path, hpath, hid, hname⟩
      exact ⟨path, hpath, h.secrets.ids _ (hsecret hpath) _ (hfrom r hr') hid, hname⟩
    · rintro ⟨path, hpath, hsame, hname⟩
      exact ⟨path, hpath, congrArg Entity.id hsame, hname⟩
  refine ⟨reached, hsorted, htexts, fun entry => ⟨fun hentry => ?_, fun hentry => ?_⟩, List.pairwise_map.2 hascend⟩
  · obtain ⟨r, hr, rfl⟩ := List.mem_map.1 hentry
    exact hlisted r hr
  · obtain ⟨path, hpath, hled⟩ := hentry.leads
    obtain ⟨r, hr, hid⟩ := hall path hpath
    have hr' := hperm.mem_iff.2 hr
    have hsame : r.secret = entry.secret := (h.secrets.ids _ (hfrom r hr) _ (hsecret hpath) hid).trans hled
    exact List.mem_map.2 ⟨r, hr', (hlisted r hr').eq_of_secret hentry hsame⟩

def ReachedSecret.shown (reached : ReachedSecret) : SanitizedSecret :=
  ⟨reached.secret.copy, ascending reached.groupNames⟩

theorem ReachedSecret.sanitized_eq {reached : ReachedSecret} (h : ∀ name ∈ reached.groupNames, name.IsText) :
    reached.sanitized = .ok reached.shown :=
  sanitize_of_texts _ h

theorem DistinguishedPaths.collapse_of_perm (h : DistinguishedPaths paths) (hperm : paths.Perm others) :
    ∃ reached reached', collapsePaths paths = .ok reached ∧ collapsePaths others = .ok reached' ∧
      (∀ r ∈ reached, r.sanitized = .ok r.shown) ∧ (∀ r ∈ reached', r.sanitized = .ok r.shown) ∧
      reached.map (·.secret) = reached'.map (·.secret) ∧
      reached.map ReachedSecret.shown = reached'.map ReachedSecret.shown := by
  obtain ⟨reached, hreached, htexts, hmem, hascend⟩ := h.exists_collapsed
  obtain ⟨reached', hreached', htexts', hmem', hascend'⟩ := (h.perm hperm).exists_collapsed
  have hlisted : reached.map ReachedSecret.listed = reached'.map ReachedSecret.listed := by
    apply eq_of_below hascend hascend'
    intro entry
    rw [hmem, hmem', listedOn_of_perm hperm]
  refine ⟨reached, reached', hreached, hreached', fun r hr => ReachedSecret.sanitized_eq (htexts r hr),
    fun r hr => ReachedSecret.sanitized_eq (htexts' r hr), ?_, ?_⟩
  · have hsecrets := congrArg (List.map (·.secret)) hlisted
    rwa [List.map_map, List.map_map] at hsecrets
  · have hshown := congrArg (List.map fun entry => (⟨entry.secret.copy, entry.groups⟩ : SanitizedSecret)) hlisted
    rwa [List.map_map, List.map_map] at hshown

end

namespace AccessQuery

def request : AccessQuery → Request
  | groupsForSecret secret => .groupsOf .grant secret
  | groupsForClient client => .groupsOf .membership client
  | clientsForGroup group => .endpointsOf .membership group
  | clientsForSecret secret => .clientsForSecret secret
  | sanitizedForGroup group => .endpointsOf .grant group
  | sanitizedForClient client => .secretPaths client (.ok none)
  | secretFor client name => .secretPaths client (.ok name)
  | sanitizedFor client name => .secretPaths client (.ok name)

def reduce : (query : AccessQuery) → query.request.Answer → Except Failure query.Answer
  | groupsForSecret _, rows => distinctByName rows
  | groupsForClient _, rows => distinctByName rows
  | clientsForGroup _, rows => distinctByName rows
  | clientsForSecret _, rows => distinctByName rows
  | sanitizedForGroup _, rows => do (← distinctByName rows).mapM fun secret => sanitize secret.copy []
  | sanitizedForClient _, paths => do (← collapsePaths paths).mapM ReachedSecret.sanitized
  | secretFor .., paths => do return (← collapsePaths paths).head?.map (·.secret)
  | sanitizedFor .., paths => do (← collapsePaths paths).head?.mapM ReachedSecret.sanitized

def noted : (query : AccessQuery) → query.request.Answer → List LogEntry
  | secretFor client name, paths => Session.missed client name (List.isEmpty paths)
  | sanitizedFor client name, paths => Session.missed client name (List.isEmpty paths)
  | _, _ => []

def RowsDistinguished : (query : AccessQuery) → query.request.Answer → Prop
  | groupsForSecret _, rows => Distinguished rows
  | groupsForClient _, rows => Distinguished rows
  | clientsForGroup _, rows => Distinguished rows
  | clientsForSecret _, rows => Distinguished rows
  | sanitizedForGroup _, rows => Distinguished rows
  | sanitizedForClient _, paths => DistinguishedPaths paths
  | secretFor .., paths => DistinguishedPaths paths
  | sanitizedFor .., paths => DistinguishedPaths paths

variable {query : AccessQuery} {rows others : query.request.Answer}

theorem noted_of_sameRows (hsame : query.request.SameRows rows others) : query.noted rows = query.noted others := by
  cases query with
  | secretFor client name | sanitizedFor client name =>
      exact congrArg (Session.missed client name) (List.Perm.isEmpty_eq hsame)
  | groupsForSecret | groupsForClient | clientsForGroup | clientsForSecret | sanitizedForGroup | sanitizedForClient => rfl

theorem reduce_of_sameRows (h : query.RowsDistinguished rows) (hsame : query.request.SameRows rows others) :
    ∃ answer, query.reduce rows = .ok answer ∧ query.reduce others = .ok answer := by
  cases query with
  | groupsForSecret | groupsForClient | clientsForGroup | clientsForSecret =>
      exact Distinguished.exists_distinct_of_perm h hsame
  | sanitizedForGroup group =>
      obtain ⟨listed, hrows, hothers⟩ := Distinguished.exists_distinct_of_perm h hsame
      let shown (secret : Secret) : SanitizedSecret := ⟨secret.copy, ascending []⟩
      have hshown : listed.mapM (fun secret : Secret => sanitize secret.copy []) = .ok (listed.map shown) :=
        mapM_eq_ok_map fun secret _ => sanitize_of_texts _ (by simp)
      refine ⟨listed.map shown, ?_, ?_⟩
      · simp only [reduce, hrows]
        exact hshown
      · simp only [reduce, hothers]
        exact hshown
  | sanitizedForClient client =>
      obtain ⟨reached, reached', hrows, hothers, hshown, hshown', _, hsame⟩ :=
        DistinguishedPaths.collapse_of_perm h hsame
      refine ⟨reached.map ReachedSecret.shown, ?_, ?_⟩
      · simp only [reduce, hrows]
        exact mapM_eq_ok_map hshown
      · simp only [reduce, hothers]
        rw [hsame]
        exact mapM_eq_ok_map hshown'
  | secretFor client name =>
      obtain ⟨reached, reached', hrows, hothers, _, _, hsame, _⟩ := DistinguishedPaths.collapse_of_perm h hsame
      refine ⟨reached.head?.map (·.secret), ?_, ?_⟩
      · simp only [reduce, hrows]
        rfl
      · rw [← List.head?_map, hsame, List.head?_map]
        simp only [reduce, hothers]
        rfl
  | sanitizedFor client name =>
      obtain ⟨reached, reached', hrows, hothers, hshown, hshown', _, hsame⟩ :=
        DistinguishedPaths.collapse_of_perm h hsame
      refine ⟨(reached.map ReachedSecret.shown).head?, ?_, ?_⟩
      · simp only [reduce, hrows]
        exact head?_mapM_eq_ok_map hshown
      · simp only [reduce, hothers]
        rw [hsame]
        exact head?_mapM_eq_ok_map hshown'

end AccessQuery

section

variable {m : Type → Type} [Monad m] [LawfulMonad m] [MonadExcept Failure m]

theorem exists_of_bind_eq_ok {α β : Type} {x : Except Failure α} {f : α → Except Failure β} {b : β}
    (h : x >>= f = .ok b) : ∃ a, x = .ok a ∧ f a = .ok b := by
  cases x with
  | error failure => cases h
  | ok a => exact ⟨a, rfl, h⟩

theorem authorized_eq (gateway : Gateway m) (client name : Given) :
    authorized gateway client name = (do
      let paths ← gateway.ask (.secretPaths client (.ok name))
      forM (Session.missed client name paths.isEmpty) gateway.record
      ofExcept (collapsePaths paths)) := by
  rw [authorized]
  congr
  funext paths
  cases paths.isEmpty <;> simp [Session.missed]

theorem exists_rest (gateway : Gateway m) (query : AccessQuery) :
    ∃ rest, runQuery gateway query = gateway.ask query.request >>= rest ∧
      ∀ {rows answer}, query.reduce rows = .ok answer →
        rest rows = do forM (query.noted rows) gateway.record; return answer := by
  cases query with
  | groupsForSecret | groupsForClient | clientsForGroup | clientsForSecret =>
      refine ⟨_, rfl, fun {rows answer} hreduce => ?_⟩
      have hlisted : distinctByName rows = .ok answer := hreduce
      simp [AccessQuery.noted, hlisted, ofExcept]
  | sanitizedForGroup =>
      refine ⟨_, rfl, fun {rows answer} hreduce => ?_⟩
      obtain ⟨listed, hlisted, hshown⟩ := exists_of_bind_eq_ok hreduce
      simp [AccessQuery.noted, hlisted, hshown, ofExcept]
  | sanitizedForClient =>
      refine ⟨_, rfl, fun {rows answer} hreduce => ?_⟩
      obtain ⟨reached, hreached, hshown⟩ := exists_of_bind_eq_ok hreduce
      simp [AccessQuery.noted, hreached, hshown, ofExcept]
  | secretFor client name =>
      simp only [runQuery, authorized_eq, bind_assoc]
      refine ⟨_, rfl, fun {rows answer} hreduce => ?_⟩
      obtain ⟨reached, hreached, hfound⟩ := exists_of_bind_eq_ok hreduce
      cases hfound
      simp [AccessQuery.noted, hreached, ofExcept]
  | sanitizedFor client name =>
      simp only [runQuery, authorized_eq, bind_assoc]
      refine ⟨_, rfl, fun {rows answer} hreduce => ?_⟩
      obtain ⟨reached, hreached, hfound⟩ := exists_of_bind_eq_ok hreduce
      simp [AccessQuery.noted, hreached, hfound, ofExcept]

/-- Two gateways that log in one place and give the rows for a query in two orders, rows that texts tell apart. -/
structure Reordered (query : AccessQuery) (gateway other : Gateway m) {β : Type} (reply : m β)
    (rows others : β → query.request.Answer) : Prop where
  record : other.record = gateway.record
  asks : gateway.ask query.request = rows <$> reply
  othersAsk : other.ask query.request = others <$> reply
  distinguished : ∀ b, query.RowsDistinguished (rows b)
  same : ∀ b, query.request.SameRows (rows b) (others b)

theorem Reordered.exists_answer {query : AccessQuery} {gateway other : Gateway m} {β : Type} {reply : m β}
    {rows others : β → query.request.Answer} (h : Reordered query gateway other reply rows others) :
    ∃ answer : β → query.Answer,
      runQuery gateway query = (do
        let b ← reply
        forM (query.noted (rows b)) gateway.record
        return answer b) ∧
      runQuery other query = runQuery gateway query := by
  choose answer hrows hothers using fun b => AccessQuery.reduce_of_sameRows (h.distinguished b) (h.same b)
  obtain ⟨rest, hrun, hrest⟩ := exists_rest gateway query
  obtain ⟨rest', hrun', hrest'⟩ := exists_rest other query
  have hanswers : runQuery gateway query = (do
      let b ← reply
      forM (query.noted (rows b)) gateway.record
      return answer b) := by
    rw [hrun, h.asks, bind_map_left]
    exact congrArg _ (funext fun b => hrest (hrows b))
  refine ⟨answer, hanswers, ?_⟩
  rw [hanswers, hrun', h.othersAsk, bind_map_left]
  refine congrArg _ (funext fun b => ?_)
  rw [hrest' (hothers b), h.record, AccessQuery.noted_of_sameRows (h.same b)]

end

namespace Session

variable {s u : Session}

theorem forM_record_apply (s : Session) (journaled : Bool) (entries : List LogEntry) :
    (forM entries (gateway journaled).record : SessionM PUnit) s = (.ok ⟨⟩, s.noting entries) := by
  induction entries generalizing s with
  | nil =>
      rw [noting_nil]
      rfl
  | cons entry entries ih =>
      rw [List.forM_cons, SessionM.bind_eq_of_ok (record_apply s journaled entry), ih]
      cases hquiet : s.quiet <;> simp [noting, hquiet]

theorem answers_of_reduce {journaled : Bool} {query : AccessQuery} {rows : query.request.Answer} {answer : query.Answer}
    (hrows : (s.store.answer s.clock query.request).answer = .ok rows) (hanswer : query.reduce rows = .ok answer) :
    s.Answers journaled query answer (query.noted rows) := by
  obtain ⟨rest, hrun, hrest⟩ := exists_rest (gateway journaled) query
  have hreads : query.request.writes = false := by cases query <;> rfl
  rw [Answers, run, Call.run, hrun, SessionM.bind_eq_of_ok (ask_apply s journaled hreads hrows), hrest hanswer,
    SessionM.bind_eq_of_ok (forM_record_apply s journaled _)]
  rfl

theorem exists_rows (hs : s.store.WellFormed) (query : AccessQuery) :
    ∃ rows, (s.store.answer s.clock query.request).answer = .ok rows ∧ query.RowsDistinguished rows := by
  have hgroups (edge : EdgeKind) (endpoint : Given) : Distinguished (s.store.groupsOf edge endpoint) :=
    hs.distinguished fun _ hrow => (hs.mem_groupsOf.1 hrow).1
  have hendpoints (edge : EdgeKind) (group : Given) : Distinguished (s.store.endpointsOf edge group) :=
    hs.distinguished fun _ hrow => (hs.mem_endpointsOf.1 hrow).1
  have hpaths (client : Given) (test : SecretPath → Bool) :
      DistinguishedPaths ((s.store.pathsFrom client).filter test) := by
    have hleads {path : SecretPath} (hpath : path ∈ (s.store.pathsFrom client).filter test) :=
      hs.mem_pathsFrom.1 (List.mem_filter.1 hpath).1
    constructor
    · apply hs.distinguished
      intro secret hsecret
      obtain ⟨path, hpath, rfl⟩ := List.mem_map.1 hsecret
      obtain ⟨_, hled, _⟩ := hleads hpath
      exact hled.storedSecret
    · intro path hpath
      obtain ⟨group, hled, hid, hname⟩ := hleads hpath
      rw [hid, hname]
      exact hs.isText hled.storedGroup
    · intro path hpath other hother hgroup
      obtain ⟨group, hled, hid, hname⟩ := hleads hpath
      obtain ⟨twin, hled', hid', hname'⟩ := hleads hother
      rw [hid, hid'] at hgroup
      rw [hname, hname', hs.eq_of_id hled.storedGroup hled'.storedGroup hgroup]
  cases query with
  | groupsForSecret | groupsForClient => exact ⟨_, rfl, hgroups _ _⟩
  | clientsForGroup | sanitizedForGroup => exact ⟨_, rfl, hendpoints _ _⟩
  | clientsForSecret => exact ⟨_, rfl, hs.distinguished fun _ hrow => (hs.mem_clientsForSecret.1 hrow).1⟩
  | sanitizedForClient | secretFor | sanitizedFor => exact ⟨_, rfl, hpaths _ _⟩

theorem exists_sameRows (hs : s.store.WellFormed) (hsame : s.store.Same u.store) (query : AccessQuery) :
    ∃ rows others, (s.store.answer s.clock query.request).answer = .ok rows ∧
      (u.store.answer u.clock query.request).answer = .ok others ∧
      query.RowsDistinguished rows ∧ query.request.SameRows rows others := by
  obtain ⟨rows, hrows, hdistinguished⟩ := exists_rows hs query
  have htextual : query.request.Textual := by cases query <;> trivial
  have hdraws : query.request.draws = false := by cases query <;> rfl
  have hclock : (u.store.answer u.clock query.request).answer = (u.store.answer s.clock query.request).answer := by
    cases query <;> rfl
  obtain ⟨halike, _⟩ := hs.answer_alike hsame s.clock htextual fun h => by rw [hdraws] at h; cases h
  rw [hrows, ← hclock] at halike
  cases hothers : (u.store.answer u.clock query.request).answer with
  | error failure =>
      rw [hothers] at halike
      cases halike
  | ok others =>
      rw [hothers] at halike
      cases halike with
      | ok hsameRows => exact ⟨rows, others, hrows, rfl, hdistinguished, hsameRows⟩

theorem exists_answer_of_same (hs : s.store.WellFormed) (hsame : s.store.Same u.store) (query : AccessQuery) :
    ∃ answer entries, ∀ journaled, s.Answers journaled query answer entries ∧ u.Answers journaled query answer entries := by
  obtain ⟨rows, others, hrows, hothers, hdistinguished, hsameRows⟩ := exists_sameRows hs hsame query
  obtain ⟨answer, hanswer, hanswer'⟩ := AccessQuery.reduce_of_sameRows hdistinguished hsameRows
  refine ⟨answer, query.noted rows, fun journaled => ⟨answers_of_reduce hrows hanswer, ?_⟩⟩
  rw [AccessQuery.noted_of_sameRows hsameRows]
  exact answers_of_reduce hothers hanswer'

/-- Two sessions that no query, no name and no list of entities tells apart. -/
structure ReadAlike (s u : Session) (journaled : Bool) : Prop where
  queries : ∀ query, s.AnswerAlike u journaled query
  names : ∀ kind name, ∃ row, (s.run journaled (.request (.getByName kind name))).1 = .ok row ∧
    (u.run journaled (.request (.getByName kind name))).1 = .ok row
  lists : ∀ kind, ∃ rows, (s.run journaled (.request (.list kind))).1 = .ok rows ∧
    (u.run journaled (.request (.list kind))).1 = .ok rows

theorem readAlike_of_same (hs : s.store.WellFormed) (hsame : s.store.Same u.store) (journaled : Bool) :
    s.ReadAlike u journaled where
  queries query := by
    obtain ⟨answer, entries, hanswers⟩ := exists_answer_of_same hs hsame query
    exact ⟨answer, entries, hanswers journaled⟩
  names kind name := ⟨_, rfl, congrArg Except.ok (hs.getByName?_eq_of_same hsame kind name).symm⟩
  lists kind := by
    obtain ⟨rows, hrows, _⟩ := hs.exists_list kind
    exact ⟨rows, hrows, (hs.list_eq_of_same hsame kind).symm.trans hrows⟩

end Session

namespace Queue

theorem same_of_fails {q : Queue} (hq : q.InUse) {running : Running} (hbegins : q.Begins running) {events : List Event}
    (hopen : (q.after .move).StaysOpen events) (hexclusive : (q.after .move).Along Exclusive events)
    (hfails : ((q.after .move).run events).Fails) :
    q.session.store.Same (((q.after .move).run events).after .move).session.store := by
  have hsession := session_after_of_begins hbegins
  obtain ⟨undo, hjournal, hback⟩ := rollBack_run (by rw [hbegins.2]; rfl) hopen hexclusive
  rw [hsession, hq.idle hbegins.1, List.nil_append] at hjournal
  obtain ⟨_, _, _, hstore⟩ := after_move_of_fails hfails
  intro t key
  rw [hstore, Store.table_rollBack, hjournal, (hback t).1 key, hsession]

/-- The order of rows never shows. A query comes to the same answer, and logs the same, in whatever order it gets
rows that texts tell apart. So stores with the same rows are read alike, and what a transaction that was taken back
did to the order of the rows cannot be seen. -/
theorem order_hidden :
    (∀ (m : Type → Type) [Monad m] [LawfulMonad m] [MonadExcept Failure m] (query : AccessQuery)
        (gateway other : Gateway m) (β : Type) (reply : m β) (rows others : β → query.request.Answer),
      Reordered query gateway other reply rows others →
      ∃ answer : β → query.Answer,
        runQuery gateway query = (do
          let b ← reply
          forM (query.noted (rows b)) gateway.record
          return answer b) ∧
        runQuery other query = runQuery gateway query) ∧
    (∀ s u : Session, s.store.WellFormed → s.store.Same u.store → ∀ journaled, s.ReadAlike u journaled) ∧
    ∀ (q : Queue) (running : Running) (events : List Event), q.InUse → q.session.store.WellFormed → q.Begins running →
      (q.after .move).StaysOpen events → (q.after .move).Along Exclusive events →
      ((q.after .move).run events).Fails → ∀ journaled,
      q.session.ReadAlike (((q.after .move).run events).after .move).session journaled := by
  refine ⟨?_, ?_, ?_⟩
  · intro m _ _ _ query gateway other β reply rows others h
    exact h.exists_answer
  · intro s u hs hsame journaled
    exact Session.readAlike_of_same hs hsame journaled
  · intro q running events hq hs hbegins hopen hexclusive hfails journaled
    exact Session.readAlike_of_same hs (same_of_fails hq hbegins hopen hexclusive hfails) journaled

def takenOut : List Event :=
  twoGroups ++ [.call ⟨[.call .current (.mutate false .evictClient "c" "g")], ⟨some (.text "no"), false, none, none⟩⟩]

def rowsOf (s : Session) : Gateway (Except Failure) where
  ask request := (s.store.answer s.clock request).answer
  record _ := .ok ()

theorem order_hidden_takenOut :
    let q := (make 0 true).run takenOut
    let last := ((q.after .move).run [.move]).after .move
    let query := AccessQuery.sanitizedForClient (some "c")
    q.InUse ∧ q.session.store.WellFormed ∧ (q.after .move).StaysOpen [.move] ∧
      (q.after .move).Along Exclusive [.move] ∧ ((q.after .move).run [.move]).Fails ∧
      q.session.store.pathsFrom "c" ≠ last.session.store.pathsFrom "c" ∧
      (∃ rows others, Reordered query (rowsOf q.session) (rowsOf last.session) (pure ()) rows others ∧
        ∃ answer : Unit → query.Answer,
          runQuery (rowsOf q.session) query = (do
            let b ← pure ()
            forM (query.noted (rows b)) (rowsOf q.session).record
            return answer b) ∧
          runQuery (rowsOf last.session) query = runQuery (rowsOf q.session) query) ∧
      (q.session.store.Same last.session.store ∧ q.session.ReadAlike last.session true) ∧
      q.session.ReadAlike last.session false := by
  intro q last query
  have hq : q.InUse := ⟨.empty, 0, true, takenOut, rfl⟩
  have hs : q.session.store.WellFormed := (sound_run (make_sound 0 true) (by decide : Serially _ takenOut)).rows
  have hbegins : q.Begins ⟨0, 1, [.call .current (.mutate false .evictClient "c" "g")],
    ⟨some (.text "no"), false, none, none⟩, [], none⟩ := ⟨rfl, rfl⟩
  have hopen : (q.after .move).StaysOpen [.move] := by decide
  have hexclusive : (q.after .move).Along Exclusive [.move] := by decide
  have hfails : ((q.after .move).run [.move]).Fails := ⟨_, _, rfl, rfl, rfl⟩
  have hsame : q.session.store.Same last.session.store := same_of_fails hq hbegins hopen hexclusive hfails
  obtain ⟨rows, others, hrows, hothers, hdistinguished, hsameRows⟩ := Session.exists_sameRows hs hsame query
  have hreordered : Reordered query (rowsOf q.session) (rowsOf last.session) (pure ()) (fun _ => rows) fun _ => others :=
    ⟨rfl, hrows, hothers, fun _ => hdistinguished, fun _ => hsameRows⟩
  exact ⟨hq, hs, hopen, hexclusive, hfails, by decide,
    ⟨_, _, hreordered, order_hidden.1 _ query _ _ _ _ _ _ hreordered⟩,
    ⟨hsame, order_hidden.2.1 _ _ hs hsame true⟩,
    order_hidden.2.2 q _ [.move] hq hs hbegins hopen hexclusive hfails false⟩

end Queue

end SecretAccess
