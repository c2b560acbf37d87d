import SecretAccess.Proofs.Transaction.Call

namespace SecretAccess

theorem SessionM.bind_eq_of_ok {α β : Type} {x : SessionM α} {s s' : Session} {a : α} (h : x s = (.ok a, s'))
    (f : α → SessionM β) : (x >>= f) s = f a s' := by
  rw [bind_apply, h]

namespace Session

def noting (s : Session) (entries : List LogEntry) : Session :=
  if s.quiet then s else { s with log := s.log ++ entries }

/-- A query succeeds with this answer and logs these entries. Nothing else is changed. -/
def Answers (s : Session) (journaled : Bool) (query : AccessQuery) (answer : query.Answer)
    (entries : List LogEntry) : Prop :=
  s.run journaled (.query query) = (.ok answer, s.noting entries)

@[simp] theorem noting_nil (s : Session) : s.noting [] = s := by
  simp [noting]

theorem record_apply (s : Session) (journaled : Bool) (entry : LogEntry) :
    (gateway journaled).record entry s = (.ok (), s.noting [entry]) := rfl

theorem ask_apply (s : Session) (journaled : Bool) {request : Request} (h : request.writes = false)
    {rows : request.Answer} (hrows : (s.store.answer s.clock request).answer = .ok rows) :
    (gateway journaled).ask request s = (.ok rows, s) := by
  obtain ⟨hstore, hundo⟩ := s.store.answer_of_not_writes h s.clock
  simp [gateway, hstore, hundo, hrows]

theorem ask_bind_ofExcept {α : Type} (s : Session) (journaled : Bool) {request : Request} (h : request.writes = false)
    {rows : request.Answer} (hrows : (s.store.answer s.clock request).answer = .ok rows)
    (reduce : request.Answer → Except Failure α) :
    ((gateway journaled).ask request >>= fun rows => ofExcept (reduce rows) : SessionM α) s = (reduce rows, s) := by
  rw [SessionM.bind_eq_of_ok (ask_apply s journaled h hrows)]
  exact ofExcept_apply (reduce rows) s

variable {s : Session} {journaled : Bool}

theorem answers_groupsForSecret {secret : Given} {groups : List Group}
    (h : distinctByName (s.store.groupsOf .grant secret) = .ok groups) :
    s.Answers journaled (.groupsForSecret secret) groups [] := by
  rw [Answers, noting_nil, ← h]
  exact ask_bind_ofExcept s journaled rfl rfl _

theorem answers_groupsForClient {client : Given} {groups : List Group}
    (h : distinctByName (s.store.groupsOf .membership client) = .ok groups) :
    s.Answers journaled (.groupsForClient client) groups [] := by
  rw [Answers, noting_nil, ← h]
  exact ask_bind_ofExcept s journaled rfl rfl _

theorem answers_clientsForSecret {secret : Given} {clients : List Client}
    (h : distinctByName (s.store.clientsForSecret secret) = .ok clients) :
    s.Answers journaled (.clientsForSecret secret) clients [] := by
  rw [Answers, noting_nil, ← h]
  exact ask_bind_ofExcept s journaled rfl rfl _

theorem answers_sanitizedForClient {client : Given} {reached : List ReachedSecret} {entries : List SanitizedSecret}
    (hreached : collapsePaths (s.store.pathsFrom client) = .ok reached)
    (hentries : reached.mapM ReachedSecret.sanitized = .ok entries) :
    s.Answers journaled (.sanitizedForClient client) entries [] := by
  have hpaths : (s.store.answer s.clock (.secretPaths client (.ok none))).answer = .ok (s.store.pathsFrom client) := by
    simp [Store.answer, Outcome.unchanged, Store.secretPaths]
  have hcollapse : (ofExcept (collapsePaths (s.store.pathsFrom client)) : SessionM (List ReachedSecret)) s =
      (.ok reached, s) := by
    rw [hreached]
    rfl
  rw [Answers, noting_nil, ← hentries]
  change ((do
    let reached ← ofExcept (collapsePaths (← (gateway journaled).ask (.secretPaths client (.ok none))))
    ofExcept (reached.mapM ReachedSecret.sanitized) : SessionM (List SanitizedSecret)) s) = _
  rw [SessionM.bind_eq_of_ok (ask_apply s journaled rfl hpaths), SessionM.bind_eq_of_ok hcollapse]
  exact ofExcept_apply _ _

def missed (client name : Given) (missing : Bool) : List LogEntry :=
  if missing then [noPathEntry client name] else []

theorem authorized_apply (s : Session) (journaled : Bool) {client name : Given} {paths : List SecretPath}
    (hpaths : s.store.secretPaths client (.ok name) = .ok paths) :
    authorized (gateway journaled) client name s = (collapsePaths paths, s.noting (missed client name paths.isEmpty)) := by
  have hask : (s.store.answer s.clock (.secretPaths client (.ok name))).answer = .ok paths := hpaths
  rw [authorized, SessionM.bind_eq_of_ok (ask_apply s journaled rfl hask), missed]
  cases paths.isEmpty with
  | true =>
      rw [if_pos rfl, if_pos rfl, SessionM.bind_eq_of_ok (record_apply s journaled _)]
      exact ofExcept_apply _ _
  | false =>
      rw [if_neg Bool.false_ne_true, if_neg Bool.false_ne_true, noting_nil]
      exact ofExcept_apply _ _

theorem answers_secretFor {client name : Given} {paths : List SecretPath} {reached : List ReachedSecret}
    (hpaths : s.store.secretPaths client (.ok name) = .ok paths) (hreached : collapsePaths paths = .ok reached) :
    s.Answers journaled (.secretFor client name) (reached.head?.map (·.secret)) (missed client name paths.isEmpty) := by
  have hauthorized := authorized_apply s journaled hpaths
  rw [hreached] at hauthorized
  exact SessionM.bind_eq_of_ok hauthorized _

theorem answers_sanitizedFor {client name : Given} {paths : List SecretPath} {reached : List ReachedSecret}
    {found : Option SanitizedSecret} (hpaths : s.store.secretPaths client (.ok name) = .ok paths)
    (hreached : collapsePaths paths = .ok reached) (hfound : reached.head?.mapM ReachedSecret.sanitized = .ok found) :
    s.Answers journaled (.sanitizedFor client name) found (missed client name paths.isEmpty) := by
  have hauthorized := authorized_apply s journaled hpaths
  rw [hreached] at hauthorized
  refine (SessionM.bind_eq_of_ok hauthorized _).trans ?_
  rw [hfound]
  rfl

end Session

end SecretAccess
