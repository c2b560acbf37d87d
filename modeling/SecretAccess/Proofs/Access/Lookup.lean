import SecretAccess.Proofs.Access.Listing

namespace SecretAccess

theorem Given.sameAs_text_right (name : Given) (text : String) :
    name.sameAs (some (.text text)) = decide (name = some (.text text)) := by
  by_cases hname : name = some (.text text)
  · subst hname
    simp
  · simp [sameAs, hname]

theorem toList_head?_of_below {α : Type} {name : α → Given} {rows : List α} {shared : Given}
    (h : rows.Pairwise fun a b => (name a).Below (name b)) (hname : ∀ row ∈ rows, name row = shared) :
    rows = rows.head?.toList := by
  match rows with
  | [] => rfl
  | [_] => rfl
  | row :: next :: _ =>
      have hbelow : (name row).Below (name next) := List.rel_of_pairwise_cons h List.mem_cons_self
      rw [hname row List.mem_cons_self, hname next (List.mem_cons_of_mem _ List.mem_cons_self)] at hbelow
      exact absurd hbelow (Given.Below.irrefl shared)

def Secret.wanted (secret : Secret) (name : Given) : Bool :=
  name.isNone || secret.name.sameAs name

@[simp] theorem Secret.wanted_text (secret : Secret) (name : String) :
    secret.wanted (some (.text name)) = decide (secret.name = some (.text name)) := by
  rw [wanted, Given.sameAs_text_right, Option.isNone_some, Bool.false_or]

namespace Store

variable {s : Store}

theorem secretPaths_eq (s : Store) (client name : Given) :
    s.secretPaths client (.ok name) = .ok (s.wantedPaths client (·.wanted name)) := rfl

theorem WellFormed.getByName?_eq (h : s.WellFormed) {kind : EntityKind} {row : Entity kind} {name : String}
    (hrow : row ∈ (s.entities kind).values) (hname : row.name = some (.text name)) :
    s.getByName? kind (some (.text name)) = some row := by
  have hsame : row.name.sameAs (some (.text name)) = true := by
    rw [Given.sameAs_text_right, hname, decide_eq_true rfl]
  cases hfound : s.getByName? kind (some (.text name)) with
  | none => exact absurd hsame (List.find?_eq_none.1 hfound row hrow)
  | some twin =>
      have htwin : twin.name = some (.text name) := by
        have hpasses := List.find?_some hfound
        rwa [Given.sameAs_text_right, decide_eq_true_iff] at hpasses
      rw [h.eq_of_name (List.mem_of_find?_eq_some hfound) hrow (htwin.trans hname.symm)]

section

variable {client : Given} {test : Secret → Bool} {reached : List ReachedSecret}

theorem Collapsed.isEmpty_eq (h : s.Collapsed client test reached) (hs : s.WellFormed) :
    (s.wantedPaths client test).isEmpty = reached.isEmpty := by
  rw [Bool.eq_iff_iff, List.isEmpty_iff, List.isEmpty_iff, List.eq_nil_iff_forall_not_mem,
    List.eq_nil_iff_forall_not_mem]
  constructor
  · intro hnone r hr
    obtain ⟨group, hleads⟩ := h.leads r hr
    exact hnone ⟨r.secret, group.id, group.name⟩
      (hs.mem_wantedPaths.2 ⟨h.passes r hr, group, hleads, rfl, rfl⟩)
  · intro hnone path hpath
    obtain ⟨hpasses, _, hleads, _⟩ := hs.mem_wantedPaths.1 hpath
    obtain ⟨r, hr, _⟩ := h.all hleads hpasses
    exact hnone r hr

theorem Collapsed.sanitized_head? (h : s.Collapsed client test reached) (hs : s.WellFormed) :
    reached.head?.mapM ReachedSecret.sanitized = .ok (reached.map ReachedSecret.listed).head? :=
  head?_mapM_eq_ok_map fun _ hr => h.sanitized hs hr

end

end Store

namespace Session

variable {s : Session} {client : Given} {entries : List SanitizedSecret}

theorem answers_lookup (hs : s.store.WellFormed) (h : s.store.Listing client entries) (journaled : Bool)
    {name : Given} {found : Option SanitizedSecret} (hfound : entries.find? (·.secret.wanted name) = found) :
    s.Answers journaled (.sanitizedFor client name) found (missed client name found.isNone) ∧
      s.Answers journaled (.secretFor client name) (found.map (·.secret)) (missed client name found.isNone) := by
  obtain ⟨reached, hreached, hcollapsed, hascend⟩ := hs.exists_collapsed client (·.wanted name)
  have hpaths := s.store.secretPaths_eq client name
  have hhead : (reached.map ReachedSecret.listed).head? = found := by
    rw [← h.filter_eq hs hcollapsed hascend, List.head?_filter, hfound]
  have hmissing : (s.store.wantedPaths client (·.wanted name)).isEmpty = found.isNone := by
    rw [hcollapsed.isEmpty_eq hs, ← hhead]
    cases reached <;> rfl
  have hsecret : reached.head?.map (·.secret) = found.map (·.secret) := by
    rw [← hhead]
    cases reached <;> rfl
  rw [← hmissing, ← hsecret]
  exact ⟨answers_sanitizedFor hpaths hreached (hhead ▸ hcollapsed.sanitized_head? hs),
    answers_secretFor hpaths hreached⟩

end Session

/-- What a client that looks for a name gets: the entry of its listing with this name, or the secret that is
stored under it. When it gets nothing, its question is logged. -/
structure Session.LooksUp (s : Session) (journaled : Bool) (client : Given) (name : String)
    (entries : List SanitizedSecret) (found : Option SanitizedSecret) (series : Option Secret) : Prop where
  reaches : s.store.Listing client entries
  lists : s.Answers journaled (.sanitizedForClient client) entries []
  sanitized : s.Answers journaled (.sanitizedFor client name) found (missed client name found.isNone)
  secret : s.Answers journaled (.secretFor client name) series (missed client name series.isNone)
  listed : (entries.filter fun entry => entry.secret.name = some (.text name)) = found.toList
  absent : series = none ↔ found = none
  stored : series ≠ none → s.run journaled (.request (.getByName .secret name)) = (.ok series, s)

theorem Session.exists_looksUp {s : Session} (hs : s.store.WellFormed) (journaled : Bool) (client : Given)
    (name : String) : ∃ entries found series, s.LooksUp journaled client name entries found series := by
  obtain ⟨entries, hentries, hlisting⟩ := answers_listing hs journaled client
  have hone : (entries.filter fun entry => entry.secret.name = some (.text name)) =
      (entries.find? (·.secret.wanted name)).toList := by
    simp only [Secret.wanted_text, ← List.head?_filter]
    apply toList_head?_of_below (hlisting.ascend.filter _)
    intro entry hentry
    exact of_decide_eq_true (List.mem_filter.1 hentry).2
  cases hfound : entries.find? (·.secret.wanted name) with
  | none =>
      obtain ⟨hsanitized, hsecret⟩ := answers_lookup hs hlisting journaled hfound
      exact ⟨entries, none, none, hlisting, hentries, hsanitized, hsecret, hfound ▸ hone, by simp,
        fun hne => absurd rfl hne⟩
  | some entry =>
      obtain ⟨hsanitized, hsecret⟩ := answers_lookup hs hlisting journaled hfound
      have hname := List.find?_some hfound
      rw [Secret.wanted_text, decide_eq_true_iff] at hname
      obtain ⟨_, hleads⟩ := hlisting.reached entry (List.mem_of_find?_eq_some hfound)
      have hrow := hs.getByName?_eq hleads.storedSecret hname
      exact ⟨entries, some entry, some entry.secret, hlisting, hentries, hsanitized, hsecret, hfound ▸ hone, by simp,
        fun _ => ask_apply s journaled rfl (congrArg Except.ok hrow)⟩

namespace Queue

/-- After every serial run each client can look up what it is listed, under every name. -/
theorem lookup_of_serially (now : Instant) (quiet : Bool) (events : List Event)
    (h : (make now quiet).Serially events) (journaled : Bool) (client : Given) (name : String) :
    ∃ entries found series,
      ((make now quiet).run events).session.LooksUp journaled client name entries found series :=
  Session.exists_looksUp (sound_run (make_sound now quiet) h).rows journaled client name

theorem lookup_of_serially_twoGroups : (make 0 false).Serially twoGroups ∧
    ∃ entries found series,
      ((make 0 false).run twoGroups).session.LooksUp false (some "c") "token" entries found series :=
  ⟨by decide, lookup_of_serially 0 false twoGroups (by decide) false (some "c") "token"⟩

end Queue

end SecretAccess
