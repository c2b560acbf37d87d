import SecretAccess.Access.Query
import SecretAccess.Access.Rows
import SecretAccess.Proofs.Access.Sorted

namespace SecretAccess

def givenTexts (names : List String) : List Given :=
  names.map fun name => some (.text name)

theorem isText_givenTexts (names : List String) : ∀ given ∈ givenTexts names, given.IsText := by
  intro given hgiven
  obtain ⟨name, _, rfl⟩ := List.mem_map.1 hgiven
  exact ⟨name, rfl⟩

theorem givenText_injective : Function.Injective fun name : String => (some (.text name) : Given) :=
  fun _ _ h => Document.text.inj (Option.some.inj h)

def sortedNames (names : List String) : List String :=
  Text.sortBy (fun name => name) names.eraseDups

theorem mem_sortedNames {names : List String} {name : String} : name ∈ sortedNames names ↔ name ∈ names := by
  rw [sortedNames, (Text.sortBy_perm _ _).mem_iff, List.mem_eraseDups]

theorem sortedNames_ascending (names : List String) :
    (sortedNames names).Pairwise fun a b => Text.compareUnits a b = .lt := by
  apply Text.sortBy_ascending
  rw [List.map_id']
  exact Order.nodup_eraseDups names

-- the two units of the second name are both below the one unit of the first
example : sortedNames ["\ufb01", "😀", "\ufb01"] = ["😀", "\ufb01"] := by cbv

theorem sortedNames_eq_iff {names others : List String} :
    sortedNames names = sortedNames others ↔ ∀ name, name ∈ names ↔ name ∈ others := by
  constructor
  · intro h name
    rw [← mem_sortedNames, h, mem_sortedNames]
  · intro h
    apply Text.eq_of_asymm (fun _ _ => Std.OrientedCmp.not_lt_of_lt) (sortedNames_ascending names)
      (sortedNames_ascending others)
    intro name
    rw [mem_sortedNames, mem_sortedNames, h]

theorem ascending_givenTexts (names : List String) : ascending (givenTexts names) = givenTexts (sortedNames names) := by
  rw [ascending, givenTexts, Order.eraseDups_map givenText_injective]
  refine (List.map_mergeSort fun a _ b _ => ?_).symm
  rfl

/-- A view of one secret, which lists the names that it is given as a set. -/
structure Canonical {α : Type} (secret : α) (view : List String → Except Failure (Sanitized α)) : Prop where
  listed : ∀ names, ∃ sorted, view names = .ok ⟨secret, givenTexts sorted⟩ ∧ (∀ name, name ∈ sorted ↔ name ∈ names) ∧
    (sorted.Pairwise fun a b => Text.compareUnits a b = .lt) ∧ view sorted = view names
  same : ∀ names others, view names = view others ↔ ∀ name, name ∈ names ↔ name ∈ others

theorem sanitize_canonical {α : Type} (secret : α) :
    Canonical secret fun names => sanitize secret (givenTexts names) := by
  have hview (names : List String) :
      sanitize secret (givenTexts names) = .ok ⟨secret, givenTexts (sortedNames names)⟩ := by
    rw [sanitize_of_texts secret (isText_givenTexts names), ascending_givenTexts]
  have hsame (names others : List String) : sanitize secret (givenTexts names) = sanitize secret (givenTexts others) ↔
      ∀ name, name ∈ names ↔ name ∈ others := by
    rw [hview, hview, ← sortedNames_eq_iff]
    constructor
    · intro h
      have hgroups : givenTexts (sortedNames names) = givenTexts (sortedNames others) :=
        congrArg Sanitized.groups (Except.ok.inj h)
      exact List.map_injective_iff.2 givenText_injective hgroups
    · intro h
      rw [h]
  refine ⟨fun names => ?_, hsame⟩
  exact ⟨sortedNames names, hview names, fun name => mem_sortedNames, sortedNames_ascending names,
    (hsame _ _).2 fun name => mem_sortedNames⟩

namespace Rows

def named (name : String) (rest : List (String × Document)) : Given :=
  some (.fields (("name", .text name) :: rest))

theorem compareByName_named (s t : String) (rest rest' : List (String × Document)) :
    compareByName (named s rest) (named t rest') = .ok (Text.compareUnits s t) :=
  compareNames_text s t

theorem sanitized_texts {secret : Given} {shown : List (String × Document)} (h : view secret = .ok shown)
    (names : List String) :
    sanitized secret (some (.list (names.map .text))) = sanitize shown (givenTexts names) := by
  have helements : Given.elements (some (.list (names.map .text))) = .ok (givenTexts names) := by
    rw [Given.elements, List.map_map]
    rfl
  rw [sanitized, h, helements]
  rfl

end Rows

/-- What is shown of a secret depends on no more than which names of groups are given with it, and these stand in
the order in which rows with such names are compared. -/
theorem canonical_groups :
    (∀ secret : Secret, Canonical secret.copy fun names => ReachedSecret.sanitized ⟨secret, givenTexts names⟩) ∧
    (∀ entries : List (String × Document), ∃ shown, Rows.view (some (.fields entries)) = .ok shown ∧
      Canonical shown fun names => Rows.sanitized (some (.fields entries)) (some (.list (names.map .text)))) ∧
    ∀ (s t : String) (rest rest' : List (String × Document)),
      Rows.compareByName (Rows.named s rest) (Rows.named t rest') = .ok (Text.compareUnits s t) := by
  refine ⟨fun secret => sanitize_canonical secret.copy, fun entries => ?_, Rows.compareByName_named⟩
  obtain ⟨shown, hshown⟩ : ∃ shown, Rows.view (some (.fields entries)) = .ok shown := ⟨_, rfl⟩
  refine ⟨shown, hshown, ?_⟩
  have hviews : (fun names : List String => Rows.sanitized (some (.fields entries)) (some (.list (names.map .text)))) =
      fun names => sanitize shown (givenTexts names) :=
    funext (Rows.sanitized_texts hshown)
  rw [hviews]
  exact sanitize_canonical shown

end SecretAccess
