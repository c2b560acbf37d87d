import SecretAccess.Access.Sanitized
import SecretAccess.Order.Names
import SecretAccess.Proofs.Order.Distinct
import SecretAccess.Proofs.Store.WellFormed
import SecretAccess.Proofs.Text.Order

namespace SecretAccess

def Given.Below (a b : Given) : Prop :=
  ∃ s t, a = some (.text s) ∧ b = some (.text t) ∧ Text.compareUnits s t = .lt

theorem Given.Below.asymm {a b : Given} (h : a.Below b) : ¬b.Below a := by
  obtain ⟨s, t, rfl, rfl, hst⟩ := h
  rintro ⟨t', s', ht, hs, hts⟩
  cases ht
  cases hs
  exact Std.OrientedCmp.not_lt_of_lt hst hts

theorem Given.Below.irrefl (a : Given) : ¬a.Below a :=
  fun h => h.asymm h

theorem isBefore_text (s t : String) :
    isBefore (some (.text s)) (some (.text t)) = .ok (Text.compareUnits s t).isLT := rfl

theorem compareNames_text (s t : String) :
    compareNames (some (.text s)) (some (.text t)) = .ok (Text.compareUnits s t) := by
  have hswap : Text.compareUnits t s = (Text.compareUnits s t).swap := Std.OrientedCmp.eq_swap
  rw [compareNames, isBefore_text, isBefore_text, hswap]
  cases Text.compareUnits s t <;> rfl

variable {α : Type}

theorem eq_of_below {name : α → Given} {rows others : List α}
    (h : rows.Pairwise fun a b => (name a).Below (name b))
    (h' : others.Pairwise fun a b => (name a).Below (name b)) (hmem : ∀ row, row ∈ rows ↔ row ∈ others) :
    rows = others :=
  Text.eq_of_asymm (fun _ _ => Given.Below.asymm) h h' hmem

section

variable {name : α → Given} {rows : List α}

theorem sortBy_stable_below {text : α → String} (hname : ∀ row ∈ rows, name row = some (.text (text row)))
    {before : α → α → Prop} (h : rows.Pairwise before) :
    (Text.sortBy text rows).Pairwise fun a b => (name a).Below (name b) ∨ name a = name b ∧ before a b := by
  have hperm := Text.sortBy_perm text rows
  apply (Text.sortBy_stable h).imp_of_mem
  intro a b ha hb hab
  have hnameA := hname a (hperm.mem_iff.1 ha)
  have hnameB := hname b (hperm.mem_iff.1 hb)
  rcases hab with hlt | ⟨htext, hbefore⟩
  · exact .inl ⟨text a, text b, hnameA, hnameB, hlt⟩
  · exact .inr ⟨by rw [hnameA, hnameB, htext], hbefore⟩

theorem below_of_ne {a b : α} (h : (name a).Below (name b) ∨ name a = name b ∧ name a ≠ name b) :
    (name a).Below (name b) :=
  h.resolve_right fun heq => heq.2 heq.1

theorem sortBy_below {text : α → String} (hname : ∀ row ∈ rows, name row = some (.text (text row)))
    (hdistinct : (rows.map name).Nodup) : (Text.sortBy text rows).Pairwise fun a b => (name a).Below (name b) :=
  (sortBy_stable_below hname (List.pairwise_map.1 hdistinct)).imp below_of_ne

variable (htext : ∀ row ∈ rows, (name row).IsText)

include htext

theorem all_nameText : rows.all fun row => (nameText? (fun row => .ok (name row)) row).isSome := by
  rw [List.all_eq_true]
  intro row hrow
  obtain ⟨s, hs⟩ := htext row hrow
  simp only [nameText?, hs, Given.text?, Option.isSome_some]

theorem exists_sortBy : ∃ text : α → String, (∀ row ∈ rows, name row = some (.text (text row))) ∧
    sortByName (fun row => .ok (name row)) rows = .ok (Text.sortBy text rows) := by
  refine ⟨_, fun row hrow => ?_, if_pos (all_nameText htext)⟩
  obtain ⟨s, hs⟩ := htext row hrow
  simp only [nameText?, hs, Given.text?, Option.getD_some]

theorem sortByName_stable {before : α → α → Prop} (h : rows.Pairwise before) :
    ∃ sorted, sortByName (fun row => .ok (name row)) rows = .ok sorted ∧ sorted.Perm rows ∧
      sorted.Pairwise fun a b => (name a).Below (name b) ∨ name a = name b ∧ before a b := by
  obtain ⟨text, hname, hsorted⟩ := exists_sortBy htext
  exact ⟨_, hsorted, Text.sortBy_perm text rows, sortBy_stable_below hname h⟩

theorem sortByName_of_texts (hdistinct : (rows.map name).Nodup) :
    ∃ sorted, sortByName (fun row => .ok (name row)) rows = .ok sorted ∧ sorted.Perm rows ∧
      sorted.Pairwise fun a b => (name a).Below (name b) := by
  obtain ⟨sorted, hsorted, hperm, hstable⟩ := sortByName_stable htext (List.pairwise_map.1 hdistinct)
  exact ⟨sorted, hsorted, hperm, hstable.imp below_of_ne⟩

theorem sortByName_of_pairwise (h : rows.Pairwise fun a b => (name a).Below (name b) ∨ name a = name b) :
    sortByName (fun row => .ok (name row)) rows = .ok rows := by
  obtain ⟨text, hname, hsorted⟩ := exists_sortBy htext
  rw [hsorted, Text.sortBy_of_pairwise]
  apply h.imp_of_mem
  intro a b ha hb hab
  rcases hab with ⟨s, t, hs, ht, hlt⟩ | hab
  · rw [hname a ha] at hs
    rw [hname b hb] at ht
    cases hs
    cases ht
    exact .inl hlt
  · rw [hname a ha, hname b hb] at hab
    exact .inr (Document.text.inj (Option.some.inj hab))

end

def ascending (texts : List Given) : List Given :=
  Text.sortBy (fun value => value.plainText?.getD "") texts.eraseDups

@[simp] theorem ascending_nil : ascending [] = [] := (Text.sortBy_perm _ []).eq_nil

theorem mem_ascending {texts : List Given} {text : Given} : text ∈ ascending texts ↔ text ∈ texts := by
  rw [ascending, (Text.sortBy_perm _ _).mem_iff, List.mem_eraseDups]

theorem ascending_below {texts : List Given} (htext : ∀ text ∈ texts, text.IsText) :
    (ascending texts).Pairwise Given.Below := by
  apply sortBy_below
  · intro text hmem
    obtain ⟨s, rfl⟩ := htext text (List.mem_eraseDups.1 hmem)
    simp only [Given.plainText?, Document.plainText?, Option.getD_some]
  · rw [List.map_id']
    exact Order.nodup_eraseDups texts

theorem eraseDupsBy_sameAs {texts : List Given} (htext : ∀ text ∈ texts, text.IsText) :
    texts.eraseDupsBy Given.sameAs = texts.eraseDups := by
  induction texts using Order.distinct_induction with
  | nil => rfl
  | cons text texts ih =>
      have hsame : (texts.filter fun other => other.sameAs text = false) = texts.filter (! · == text) := by
        apply List.filter_congr
        intro other hother
        obtain ⟨s, rfl⟩ := htext other (List.mem_cons_of_mem _ hother)
        rw [Bool.eq_iff_iff]
        simp [Given.sameAs, Given.standsAlone]
      rw [List.eraseDupsBy_cons, List.eraseDups_cons, hsame, ih]
      intro other hother
      exact htext other (List.mem_cons_of_mem _ (List.mem_filter.1 hother).1)

theorem sanitize_of_texts (secret : α) {names : List Given} (htext : ∀ name ∈ names, name.IsText) :
    sanitize secret names = .ok ⟨secret, ascending names⟩ := by
  have hpresent : names.eraseDups.filter (·.isSome) = names.eraseDups := by
    rw [List.filter_eq_self]
    intro name hname
    obtain ⟨s, rfl⟩ := htext name (List.mem_eraseDups.1 hname)
    rfl
  have hmissing : names.eraseDups.filter (·.isNone) = [] := by
    rw [List.filter_eq_nil_iff]
    intro name hname
    obtain ⟨s, rfl⟩ := htext name (List.mem_eraseDups.1 hname)
    simp
  have hspoken : names.eraseDups.all (·.plainText?.isSome) := by
    rw [List.all_eq_true]
    intro name hname
    obtain ⟨s, rfl⟩ := htext name (List.mem_eraseDups.1 hname)
    simp only [Given.plainText?, Document.plainText?, Option.isSome_some]
  have hsorted : sortByText (names.eraseDupsBy Given.sameAs) = .ok (ascending names) := by
    simp only [sortByText, eraseDupsBy_sameAs htext, hpresent, hmissing, hspoken, Bool.or_true, if_true,
      List.append_nil, ascending]
  rw [sanitize, hsorted]
  rfl

end SecretAccess
