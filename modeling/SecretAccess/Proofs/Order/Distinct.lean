import Mathlib.Algebra.GroupWithZero.Nat
import Mathlib.Data.List.Basic
import Mathlib.Data.List.Induction
import Mathlib.Data.List.Nodup

namespace SecretAccess.Order

variable {α : Type} [BEq α]

/-- Induction over a list in which the first item is left out together with all that equal it. -/
theorem distinct_induction {motive : List α → Prop} (nil : motive [])
    (cons : ∀ a as, motive (as.filter (! · == a)) → motive (a :: as)) (as : List α) : motive as := by
  induction hn : as.length using Nat.strongRecOn generalizing as with
  | _ n ih =>
      cases as with
      | nil => exact nil
      | cons a as =>
          apply cons a as
          apply ih _ _ _ rfl
          rw [← hn, List.length_cons]
          exact Nat.lt_succ_of_le (List.length_filter_le _ _)

variable [LawfulBEq α]

theorem filter_ne_of_not_mem {a : α} {as : List α} (h : a ∉ as) : as.filter (! · == a) = as := by
  apply List.filter_eq_self.2
  intro b hb
  have hne : b ≠ a := fun he => h (he ▸ hb)
  simp [hne]

theorem eraseDups_filter (test : α → Bool) (as : List α) :
    (as.filter test).eraseDups = as.eraseDups.filter test := by
  induction as using distinct_induction with
  | nil => rfl
  | cons a as ih =>
      cases ha : test a with
      | true =>
          rw [List.filter_cons_of_pos ha, List.eraseDups_cons, List.eraseDups_cons,
            List.filter_cons_of_pos ha, ← ih, List.filter_filter, List.filter_filter]
          simp only [Bool.and_comm]
      | false =>
          have hkept : (as.filter (! · == a)).filter test = as.filter test := by
            rw [List.filter_filter]
            apply List.filter_congr
            intro b _
            by_cases h : b = a
            · subst h; simp [ha]
            · simp [h]
          have hneg : ¬test a = true := by simp [ha]
          rw [List.filter_cons_of_neg hneg, List.eraseDups_cons, List.filter_cons_of_neg hneg, ← ih, hkept]

theorem eraseDups_of_nodup {as : List α} (h : as.Nodup) : as.eraseDups = as := by
  induction as with
  | nil => rfl
  | cons a as ih =>
      obtain ⟨habsent, hrest⟩ := List.nodup_cons.1 h
      rw [List.eraseDups_cons, filter_ne_of_not_mem habsent, ih hrest]

theorem nodup_eraseDups (as : List α) : as.eraseDups.Nodup := by
  induction as using distinct_induction with
  | nil => exact .nil
  | cons a as ih =>
      rw [List.eraseDups_cons, List.nodup_cons]
      refine ⟨fun h => ?_, ih⟩
      rw [List.mem_eraseDups, List.mem_filter] at h
      simp at h

theorem eraseDups_concat (as : List α) (a : α) :
    (as ++ [a]).eraseDups = if a ∈ as then as.eraseDups else as.eraseDups ++ [a] := by
  rw [List.eraseDups_append]
  split
  · rename_i h
    simp [List.removeAll, h]
  · rename_i h
    simp [List.removeAll, h, List.eraseDups_cons]

theorem idxOf_eraseDups (as : List α) : as.eraseDups.Pairwise fun a b => as.idxOf a < as.idxOf b := by
  induction as using List.reverseRecOn with
  | nil => exact .nil
  | append_singleton as a ih =>
      have hkept : as.eraseDups.Pairwise fun b c => (as ++ [a]).idxOf b < (as ++ [a]).idxOf c := by
        apply ih.imp_of_mem
        intro b c hb hc hlt
        rw [List.mem_eraseDups] at hb hc
        rwa [List.idxOf_append_of_mem hb, List.idxOf_append_of_mem hc]
      rw [eraseDups_concat]
      split
      · exact hkept
      · rename_i habsent
        refine List.pairwise_append.2 ⟨hkept, List.pairwise_singleton _ _, ?_⟩
        intro b hb c hc
        rw [List.mem_eraseDups] at hb
        rw [List.mem_singleton.1 hc, List.idxOf_append_of_mem hb, List.idxOf_append_of_notMem habsent]
        exact Nat.lt_add_right _ (List.idxOf_lt_length_of_mem hb)

theorem eraseDups_map {β : Type} [BEq β] [LawfulBEq β] {f : α → β} (hf : Function.Injective f) (as : List α) :
    (as.map f).eraseDups = as.eraseDups.map f := by
  induction as using List.reverseRecOn with
  | nil => rfl
  | append_singleton as a ih =>
      rw [List.map_append, List.map_singleton, eraseDups_concat, eraseDups_concat, ih]
      simp only [List.mem_map_of_injective hf]
      split
      · rfl
      · rw [List.map_append, List.map_singleton]

theorem length_eq_sum {κ β : Type} {pairs : List (κ × β)} {keys : List κ} {items : κ → List β} (hpairs : pairs.Nodup)
    (hkeys : keys.Nodup) (hitems : ∀ key, (items key).Nodup)
    (hmem : ∀ key item, (key, item) ∈ pairs ↔ key ∈ keys ∧ item ∈ items key) :
    pairs.length = (keys.map fun key => (items key).length).sum := by
  have hlisted : (keys.flatMap fun key => (items key).map (key, ·)).Nodup := by
    rw [List.nodup_flatMap]
    constructor
    · intro key _
      exact (hitems key).map fun _ _ he => (Prod.mk.inj he).2
    · apply hkeys.imp
      intro key other hne pair hpair hother
      obtain ⟨_, _, rfl⟩ := List.mem_map.1 hpair
      obtain ⟨_, _, hsame⟩ := List.mem_map.1 hother
      exact hne (Prod.mk.inj hsame).1.symm
  have hperm : pairs.Perm (keys.flatMap fun key => (items key).map (key, ·)) := by
    rw [List.perm_ext_iff_of_nodup hpairs hlisted]
    rintro ⟨key, item⟩
    rw [hmem, List.mem_flatMap]
    simp only [List.mem_map, Prod.mk.injEq]
    constructor
    · rintro ⟨hkey, hitem⟩
      exact ⟨key, hkey, item, hitem, rfl, rfl⟩
    · rintro ⟨key, hkey, item, hitem, rfl, rfl⟩
      exact ⟨hkey, hitem⟩
  rw [hperm.length_eq, List.length_flatMap]
  simp only [List.length_map]

end SecretAccess.Order
