import Mathlib.Algebra.Order.BigOperators.Group.List
import Mathlib.Data.List.Perm.Basic
import SecretAccess.Proofs.Text.Quoted

namespace SecretAccess.Document

def labelled (labels : List (String × String)) : Document :=
  fields (labels.map fun label => (label.1, text label.2))

theorem inWrittenOrder_perm {α : Type} (entries : List (String × α)) : (inWrittenOrder entries).Perm entries := by
  have hcounted : (entries.filterMap fun entry => (position? entry.1).map (·, entry)).map (·.2) =
      entries.filter fun entry => (position? entry.1).isSome := by
    induction entries with
    | nil => rfl
    | cons entry entries ih =>
        cases hposition : position? entry.1 with
        | none => simpa [hposition] using ih
        | some => simpa [hposition] using ih
  have hnamed : (entries.filter fun entry => (position? entry.1).isNone) =
      entries.filter fun entry => !(position? entry.1).isSome :=
    List.filter_congr fun entry _ => (Option.not_isSome (position? entry.1)).symm
  have hsorted := (List.mergeSort_perm (entries.filterMap fun entry => (position? entry.1).map (·, entry))
    fun a b => a.1 ≤ b.1).map (·.2)
  rw [hcounted] at hsorted
  refine (hsorted.append_right _).trans ?_
  rw [hnamed]
  exact List.filter_append_perm _ entries

theorem foldl_withField {seen entries : List (String × Document)} (h : ((seen ++ entries).map (·.1)).Nodup) :
    entries.foldl withField seen = seen ++ entries := by
  induction entries generalizing seen with
  | nil => rw [List.foldl_nil, List.append_nil]
  | cons entry entries ih =>
      have hnew : seen.lookup entry.1 = none := by
        rw [List.lookup_eq_none_iff]
        intro other hother
        rw [List.map_append, List.nodup_append] at h
        exact bne_iff_ne.2 (h.2.2 other.1 (List.mem_map_of_mem hother) entry.1 (by simp)).symm
      rw [List.foldl_cons, withField, hnew, if_neg (by decide), ih (by simpa using h), List.append_assoc,
        List.singleton_append]

theorem length_le_flatMap {α : Type} {written : α → List Char} (h : ∀ a, written a ≠ []) (as : List α) :
    as.length ≤ (as.flatMap written).length := by
  rw [List.length_flatMap]
  refine (List.length_map _).symm.le.trans (List.length_le_sum_of_one_le _ ?_)
  intro n hn
  obtain ⟨a, -, rfl⟩ := List.mem_map.1 hn
  exact List.length_pos_iff.2 (h a)

theorem escapeChar_ne_nil (c : Char) : Text.escapeChar c ≠ [] := by
  unfold Text.escapeChar
  split_ifs <;> exact List.cons_ne_nil _ _

theorem quoted?_quote (s : String) (rest : List Char) :
    quoted? (Text.escape s.toList ++ '"' :: rest).length (Text.escape s.toList ++ '"' :: rest) =
      some (s.toList, rest) := by
  apply Text.quoted?_escape
  rw [List.length_append, List.length_cons, Text.escape]
  exact Nat.lt_of_le_of_lt (length_le_flatMap escapeChar_ne_nil s.toList) (by omega)

def labelChars (label : String × String) : List Char :=
  '"' :: (Text.escape label.1.toList ++ '"' :: ':' :: '"' :: (Text.escape label.2.toList ++ ['"']))

theorem value?_text (fuel : Nat) (s : String) (rest : List Char) :
    value? (fuel + 1) ('"' :: (Text.escape s.toList ++ '"' :: rest)) = some (text s, rest) := by
  change (quoted? (Text.escape s.toList ++ '"' :: rest).length _).map _ = _
  simp only [quoted?_quote, Option.map_some, String.ofList_toList]

def behind? (fuel : Nat) (entry : String × Document) (rest : List Char) :
    Option (List (String × Document) × List Char) :=
  match dropBlanks rest with
  | ',' :: rest => do
      let (entries, rest) ← entries? fuel rest
      return (entry :: entries, rest)
  | '\x7d' :: rest => return ([entry], rest)
  | _ => none

theorem entries?_labelChars (fuel : Nat) (label : String × String) (rest : List Char) :
    entries? (fuel + 2) (labelChars label ++ rest) = behind? (fuel + 1) (label.1, text label.2) rest := by
  have happend : labelChars label ++ rest = '"' :: (Text.escape label.1.toList ++ '"' :: ':' ::
      '"' :: (Text.escape label.2.toList ++ '"' :: rest)) := by
    simp [labelChars]
  rw [happend]
  change (quoted? (Text.escape label.1.toList ++ '"' :: ':' ::
      '"' :: (Text.escape label.2.toList ++ '"' :: rest)).length _).bind _ = _
  rw [quoted?_quote, Option.bind_some]
  change (value? (fuel + 1) ('"' :: (Text.escape label.2.toList ++ '"' :: rest))).bind _ = _
  rw [value?_text, String.ofList_toList]
  rfl

theorem entries?_labels {fuel : Nat} (label : String × String) {labels : List (String × String)}
    (h : labels.length + 1 < fuel) (rest : List Char) :
    entries? fuel (labelChars label ++ (labels.flatMap (fun label => ',' :: labelChars label) ++ '\x7d' :: rest)) =
      some ((label :: labels).map fun label => (label.1, text label.2), rest) := by
  induction labels generalizing fuel label with
  | nil =>
      obtain ⟨fuel, rfl⟩ := Nat.exists_eq_add_of_le' h
      exact entries?_labelChars fuel label _
  | cons next labels ih =>
      obtain ⟨fuel, rfl⟩ := Nat.exists_eq_add_of_le' h
      have hnext := ih next (by omega : labels.length + 1 < fuel + labels.length + 2)
      rw [List.flatMap_cons, List.append_assoc, List.cons_append]
      refine (entries?_labelChars (fuel + labels.length + 1) label _).trans ?_
      change (entries? (fuel + labels.length + 2) _).bind _ = _
      rw [hnext]
      rfl

def labelText (label : String × String) : String := Text.quote label.1 ++ ":" ++ Text.quote label.2

theorem toList_labelText (label : String × String) : (labelText label).toList = labelChars label := by
  simp [labelText, Text.quote, labelChars]

theorem toList_intercalate_labels (label : String × String) (labels : List (String × String)) :
    (String.intercalate "," ((label :: labels).map labelText)).toList =
      labelChars label ++ labels.flatMap fun label => ',' :: labelChars label := by
  have hchars : String.toList ∘ labelText = labelChars := funext toList_labelText
  rw [String.toList_intercalate, List.map_map, hchars]
  induction labels generalizing label with
  | nil => simp
  | cons next labels ih =>
      rw [List.map_cons, List.map_cons, List.intercalate_cons_cons, ← List.map_cons, ih]
      simp

theorem exists_written (labels : List (String × String)) :
    ∃ written : List (String × String), written.Perm labels ∧
      (labelled labels).render = "\x7b" ++ String.intercalate "," (written.map labelText) ++ "\x7d" := by
  have hentries : renderEntries (labels.map fun label => (label.1, text label.2)) =
      labels.map fun label => (label.1, Text.quote label.2) := by
    induction labels with
    | nil => rfl
    | cons label labels ih => exact congrArg (_ :: ·) ih
  let body (label : String × String) : String × String := (label.1, Text.quote label.2)
  have hperm : Relation.Comp (· = List.map body ·) List.Perm (inWrittenOrder (labels.map body)) labels := by
    rw [List.eq_map_comp_perm]
    exact inWrittenOrder_perm _
  obtain ⟨written, hwritten, hsame⟩ := hperm
  refine ⟨written, hsame, ?_⟩
  rw [labelled, render, hentries, braced, hwritten, List.map_map]
  rfl

/-- Labels are read as they were written. -/
theorem ofText?_render {labels : List (String × String)} (h : (labels.map (·.1)).Nodup) :
    ∃ written : List (String × String), written.Perm labels ∧
      ofText? (labelled labels).render = some (labelled written) := by
  obtain ⟨written, hsame, hrender⟩ := exists_written labels
  refine ⟨written, hsame, ?_⟩
  cases written with
  | nil =>
      rw [hrender]
      rfl
  | cons label written =>
      have hchars : (labelled labels).render.toList = '\x7b' :: (labelChars label ++
          (written.flatMap (fun label => ',' :: labelChars label) ++ ['\x7d'])) := by
        rw [hrender, String.toList_append, String.toList_append, toList_intercalate_labels]
        simp
      have hfuel : written.length + 1 < 2 * (labelled labels).render.toList.length := by
        have hlength := length_le_flatMap (fun label => List.cons_ne_nil ',' (labelChars label)) written
        rw [hchars, List.length_cons, List.length_append, List.length_append]
        omega
      have hvalue : value? (2 * (labelled labels).render.toList.length + 1) (labelled labels).render.toList =
          some (labelled (label :: written), []) := by
        rw [hchars] at hfuel ⊢
        change (entries? _ (labelChars label ++ _)).map _ = _
        rw [entries?_labels label hfuel, Option.map_some]
        refine congrArg (fun entries => some (fields entries, [])) (@foldl_withField [] _ ?_)
        · rw [List.nil_append, List.map_map]
          exact (hsame.map (·.1)).nodup_iff.2 h
      rw [ofText?, hvalue]
      rfl

end SecretAccess.Document
