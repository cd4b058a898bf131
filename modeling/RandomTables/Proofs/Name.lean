import Mathlib.Data.List.Sort
import Mathlib.Data.String.Basic
import RandomTables.Name
import RandomTables.Proofs.Text.Cut

/-!
The scope of a name. It ends at the first dot, so that a name that is qualified further keeps its
scope, and a scope is its own. Names that come in any order can be sorted, and then they are the
same list.
-/

namespace RandomTables.Name

variable {name scope : String}

theorem toList_topLevel : (topLevel name).toList = name.toList.takeWhile (!· == '.') := by
  unfold topLevel
  split
  · next before after hcut => rw [String.toList_ofList, Text.eq_takeWhile_of_cutFirst? hcut]
  · next hcut =>
      refine (Text.takeWhile_eq_self_of_not_mem fun hmem => ?_).symm
      simpa using Text.cutFirst?_eq_none_iff.1 hcut '.' hmem

theorem isQualified_eq_false_iff : isQualified name = false ↔ '.' ∉ name.toList := by
  simp [isQualified]

theorem not_mem_topLevel : '.' ∉ (topLevel name).toList := by
  rw [toList_topLevel]
  intro hmem
  simpa using List.mem_takeWhile_imp hmem

theorem topLevel_eq_self (h : '.' ∉ name.toList) : topLevel name = name := by
  rw [← String.toList_inj, toList_topLevel, Text.takeWhile_eq_self_of_not_mem h]

/-- Whatever stands behind a dot, the scope is that of what stands in front of it. -/
theorem topLevel_append (scope name : String) :
    topLevel (scope ++ "." ++ name) = topLevel scope := by
  rw [← String.toList_inj, toList_topLevel, toList_topLevel]
  simp only [String.toList_append, List.append_assoc]
  change (scope.toList ++ '.' :: name.toList).takeWhile _ = _
  exact Text.takeWhile_append_cons_of_not rfl

theorem qualify_of_not_mem (hscope : scope ≠ "") (hname : '.' ∉ name.toList) :
    qualify (some scope) name = scope ++ "." ++ name := by
  have hempty : scope.isEmpty = false := by simpa using hscope
  simp [qualify, hempty, isQualified_eq_false_iff.2 hname]

theorem qualify_eq_or (scope name : String) :
    qualify (some scope) name = scope ++ "." ++ name ∨ qualify (some scope) name = name := by
  rw [qualify]
  split
  · exact Or.inr rfl
  · exact Or.inl rfl

theorem topLevel_ofSection (file heading : String) :
    topLevel (ofSection file heading) = topLevel file := by
  rw [ofSection]
  split
  · rfl
  · exact topLevel_append file heading

/-! ### Sorted names -/

/-- The keys of a map and the members of a set come in this order. -/
theorem pairwise_lt_of_compare {names : List String}
    (h : names.Pairwise fun first second => compare first second = .lt) :
    names.Pairwise (· < ·) :=
  h.imp compareOfLessAndEq_eq_lt.1

def sort (names : List String) : List String :=
  names.mergeSort fun first second => decide (first ≤ second)

theorem sort_eq_of_perm {names sorted : List String} (hperm : names.Perm sorted)
    (hsorted : sorted.Pairwise (· < ·)) : sort names = sorted := by
  have hmerged : (sort names).Pairwise (· ≤ ·) := by
    have h : (sort names).Pairwise fun first second => decide (first ≤ second) = true := by
      refine List.pairwise_mergeSort (fun _ _ _ hfirst hsecond => ?_) (fun first second => ?_) names
      · rw [decide_eq_true_eq] at hfirst hsecond ⊢
        exact le_trans hfirst hsecond
      · simpa using le_total first second
    exact h.imp fun hle => of_decide_eq_true hle
  exact List.Perm.eq_of_pairwise (fun _ _ _ _ => le_antisymm) hmerged (hsorted.imp le_of_lt)
    ((List.mergeSort_perm names _).trans hperm)

end RandomTables.Name
