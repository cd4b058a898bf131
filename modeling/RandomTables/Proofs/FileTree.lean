import Mathlib.Data.List.Basic
import RandomTables.FileTree

/-!
What stands at the paths of the entries of a directory. The path of an entry goes by the directory,
and its last part is the name of the entry.
-/

namespace RandomTables

namespace Path

variable {directory name path : String}

/-- The path of what bears this name in a directory. -/
def join (directory name : String) : String :=
  if directory.toList.getLast? = some '/' then directory ++ name else directory ++ "/" ++ name

def parts (path : String) : List String :=
  (path.toList.splitOn '/').map String.ofList

/-- A part of a path that goes down to an entry. -/
structure IsName (name : String) : Prop where
  ne_empty : name ≠ ""
  ne_here : name ≠ "."
  ne_above : name ≠ ".."
  not_mem : '/' ∉ name.toList

theorem parts_of_toList_eq {before : List Char} (hpath : path.toList = before ++ '/' :: name.toList)
    (hname : '/' ∉ name.toList) :
    parts path = (before.splitOn '/').map String.ofList ++ [name] := by
  rw [parts, hpath, List.splitOn_append_cons_self, List.splitOn_eq_singleton hname,
    List.map_append, List.map_singleton, String.ofList_toList]

/-- A slash at the end of a directory's path makes for a blank part, which the name replaces. -/
theorem parts_join (hname : '/' ∉ name.toList) :
    parts (join directory name) = parts directory ++ [name] ∨
      ∃ before, parts directory = before ++ [""] ∧
        parts (join directory name) = before ++ [name] := by
  unfold join
  split
  · next hslash =>
      obtain ⟨before, hbefore⟩ := List.getLast?_eq_some_iff.1 hslash
      refine Or.inr ⟨(before.splitOn '/').map String.ofList, ?_, ?_⟩
      · exact parts_of_toList_eq hbefore (by simp)
      · refine parts_of_toList_eq ?_ hname
        simp [hbefore]
  · refine Or.inl (parts_of_toList_eq ?_ hname)
    simp

theorem fileName?_eq_of_parts {before : List String} (hname : IsName name)
    (hparts : parts path = before ++ [name]) : fileName? path = some name := by
  have hlast : ((parts path).filter fun part => part ≠ "" ∧ part ≠ ".").getLast? = some name := by
    rw [hparts, List.filter_append, List.filter_singleton]
    simp [hname.ne_empty, hname.ne_here]
  unfold fileName?
  rw [parts] at hlast
  simp only [hlast]
  split
  · next habove => exact absurd (Option.some.inj habove) hname.ne_above
  · rfl

theorem fileName?_join (hname : IsName name) (directory : String) :
    fileName? (join directory name) = some name := by
  rcases parts_join hname.not_mem with hparts | ⟨before, _, hparts⟩
  · exact fileName?_eq_of_parts hname hparts
  · exact fileName?_eq_of_parts hname hparts

theorem head?_join (hdirectory : directory ≠ "") (name : String) :
    (join directory name).toList.head? = directory.toList.head? := by
  have hne : directory.toList ≠ [] := by simpa using hdirectory
  unfold join
  split <;> simp [List.head?_append, List.head?_eq_some_head hne]

theorem join_ne_empty (hdirectory : directory ≠ "") (name : String) : join directory name ≠ "" := by
  unfold join
  split <;> simp [hdirectory]

/-- The paths of the entries come in the order of their names. -/
theorem join_lt_join {first second : String} (h : first < second) (directory : String) :
    join directory first < join directory second := by
  rw [String.lt_iff] at h
  have hprefixed : ∀ front : String, front ++ first < front ++ second := by
    intro front
    rw [String.lt_iff, String.toList_append, String.toList_append]
    exact List.append_left_lt h
  unfold join
  split
  · exact hprefixed directory
  · exact hprefixed (directory ++ "/")

end Path

namespace FileTree

variable {above : List FileTree} {root place tree : FileTree} {workingDirectory : List String}
  {entries : List (String × FileTree)} {path name : String}

/-- A path that leads somewhere leads through a place from which any other path can go on. -/
theorem exists_follow_append {before : List String} (rest : List String)
    (h : follow above place (before ++ rest) = .ok tree) :
    ∃ around middle, ∀ other, follow above place (before ++ other) = follow around middle other := by
  induction before generalizing above place with
  | nil => exact ⟨above, place, fun _ => rfl⟩
  | cons part before ih =>
      rw [List.cons_append] at h
      cases place with
      | file bytes => cases h
      | directory entries =>
          simp only [List.cons_append, follow] at h ⊢
          split at h
          · next hhere =>
              simp only [if_pos hhere]
              exact ih h
          · next hhere =>
              simp only [if_neg hhere]
              split at h
              · next hup =>
                  simp only [if_pos hup]
                  cases above <;> exact ih h
              · next hup =>
                  simp only [if_neg hup]
                  cases hentry : entries.lookup part with
                  | none => simp [hentry] at h
                  | some inner =>
                      simp only [hentry] at h ⊢
                      exact ih h

theorem follow_name (hname : Path.IsName name) (hentry : entries.lookup name = some tree) :
    follow above (.directory entries) [name] = .ok tree := by
  simp [follow, hname.ne_empty, hname.ne_here, hname.ne_above, hentry]

theorem eq_of_follow_blank (h : follow above place [""] = .ok tree) : place = tree := by
  cases place with
  | file bytes => cases h
  | directory entries => simpa [follow] using h

/-- Where a path begins, as seen from the root. -/
def front (workingDirectory : List String) (path : String) : List String :=
  if path.toList.head? = some '/' then [] else workingDirectory

theorem disk_of_ne_empty (root : FileTree) (workingDirectory : List String) (hpath : path ≠ "") :
    disk root workingDirectory path =
      follow [] root (front workingDirectory path ++ Path.parts path) := by
  have hempty : path.isEmpty = false := by simpa using hpath
  rw [disk, hempty, front, Path.parts]
  simp only [Bool.false_eq_true, if_false]
  split <;> rfl

/-- The names of the entries are names, and no two of them are the same. -/
structure Named (entries : List (String × FileTree)) : Prop where
  nodup : (entries.map Prod.fst).Nodup
  isName : ∀ entry ∈ entries, Path.IsName entry.1

theorem lookup_eq_of_nodup {entry : String × FileTree} (h : (entries.map Prod.fst).Nodup)
    (hentry : entry ∈ entries) : entries.lookup entry.1 = some entry.2 := by
  induction entries with
  | nil => cases hentry
  | cons first entries ih =>
      obtain ⟨hfirst, hrest⟩ := List.nodup_cons.1 h
      rcases List.mem_cons.1 hentry with rfl | hentry
      · rw [List.lookup_cons, beq_self_eq_true]
      · have hne : entry.1 ≠ first.1 := fun heq =>
          hfirst (heq ▸ List.mem_map_of_mem hentry)
        rw [List.lookup_cons, beq_eq_false_iff_ne.2 hne]
        exact ih hrest hentry

/-- What stands at the path of an entry is the entry. -/
theorem disk_join (hplace : disk root workingDirectory path = .ok (.directory entries))
    {entry : String × FileTree} (hnamed : Named entries) (hentry : entry ∈ entries) :
    disk root workingDirectory (Path.join path entry.1) = .ok entry.2 := by
  have hname := hnamed.isName entry hentry
  have hlookup := lookup_eq_of_nodup hnamed.nodup hentry
  have hpath : path ≠ "" := by
    rintro rfl
    cases hplace
  rw [disk_of_ne_empty root workingDirectory hpath] at hplace
  rw [disk_of_ne_empty root workingDirectory (Path.join_ne_empty hpath entry.1), front,
    Path.head?_join hpath, ← front]
  rcases Path.parts_join hname.not_mem with hparts | ⟨before, hdirectory, hparts⟩
  · obtain ⟨around, middle, hgoesOn⟩ := exists_follow_append [] (by rwa [List.append_nil])
    have hmiddle := hgoesOn []
    rw [List.append_nil, hplace] at hmiddle
    obtain rfl : .directory entries = middle := Except.ok.inj hmiddle
    rw [hparts, ← List.append_assoc, hgoesOn]
    exact follow_name hname hlookup
  · rw [hdirectory, ← List.append_assoc] at hplace
    obtain ⟨around, middle, hgoesOn⟩ := exists_follow_append [""] hplace
    obtain rfl : middle = .directory entries := eq_of_follow_blank (hgoesOn [""] ▸ hplace)
    rw [hparts, ← List.append_assoc, hgoesOn]
    exact follow_name hname hlookup

end FileTree

end RandomTables
