import Forms.Disk
import Forms.Proofs.Files.Naming
import Mathlib.Data.List.Basic

/-!
# Places that paths lead to

Two paths lead to the same place when they start from the same place and have the same parts,
however many slashes stand between those.  A path without its last part, and with that part put
behind it again, leads to where it led before.
-/

namespace Forms

namespace Path

/-- Characters stand before the first mark and behind it, or there is no mark. -/
theorem mark_cases (mark : Char) (chars : List Char) :
    (mark ∉ chars ∧ chars.takeWhile (fun c => c != mark) = chars ∧
        chars.dropWhile (fun c => c != mark) = []) ∨
      ∃ first rest, chars = first ++ mark :: rest ∧ mark ∉ first ∧
        chars.takeWhile (fun c => c != mark) = first ∧
        chars.dropWhile (fun c => c != mark) = mark :: rest := by
  have hfirst : mark ∉ chars.takeWhile fun c => c != mark := by
    intro hmark
    have hne := List.mem_takeWhile_imp hmark
    simp at hne
  have hsplit :
      chars.takeWhile (fun c => c != mark) ++ chars.dropWhile (fun c => c != mark) = chars :=
    List.takeWhile_append_dropWhile
  cases hrest : chars.dropWhile fun c => c != mark with
  | nil =>
      rw [hrest, List.append_nil] at hsplit
      rw [hsplit] at hfirst
      exact Or.inl ⟨hfirst, hsplit, rfl⟩
  | cons c rest =>
      have hhead := List.head_dropWhile_not (fun c => c != mark) (l := chars) (by simp [hrest])
      simp only [hrest, List.head_cons, bne_eq_false_iff_eq] at hhead
      subst hhead
      rw [hrest] at hsplit
      exact Or.inr ⟨_, rest, hsplit.symm, hfirst, rfl, rfl⟩

/-! ## Parts that are left out -/

theorem parts_nil : parts [] = [] := rfl

/-- A path without slashes is one part, unless it has none that counts. -/
theorem parts_of_notMem {chars : List Char} (hchars : '/' ∉ chars) :
    parts chars = if chars = [] ∨ chars = ['.'] then [] else [String.ofList chars] := by
  rw [parts, splitAtSlashes_of_notMem hchars]
  by_cases hempty : chars = []
  · simp [hempty]
  · by_cases hhere : chars = ['.']
    · simp [hhere]
    · simp [hempty, hhere]

theorem trimIdle_suffix (chars : List Char) : trimIdle chars <:+ chars := by
  fun_induction trimIdle chars with
  | case1 => exact List.suffix_rfl
  | case2 chars ih => exact ih.trans (List.suffix_cons _ _)
  | case3 chars ih => exact ih.trans (List.suffix_cons _ _)
  | case4 chars => exact List.suffix_rfl

/-- What is trimmed at the end of a path are no parts that count. -/
theorem parts_trimIdle (chars : List Char) :
    parts (trimIdle chars).reverse = parts chars.reverse := by
  fun_induction trimIdle chars with
  | case1 => rfl
  | case2 chars ih =>
      rw [ih, List.reverse_cons, parts_append, parts_nil, List.append_nil]
  | case3 chars ih =>
      rw [ih, List.reverse_cons, List.reverse_cons, List.reverse_cons, List.append_assoc,
        List.singleton_append, parts_append, parts_append]
      rfl
  | case4 chars => rfl

/-- What is left after trimming ends with a part that counts. -/
theorem head_trimIdle (chars : List Char) :
    (∀ rest, trimIdle chars ≠ '/' :: rest) ∧ ∀ rest, trimIdle chars ≠ '.' :: '/' :: rest := by
  fun_induction trimIdle chars with
  | case1 => exact ⟨nofun, nofun⟩
  | case2 chars ih => exact ih
  | case3 chars ih => exact ih
  | case4 chars hempty hslash hpoint => exact ⟨hslash, hpoint⟩

/-- A path that is not absolute starts from where the program runs. -/
def IsAbsolute (path : String) : Prop := path.toList.head? = some '/'

theorem startsWith_slash_iff (path : String) : path.startsWith "/" = true ↔ IsAbsolute path := by
  rw [String.startsWith_string_iff, IsAbsolute]
  cases path.toList with
  | nil => simp
  | cons c chars => simp [eq_comm]

/-- An ending that stops with a part that counts loses that part. -/
theorem parts_dropWhile {ending : List Char} (hslash : ∀ rest, ending ≠ '/' :: rest)
    (hpoint : ∀ rest, ending ≠ '.' :: '/' :: rest) :
    parts (ending.dropWhile fun c => c != '/').reverse = (parts ending.reverse).dropLast := by
  rcases mark_cases '/' ending with ⟨hnone, -, hrest⟩ | ⟨last, rest, rfl, hlast, -, hrest⟩
  · rw [hrest, parts_of_notMem (fun hmem => hnone (List.mem_reverse.mp hmem))]
    split <;> rfl
  · have hempty : last.reverse ≠ [] := by
      rw [Ne, List.reverse_eq_nil_iff]
      rintro rfl
      exact hslash rest rfl
    have hhere : last.reverse ≠ ['.'] := by
      rw [Ne, List.reverse_eq_iff]
      rintro rfl
      exact hpoint rest rfl
    rw [hrest, List.reverse_cons, List.reverse_append, List.reverse_cons, List.append_assoc,
      List.singleton_append, parts_append, parts_append, parts_nil, List.append_nil,
      parts_of_notMem fun hmem => hlast (List.mem_reverse.mp hmem),
      if_neg (not_or.mpr ⟨hempty, hhere⟩), List.dropLast_concat]

/-- The path without its last part has the other parts. -/
theorem components_parent (path : String) :
    components (parent path) = (components path).dropLast := by
  obtain ⟨hslash, hpoint⟩ := head_trimIdle path.toList.reverse
  have hparent : components (parent path) =
      parts (trimIdle ((trimIdle path.toList.reverse).dropWhile fun c => c != '/')).reverse := by
    simp only [parent]
    split
    · rename_i hroot
      rw [Bool.and_eq_true, List.isEmpty_iff] at hroot
      rw [hroot.1]
      rfl
    · rw [components, String.toList_ofList]
      rfl
  rw [hparent, parts_trimIdle, parts_dropWhile hslash hpoint, parts_trimIdle,
    List.reverse_reverse]
  rfl

theorem isAbsolute_parent (path : String) : IsAbsolute (parent path) ↔ IsAbsolute path := by
  have hbefore : (trimIdle ((trimIdle path.toList.reverse).dropWhile fun c => c != '/')).reverse <+:
      path.toList := by
    rw [← List.reverse_suffix, List.reverse_reverse]
    exact (trimIdle_suffix _).trans ((List.dropWhile_suffix _).trans (trimIdle_suffix _))
  simp only [parent]
  generalize trimIdle ((trimIdle path.toList.reverse).dropWhile fun c => c != '/') = rest at *
  split
  · rename_i hroot
    rw [Bool.and_eq_true, startsWith_slash_iff] at hroot
    exact iff_of_true rfl hroot.2
  · rename_i hroot
    rw [Bool.and_eq_true, startsWith_slash_iff, List.isEmpty_iff] at hroot
    rw [IsAbsolute, String.toList_ofList]
    obtain ⟨last, hlast⟩ := hbefore
    cases hrest : rest.reverse with
    | nil =>
        rw [List.reverse_eq_nil_iff] at hrest
        exact iff_of_false nofun fun habsolute => hroot ⟨hrest, habsolute⟩
    | cons c before =>
        rw [IsAbsolute, ← hlast, hrest, List.cons_append, List.head?_cons, List.head?_cons]

theorem isAbsolute_join (path : String) {name : String} (hname : '/' ∉ name.toList) :
    IsAbsolute (join path name) ↔ IsAbsolute path := by
  have hrelative : name.toList.head? ≠ some '/' := fun hhead => hname (List.mem_of_head? hhead)
  rw [IsAbsolute, IsAbsolute, toList_join]
  cases hpath : path.toList with
  | nil =>
      rw [String.toList_eq_nil_iff] at hpath
      subst hpath
      exact iff_of_false hrelative nofun
  | cons c chars => rw [List.append_assoc, List.cons_append, List.head?_cons, List.head?_cons]

/-! ## The last part -/

theorem splitAtSlashes_noSlash (chars : List Char) :
    ∀ part ∈ splitAtSlashes chars, '/' ∉ part := by
  induction chars with
  | nil => exact List.forall_mem_singleton.mpr List.not_mem_nil
  | cons c chars ih =>
      rw [splitAtSlashes]
      split
      · exact List.forall_mem_cons.mpr ⟨List.not_mem_nil, ih⟩
      · rename_i hslash
        obtain ⟨first, others, hfirst⟩ := List.exists_cons_of_ne_nil (splitAtSlashes_ne_nil chars)
        rw [hfirst, List.forall_mem_cons] at ih
        rw [hfirst]
        refine List.forall_mem_cons.mpr ⟨?_, ih.2⟩
        rw [List.mem_cons, not_or]
        exact ⟨Ne.symm hslash, ih.1⟩

/-- The last part of a path, when it has a name, is a file name. -/
theorem fileName?_eq_some {path name : String} (hname : fileName? path = some name) :
    IsPlain name ∧ components path = (components path).dropLast ++ [name] := by
  rw [fileName?] at hname
  split at hname
  · rename_i last hlast
    split at hname
    · cases hname
    · rename_i habove
      cases hname
      have hmem := List.mem_of_getLast? hlast
      rw [components, List.mem_map] at hmem
      obtain ⟨part, hpart, rfl⟩ := hmem
      rw [List.mem_filter, Bool.and_eq_true, bne_iff_ne, bne_iff_ne] at hpart
      obtain ⟨hpart, hempty, hhere⟩ := hpart
      refine ⟨⟨?_, ?_, ?_, habove⟩, ?_⟩
      · rw [String.toList_ofList]
        exact splitAtSlashes_noSlash _ part hpart
      · rwa [Ne, String.ofList_eq_empty_iff]
      · intro hpoint
        exact hhere (String.ofList_injective hpoint)
      · obtain ⟨others, hothers⟩ := List.getLast?_eq_some_iff.mp hlast
        rw [hothers, List.dropLast_concat]
  · cases hname

/-- A name with an extension is divided by the point before it. -/
theorem eq_of_splitName {name stem extension : String}
    (hsplit : splitName name = (stem, some extension)) :
    name = stem ++ "." ++ extension ∧ stem ≠ "" := by
  rw [splitName] at hsplit
  split at hsplit
  · rename_i hpoint
    rw [Bool.and_eq_true, List.contains_iff_mem, Bool.not_eq_true', List.isEmpty_eq_false_iff]
      at hpoint
    rcases mark_cases '.' name.toList.reverse with
      ⟨hnone, -, -⟩ | ⟨behind, before, hchars, -, hbehind, hbefore⟩
    · exact absurd (List.mem_reverse.mpr hpoint.1) hnone
    · rw [hbehind, hbefore, List.drop_one, List.tail_cons] at hsplit
      rw [hbefore, List.drop_one, List.tail_cons] at hpoint
      obtain ⟨rfl, hextension⟩ := Prod.mk.inj hsplit
      obtain rfl := Option.some.inj hextension
      constructor
      · apply String.toList_inj.mp
        rw [← List.reverse_reverse name.toList, hchars]
        simp
      · rw [Ne, String.ofList_eq_empty_iff, List.reverse_eq_nil_iff]
        exact hpoint.2
  · cases hsplit

/-! ## Same places -/

/-- The paths start from the same place and have the same parts. -/
def SamePlace (left right : String) : Prop :=
  (IsAbsolute left ↔ IsAbsolute right) ∧ components left = components right

/-- The path without its last part as a directory; it may be the one the program runs in. -/
def directory (path : String) : String := if (parent path).isEmpty then "." else parent path

theorem isAbsolute_directory (path : String) : IsAbsolute (directory path) ↔ IsAbsolute path := by
  refine Iff.trans ?_ (isAbsolute_parent path)
  rw [directory]
  split
  · rename_i hempty
    rw [String.isEmpty_iff.mp hempty]
    exact iff_of_false nofun nofun
  · exact Iff.rfl

theorem components_directory (path : String) :
    components (directory path) = (components path).dropLast := by
  rw [← components_parent, directory]
  split
  · rename_i hempty
    rw [String.isEmpty_iff.mp hempty]
    rfl
  · rfl

/-- The last part behind its directory leads to the same place again. -/
theorem samePlace_join_directory {path name : String} (hname : fileName? path = some name) :
    SamePlace (join (directory path) name) path := by
  obtain ⟨hplain, hlast⟩ := fileName?_eq_some hname
  constructor
  · rw [isAbsolute_join _ hplain.noSlash, isAbsolute_directory]
  · rw [components_join _ hplain, components_directory, ← hlast]

theorem mem_splitAtSlashes_iff {c : Char} (hslash : c ≠ '/') (chars : List Char) :
    (∃ part ∈ splitAtSlashes chars, c ∈ part) ↔ c ∈ chars := by
  induction chars with
  | nil => simp [splitAtSlashes]
  | cons first chars ih =>
      rw [splitAtSlashes, List.mem_cons, ← ih]
      split
      · rename_i hfirst
        rw [List.exists_mem_cons_iff, hfirst]
        exact or_congr (iff_of_false List.not_mem_nil hslash) Iff.rfl
      · obtain ⟨part, parts, hparts⟩ := List.exists_cons_of_ne_nil (splitAtSlashes_ne_nil chars)
        rw [hparts, List.exists_mem_cons_iff, List.exists_mem_cons_iff, List.mem_cons, or_assoc]

/-- Only slashes and points are in a path but not in its parts. -/
theorem mem_components_iff {c : Char} (hslash : c ≠ '/') (hpoint : c ≠ '.') (path : String) :
    (∃ part ∈ components path, c ∈ part.toList) ↔ c ∈ path.toList := by
  rw [← mem_splitAtSlashes_iff hslash, components]
  simp only [List.mem_map, List.mem_filter, Bool.and_eq_true, bne_iff_ne, exists_exists_and_eq_and,
    String.toList_ofList]
  refine exists_congr fun part => and_congr_left fun hc => and_iff_left ⟨?_, ?_⟩
  · rintro rfl
    exact List.not_mem_nil hc
  · rintro rfl
    exact hpoint (List.mem_singleton.mp hc)

end Path

namespace FileTree

/-- Nothing else tells two paths apart, unless one of them asks for a directory. -/
theorem readText_congr {left right : String} (hplace : Path.SamePlace left right)
    (hparts : Path.components right ≠ []) (hleft : left.endsWith "/" = false)
    (hright : right.endsWith "/" = false) (tree : FileTree) :
    tree.readText left = tree.readText right := by
  have hnul : left.toList.contains '\x00' = right.toList.contains '\x00' := by
    rw [Bool.eq_iff_iff, List.contains_iff_mem, List.contains_iff_mem,
      ← Path.mem_components_iff (by decide) (by decide) left, hplace.2,
      Path.mem_components_iff (by decide) (by decide)]
  have hstart : left.startsWith "/" = right.startsWith "/" := by
    rw [Bool.eq_iff_iff, Path.startsWith_slash_iff, Path.startsWith_slash_iff, hplace.1]
  have hempty : ∀ path, Path.components path ≠ [] → path.isEmpty = false := by
    intro path hpath
    rw [Bool.eq_false_iff, Ne, String.isEmpty_iff]
    rintro rfl
    exact hpath rfl
  have hresolve : tree.resolve left = tree.resolve right := by
    rw [resolve, resolve, hnul, hstart, hplace.2, hempty right hparts,
      hempty left (hplace.2 ▸ hparts)]
  rw [readText, readText, hresolve, hleft, hright]

end FileTree

end Forms
