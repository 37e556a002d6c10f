import Forms.Schema.Store
import Mathlib.Data.List.TakeWhile

/-!
# Names of files

A name that a store accepts becomes a file name when its extension is put behind it.  That file name
is one part of a path and no other place, so the file lies directly in the directory of the store,
and taking the extension away gives the name back, whatever points the name has of its own.
-/

namespace Forms

namespace Path

/-! ## Parts of a path -/

/-- A name that is one part of a path, and neither the place itself nor the place above. -/
structure IsPlain (name : String) : Prop where
  noSlash : '/' ∉ name.toList
  ne_empty : name ≠ ""
  ne_here : name ≠ "."
  ne_above : name ≠ ".."

theorem splitAtSlashes_ne_nil (chars : List Char) : splitAtSlashes chars ≠ [] := by
  cases chars with
  | nil => simp [splitAtSlashes]
  | cons c chars =>
      rw [splitAtSlashes]
      split
      · simp
      · split <;> simp

theorem splitAtSlashes_append (first second : List Char) :
    splitAtSlashes (first ++ '/' :: second) = splitAtSlashes first ++ splitAtSlashes second := by
  induction first with
  | nil => simp [splitAtSlashes]
  | cons c first ih =>
      rw [List.cons_append, splitAtSlashes, splitAtSlashes, ih]
      split
      · rfl
      · obtain ⟨part, parts, hparts⟩ := List.exists_cons_of_ne_nil (splitAtSlashes_ne_nil first)
        rw [hparts]
        rfl

theorem splitAtSlashes_of_notMem {chars : List Char} (hchars : '/' ∉ chars) :
    splitAtSlashes chars = [chars] := by
  induction chars with
  | nil => rfl
  | cons c chars ih =>
      rw [List.mem_cons, not_or] at hchars
      rw [splitAtSlashes, if_neg (Ne.symm hchars.1), ih hchars.2]

/-- The parts that count, of a path given by its characters. -/
def parts (chars : List Char) : List String :=
  ((splitAtSlashes chars).filter fun part => part != [] && part != ['.']).map String.ofList

theorem parts_append (first second : List Char) :
    parts (first ++ '/' :: second) = parts first ++ parts second := by
  rw [parts, splitAtSlashes_append, List.filter_append, List.map_append]
  rfl

theorem IsPlain.parts_eq {name : String} (h : IsPlain name) : parts name.toList = [name] := by
  have hempty : name.toList ≠ [] := by
    intro hnil
    exact h.ne_empty (String.toList_eq_nil_iff.mp hnil)
  have hhere : name.toList ≠ ['.'] := by
    intro hpoint
    exact h.ne_here (String.toList_inj.mp hpoint)
  rw [parts, splitAtSlashes_of_notMem h.noSlash]
  simp [hempty, hhere]

/-! ## Joined paths -/

theorem endsWith_iff (path ending : String) :
    path.endsWith ending = true ↔ ending.toList <:+ path.toList := by
  rw [← String.endsWith_toSlice, String.Slice.endsWith_string_iff, String.copy_toSlice]

/-- A joined path is written with a slash between, unless there is one or nothing before it. -/
theorem toList_join (path name : String) :
    (join path name).toList =
      path.toList ++ (if path.isEmpty || path.endsWith "/" then [] else ['/']) ++ name.toList := by
  rw [join]
  split
  · rw [String.toList_append, List.append_nil]
  · change (path ++ "/" ++ name).toList = _
    rw [String.toList_append, String.toList_append]
    rfl

/-- A plain name is one more part behind those of the path. -/
theorem components_join (path : String) {name : String} (hname : IsPlain name) :
    components (join path name) = components path ++ [name] := by
  change parts (join path name).toList = parts path.toList ++ [name]
  rw [toList_join]
  split
  · rename_i hending
    rw [Bool.or_eq_true, String.isEmpty_iff, endsWith_iff] at hending
    rcases hending with rfl | ⟨first, hfirst⟩
    · exact hname.parts_eq
    · -- The slash at the end of the path has nothing behind it, so it divides off no part.
      have hpath : path.toList = first ++ '/' :: [] := hfirst.symm
      calc
        parts (path.toList ++ [] ++ name.toList) = parts (first ++ '/' :: name.toList) := by
          rw [hpath, List.append_nil, List.append_assoc]
          rfl
        _ = parts first ++ parts [] ++ [name] := by
          rw [parts_append, hname.parts_eq, show parts [] = [] from rfl, List.append_nil]
        _ = parts path.toList ++ [name] := by
          rw [hpath, parts_append]
  · rw [List.append_assoc, List.singleton_append, parts_append, hname.parts_eq]

/-! ## Extensions -/

/-- A name is divided at its last point. -/
theorem splitName_append {stem extension : String} (hstem : stem ≠ "")
    (hextension : '.' ∉ extension.toList) :
    splitName (stem ++ "." ++ extension) = (stem, some extension) := by
  have hchars : (stem ++ "." ++ extension).toList.reverse =
      extension.toList.reverse ++ '.' :: stem.toList.reverse := by simp
  have hpoint : ∀ c ∈ extension.toList.reverse, (c != '.') = true := by
    intro c hc
    rw [List.mem_reverse] at hc
    simpa using ne_of_mem_of_not_mem hc hextension
  have hbehind : (stem ++ "." ++ extension).toList.reverse.takeWhile (fun c => c != '.') =
      extension.toList.reverse := by
    rw [hchars, List.takeWhile_append_of_pos hpoint, List.takeWhile_cons_of_neg (by simp),
      List.append_nil]
  have hbefore : ((stem ++ "." ++ extension).toList.reverse.dropWhile fun c => c != '.').drop 1 =
      stem.toList.reverse := by
    rw [hchars, List.dropWhile_append_of_pos hpoint, List.dropWhile_cons_of_neg (by simp)]
    rfl
  rw [splitName, hbehind, hbefore]
  simp [hstem]

end Path

namespace Unicode

theorem trim_eq_empty_iff (text : String) : trim text = "" ↔ allBlank text = true := by
  rw [trim, String.ofList_eq_empty_iff, trimChars, allBlank, List.reverse_eq_nil_iff,
    List.dropWhile_eq_nil_iff, List.all_eq_true]
  constructor
  · intro hblank
    have hnone : text.toList.dropWhile isBlank = [] := by
      by_contra hsome
      have hhead := List.head_dropWhile_not isBlank hsome
      rw [hblank _ (List.mem_reverse.mpr (List.head_mem hsome))] at hhead
      cases hhead
    exact List.dropWhile_eq_nil_iff.mp hnone
  · intro hblank c hc
    exact hblank c ((List.dropWhile_sublist _).subset (List.mem_reverse.mp hc))

end Unicode

namespace SchemaStore

/-! ## Names that a store takes -/

/-- Names that no schema can be kept under. -/
def Refuses (name : String) : Prop :=
  Unicode.allBlank name = true ∨ (Unicode.trim name).toList.head? = some '.' ∨
    '/' ∈ (Unicode.trim name).toList ∨ '\\' ∈ (Unicode.trim name).toList

instance (name : String) : Decidable (Refuses name) :=
  inferInstanceAs (Decidable (_ ∨ _ ∨ _ ∨ _))

theorem startsWith_point_iff (name : String) :
    name.startsWith "." = true ↔ name.toList.head? = some '.' := by
  rw [String.startsWith_string_iff]
  cases name.toList with
  | nil => simp
  | cons c chars => simp [eq_comm]

theorem fileStem_of_refuses {name : String} (h : Refuses name) :
    ∃ failure, fileStem name = .error failure ∧ failure.kind = .validation := by
  rw [fileStem]
  by_cases hempty : (Unicode.trim name).isEmpty = true
  · exact ⟨.emptySchemaName, if_pos hempty, rfl⟩
  · refine ⟨.unsafeSchemaName (Unicode.trim name), ?_, rfl⟩
    have hunsafe : ((Unicode.trim name).startsWith "." ||
        (Unicode.trim name).toList.any fun c => c == '/' || c == '\\') = true := by
      rw [Bool.or_eq_true, startsWith_point_iff, List.any_eq_true]
      rcases h with hblank | hpoint | hslash | hbackslash
      · rw [String.isEmpty_iff, Unicode.trim_eq_empty_iff] at hempty
        exact absurd hblank hempty
      · exact Or.inl hpoint
      · exact Or.inr ⟨_, hslash, rfl⟩
      · exact Or.inr ⟨_, hbackslash, rfl⟩
    exact (if_neg hempty).trans (if_pos hunsafe)

theorem fileStem_of_not_refuses {name : String} (h : ¬Refuses name) :
    fileStem name = .ok (Unicode.trim name) := by
  simp only [Refuses, not_or] at h
  obtain ⟨hblank, hpoint, hslash, hbackslash⟩ := h
  rw [← Unicode.trim_eq_empty_iff, ← String.isEmpty_iff] at hblank
  rw [← startsWith_point_iff] at hpoint
  have hany : ¬((Unicode.trim name).toList.any fun c => c == '/' || c == '\\') = true := by
    rw [List.any_eq_true]
    rintro ⟨c, hc, heq⟩
    rw [Bool.or_eq_true, beq_iff_eq, beq_iff_eq] at heq
    rcases heq with rfl | rfl
    · exact hslash hc
    · exact hbackslash hc
  rw [fileStem, if_neg hblank, if_neg]
  rw [Bool.or_eq_true]
  exact not_or.mpr ⟨hpoint, hany⟩

/-- The name of the file that keeps the schema of a name. -/
def fileOf (stem : String) : String := stem ++ "." ++ extension

theorem fileOf_eq (stem : String) : fileOf stem = stem ++ ".json" := String.append_assoc ..

theorem path_eq (store : SchemaStore) (stem : String) :
    store.path stem = Path.join store.root (fileOf stem) := rfl

theorem fileOf_injective : Function.Injective fileOf := by
  intro left right heq
  have hchars := congrArg String.toList heq
  rw [fileOf, fileOf, String.toList_append, String.toList_append, String.toList_append,
    String.toList_append, List.append_assoc, List.append_assoc] at hchars
  exact String.toList_inj.mp (List.append_cancel_right hchars)

theorem isPlain_fileOf {stem : String} (hslash : '/' ∉ stem.toList) :
    Path.IsPlain (fileOf stem) := by
  have hchars : (fileOf stem).toList = stem.toList ++ ['.', 'j', 's', 'o', 'n'] := by
    rw [fileOf, String.toList_append, String.toList_append, List.append_assoc]
    rfl
  have hshort : ∀ name : String, name.toList.length < 5 → fileOf stem ≠ name := by
    rintro name hname rfl
    rw [hchars, List.length_append] at hname
    exact absurd (Nat.le_add_left 5 _) (Nat.not_le_of_lt hname)
  refine ⟨?_, hshort "" (by decide), hshort "." (by decide), hshort ".." (by decide)⟩
  rw [hchars, List.mem_append]
  exact not_or.mpr ⟨hslash, by decide⟩

/-- The name of a file that keeps a schema leads back to the name of the schema. -/
theorem nameOfFile?_fileOf {stem : String} (hslash : '/' ∉ stem.toList) (hstem : stem ≠ "") :
    nameOfFile? (fileOf stem) = some stem := by
  have hplain := isPlain_fileOf hslash
  have hname : Path.fileName? (fileOf stem) = some (fileOf stem) := by
    have hparts : Path.components (fileOf stem) = [fileOf stem] := hplain.parts_eq
    rw [Path.fileName?, hparts]
    exact if_neg hplain.ne_above
  have hsplit : Path.splitName (fileOf stem) = (stem, some extension) :=
    Path.splitName_append hstem (by decide)
  rw [nameOfFile?, Path.extension?, Path.stem?, hname, Option.bind_some, Option.map_some, hsplit,
    if_pos rfl]

theorem isPlain_of_not_refuses {name : String} (h : ¬Refuses name) :
    Path.IsPlain (fileOf (Unicode.trim name)) := by
  simp only [Refuses, not_or] at h
  exact isPlain_fileOf h.2.2.1

theorem nameOfFile?_of_not_refuses {name : String} (h : ¬Refuses name) :
    nameOfFile? (fileOf (Unicode.trim name)) = some (Unicode.trim name) := by
  simp only [Refuses, not_or, ← Unicode.trim_eq_empty_iff] at h
  exact nameOfFile?_fileOf h.2.2.1 h.1

/-- The file of a name that is taken lies in the directory of the store itself. -/
theorem components_path (store : SchemaStore) {name : String} (h : ¬Refuses name) :
    Path.components (store.path (Unicode.trim name)) =
      Path.components store.root ++ [Unicode.trim name ++ ".json"] := by
  rw [path_eq, Path.components_join _ (isPlain_of_not_refuses h), fileOf_eq]

end SchemaStore

end Forms
