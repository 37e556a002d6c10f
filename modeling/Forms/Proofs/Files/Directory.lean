import Forms.Proofs.Entries
import Forms.Proofs.Files.Naming
import Mathlib.Logic.Function.Basic

/-!
# Directories as maps

What a store asks of its disk is little: the directory at the path of the store is missing at first,
it can be made, and from then on it is a map from file names to texts.  A tree of files keeps such a
map at any place that is reached without going up, for the names that its directories take.
-/

namespace Forms

/-- The text of each file of a directory that holds no other directories. -/
abbrev Directory := String → Option String

namespace Directory

def empty : Directory := fun _ => none

def write (directory : Directory) (file text : String) : Directory :=
  Function.update directory file (some text)

end Directory

/-- The directory at a path of a disk is a map, once it has been made.  `Holds` tells what it holds
in a state of the disk, nothing while it is missing.  `Fits` tells which file names the disk takes,
and is true of all of them on a disk where every write succeeds. -/
structure Disk.KeepsMap {State : Type} (disk : Disk (StateM State)) (root : String)
    (Fits : String → Prop) (Holds : State → Option Directory → Prop) : Prop where
  readText : ∀ {state directory file}, Holds state directory → Path.IsPlain file → Fits file →
    disk.readText (Path.join root file) state =
      (match directory.bind fun held => held file with
        | some text => .ok text
        | none => .error .notFound, state)
  createDirectory : ∀ {state directory}, Holds state directory →
    ∃ after, disk.createDirectory root state = (.ok (), after) ∧
      Holds after (some (directory.getD Directory.empty))
  writeText : ∀ {state held file}, Holds state (some held) → Path.IsPlain file → Fits file →
    ∀ text, ∃ after, disk.writeText (Path.join root file) text state = (.ok (), after) ∧
      Holds after (some (held.write file text))
  entryNames_missing : ∀ {state}, Holds state none →
    disk.entryNames root state = (.error .notFound, state)
  /-- Every file is listed once, in any order. -/
  entryNames : ∀ {state held}, Holds state (some held) →
    ∃ names, disk.entryNames root state = (.ok names, state) ∧ names.Nodup ∧
      ∀ file, file ∈ names ↔ (held file).isSome = true

namespace FileTree

/-! ## Following names -/

/-- Names that a directory takes. -/
def Fits (name : String) : Prop := name.utf8ByteSize ≤ maxNameBytes ∧ '\x00' ∉ name.toList

instance (name : String) : Decidable (Fits name) := inferInstanceAs (Decidable (_ ∧ _))

theorem child_directory {name : String} (hname : Fits name) (entries : List (String × FileTree)) :
    (directory entries).child name = .ok (Entries.get? entries name) := by
  rw [child, if_neg (Nat.not_lt_of_le hname.1)]

theorem at?_directory {name : String} (hname : Fits name) (entries : List (String × FileTree))
    (places : List String) :
    (directory entries).at? (name :: places) =
      match Entries.get? entries name with
      | none => .error .notFound
      | some inner => inner.at? places := by
  rw [at?, child_directory hname]
  cases Entries.get? entries name <;> rfl

/-- What was put under a name is found under it. -/
theorem at?_insert {name : String} (hname : Fits name) (inner : FileTree)
    (entries : List (String × FileTree)) (places : List String) :
    (directory (Entries.insert name inner entries)).at? (name :: places) = inner.at? places := by
  rw [at?_directory hname, Entries.get?_insert, if_pos rfl]

theorem at?_append (first second : List String) (tree : FileTree) :
    tree.at? (first ++ second) =
      match tree.at? first with
      | .ok inner => inner.at? second
      | .error error => .error error := by
  induction first generalizing tree with
  | nil => rfl
  | cons name first ih =>
      rw [List.cons_append, at?, at?]
      cases tree.child name with
      | error error => rfl
      | ok inner =>
          cases inner with
          | none => rfl
          | some inner => exact ih inner

/-- A directory can be made where there is one, and where there is nothing. -/
theorem exists_makeDirectory {places : List String} (hplaces : ∀ name ∈ places, Fits name)
    {tree : FileTree} {entries : List (String × FileTree)}
    (hfound : tree.at? places = .ok (directory entries) ∨
      tree.at? places = .error .notFound ∧ entries = []) :
    ∃ after, tree.makeDirectory places = .ok after ∧
      after.at? places = .ok (directory entries) := by
  induction places generalizing tree with
  | nil =>
      rcases hfound with hthere | ⟨hmissing, -⟩
      · cases hthere
        exact ⟨_, rfl, rfl⟩
      · cases hmissing
  | cons name places ih =>
      rw [List.forall_mem_cons] at hplaces
      cases tree with
      | file text =>
          rw [at?] at hfound
          rcases hfound with hthere | ⟨hmissing, -⟩
          · cases hthere
          · cases hmissing
      | directory held =>
          have hinner : ((Entries.get? held name).getD empty).at? places =
                .ok (directory entries) ∨
              ((Entries.get? held name).getD empty).at? places = .error .notFound ∧
                entries = [] := by
            rw [at?_directory hplaces.1] at hfound
            cases hget : Entries.get? held name with
            | some inner => simpa [hget] using hfound
            | none =>
                simp only [hget, reduceCtorEq, true_and, false_or] at hfound
                subst hfound
                cases places with
                | nil => exact Or.inl rfl
                | cons next places =>
                    rw [List.forall_mem_cons] at hplaces
                    refine Or.inr ⟨?_, rfl⟩
                    rw [Option.getD_none, empty, at?_directory hplaces.2.1]
                    rfl
          obtain ⟨after, hmade, hafter⟩ := ih hplaces.2 hinner
          refine ⟨directory (Entries.insert name after held), ?_, ?_⟩
          · rw [makeDirectory, child_directory hplaces.1]
            simp only [hmade, Except.map, put]
          · rw [at?_insert hplaces.1]
            exact hafter

/-- A file can be written into a directory, unless there is a directory of its name. -/
theorem exists_write {places : List String} (hplaces : ∀ name ∈ places, Fits name) {file : String}
    (hfile : Fits file) {tree : FileTree} {entries : List (String × FileTree)}
    (hfound : tree.at? places = .ok (directory entries))
    (hfree : ∀ inner ∈ Entries.get? entries file, ∃ held, inner = .file held) (text : String) :
    ∃ after, tree.write text (places ++ [file]) = .ok after ∧
      after.at? places = .ok (directory (Entries.insert file (.file text) entries)) := by
  induction places generalizing tree with
  | nil =>
      cases hfound
      refine ⟨_, ?_, rfl⟩
      rw [List.nil_append, write, child_directory hfile]
      cases hget : Entries.get? entries file with
      | none => rfl
      | some inner =>
          obtain ⟨held, rfl⟩ := hfree inner hget
          rfl
  | cons name places ih =>
      rw [List.forall_mem_cons] at hplaces
      cases tree with
      | file held =>
          rw [at?] at hfound
          cases hfound
      | directory held =>
          rw [at?_directory hplaces.1] at hfound
          cases hget : Entries.get? held name with
          | none => simp [hget] at hfound
          | some inner =>
              simp only [hget] at hfound
              obtain ⟨after, hwritten, hafter⟩ := ih hplaces.2 hfound
              refine ⟨directory (Entries.insert name after held), ?_, ?_⟩
              · rw [List.cons_append, write, child_directory hplaces.1, hget]
                simp only [hwritten, Except.map, put]
              · rw [at?_insert hplaces.1]
                exact hafter

/-! ## Places of paths -/

/-- A path that starts from the place of the tree and never goes up. -/
structure LeadsDown (path : String) : Prop where
  ne_empty : path ≠ ""
  relative : path.startsWith "/" = false
  noNul : '\x00' ∉ path.toList
  down : ∀ name ∈ Path.components path, name ≠ ".." ∧ Fits name

/-- A name is a path of one step. -/
theorem LeadsDown.of_isPlain {name : String} (hplain : Path.IsPlain name) (hname : Fits name) :
    LeadsDown name where
  ne_empty := hplain.ne_empty
  relative := by
    rw [String.startsWith_string_eq_false_iff]
    intro hslash
    exact hplain.noSlash (hslash.mem (List.mem_singleton.mpr rfl))
  noNul := hname.2
  down := by
    rw [show Path.components name = [name] from hplain.parts_eq, List.forall_mem_singleton]
    exact ⟨hplain.ne_above, hname⟩

theorem foldlM_follow (tree : FileTree) {names : List String} (hnames : ∀ name ∈ names, name ≠ "..")
    (place : List String) : names.foldlM tree.follow place = .ok (place ++ names) := by
  induction names generalizing place with
  | nil => rw [List.append_nil]; rfl
  | cons name names ih =>
      rw [List.forall_mem_cons] at hnames
      rw [List.foldlM_cons, follow, if_neg hnames.1]
      change names.foldlM tree.follow (place ++ [name]) = _
      rw [ih hnames.2, List.append_assoc]
      rfl

theorem LeadsDown.resolve {path : String} (h : LeadsDown path) (tree : FileTree) :
    tree.resolve path = .ok (Path.components path) := by
  have hnul : path.toList.contains '\x00' = false := by simpa using h.noNul
  have hstart : (path.isEmpty || path.startsWith "/") = false := by
    rw [h.relative, Bool.or_false, Bool.eq_false_iff, Ne, String.isEmpty_iff]
    exact h.ne_empty
  rw [FileTree.resolve, hnul, hstart]
  exact foldlM_follow tree (fun name hname => (h.down name hname).1) []

theorem LeadsDown.join {path : String} (h : LeadsDown path) {file : String}
    (hplain : Path.IsPlain file) (hfile : Fits file) : LeadsDown (Path.join path file) := by
  obtain ⟨first, rest, hpath⟩ := List.exists_cons_of_ne_nil
    (fun hnil => h.ne_empty (String.toList_eq_nil_iff.mp hnil) : path.toList ≠ [])
  have hfirst : first ≠ '/' := by
    rintro rfl
    have hrelative := h.relative
    rw [String.startsWith_string_eq_false_iff, hpath] at hrelative
    exact hrelative (List.prefix_append ['/'] rest)
  constructor
  · intro hempty
    rw [← String.toList_eq_nil_iff, Path.toList_join, hpath] at hempty
    cases hempty
  · rw [String.startsWith_string_eq_false_iff, Path.toList_join, hpath]
    intro hslash
    exact hfirst (List.cons_prefix_cons.mp hslash).1.symm
  · rw [Path.toList_join, List.mem_append, List.mem_append]
    rintro ((hnul | hnul) | hnul)
    · exact h.noNul hnul
    · split at hnul <;> simp at hnul
    · exact hfile.2 hnul
  · rw [Path.components_join path hplain, List.forall_mem_append, List.forall_mem_singleton]
    exact ⟨h.down, hplain.ne_above, hfile⟩

theorem endsWith_join (path : String) {file : String} (hplain : Path.IsPlain file) :
    (Path.join path file).endsWith "/" = false := by
  rw [Bool.eq_false_iff, Ne, Path.endsWith_iff, Path.toList_join]
  intro hslash
  have hfile : file.toList ≠ [] := by
    intro hnil
    exact hplain.ne_empty (String.toList_eq_nil_iff.mp hnil)
  have hlast : file.toList.getLast hfile = '/' := by
    rw [← List.getLast_append_of_ne_nil (by simp [hfile]) hfile]
    exact (hslash.getLast (by simp)).symm
  exact hplain.noSlash (hlast ▸ List.getLast_mem hfile)

/-! ## A directory in a tree -/

/-- What the directory at a place holds; nothing while the place is missing. -/
def HoldsAt (places : List String) (tree : FileTree) : Option Directory → Prop
  | none => tree.at? places = .error .notFound
  | some held => ∃ entries : Entries FileTree, tree.at? places = .ok (directory entries) ∧
      entries.Ascending ∧ ∀ file, entries.get? file = (held file).map FileTree.file

section

variable {root file : String} {tree : FileTree}

theorem readText_join (hroot : LeadsDown root) (hplain : Path.IsPlain file) (hfile : Fits file)
    {directory : Option Directory} (hholds : HoldsAt (Path.components root) tree directory) :
    tree.readText (Path.join root file) =
      match directory.bind fun held => held file with
      | some text => .ok text
      | none => .error .notFound := by
  rw [readText, (hroot.join hplain hfile).resolve, Path.components_join root hplain,
    endsWith_join root hplain]
  change (tree.at? (Path.components root ++ [file]) >>= _) = _
  rw [at?_append]
  cases directory with
  | none =>
      rw [show tree.at? _ = _ from hholds]
      rfl
  | some held =>
      obtain ⟨entries, hfound, -, hentries⟩ := hholds
      simp only [hfound, at?, child_directory hfile, hentries, Option.bind_some]
      cases held file <;> rfl

theorem exists_createDirectory (hroot : LeadsDown root) {directory : Option Directory}
    (hholds : HoldsAt (Path.components root) tree directory) :
    ∃ after, tree.createDirectory root = .ok after ∧
      HoldsAt (Path.components root) after (some (directory.getD Directory.empty)) := by
  have hfits : ∀ name ∈ Path.components root, Fits name := fun name hname =>
    (hroot.down name hname).2
  rw [createDirectory, hroot.resolve]
  cases directory with
  | none =>
      obtain ⟨after, hmade, hafter⟩ := exists_makeDirectory hfits (Or.inr ⟨hholds, rfl⟩)
      exact ⟨after, hmade, [], hafter, List.Pairwise.nil, fun _ => rfl⟩
  | some held =>
      obtain ⟨entries, hfound, hentries⟩ := hholds
      obtain ⟨after, hmade, hafter⟩ := exists_makeDirectory hfits (Or.inl hfound)
      exact ⟨after, hmade, entries, hafter, hentries⟩

theorem exists_writeText (hroot : LeadsDown root) (hplain : Path.IsPlain file) (hfile : Fits file)
    {held : Directory} (hholds : HoldsAt (Path.components root) tree (some held)) (text : String) :
    ∃ after, tree.writeText (Path.join root file) text = .ok after ∧
      HoldsAt (Path.components root) after (some (held.write file text)) := by
  obtain ⟨entries, hfound, hascending, hentries⟩ := hholds
  have hfree : ∀ inner ∈ Entries.get? entries file, ∃ held, inner = .file held := by
    intro inner hinner
    rw [hentries, Option.mem_def, Option.map_eq_some_iff] at hinner
    obtain ⟨old, -, rfl⟩ := hinner
    exact ⟨old, rfl⟩
  obtain ⟨after, hwritten, hafter⟩ := exists_write
    (fun name hname => (hroot.down name hname).2) hfile hfound hfree text
  rw [writeText, (hroot.join hplain hfile).resolve, Path.components_join root hplain]
  refine ⟨after, hwritten, _, hafter, Entries.ascending_insert hascending file _, fun other => ?_⟩
  rw [Entries.get?_insert, hentries, Directory.write, Function.update_apply]
  split <;> rfl

end

/-- A place in a tree of files keeps a map, for the names that its directories take. -/
theorem keepsMap {root : String} (hroot : LeadsDown root) :
    Disk.ofTree.KeepsMap root Fits (HoldsAt (Path.components root)) where
  readText := by
    intro tree directory file hholds hplain hfile
    exact congrArg (fun answer => (answer, tree)) (readText_join hroot hplain hfile hholds)
  createDirectory := by
    intro tree directory hholds
    obtain ⟨after, hmade, hafter⟩ := exists_createDirectory hroot hholds
    refine ⟨after, ?_, hafter⟩
    change commit (fun tree => tree.createDirectory root) tree = _
    rw [commit, hmade]
  writeText := by
    intro tree held file hholds hplain hfile text
    obtain ⟨after, hwritten, hafter⟩ := exists_writeText hroot hplain hfile hholds text
    refine ⟨after, ?_, hafter⟩
    change commit (fun tree => tree.writeText _ text) tree = _
    rw [commit, hwritten]
  entryNames_missing := by
    intro tree hholds
    have hnames : tree.entryNames root = .error .notFound := by
      rw [FileTree.entryNames, hroot.resolve]
      change (tree.at? (Path.components root) >>= _) = _
      rw [show tree.at? _ = _ from hholds]
      rfl
    exact congrArg (fun answer => (answer, tree)) hnames
  entryNames := by
    intro tree held hholds
    obtain ⟨entries, hfound, hascending, hentries⟩ := hholds
    have hnames : tree.entryNames root = .ok (entries.map Prod.fst) := by
      rw [FileTree.entryNames, hroot.resolve]
      change (tree.at? (Path.components root) >>= _) = _
      rw [hfound]
      rfl
    refine ⟨entries.map Prod.fst, congrArg (fun answer => (answer, tree)) hnames,
      hascending.nodup_keys, fun file => ?_⟩
    rw [← not_iff_not, ← Entries.get?_eq_none_iff, hentries, Option.map_eq_none_iff]
    simp

end FileTree

end Forms
