import Forms.CommandLine.Program
import Forms.Proofs.Files.Keeping
import Forms.Proofs.Files.Places

/-!
# Names derived from files

A store lists its files by their stems, and the command line takes the stem of the file it is given.
Such a name leads back to its file, in the listed directory as well as in the directory that is left
of the path.  The store does not take every stem, though: it refuses names that are hidden or hold a
backslash.
-/

namespace Forms

theorem Path.fileName?_join (root : String) {file : String} (hplain : IsPlain file) :
    fileName? (join root file) = some file := by
  rw [fileName?, components_join root hplain, List.getLast?_concat]
  exact if_neg hplain.ne_above

namespace SchemaStore

/-- A file that keeps a schema is named for it. -/
theorem exists_fileOf {file : String} (hplain : Path.IsPlain file)
    (hextension : Path.extension? file = some extension) :
    ∃ name, fileOf name = file ∧ name ≠ "" ∧ '/' ∉ name.toList := by
  have hfile : Path.fileName? file = some file := Path.fileName?_join "" hplain
  rw [Path.extension?, hfile, Option.bind_some] at hextension
  obtain ⟨hsplit, hname⟩ := Path.eq_of_splitName (Prod.ext rfl hextension)
  refine ⟨_, hsplit.symm, hname, fun hslash => hplain.noSlash ?_⟩
  rw [hsplit, String.toList_append, String.toList_append, List.append_assoc]
  exact List.mem_append_left _ hslash

variable {State : Type}

/-- Every file that keeps a schema is listed by the name of the schema. -/
theorem mem_list {disk : Disk (StateM State)} {root : String} {state after : State}
    {files : List String} (hfiles : disk.entryNames root state = (.ok files, after))
    {file name : String} (hfile : file ∈ files) (hname : nameOfFile? file = some name) :
    ∃ names, list disk ⟨root⟩ state = (.ok names, after) ∧ name ∈ names := by
  refine ⟨(files.filterMap nameOfFile?).mergeSort (· ≤ ·), ?_, ?_⟩
  · rw [list, bind_of_eq hfiles]
    rfl
  · rw [List.mem_mergeSort, List.mem_filterMap]
    exact ⟨file, hfile, hname⟩

/-- The command line looks for the schema where its file is. -/
theorem exists_storeOf (root : String) {name : String} (hname : name ≠ "")
    (hplain : Path.IsPlain (fileOf name)) :
    ∃ store, CommandLine.storeOf (Path.join root (fileOf name)) = .ok (store, name) ∧
      Path.SamePlace (store.path name) (Path.join root (fileOf name)) := by
  have hfile := Path.fileName?_join root hplain
  have hsplit : Path.splitName (fileOf name) = (name, some extension) :=
    Path.splitName_append hname (by decide)
  refine ⟨⟨Path.directory _⟩, ?_, Path.samePlace_join_directory hfile⟩
  rw [CommandLine.storeOf, Path.extension?, Path.stem?, hfile, Option.bind_some, Option.map_some,
    hsplit, if_neg (not_not_intro rfl)]
  rfl

/-- What loading makes of the file of a schema. -/
def loaded (name path : String) : Except SystemError String → Outcome Schema
  | .ok text => Schema.ofText text
  | .error error => .error (readFailure name path error)

theorem load_of_not_refuses (disk : Disk (StateM State)) (store : SchemaStore) {name : String}
    (hname : ¬Refuses name) (state : State) :
    store.load disk name state =
      (loaded name (store.path (Unicode.trim name))
        (disk.readText (store.path (Unicode.trim name)) state).1,
        (disk.readText (store.path (Unicode.trim name)) state).2) := by
  rw [load, fileStem_of_not_refuses hname]
  cases hread : disk.readText (store.path (Unicode.trim name)) state with
  | mk answer after =>
      change (disk.readText (store.path _) >>= _) state = _
      rw [bind_of_eq hread]
      cases answer <;> rfl

theorem load_of_refuses (disk : Disk (StateM State)) (store : SchemaStore) {name : String}
    (hname : Refuses name) :
    ∃ failure, failure.kind = .validation ∧
      ∀ state, store.load disk name state = (.error failure, state) := by
  obtain ⟨failure, hfailure, hkind⟩ := fileStem_of_refuses hname
  refine ⟨failure, hkind, fun state => ?_⟩
  rw [load, hfailure]
  rfl

/-- A name that begins with a point, or holds a backslash. -/
def IsReserved (name : String) : Prop := name.toList.head? = some '.' ∨ '\\' ∈ name.toList

instance (name : String) : Decidable (IsReserved name) := inferInstanceAs (Decidable (_ ∨ _))

/-- The name of a file that keeps a schema is refused exactly when it is reserved, unless there
are blanks at its ends. -/
theorem refuses_iff_isReserved {name : String} (htrim : Unicode.trim name = name)
    (hname : name ≠ "") (hslash : '/' ∉ name.toList) : Refuses name ↔ IsReserved name := by
  rw [Refuses, ← Unicode.trim_eq_empty_iff, htrim, IsReserved]
  simp only [hname, hslash, false_or]

/-- The name that is derived from a file leads back to it. -/
theorem derived_leads_back (disk : Disk (StateM State)) {root file : String}
    (hplain : Path.IsPlain file) (hextension : Path.extension? file = some extension) :
    ∃ name, Path.stem? file = some name ∧
      (∀ state files after, disk.entryNames root state = (.ok files, after) → file ∈ files →
        ∃ names, list disk ⟨root⟩ state = (.ok names, after) ∧ name ∈ names) ∧
      (∃ store, CommandLine.storeOf (Path.join root file) = .ok (store, name) ∧
        Path.SamePlace (store.path name) (Path.join root file) ∧
        ∀ tree : FileTree,
          tree.readText (store.path name) = tree.readText (Path.join root file)) ∧
      path ⟨root⟩ name = Path.join root file ∧
      (Unicode.trim name = name → ∀ store : SchemaStore,
        if IsReserved name then
          ∃ failure, failure.kind = .validation ∧
            ∀ state, store.load disk name state = (.error failure, state)
        else
          ∀ state, store.load disk name state =
            (loaded name (store.path name) (disk.readText (store.path name) state).1,
              (disk.readText (store.path name) state).2)) := by
  obtain ⟨name, rfl, hname, hslash⟩ := exists_fileOf hplain hextension
  have hderived := nameOfFile?_fileOf hslash hname
  have hstem : Path.stem? (fileOf name) = some name := by
    rwa [nameOfFile?, if_pos hextension] at hderived
  refine ⟨name, hstem, fun state files after hfiles hfile => mem_list hfiles hfile hderived, ?_,
    rfl, fun htrim store => ?_⟩
  · obtain ⟨store, hstore, hplace⟩ := exists_storeOf root hname hplain
    have hparts : Path.components (Path.join root (fileOf name)) ≠ [] := by
      rw [Path.components_join root hplain]
      exact List.concat_ne_nil _ _
    exact ⟨store, hstore, hplace, FileTree.readText_congr hplace hparts
      (FileTree.endsWith_join _ hplain) (FileTree.endsWith_join _ hplain)⟩
  · have hrefuses := refuses_iff_isReserved htrim hname hslash
    split
    · rename_i hreserved
      exact load_of_refuses disk store (hrefuses.mpr hreserved)
    · rename_i hfree
      have hload := load_of_not_refuses disk store (mt hrefuses.mp hfree)
      rwa [htrim] at hload

/-- A directory with one schema. -/
def formsTree (file : String) : FileTree :=
  .directory [("forms", .directory [(file, .file "\x7b\x7d")])]

theorem holdsAt_formsTree (file : String) :
    FileTree.HoldsAt (Path.components "forms") (formsTree file)
      (some (Directory.empty.write file "\x7b\x7d")) := by
  refine ⟨[(file, .file "\x7b\x7d")], rfl, List.pairwise_singleton _ _, fun wanted => ?_⟩
  rw [Directory.write, Function.update_apply, Entries.get?_cons]
  split <;> rfl

theorem keepsMap_forms :
    Disk.ofTree.KeepsMap "forms" FileTree.Fits (FileTree.HoldsAt (Path.components "forms")) :=
  FileTree.keepsMap (.of_isPlain ⟨by decide, by decide, by decide, by decide⟩ (by decide))

theorem exists_entryNames_formsTree (file : String) :
    ∃ files, Disk.ofTree.entryNames "forms" (formsTree file) = (.ok files, formsTree file) ∧
      file ∈ files := by
  obtain ⟨files, hfiles, -, hmem⟩ := keepsMap_forms.entryNames (holdsAt_formsTree file)
  refine ⟨files, hfiles, (hmem file).mpr ?_⟩
  rw [Directory.write, Function.update_self]
  rfl

theorem derived_leads_back_survey :
    ∃ names store, list Disk.ofTree ⟨"forms"⟩ (formsTree "survey.json") =
        (.ok names, formsTree "survey.json") ∧ "survey" ∈ names ∧
      CommandLine.storeOf (Path.join "forms" "survey.json") = .ok (store, "survey") ∧
      (store.load Disk.ofTree "survey" (formsTree "survey.json")).1 = Schema.ofText "\x7b\x7d" := by
  have hplain : Path.IsPlain "survey.json" := ⟨by decide, by decide, by decide, by decide⟩
  obtain ⟨name, hname, hlist, ⟨store, hstore, -, hread⟩, -, hload⟩ :=
    derived_leads_back Disk.ofTree hplain (by decide)
  obtain rfl : "survey" = name := Option.some.inj hname
  obtain ⟨files, hfiles, hfile⟩ := exists_entryNames_formsTree "survey.json"
  obtain ⟨names, hnames, hlisted⟩ := hlist _ files _ hfiles hfile
  have htext := keepsMap_forms.readText (holdsAt_formsTree "survey.json") hplain (by decide)
  have hsurvey := hload (by decide) store
  rw [if_neg (by decide)] at hsurvey
  refine ⟨names, store, hnames, hlisted, hstore, ?_⟩
  rw [hsurvey]
  change loaded _ _ ((formsTree "survey.json").readText _) = _
  rw [hread, show (formsTree "survey.json").readText _ = _ from congrArg Prod.fst htext]
  rfl

/-- A hidden file is listed under a name that is refused. -/
theorem not_derived_leads_back :
    ¬ ∀ (tree : FileTree) (root : String) (names : List String),
      (list Disk.ofTree ⟨root⟩ tree).1 = .ok names →
        ∀ name ∈ names, ∀ failure,
          (load Disk.ofTree ⟨root⟩ name tree).1 = .error failure → failure.kind ≠ .validation := by
  intro haccepted
  obtain ⟨files, hfiles, hfile⟩ := exists_entryNames_formsTree ".draft.json"
  have hderived : nameOfFile? ".draft.json" = some ".draft" := by decide
  obtain ⟨names, hnames, hlisted⟩ := mem_list hfiles hfile hderived
  obtain ⟨failure, hkind, hload⟩ :=
    load_of_refuses Disk.ofTree ⟨"forms"⟩ (show Refuses ".draft" by decide)
  exact haccepted _ "forms" names (congrArg Prod.fst hnames) ".draft" hlisted failure
    (congrArg Prod.fst (hload _)) hkind

end SchemaStore

end Forms
