import Forms.Proofs.Export
import Forms.Proofs.Files.Directory
import Mathlib.Data.List.Dedup
import Mathlib.Data.List.Sort
import Mathlib.Data.String.Basic

/-!
# Schemas kept by name

A store on a disk that keeps a map answers like a map from names to schemas.  Names count without
the blanks at their ends, and some are refused before the disk is asked.  The file of a name holds
the text of the schema saved last under it, and the file names without their extension are the names
that were saved.  The text is read back as the schema where its numbers come back from their printed
form; a double that is rounded when it is read comes back as another one.
-/

namespace Forms

open scoped List

/-- What may be asked of a store. -/
inductive StoreCommand where
  | save (name : String) (schema : Schema)
  | load (name : String)
  | list

/-- What a store answers; of a failure it is the kind that counts. -/
inductive StoreAnswer where
  | saved
  | loaded (schema : Schema)
  | listed (names : List String)
  | failed (kind : FailureKind)

def StoreAnswer.ofOutcome {α : Type} (answer : α → StoreAnswer) : Outcome α → StoreAnswer
  | .ok value => answer value
  | .error failure => .failed failure.kind

namespace StoreCommand

open SchemaStore

/-- The name that a command is about. -/
def name? : StoreCommand → Option String
  | .save name _ | .load name => some name
  | .list => none

/-- What a command saves, and under which name. -/
def saved? : StoreCommand → Option (String × Schema)
  | .save name schema =>
    if Refuses name then none else some (Unicode.trim name, schema)
  | .load _ | .list => none

/-- What is saved is a schema that can be come by, whose text does not nest too deep to be read, and
the disk takes the names of the files that are asked for. -/
def Admissible (Fits : String → Prop) : StoreCommand → Prop
  | .save name schema =>
    schema.Obtained ∧ schema.toJson.depth ≤ Decode.textDepth ∧
      (¬Refuses name → Fits (fileOf (Unicode.trim name)))
  | .load name => ¬Refuses name → Fits (fileOf (Unicode.trim name))
  | .list => True

end StoreCommand

namespace SchemaStore

variable {m : Type → Type} [Monad m]

def perform (disk : Disk m) (store : SchemaStore) : StoreCommand → m StoreAnswer
  | .save name schema => StoreAnswer.ofOutcome (fun _ => .saved) <$> store.save disk name schema
  | .load name => StoreAnswer.ofOutcome .loaded <$> store.load disk name
  | .list => StoreAnswer.ofOutcome .listed <$> store.list disk

def performAll (disk : Disk m) (store : SchemaStore) (commands : List StoreCommand) :
    m (List StoreAnswer) := commands.mapM (store.perform disk)

/-! ## The map that a store stands for -/

def savedIn (history : List StoreCommand) : List (String × Schema) :=
  history.filterMap StoreCommand.saved?

/-- The schema saved last under a name. -/
def lastSaved? (history : List StoreCommand) (stem : String) : Option Schema :=
  (savedIn history).reverse.lookup stem

/-- The names that schemas were saved under, each once. -/
def stemsIn (history : List StoreCommand) : List String := ((savedIn history).map Prod.fst).dedup

/-- The names that schemas were saved under, in ascending order. -/
def savedNames (history : List StoreCommand) : List String :=
  (stemsIn history).mergeSort (· ≤ ·)

/-- What is to be answered after a history of commands, when this is what becomes of a schema that
was saved. -/
def answerAfter (reread : Schema → Outcome Schema) (history : List StoreCommand) :
    StoreCommand → StoreAnswer
  | .save name _ => if Refuses name then .failed .validation else .saved
  | .load name =>
    if Refuses name then .failed .validation
    else
      match lastSaved? history (Unicode.trim name) with
      | some schema => .ofOutcome .loaded (reread schema)
      | none => .failed .notFound
  | .list => .listed (savedNames history)

def answersAfter (reread : Schema → Outcome Schema) (history : List StoreCommand) :
    List StoreCommand → List StoreAnswer
  | [] => []
  | command :: commands =>
    answerAfter reread history command :: answersAfter reread (history ++ [command]) commands

/-- The directory holds what was saved: it is missing until something is, and then it has one file
for each name, with the text of the schema saved last. -/
structure Mirrors (history : List StoreCommand) (directory : Option Directory) : Prop where
  made : directory.isSome = true ↔ savedIn history ≠ []
  files : ∀ stem, directory.bind (fun held => held (fileOf stem)) =
    (lastSaved? history stem).map Schema.text
  others : ∀ file, (directory.bind fun held => held file).isSome = true →
    ∃ stem, (lastSaved? history stem).isSome = true ∧ file = fileOf stem

variable {history : List StoreCommand} {directory : Option Directory}

theorem savedIn_append (first second : List StoreCommand) :
    savedIn (first ++ second) = savedIn first ++ savedIn second := List.filterMap_append

theorem lastSaved?_append_save (history : List StoreCommand) {name : String}
    (hname : ¬Refuses name) (schema : Schema) (stem : String) :
    lastSaved? (history ++ [.save name schema]) stem =
      if stem = Unicode.trim name then some schema else lastSaved? history stem := by
  have hsaved : savedIn [.save name schema] = [(Unicode.trim name, schema)] := by
    simp [savedIn, StoreCommand.saved?, hname]
  rw [lastSaved?, savedIn_append, hsaved, List.reverse_append]
  exact Entries.get?_cons (Unicode.trim name) stem schema _

theorem mem_savedIn_of_lastSaved? {stem : String} {schema : Schema}
    (hlast : lastSaved? history stem = some schema) : (stem, schema) ∈ savedIn history :=
  List.mem_reverse.mp (Entries.mem_of_get?_eq_some hlast)

theorem isSome_lastSaved?_iff (history : List StoreCommand) (stem : String) :
    (lastSaved? history stem).isSome = true ↔ stem ∈ stemsIn history := by
  have hnone : lastSaved? history stem = none ↔ stem ∉ (savedIn history).reverse.map Prod.fst :=
    Entries.get?_eq_none_iff
  rw [← not_iff_not, Bool.not_eq_true, Option.isSome_eq_false_iff, Option.isNone_iff_eq_none,
    hnone, List.map_reverse, List.mem_reverse, stemsIn, List.mem_dedup]

/-- A name that something was saved under is one that is not refused. -/
theorem exists_save_of_mem_savedIn {stem : String} {schema : Schema}
    (hsaved : (stem, schema) ∈ savedIn history) :
    ∃ name, ¬Refuses name ∧ Unicode.trim name = stem ∧ .save name schema ∈ history := by
  obtain ⟨command, hcommand, heq⟩ := List.mem_filterMap.mp hsaved
  cases command with
  | save name other =>
      rw [StoreCommand.saved?, Option.ite_none_left_eq_some] at heq
      obtain ⟨hname, heq⟩ := heq
      cases heq
      exact ⟨name, hname, rfl, hcommand⟩
  | load | list => cases heq

/-- Only what becomes of the saved schemas counts. -/
theorem answersAfter_congr {reread other : Schema → Outcome Schema} {commands : List StoreCommand}
    (hsame : ∀ {name schema}, .save name schema ∈ history ++ commands →
      reread schema = other schema) :
    answersAfter reread history commands = answersAfter other history commands := by
  induction commands generalizing history with
  | nil => rfl
  | cons command commands ih =>
      have hanswer : answerAfter reread history command = answerAfter other history command := by
        cases command with
        | save | list => rfl
        | load name =>
            rw [answerAfter, answerAfter]
            cases hlast : lastSaved? history (Unicode.trim name) with
            | none => rfl
            | some schema =>
                obtain ⟨saved, -, -, hsaved⟩ :=
                  exists_save_of_mem_savedIn (mem_savedIn_of_lastSaved? hlast)
                have hreread := hsame (List.mem_append_left _ hsaved)
                simp only [hreread]
      rw [answersAfter, answersAfter, hanswer, ih]
      intro name schema hsaved
      rw [List.append_assoc] at hsaved
      exact hsame hsaved

theorem filterMap_nameOfFile?_stemsIn (history : List StoreCommand) :
    ((stemsIn history).map fileOf).filterMap nameOfFile? = stemsIn history := by
  have hname : ∀ stem ∈ stemsIn history, (nameOfFile? ∘ fileOf) stem = some stem := by
    intro stem hstem
    rw [stemsIn, List.mem_dedup, List.mem_map] at hstem
    obtain ⟨⟨_, schema⟩, hsaved, rfl⟩ := hstem
    obtain ⟨name, hname, rfl, -⟩ := exists_save_of_mem_savedIn hsaved
    rw [Function.comp_apply, nameOfFile?_of_not_refuses hname]
  rw [List.filterMap_map, List.filterMap_congr hname, List.filterMap_some]

namespace Mirrors

theorem nil : Mirrors [] none where
  made := by simp [savedIn]
  files _ := rfl
  others _ h := by cases h

/-- What saves nothing leaves the directory as it is. -/
theorem append (h : Mirrors history directory) {command : StoreCommand}
    (hcommand : command.saved? = none) : Mirrors (history ++ [command]) directory := by
  have hsaved : savedIn (history ++ [command]) = savedIn history := by
    rw [savedIn_append, savedIn, savedIn, List.filterMap_cons, hcommand, List.filterMap_nil,
      List.append_nil]
  have hlast : lastSaved? (history ++ [command]) = lastSaved? history := by
    funext stem
    rw [lastSaved?, lastSaved?, hsaved]
  constructor
  · rw [hsaved]
    exact h.made
  · rw [hlast]
    exact h.files
  · rw [hlast]
    exact h.others

theorem save (h : Mirrors history directory) {name : String} (hname : ¬Refuses name)
    (schema : Schema) :
    Mirrors (history ++ [.save name schema])
      (some ((directory.getD Directory.empty).write (fileOf (Unicode.trim name)) schema.text)) := by
  have hheld : ∀ file,
      directory.getD Directory.empty file = directory.bind fun held => held file := by
    intro file
    cases directory <;> rfl
  constructor
  · rw [savedIn_append]
    simp [savedIn, StoreCommand.saved?, hname]
  · intro stem
    rw [Option.bind_some, Directory.write, Function.update_apply, hheld, h.files,
      lastSaved?_append_save history hname]
    by_cases hstem : stem = Unicode.trim name
    · rw [if_pos (congrArg fileOf hstem), if_pos hstem]
      rfl
    · rw [if_neg fun heq => hstem (fileOf_injective heq), if_neg hstem]
  · intro file hfile
    rw [Option.bind_some, Directory.write, Function.update_apply, hheld] at hfile
    by_cases hsame : file = fileOf (Unicode.trim name)
    · refine ⟨Unicode.trim name, ?_, hsame⟩
      rw [lastSaved?_append_save history hname, if_pos rfl]
      rfl
    · rw [if_neg hsame] at hfile
      obtain ⟨stem, hstem, rfl⟩ := h.others file hfile
      refine ⟨stem, ?_, rfl⟩
      rw [lastSaved?_append_save history hname]
      split
      · rfl
      · exact hstem

theorem perm_files {held : Directory} (h : Mirrors history (some held)) {files : List String}
    (hnodup : files.Nodup) (hfiles : ∀ file, file ∈ files ↔ (held file).isSome = true) :
    files ~ (stemsIn history).map fileOf := by
  have hstems : ((stemsIn history).map fileOf).Nodup := (List.nodup_dedup _).map fileOf_injective
  apply (List.perm_ext_iff_of_nodup hnodup hstems).mpr
  intro file
  rw [hfiles, List.mem_map]
  constructor
  · intro hheld
    obtain ⟨stem, hstem, rfl⟩ := h.others file hheld
    exact ⟨stem, (isSome_lastSaved?_iff history stem).mp hstem, rfl⟩
  · rintro ⟨stem, hstem, rfl⟩
    have hfile := h.files stem
    rw [Option.bind_some] at hfile
    rw [hfile, Option.isSome_map]
    exact (isSome_lastSaved?_iff history stem).mpr hstem

/-- The names of the files, without their extension and in order, are the names that were saved. -/
theorem mergeSort_filterMap_nameOfFile? {held : Directory} (h : Mirrors history (some held))
    {files : List String} (hnodup : files.Nodup)
    (hfiles : ∀ file, file ∈ files ↔ (held file).isSome = true) :
    (files.filterMap nameOfFile?).mergeSort (· ≤ ·) = savedNames history := by
  apply List.Perm.eq_of_sortedLE List.sortedLE_mergeSort List.sortedLE_mergeSort
  calc
    (files.filterMap nameOfFile?).mergeSort (· ≤ ·) ~ files.filterMap nameOfFile? :=
      List.mergeSort_perm ..
    _ ~ ((stemsIn history).map fileOf).filterMap nameOfFile? :=
      (h.perm_files hnodup hfiles).filterMap nameOfFile?
    _ ~ stemsIn history := .of_eq (filterMap_nameOfFile?_stemsIn history)
    _ ~ savedNames history := (List.mergeSort_perm ..).symm

end Mirrors

/-! ## One command -/

/-- A refused name never reaches the disk. -/
theorem perform_of_refuses [LawfulMonad m] (disk : Disk m) (store : SchemaStore)
    {command : StoreCommand} {name : String} (hcommand : command.name? = some name)
    (hname : Refuses name) :
    store.perform disk command = pure (.failed .validation) := by
  obtain ⟨failure, hfailure, hkind⟩ := fileStem_of_refuses hname
  cases command with
  | save _ schema =>
      cases hcommand
      rw [perform, save, hfailure, ← hkind]
      exact map_pure ..
  | load _ =>
      cases hcommand
      rw [perform, load, hfailure, ← hkind]
      exact map_pure ..
  | list => cases hcommand

theorem bind_of_eq {State α β : Type} {first : StateM State α} {next : α → StateM State β}
    {state after : State} {value : α} (hfirst : first state = (value, after)) :
    (first >>= next) state = next value after := by
  change (match first state with | (value, after) => next value after) = _
  rw [hfirst]

section

variable {State : Type} {disk : Disk (StateM State)} {store : SchemaStore} {Fits : String → Prop}
  {Holds : State → Option Directory → Prop} {state : State} {name : String}

theorem load_eq (hdisk : disk.KeepsMap store.root Fits Holds) (hholds : Holds state directory)
    (hname : ¬Refuses name) (hfits : Fits (fileOf (Unicode.trim name))) :
    store.load disk name state =
      (match directory.bind fun held => held (fileOf (Unicode.trim name)) with
        | some text => Schema.ofText text
        | none => .error (.schemaNotFound name), state) := by
  have hread := hdisk.readText hholds (isPlain_of_not_refuses hname) hfits
  rw [← path_eq] at hread
  rw [load, fileStem_of_not_refuses hname]
  change (disk.readText (store.path _) >>= _) state = _
  rw [bind_of_eq hread]
  cases directory.bind fun held => held (fileOf (Unicode.trim name)) <;> rfl

theorem exists_save (hdisk : disk.KeepsMap store.root Fits Holds) (hholds : Holds state directory)
    (hname : ¬Refuses name) (hfits : Fits (fileOf (Unicode.trim name))) (schema : Schema) :
    ∃ made after, disk.createDirectory store.root state = (.ok (), made) ∧
      disk.writeText (store.path (Unicode.trim name)) schema.text made = (.ok (), after) ∧
      store.save disk name schema state = (.ok (), after) ∧
      Holds after (some
        ((directory.getD Directory.empty).write (fileOf (Unicode.trim name)) schema.text)) := by
  obtain ⟨made, hmade, hempty⟩ := hdisk.createDirectory hholds
  obtain ⟨after, hwritten, hafter⟩ :=
    hdisk.writeText hempty (isPlain_of_not_refuses hname) hfits schema.text
  rw [← path_eq] at hwritten
  refine ⟨made, after, hmade, hwritten, ?_, hafter⟩
  rw [save, fileStem_of_not_refuses hname]
  change (disk.createDirectory store.root >>= _) state = _
  rw [bind_of_eq hmade]
  change (disk.writeText (store.path _) schema.text >>= _) made = _
  rw [bind_of_eq hwritten]
  rfl

theorem list_eq (hdisk : disk.KeepsMap store.root Fits Holds) (hholds : Holds state directory)
    (hmirrors : Mirrors history directory) :
    store.list disk state = (.ok (savedNames history), state) := by
  rw [list]
  cases directory with
  | none =>
      have hsaved : savedIn history = [] := by
        by_contra hsome
        cases hmirrors.made.mpr hsome
      rw [bind_of_eq (hdisk.entryNames_missing hholds), savedNames, stemsIn, hsaved,
        List.map_nil, List.dedup_nil, List.mergeSort_nil]
      rfl
  | some held =>
      obtain ⟨files, hlisted, hnodup, hfiles⟩ := hdisk.entryNames hholds
      rw [bind_of_eq hlisted, ← hmirrors.mergeSort_filterMap_nameOfFile? hnodup hfiles]
      rfl

/-- A command is answered as the map that the history left tells, and leaves the map after it. -/
theorem exists_perform (hdisk : disk.KeepsMap store.root Fits Holds)
    (hholds : Holds state directory) (hmirrors : Mirrors history directory)
    {command : StoreCommand} (hcommand : command.Admissible Fits) :
    ∃ after left,
      store.perform disk command state =
        (answerAfter (fun schema => Schema.ofText schema.text) history command, after) ∧
      Holds after left ∧ Mirrors (history ++ [command]) left := by
  cases command with
  | save name schema =>
      by_cases hname : Refuses name
      · refine ⟨state, directory, ?_, hholds, hmirrors.append (if_pos hname)⟩
        rw [perform_of_refuses disk store rfl hname, answerAfter, if_pos hname]
        rfl
      · obtain ⟨-, after, -, -, hsave, hafter⟩ :=
          exists_save hdisk hholds hname (hcommand.2.2 hname) schema
        refine ⟨after, _, ?_, hafter, hmirrors.save hname schema⟩
        rw [answerAfter, if_neg hname, perform, map_eq_pure_bind, bind_of_eq hsave]
        rfl
  | load name =>
      refine ⟨state, directory, ?_, hholds, hmirrors.append rfl⟩
      by_cases hname : Refuses name
      · rw [perform_of_refuses disk store rfl hname, answerAfter, if_pos hname]
        rfl
      · rw [answerAfter, if_neg hname, perform, map_eq_pure_bind,
          bind_of_eq (load_eq hdisk hholds hname (hcommand hname)), hmirrors.files]
        cases lastSaved? history (Unicode.trim name) <;> rfl
  | list =>
      refine ⟨state, directory, ?_, hholds, hmirrors.append rfl⟩
      rw [perform, map_eq_pure_bind, bind_of_eq (list_eq hdisk hholds hmirrors)]
      rfl

/-! ## Runs -/

/-- The commands still to come are answered as the map tells that the history left. -/
theorem exists_performAll (hdisk : disk.KeepsMap store.root Fits Holds)
    (hholds : Holds state directory) (hmirrors : Mirrors history directory)
    {commands : List StoreCommand} (hcommands : ∀ command ∈ commands, command.Admissible Fits) :
    ∃ after left,
      store.performAll disk commands state =
        (answersAfter (fun schema => Schema.ofText schema.text) history commands, after) ∧
      Holds after left ∧ Mirrors (history ++ commands) left := by
  induction commands generalizing history state directory with
  | nil =>
      rw [List.append_nil]
      exact ⟨state, directory, rfl, hholds, hmirrors⟩
  | cons command commands ih =>
      rw [List.forall_mem_cons] at hcommands
      obtain ⟨between, held, hperform, hbetween, hheld⟩ :=
        exists_perform hdisk hholds hmirrors hcommands.1
      obtain ⟨after, left, hrest, hafter, hleft⟩ := ih hbetween hheld hcommands.2
      refine ⟨after, left, ?_, hafter, by rwa [List.append_assoc] at hleft⟩
      rw [performAll, List.mapM_cons, bind_of_eq hperform]
      change (store.performAll disk commands >>= _) between = _
      rw [bind_of_eq hrest]
      rfl

end

/-- A run of commands on a store, seen from outside as a map from names to schemas. -/
structure RefinesMap {State : Type} (disk : Disk (StateM State)) (store : SchemaStore)
    (Fits : String → Prop) (Holds : State → Option Directory → Prop) (start : State)
    (commands : List StoreCommand) : Prop where
  /-- What is loaded is what the text of the schema saved last is read as. -/
  answers : (store.performAll disk commands start).1 =
    answersAfter (fun schema => Schema.ofText schema.text) [] commands
  /-- The text of a saved schema is read with its numbers read anew. -/
  rereads : ∀ {name schema}, .save name schema ∈ commands →
    Schema.ofText schema.text =
      schema.toJson.reread?.elim (.error .malformedText) fun value =>
        (Schema.decode .text value).mapError .unreadable
  /-- A saved schema whose numbers come back is loaded as it was saved. -/
  returns : ∀ {name schema}, .save name schema ∈ commands → schema.toJson.ReadsBack →
    Schema.ofText schema.text = .ok schema
  /-- The store is the map when the numbers of all that is saved come back. -/
  faithful : (∀ {name schema}, .save name schema ∈ commands → schema.toJson.ReadsBack) →
    (store.performAll disk commands start).1 = answersAfter .ok [] commands
  kept : ∃ directory, Holds (store.performAll disk commands start).2 directory ∧
    Mirrors commands directory
  /-- A command with a refused name asks nothing of the disk. -/
  refused : ∀ {command name}, command.name? = some name → Refuses name →
    store.perform disk command = pure (.failed .validation)
  beneath : ∀ {name}, ¬Refuses name → Path.components (store.path (Unicode.trim name)) =
    Path.components store.root ++ [Unicode.trim name ++ ".json"]
  /-- Loading reads the one file of the name, in whatever state the disk is. -/
  reads : ∀ {state directory name}, Holds state directory → ¬Refuses name →
    Fits (Unicode.trim name ++ ".json") →
    store.load disk name state =
      (match directory.bind fun held => held (Unicode.trim name ++ ".json") with
        | some text => Schema.ofText text
        | none => .error (.schemaNotFound name), state)
  /-- Saving makes the directory and writes the one file of the name, and that is all. -/
  writes : ∀ {state directory name}, Holds state directory → ¬Refuses name →
    Fits (Unicode.trim name ++ ".json") → ∀ schema,
    ∃ made after, disk.createDirectory store.root state = (.ok (), made) ∧
      disk.writeText (store.path (Unicode.trim name)) schema.text made = (.ok (), after) ∧
      store.save disk name schema state = (.ok (), after) ∧
      Holds after (some
        ((directory.getD Directory.empty).write (Unicode.trim name ++ ".json") schema.text))

/-- A store on a disk that keeps a map refines a map from names to schemas, whatever is saved,
loaded and listed, up to what reading makes of the numbers in a schema. -/
theorem performAll_refinesMap {State : Type} {disk : Disk (StateM State)} {store : SchemaStore}
    {Fits : String → Prop} {Holds : State → Option Directory → Prop}
    (hdisk : disk.KeepsMap store.root Fits Holds) {start : State} (hstart : Holds start none)
    {commands : List StoreCommand} (hcommands : ∀ command ∈ commands, command.Admissible Fits) :
    RefinesMap disk store Fits Holds start commands := by
  obtain ⟨after, directory, hrun, hafter, hmirrors⟩ :=
    exists_performAll hdisk hstart Mirrors.nil hcommands
  have hreturns : ∀ {name schema}, .save name schema ∈ commands → schema.toJson.ReadsBack →
      Schema.ofText schema.text = .ok schema := by
    intro name schema hsaved hnumbers
    obtain ⟨hobtained, hdepth, -⟩ := hcommands _ hsaved
    rw [hobtained.isNormal.ofText_text_of_readsBack hnumbers, if_pos hdepth]
  constructor
  case answers => rw [hrun]
  case rereads =>
    intro name schema hsaved
    obtain ⟨hobtained, hdepth, -⟩ := hcommands _ hsaved
    rw [hobtained.isNormal.ofText_text, if_pos hdepth]
  case returns => exact hreturns
  case faithful =>
    intro hnumbers
    rw [hrun]
    exact answersAfter_congr fun hsaved => hreturns hsaved (hnumbers hsaved)
  case kept =>
    rw [hrun]
    exact ⟨directory, hafter, hmirrors⟩
  case refused =>
    intro command name hcommand hname
    exact perform_of_refuses disk store hcommand hname
  case beneath =>
    intro name hname
    exact components_path store hname
  case reads =>
    intro state directory name hholds hname
    rw [← fileOf_eq]
    exact load_eq hdisk hholds hname
  case writes =>
    intro state directory name hholds hname
    rw [← fileOf_eq]
    exact exists_save hdisk hholds hname

/-! ## Runs on a tree of files -/

/-- A schema with an initial value and nothing else. -/
def weighed (weight : Number) : Schema := ⟨none, none, [], some [("weight", .number weight)]⟩

theorem obtained_weighed (weight : Number) : (weighed weight).Obtained :=
  .read (show Schema.decode .value (.object [("nodes", .array []),
    ("initialValues", .object [("weight", .number weight)])]) = _ from rfl)

theorem depth_weighed (weight : Number) :
    (weighed weight).toJson.depth ≤ Decode.textDepth := by
  have hdepth : (weighed weight).toJson.depth = 2 := rfl
  rw [hdepth]
  decide

/-- The weight is the one number in it. -/
theorem reread?_weighed (weight : Number) :
    (weighed weight).toJson.reread? =
      weight.reread?.map fun other => (weighed other).toJson := by
  cases hweight : weight.reread? <;>
    simp [weighed, Schema.toJson, optionalEntry, Json.reread?, Json.rereadMembers?,
      Json.rereadItems?, hweight]

/-- A tenth, which comes back from its text. -/
def tenth : Number := .double ⟨false, 7205759403792794, 1018, by decide⟩

/-- A look at a directory that is still missing, names with blanks and points of their own, a name
that is refused, and a name that is saved under twice. -/
def visits : List StoreCommand :=
  [.list, .save " survey.v1 " (weighed (.ofUInt32 3)), .load "../secrets",
    .save "orders.json" (weighed (.ofUInt32 4)), .save "survey.v1" (weighed tenth),
    .load "survey.v1\n", .load "absent", .list]

theorem performAll_refinesMap_visits :
    RefinesMap Disk.ofTree ⟨"store"⟩ FileTree.Fits (FileTree.HoldsAt ["store"]) FileTree.empty
        visits ∧
      (performAll Disk.ofTree ⟨"store"⟩ visits FileTree.empty).1 =
        [.listed [], .saved, .failed .validation, .saved, .saved, .loaded (weighed tenth),
          .failed .notFound, .listed ["orders.json", "survey.v1"]] := by
  have hroot : FileTree.LeadsDown "store" :=
    .of_isPlain ⟨by decide, by decide, by decide, by decide⟩ (by decide)
  have hload : ∀ name : String, (Refuses name ∨ FileTree.Fits (fileOf (Unicode.trim name))) →
      (StoreCommand.load name).Admissible FileTree.Fits := fun _ => Or.resolve_left
  have hsave : ∀ (name : String) (weight : Number),
      (Refuses name ∨ FileTree.Fits (fileOf (Unicode.trim name))) →
      (StoreCommand.save name (weighed weight)).Admissible FileTree.Fits :=
    fun _ weight hname => ⟨obtained_weighed weight, depth_weighed weight, hname.resolve_left⟩
  have hvisits : ∀ command ∈ visits, command.Admissible FileTree.Fits := by
    simp only [visits, List.forall_mem_cons]
    exact ⟨True.intro, hsave _ _ (by decide), hload _ (by decide), hsave _ _ (by decide),
      hsave _ _ (by decide), hload _ (by decide), hload _ (by decide), True.intro,
      List.forall_mem_nil _⟩
  have hmissing : FileTree.HoldsAt ["store"] FileTree.empty none := rfl
  have hrefines : RefinesMap Disk.ofTree ⟨"store"⟩ FileTree.Fits (FileTree.HoldsAt ["store"])
      FileTree.empty visits := performAll_refinesMap (FileTree.keepsMap hroot) hmissing hvisits
  have hnumbers {name : String} {schema : Schema} (hsaved : .save name schema ∈ visits) :
      schema.toJson.ReadsBack := by
    have hthree : (Number.ofUInt32 3).reread? = some (.ofUInt32 3) := Number.reread?_integer _
    have hfour : (Number.ofUInt32 4).reread? = some (.ofUInt32 4) := Number.reread?_integer _
    have htenth : tenth.reread? = some tenth :=
      Number.reread?_of_short (by decide +kernel) (by decide +kernel) (by decide +kernel)
    have hweight {weight : Number} (hback : weight.reread? = some weight) :
        (weighed weight).toJson.ReadsBack := by
      rw [Json.ReadsBack, reread?_weighed, hback]
      rfl
    simp only [visits, List.mem_cons, StoreCommand.save.injEq, reduceCtorEq, List.not_mem_nil,
      false_or, or_false] at hsaved
    rcases hsaved with ⟨-, rfl⟩ | ⟨-, rfl⟩ | ⟨-, rfl⟩
    · exact hweight hthree
    · exact hweight hfour
    · exact hweight htenth
  refine ⟨hrefines, ?_⟩
  rw [hrefines.faithful hnumbers]
  simp only [visits, answersAfter, answerAfter, savedNames, List.mergeSort_eq_insertionSort]
  rfl

/-- Three doubles in a row; the first is printed as `3e+49`. -/
def drifting (below : Fin 3) : Number :=
  .double ⟨false, 5777789833161708 - below, 1186, by revert below; decide⟩

/-- Each of them is read from the text of the one before. -/
theorem reread?_drifting :
    (drifting 0).reread? = some (drifting 1) ∧ (drifting 1).reread? = some (drifting 2) := by
  decide +kernel

/-- A schema that was read from a text is saved, and another one is loaded. -/
theorem not_performAll_restores :
    Schema.ofText (weighed (drifting 0)).text = .ok (weighed (drifting 1)) ∧
      (weighed (drifting 1)).toJson.depth ≤ Decode.textDepth ∧
      (performAll Disk.ofTree ⟨"store"⟩ [.save "s" (weighed (drifting 1)), .load "s"]
        FileTree.empty).1 = [.saved, .loaded (weighed (drifting 2))] ∧
      weighed (drifting 1) ≠ weighed (drifting 2) := by
  have hread {weight other : Number} (hother : weight.reread? = some other) :
      Schema.ofText (weighed weight).text = .ok (weighed other) := by
    rw [(obtained_weighed weight).isNormal.ofText_text, if_pos (depth_weighed weight),
      reread?_weighed, hother]
    rfl
  have hroot : FileTree.LeadsDown "store" :=
    .of_isPlain ⟨by decide, by decide, by decide, by decide⟩ (by decide)
  have hmissing : FileTree.HoldsAt ["store"] FileTree.empty none := rfl
  have hcommands : ∀ command ∈ [StoreCommand.save "s" (weighed (drifting 1)), .load "s"],
      command.Admissible FileTree.Fits := by
    rw [List.forall_mem_cons, List.forall_mem_singleton]
    exact ⟨⟨obtained_weighed _, depth_weighed _, fun _ => by decide⟩, fun _ => by decide⟩
  obtain ⟨after, -, hrun, -⟩ :=
    exists_performAll (FileTree.keepsMap hroot) hmissing Mirrors.nil hcommands
  refine ⟨hread reread?_drifting.1, depth_weighed _, ?_, ?_⟩
  · have hrefuses : ¬Refuses "s" := by decide
    have hlast : lastSaved? [.save "s" (weighed (drifting 1))] (Unicode.trim "s") =
        some (weighed (drifting 1)) := rfl
    rw [hrun]
    simp only [answersAfter, answerAfter, if_neg hrefuses, List.nil_append, hlast,
      hread reread?_drifting.2]
    rfl
  · intro heq
    have hvalues := congrArg Schema.initialValues heq
    simp [weighed, drifting] at hvalues

end SchemaStore

end Forms
