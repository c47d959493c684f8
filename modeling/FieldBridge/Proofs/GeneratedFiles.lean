import Mathlib
import FieldBridge.Command.Run
import FieldBridge.Proofs.FileTrees

/-!
# Files generated below a directory

A run over the documents below a directory counts the ones that fail, and a document that is no
project ends it.  Its invariant is that the tree holds the files of the documents that were looked
at and is otherwise as it was, and that no failure was counted as long as all of them compiled.
No generated file stands at the place of a document, so every document is read as it was at the
start.  Hence neither the outcome nor what may be written depends on the order.
-/

namespace FieldBridge.Command

namespace Target

/-- A document at or below a directory: something that is named like a document. -/
structure HasDocument (directory : Target) (tree : FileTree) (target : Target) : Prop where
  way : ∃ way, target = directory.descend way
  present : (tree.entry? target.place).isSome = true
  named : target.isDocument = true

/-- The document at a target is a project that compiles to a file without errors. -/
def Compiles (check : String → Bool) (options : Code.Options) (tree : FileTree) (target : Target)
    (file : String) : Prop :=
  ∃ text project, tree.entry? target.place = some (.file text) ∧
    Project.ofDocument check text = .ok project ∧ (project.compile options).unit.errors = [] ∧
    (project.compile options).file = some file

/-- A place is beside a document: in the same directory, and with the extension of generated
files in place of its own. -/
def IsBeside (target : Target) (place : Place) : Prop :=
  ∃ folder stem, target.place = folder ++ [stem ++ "." ++ documentExtension] ∧
    place = folder ++ [stem ++ "." ++ generatedExtension]

/-- A directory whose documents are files that can be read, and the files beside them can be
written. -/
structure IsReady (directory : Target) (check : String → Bool) (options : Code.Options)
    (tree : FileTree) : Prop where
  isTree : tree.IsTree
  isDirectory : tree.entry? directory.place = some .directory
  readable : ∀ target, directory.HasDocument tree target →
    ∃ text, tree.entry? target.place = some (.file text) ∧ target.read tree = .ok text
  writable : ∀ target file, directory.HasDocument tree target →
    target.Compiles check options tree file →
    target.output.write tree file = .ok (tree.put target.output.place file)

section Places

variable {directory target other : Target}

theorem descend_append (way more : Place) :
    directory.descend (way ++ more) = (directory.descend way).descend more := by
  induction way generalizing directory with
  | nil => rfl
  | cons name way ih => exact ih

theorem place_descend (way : Place) : (directory.descend way).place = directory.place ++ way := by
  induction way generalizing directory with
  | nil => exact (List.append_nil _).symm
  | cons name way ih => simp [descend, ih]

theorem read_of_entry? {tree : FileTree} {text : String} (hlong : target.isTooLong = false)
    (hentry : tree.entry? target.place = some (.file text)) : target.read tree = .ok text := by
  rw [read, hlong, FileTree.read, hentry]
  rfl

theorem isTooLong_of_read {tree : FileTree} {text : String} (hread : target.read tree = .ok text) :
    target.isTooLong = false := by
  cases hlong : target.isTooLong with
  | false => rfl
  | true => simp [read, hlong] at hread

theorem write_eq_put_iff {tree : FileTree} {text : String} :
    target.write tree text = .ok (tree.put target.place text) ↔ target.isTooLong = false ∧
      (tree.entry? target.place = none ∨ ∃ old, tree.entry? target.place = some (.file old)) := by
  rw [write, ← @FileTree.write_eq_put_iff tree target.place text]
  cases target.isTooLong <;> simp

theorem output_place {folder : Place} {stem : String} (hstem : stem ≠ "")
    (hname : target.name = stem ++ "." ++ documentExtension)
    (hplace : target.place = folder ++ [stem ++ "." ++ documentExtension]) :
    target.output.place =
      if stem = "." then folder.dropLast else folder ++ [stem ++ "." ++ generatedExtension] := by
  have hnew : (output target).place = Place.after folder
      (Path.withExtension (stem ++ "." ++ documentExtension) generatedExtension).toList := by
    rw [output, sibling, hname, hplace, List.dropLast_concat]
  rw [hnew, Path.withExtension_of_stem generatedExtension hstem (by decide)]
  split
  · simp [Place.after, Path.isStill, Path.isUp]
  · have hlong : 2 < (stem ++ "." ++ generatedExtension).toList.length := by
      simp [generatedExtension]
    have hstill : Path.isStill (stem ++ "." ++ generatedExtension).toList = false := by
      refine Bool.eq_false_iff.2 fun hstill => ?_
      rcases Bool.or_eq_true_iff.1 hstill with h | h <;>
        simp [of_decide_eq_true h] at hlong
    have hup : Path.isUp (stem ++ "." ++ generatedExtension).toList = false := by
      refine Bool.eq_false_iff.2 fun hup => ?_
      simp [of_decide_eq_true hup] at hlong
    rw [Place.after, hstill, hup, String.ofList_toList]
    rfl

/-- What a place is beside of, is at one place. -/
theorem IsBeside.place_eq {place : Place} (htarget : target.IsBeside place)
    (hother : other.IsBeside place) : target.place = other.place := by
  obtain ⟨folder, stem, htarget, hplace⟩ := htarget
  obtain ⟨folder', stem', hother, rfl⟩ := hother
  obtain ⟨rfl, hnames⟩ := List.append_inj' hplace rfl
  have hstems : stem' = stem := by simpa [String.append_left_inj] using hnames
  rw [htarget, hother, hstems]

theorem IsBeside.unique {place place' : Place} (hplace : target.IsBeside place)
    (hplace' : target.IsBeside place') : place = place' := by
  obtain ⟨folder, stem, htarget, rfl⟩ := hplace
  obtain ⟨folder', stem', htarget', rfl⟩ := hplace'
  obtain ⟨rfl, hnames⟩ := List.append_inj' (htarget.symm.trans htarget') rfl
  have hstems : stem = stem' := by simpa [String.append_left_inj] using hnames
  rw [hstems]

/-- Documents and generated files have different extensions. -/
theorem IsBeside.ne_document {place folder : Place} {stem : String}
    (hplace : target.IsBeside place)
    (hother : other.place = folder ++ [stem ++ "." ++ documentExtension]) :
    other.place ≠ place := by
  obtain ⟨folder', stem', _, rfl⟩ := hplace
  intro hsame
  obtain ⟨_, hnames⟩ := List.append_inj' (hother.symm.trans hsame) rfl
  have hlast := congrArg (fun name => name.toList.getLast?) (List.cons.inj hnames).1
  simp [documentExtension, generatedExtension, List.getLast?_append] at hlast

theorem Compiles.unique {check : String → Bool} {options : Code.Options} {tree : FileTree}
    {file file' : String} (hplace : target.place = other.place)
    (htarget : target.Compiles check options tree file)
    (hother : other.Compiles check options tree file') : file = file' := by
  obtain ⟨text, project, hentry, hread, _, hfile⟩ := htarget
  obtain ⟨text', project', hentry', hread', _, hfile'⟩ := hother
  rw [hplace, hentry'] at hentry
  cases hentry
  rw [hread'] at hread
  cases hread
  exact Option.some.inj (hfile.symm.trans hfile')

end Places

section Ready

variable {check : String → Bool} {options : Code.Options} {tree : FileTree}
  {directory target : Target}

theorem IsReady.exists_stem (hready : directory.IsReady check options tree)
    (htarget : directory.HasDocument tree target) :
    ∃ folder stem, stem ≠ "" ∧ target.name = stem ++ "." ++ documentExtension ∧
      target.place = folder ++ [stem ++ "." ++ documentExtension] ∧
      tree.entry? folder = some .directory := by
  obtain ⟨text, hentry, _⟩ := hready.readable target htarget
  obtain ⟨way, rfl⟩ := htarget.way
  rcases List.eq_nil_or_concat way with rfl | ⟨front, name, rfl⟩
  · -- The directory itself is no document, whatever it is called.
    have hdirectory : tree.entry? (directory.descend []).place = some .directory :=
      hready.isDirectory
    rw [hdirectory] at hentry
    cases hentry
  · rw [List.concat_eq_append] at htarget hentry ⊢
    have hname : (directory.descend (front ++ [name])).name = name := by
      rw [descend_append]
      rfl
    have hplace : (directory.descend (front ++ [name])).place =
        directory.place ++ front ++ [name] := by
      rw [place_descend, List.append_assoc]
    have hnamed := htarget.named
    rw [isDocument, hname, Path.hasExtension_iff (by decide)] at hnamed
    obtain ⟨stem, hstem, rfl⟩ := hnamed
    refine ⟨_, stem, hstem, hname, hplace, hready.isTree _ (stem ++ "." ++ documentExtension) ?_⟩
    rw [← hplace, hentry]
    rfl

/-- What a document compiles to is written beside it. -/
theorem IsReady.output_place_eq {file : String} (hready : directory.IsReady check options tree)
    (htarget : directory.HasDocument tree target)
    (hcompiles : target.Compiles check options tree file) :
    ∃ folder stem, target.place = folder ++ [stem ++ "." ++ documentExtension] ∧
      target.output.place = folder ++ [stem ++ "." ++ generatedExtension] ∧
      tree.entry? folder = some .directory := by
  obtain ⟨folder, stem, hstem, hname, hplace, hfolder⟩ := hready.exists_stem htarget
  have houtput := output_place hstem hname hplace
  split at houtput
  · -- Nothing can be written to the directory above.
    obtain ⟨_, hentry⟩ := write_eq_put_iff.1 (hready.writable target file htarget hcompiles)
    rw [houtput, hready.isTree.entry?_dropLast hfolder] at hentry
    rcases hentry with hentry | ⟨_, hentry⟩ <;> cases hentry
  · exact ⟨folder, stem, hplace, houtput, hfolder⟩

theorem IsReady.isBeside_output {file : String} (hready : directory.IsReady check options tree)
    (htarget : directory.HasDocument tree target)
    (hcompiles : target.Compiles check options tree file) :
    target.IsBeside target.output.place := by
  obtain ⟨folder, stem, hplace, houtput, _⟩ := hready.output_place_eq htarget hcompiles
  exact ⟨folder, stem, hplace, houtput⟩

theorem IsReady.isSome_above_output {file : String} {place : Place}
    (hready : directory.IsReady check options tree) (htarget : directory.HasDocument tree target)
    (hcompiles : target.Compiles check options tree file) (hne : place ≠ target.output.place)
    (habove : place <+: target.output.place) : (tree.entry? place).isSome = true := by
  obtain ⟨folder, stem, _, houtput, hfolder⟩ := hready.output_place_eq htarget hcompiles
  rw [houtput] at hne habove
  have hbegins : place <+: folder := (List.prefix_concat_iff.1 habove).resolve_left hne
  exact FileTree.isSome_entry?_of_prefix hbegins (by rw [hfolder]; rfl)

/-- A tree that holds the files of some documents, and otherwise what another tree holds. -/
def Leaves (check : String → Bool) (options : Code.Options) (tree : FileTree)
    (documents : List Target) (left : FileTree) : Prop :=
  ∀ place, left.entry? place = tree.entry? place ∨ ∃ target ∈ documents, ∃ file,
    target.Compiles check options tree file ∧ target.IsBeside place ∧
      left.entry? place = some (.file file)

/-- A tree that holds the files of documents beside them, as far as they compile. -/
def Written (check : String → Bool) (options : Code.Options) (tree : FileTree)
    (documents : List Target) (left : FileTree) : Prop :=
  ∀ target ∈ documents, ∀ file place, target.Compiles check options tree file →
    target.IsBeside place → left.entry? place = some (.file file)

theorem Leaves.mono {documents others : List Target} {left : FileTree}
    (hleaves : Leaves check options tree documents left) (hsub : documents ⊆ others) :
    Leaves check options tree others left := by
  intro place
  rcases hleaves place with hsame | ⟨target, hmem, hfile⟩
  · exact .inl hsame
  · exact .inr ⟨target, hsub hmem, hfile⟩

/-- A document is still what it was at the start. -/
theorem IsReady.entry?_of_leaves {documents : List Target} {left : FileTree}
    (hready : directory.IsReady check options tree) (htarget : directory.HasDocument tree target)
    (hleaves : Leaves check options tree documents left) :
    left.entry? target.place = tree.entry? target.place := by
  rcases hleaves target.place with hsame | ⟨other, _, file, _, hbeside, _⟩
  · exact hsame
  · obtain ⟨folder, stem, _, _, hplace, _⟩ := hready.exists_stem htarget
    exact absurd rfl (hbeside.ne_document hplace)

/-- A file that could be written at the start can still be written. -/
theorem IsReady.write_of_leaves {file : String} {documents : List Target} {left : FileTree}
    (hready : directory.IsReady check options tree) (htarget : directory.HasDocument tree target)
    (hcompiles : target.Compiles check options tree file)
    (hleaves : Leaves check options tree documents left) :
    target.output.write left file = .ok (left.put target.output.place file) := by
  obtain ⟨hlong, hentry⟩ := write_eq_put_iff.1 (hready.writable target file htarget hcompiles)
  refine write_eq_put_iff.2 ⟨hlong, ?_⟩
  rcases hleaves target.output.place with hsame | ⟨_, _, other, _, _, hother⟩
  · rwa [hsame]
  · exact .inr ⟨other, hother⟩

theorem IsReady.leaves_put {file : String} {documents : List Target} {left : FileTree}
    (hready : directory.IsReady check options tree) (htarget : directory.HasDocument tree target)
    (hcompiles : target.Compiles check options tree file)
    (hleaves : Leaves check options tree documents left) :
    Leaves check options tree (target :: documents) (left.put target.output.place file) := by
  intro place
  by_cases hplace : place = target.output.place
  · subst hplace
    exact .inr ⟨target, List.mem_cons_self, file, hcompiles,
      hready.isBeside_output htarget hcompiles, FileTree.entry?_put_self file⟩
  · have hsome : place <+: target.output.place → (left.entry? place).isSome = true := by
      intro habove
      rcases hleaves place with hsame | ⟨_, _, other, _, _, hother⟩
      · rw [hsame]
        exact hready.isSome_above_output htarget hcompiles hplace habove
      · rw [hother]
        rfl
    rw [FileTree.entry?_put_of_ne hplace hsome]
    exact hleaves.mono (List.subset_cons_self target documents) place

theorem IsReady.written_put {file : String} {documents : List Target} {left : FileTree}
    (hready : directory.IsReady check options tree) (htarget : directory.HasDocument tree target)
    (hcompiles : target.Compiles check options tree file)
    (hwritten : Written check options tree documents left) :
    Written check options tree (target :: documents) (left.put target.output.place file) := by
  have houtput := hready.isBeside_output htarget hcompiles
  intro other hother otherFile place hfile hbeside
  by_cases hplace : place = target.output.place
  · subst hplace
    rw [FileTree.entry?_put_self, Compiles.unique (houtput.place_eq hbeside) hcompiles hfile]
  · rcases List.mem_cons.1 hother with rfl | hother
    · exact absurd (hbeside.unique houtput) hplace
    · have hthere := hwritten other hother otherFile place hfile hbeside
      rw [FileTree.entry?_put_of_ne hplace fun _ => by rw [hthere]; rfl, hthere]

end Ready

end Target

open Target

/-- What became of documents so far, compared with the tree that was there at the start. -/
structure Progress.Accounts (check : String → Bool) (options : Code.Options) (tree : FileTree)
    (documents : List Target) (progress : Progress) : Prop where
  leaves : Leaves check options tree documents progress.tree
  written : Written check options tree documents progress.tree
  failed_iff : progress.failed = 0 ↔
    ∀ target ∈ documents, ∃ file, target.Compiles check options tree file

/-- What a run over documents comes to, compared with the tree that was there at the start. -/
structure Outcome.Accounts (check : String → Bool) (options : Code.Options) (tree : FileTree)
    (documents : List Target) (outcome : Outcome) : Prop where
  leaves : Leaves check options tree documents outcome.tree
  written : outcome.code = exitCode true → Written check options tree documents outcome.tree
  code_iff : outcome.code = exitCode true ↔
    ∀ target ∈ documents, ∃ file, target.Compiles check options tree file

section Runs

variable {check : String → Bool} {options : Code.Options} {tree : FileTree}
  {directory target : Target} {documents : List Target} {progress : Progress}

theorem exitCode_eq_iff {success : Bool} : exitCode success = exitCode true ↔ success = true := by
  cases success <;> decide

theorem exists_file_iff {project : Project} :
    (∃ file, (project.compile options).file = some file) ↔
      (project.compile options).unit.errors = [] := by
  unfold Project.compile
  dsimp only
  split
  · next hok => exact iff_of_true ⟨_, rfl⟩ (List.isEmpty_iff.1 hok)
  · next hok => exact iff_of_false (by simp) fun herrors => hok (List.isEmpty_iff.2 herrors)

theorem compiles_iff {text file : String} (hentry : tree.entry? target.place = some (.file text)) :
    target.Compiles check options tree file ↔
      ∃ project, Project.ofDocument check text = .ok project ∧
        (project.compile options).file = some file := by
  constructor
  · rintro ⟨text', project, hentry', hproject, _, hfile⟩
    rw [hentry] at hentry'
    cases hentry'
    exact ⟨project, hproject, hfile⟩
  · rintro ⟨project, hproject, hfile⟩
    exact ⟨text, project, hentry, hproject, exists_file_iff.1 ⟨file, hfile⟩, hfile⟩

theorem Progress.Accounts.good {file : String}
    (haccounts : progress.Accounts check options tree documents)
    (hready : directory.IsReady check options tree) (htarget : directory.HasDocument tree target)
    (hcompiles : target.Compiles check options tree file) (path : String) :
    (progress.good (progress.tree.put target.output.place file) path).Accounts check options tree
      (target :: documents) where
  leaves := hready.leaves_put htarget hcompiles haccounts.leaves
  written := hready.written_put htarget hcompiles haccounts.written
  failed_iff := by
    rw [List.forall_mem_cons]
    exact haccounts.failed_iff.trans (and_iff_right ⟨file, hcompiles⟩).symm

theorem Progress.Accounts.bad (haccounts : progress.Accounts check options tree documents)
    (hfails : ¬ ∃ file, target.Compiles check options tree file) (path : String)
    (errors : List String) :
    (progress.bad path errors).Accounts check options tree (target :: documents) where
  leaves := haccounts.leaves.mono (List.subset_cons_self target documents)
  written := by
    intro other hother file place hcompiles hbeside
    rcases List.mem_cons.1 hother with rfl | hother
    · exact absurd ⟨file, hcompiles⟩ hfails
    · exact haccounts.written other hother file place hcompiles hbeside
  failed_iff :=
    iff_of_false (Nat.succ_ne_zero _) fun hall => hfails (hall target List.mem_cons_self)

/-- One document is counted as generated or as failed, or it ends the run.  It is counted as
failed or ends the run only when it does not compile. -/
theorem Progress.Accounts.generateTarget
    (haccounts : progress.Accounts check options tree documents)
    (hready : directory.IsReady check options tree) (htarget : directory.HasDocument tree target) :
    (∃ next, generateTarget check options progress target = .ok next ∧
      next.Accounts check options tree (target :: documents)) ∨
    (∃ failure, generateTarget check options progress target = .error failure ∧
      ¬ ∃ file, target.Compiles check options tree file) := by
  obtain ⟨text, hentry, hread⟩ := hready.readable target htarget
  have hnow : target.read progress.tree = .ok text :=
    read_of_entry? (isTooLong_of_read hread)
      ((hready.entry?_of_leaves htarget haccounts.leaves).trans hentry)
  unfold Command.generateTarget
  simp only [hnow, compileDocument]
  cases hproject : Project.ofDocument check text with
  | error error => exact .inr ⟨_, rfl, by simp [compiles_iff hentry, hproject]⟩
  | ok project =>
      cases hfile : (project.compile options).file with
      | none =>
          have hfails : ¬ ∃ file, target.Compiles check options tree file := by
            simp [compiles_iff hentry, hproject, hfile]
          refine .inl ⟨progress.bad target.path (project.compile options).unit.errors, ?_,
            haccounts.bad hfails _ _⟩
          simp only [hfile]
      | some file =>
          have hcompiles : target.Compiles check options tree file :=
            (compiles_iff hentry).2 ⟨project, hproject, hfile⟩
          have hwrite := hready.write_of_leaves htarget hcompiles haccounts.leaves
          refine .inl ⟨progress.good (progress.tree.put target.output.place file)
            target.output.path, ?_, haccounts.good hready htarget hcompiles _⟩
          simp only [hfile, hwrite]

/-- A run over further documents, up to its end or to the document that ends it. -/
theorem Progress.Accounts.generateTargets (hready : directory.IsReady check options tree)
    {targets : List Target} (htargets : ∀ target ∈ targets, directory.HasDocument tree target)
    (haccounts : progress.Accounts check options tree documents) :
    (generateTargets check options progress targets).Accounts check options tree
      (targets.reverse ++ documents) := by
  induction targets generalizing progress documents with
  | nil =>
      have hcode : (Command.generateTargets check options progress []).code = exitCode true ↔
          progress.failed = 0 :=
        exitCode_eq_iff.trans decide_eq_true_iff
      exact ⟨haccounts.leaves, fun _ => haccounts.written, hcode.trans haccounts.failed_iff⟩
  | cons target targets ih =>
      obtain ⟨htarget, htargets⟩ := List.forall_mem_cons.1 htargets
      rw [List.reverse_cons, List.append_assoc, List.singleton_append]
      rcases haccounts.generateTarget hready htarget with
        ⟨next, hnext, haccounts⟩ | ⟨failure, hfailure, hfails⟩
      · rw [Command.generateTargets, hnext]
        exact ih htargets haccounts
      · rw [Command.generateTargets, hfailure]
        have hcode : ¬ (progress.abandon failure).code = exitCode true := by
          exact Nat.one_ne_zero
        refine ⟨haccounts.leaves.mono ?_, fun hsuccess => absurd hsuccess hcode,
          iff_of_false hcode fun hall => hfails (hall target (by simp))⟩
        intro other hother
        simp [hother]

theorem Target.HasDocument.mem (htarget : directory.HasDocument tree target)
    (hhome : ¬ directory.place <+: tree.home) :
    target ∈ (directory :: (tree.below directory.place).map directory.descend).filter
      (·.isDocument) := by
  refine List.mem_filter.2 ⟨?_, htarget.named⟩
  have hpresent := htarget.present
  obtain ⟨way, rfl⟩ := htarget.way
  by_cases hway : way = []
  · subst hway
    exact List.mem_cons_self
  · rw [place_descend] at hpresent
    rcases FileTree.isSome_entry?_iff.1 hpresent with habove | hentry
    · exact absurd ((List.prefix_append _ _).trans habove) hhome
    · exact List.mem_cons_of_mem _ (List.mem_map_of_mem (FileTree.mem_below_iff.2 ⟨hway, hentry⟩))

theorem isVisible_of_isTooLong (hlong : target.isTooLong = false) : target.isVisible = true := by
  have hpath : Path.isTooLong target.path = false := (Bool.or_eq_false_iff.1 hlong).1
  have hle : ¬ Path.maxLength < target.path.utf8ByteSize := of_decide_eq_false hpath
  exact decide_eq_true (by omega)

/-- The documents that are visited are those that are there, in whatever order. -/
theorem mem_documents_iff {world : World}
    (hready : directory.IsReady world.check options world.tree) :
    target ∈ Command.documents world directory ↔ directory.HasDocument world.tree target := by
  unfold Command.documents
  simp only [List.mem_filter, List.mem_cons, List.mem_map, (world.order.perm _).mem_iff,
    FileTree.mem_below_iff]
  constructor
  · rintro ⟨rfl | ⟨⟨way, ⟨_, entry, hentry, hbegins⟩, rfl⟩, _⟩, hnamed⟩
    · exact ⟨⟨[], rfl⟩, by rw [hready.isDirectory]; rfl, hnamed⟩
    · refine ⟨⟨way, rfl⟩, ?_, hnamed⟩
      rw [place_descend]
      exact FileTree.isSome_entry?_iff.2 (.inr ⟨entry, hentry, hbegins⟩)
  · intro htarget
    refine ⟨?_, htarget.named⟩
    obtain ⟨text, hentry, hread⟩ := hready.readable target htarget
    obtain ⟨way, rfl⟩ := htarget.way
    by_cases hway : way = []
    · subst hway
      exact .inl rfl
    · have hmem := FileTree.mem_entries_of_entry? hentry (by simp)
      rw [place_descend] at hmem
      exact .inr ⟨⟨way, ⟨hway, _, hmem, List.prefix_rfl⟩, rfl⟩,
        isVisible_of_isTooLong (isTooLong_of_read hread)⟩

theorem generateDirectory_accounts {world : World}
    (hready : directory.IsReady world.check options world.tree)
    (hsome : Command.documents world directory ≠ []) :
    (generateDirectory world options directory).Accounts world.check options world.tree
      (Command.documents world directory).reverse := by
  have hstart : Progress.Accounts world.check options world.tree [] { tree := world.tree } :=
    ⟨fun _ => .inl rfl, by simp [Written], by simp⟩
  have haccounts := hstart.generateTargets hready fun target htarget =>
    (mem_documents_iff hready).1 htarget
  rw [List.append_nil] at haccounts
  unfold generateDirectory
  split
  · next hnone => exact absurd hnone hsome
  · exact haccounts

end Runs

/-- A run over a directory succeeds when there are documents and all of them compile, whatever
the order in which they are visited.  Then the file of every document is beside it, and in any
case nothing has changed but files beside documents that compile. -/
theorem run_generate_directory {arguments : List String} {world : World}
    {path packageName : String} {json : Bool} {place : Place}
    (harguments : Invocation.ofArguments arguments =
      .ok (.generate (.file path) packageName json))
    (hplace : world.tree.locate path = .ok place)
    (hready : (Target.ofPath path place).IsReady world.check (optionsFor packageName) world.tree) :
    ((run arguments world).code = exitCode true ↔
      (∃ target, (Target.ofPath path place).HasDocument world.tree target) ∧
        ∀ target, (Target.ofPath path place).HasDocument world.tree target →
          ∃ file, target.Compiles world.check (optionsFor packageName) world.tree file) ∧
    ((run arguments world).code = exitCode true →
      ∀ target, (Target.ofPath path place).HasDocument world.tree target →
        ∃ file beside, target.Compiles world.check (optionsFor packageName) world.tree file ∧
          target.IsBeside beside ∧ (run arguments world).tree.entry? beside = some (.file file)) ∧
    ∀ changed, (run arguments world).tree.entry? changed ≠ world.tree.entry? changed →
      ∃ target file, (Target.ofPath path place).HasDocument world.tree target ∧
        target.Compiles world.check (optionsFor packageName) world.tree file ∧
        target.IsBeside changed ∧
        (run arguments world).tree.entry? changed = some (.file file) := by
  have hrun : run arguments world =
      generateDirectory world (optionsFor packageName) (Target.ofPath path place) := by
    simp only [run, harguments, Invocation.run, generate, generatePath, hplace]
    rw [show world.tree.entry? place = some .directory from hready.isDirectory]
  have hlisted : ∀ target, target ∈ (documents world (Target.ofPath path place)).reverse ↔
      (Target.ofPath path place).HasDocument world.tree target := fun _ =>
    List.mem_reverse.trans (mem_documents_iff hready)
  rw [hrun]
  by_cases hnone : documents world (Target.ofPath path place) = []
  · have hempty : ∀ target, ¬ (Target.ofPath path place).HasDocument world.tree target := by
      simpa [hnone] using hlisted
    unfold generateDirectory
    rw [hnone]
    exact ⟨iff_of_false Nat.one_ne_zero fun ⟨⟨target, htarget⟩, _⟩ => hempty target htarget,
      fun hsuccess => absurd hsuccess Nat.one_ne_zero, fun _ hchanged => absurd rfl hchanged⟩
  · obtain ⟨first, hfirst⟩ := List.exists_mem_of_ne_nil _ (mt List.reverse_eq_nil_iff.1 hnone)
    have haccounts := generateDirectory_accounts hready hnone
    have hall := haccounts.code_iff
    simp only [hlisted] at hall
    refine ⟨hall.trans (and_iff_right ⟨first, (hlisted first).1 hfirst⟩).symm, ?_, ?_⟩
    · intro hsuccess target htarget
      obtain ⟨file, hfile⟩ := hall.1 hsuccess target htarget
      have hbeside := hready.isBeside_output htarget hfile
      exact ⟨file, _, hfile, hbeside,
        haccounts.written hsuccess target ((hlisted target).2 htarget) file _ hfile hbeside⟩
    · intro changed hchanged
      rcases haccounts.leaves changed with hsame | ⟨target, htarget, file, hfile, hbeside, hthere⟩
      · exact absurd hsame hchanged
      · exact ⟨target, file, (hlisted target).1 htarget, hfile, hbeside, hthere⟩

/-- A struct that is mapped to itself. -/
def mapping : Project where
  id := "p"
  name := "P"
  structs := [{ id := "a", name := "A" }]
  graph :=
    { nodes := [.ofStruct "n" "a" "", .ofStruct "m" "a" ""]
      edges := [⟨"e", "n", "m", none, none, none⟩] }

def mappingText : String :=
  "\x7b\"id\":\"p\",\"name\":\"P\",\"structs\":[[\"a\",\"A\"]],\"nodes\":" ++
    "[[\"n\",\"struct\",null,[\"a\"]],[\"m\",\"struct\",null,[\"a\"]]]," ++
    "\"edges\":[[\"e\",\"n\",\"m\"]]\x7d"

/-- The document twice, with an old file beside it and in a directory below, in another order than
the entries are known in. -/
def twoDocuments : World where
  tree :=
    { entries := [(["d", "a.json"], .file mappingText), (["d", "a.go"], .file ""),
        (["d", "s", "b.json"], .file mappingText)] }
  order := ⟨List.reverse, List.reverse_perm⟩

theorem hasDocument_twoDocuments {target : Target} :
    (Target.ofPath "d" ["d"]).HasDocument twoDocuments.tree target ↔
      target = ⟨"d/a.json", "a.json", ["d", "a.json"]⟩ ∨
        target = ⟨"d/s/b.json", "b.json", ["d", "s", "b.json"]⟩ := by
  have hlisted : ((Target.ofPath "d" ["d"] :: (twoDocuments.tree.below
      (Target.ofPath "d" ["d"]).place).map (Target.ofPath "d" ["d"]).descend).filter
        (·.isDocument)) =
      [⟨"d/a.json", "a.json", ["d", "a.json"]⟩,
        ⟨"d/s/b.json", "b.json", ["d", "s", "b.json"]⟩] := by
    decide
  constructor
  · intro htarget
    have hmem := htarget.mem (by decide)
    rw [hlisted] at hmem
    simpa using hmem
  · rintro (rfl | rfl)
    · exact ⟨⟨["a.json"], by decide⟩, rfl, by decide⟩
    · exact ⟨⟨["s", "b.json"], by decide⟩, rfl, by decide⟩

theorem isReady_twoDocuments :
    (Target.ofPath "d" ["d"]).IsReady twoDocuments.check (optionsFor "main") twoDocuments.tree where
  isTree := by decide
  isDirectory := by decide
  readable := by
    intro target htarget
    rcases hasDocument_twoDocuments.1 htarget with rfl | rfl
    · exact ⟨mappingText, rfl, read_of_entry? (by decide) rfl⟩
    · exact ⟨mappingText, rfl, read_of_entry? (by decide) rfl⟩
  writable := by
    intro target file htarget _
    rcases hasDocument_twoDocuments.1 htarget with rfl | rfl
    · exact write_eq_put_iff.2 ⟨by decide, .inr ⟨"", by decide⟩⟩
    · exact write_eq_put_iff.2 ⟨by decide, .inl (by decide)⟩

/-- Both documents have their file beside them, and nothing else has changed. -/
theorem run_generate_directory_twice : ∃ file,
    (mapping.compile (optionsFor "main")).file = some file ∧
    (run ["generate", "d"] twoDocuments).code = exitCode true ∧
    (run ["generate", "d"] twoDocuments).tree.entry? ["d", "a.go"] = some (.file file) ∧
    (run ["generate", "d"] twoDocuments).tree.entry? ["d", "s", "b.go"] = some (.file file) ∧
    ∀ place, place ≠ ["d", "a.go"] → place ≠ ["d", "s", "b.go"] →
      (run ["generate", "d"] twoDocuments).tree.entry? place = twoDocuments.tree.entry? place := by
  have hread : Project.ofDocument twoDocuments.check mappingText = .ok mapping := by decide +kernel
  obtain ⟨file, hfile⟩ := (@exists_file_iff (optionsFor "main") mapping).2 rfl
  have hcompiles : ∀ target, (Target.ofPath "d" ["d"]).HasDocument twoDocuments.tree target →
      target.Compiles twoDocuments.check (optionsFor "main") twoDocuments.tree file := by
    intro target htarget
    rcases hasDocument_twoDocuments.1 htarget with rfl | rfl
    · exact ⟨mappingText, mapping, rfl, hread, rfl, hfile⟩
    · exact ⟨mappingText, mapping, rfl, hread, rfl, hfile⟩
  have hfirst : IsBeside ⟨"d/a.json", "a.json", ["d", "a.json"]⟩ ["d", "a.go"] :=
    ⟨["d"], "a", by decide, by decide⟩
  have hsecond : IsBeside ⟨"d/s/b.json", "b.json", ["d", "s", "b.json"]⟩ ["d", "s", "b.go"] :=
    ⟨["d", "s"], "b", by decide, by decide⟩
  obtain ⟨hcode, hwritten, hchanged⟩ := @run_generate_directory ["generate", "d"] twoDocuments "d"
    "main" false ["d"] (by decide) (by decide) isReady_twoDocuments
  have hsuccess := hcode.2 ⟨⟨_, hasDocument_twoDocuments.2 (.inl rfl)⟩,
    fun target htarget => ⟨file, hcompiles target htarget⟩⟩
  refine ⟨file, hfile, hsuccess, ?_, ?_, fun place hfirst' hsecond' => ?_⟩
  · obtain ⟨other, place, hother, hplace, hentry⟩ :=
      hwritten hsuccess _ (hasDocument_twoDocuments.2 (.inl rfl))
    rw [hfirst.unique hplace, hentry,
      (hcompiles _ (hasDocument_twoDocuments.2 (.inl rfl))).unique rfl hother]
  · obtain ⟨other, place, hother, hplace, hentry⟩ :=
      hwritten hsuccess _ (hasDocument_twoDocuments.2 (.inr rfl))
    rw [hsecond.unique hplace, hentry,
      (hcompiles _ (hasDocument_twoDocuments.2 (.inr rfl))).unique rfl hother]
  · by_contra hne
    obtain ⟨target, _, htarget, _, hplace, _⟩ := hchanged place hne
    rcases hasDocument_twoDocuments.1 htarget with rfl | rfl
    · exact hfirst' (hplace.unique hfirst)
    · exact hsecond' (hplace.unique hsecond)

end FieldBridge.Command
