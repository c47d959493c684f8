import FieldBridge.Proofs.WrittenData

/-!
# Order in import sets

An import set remembers what was put into it and when it was first put there, and nothing else.
After any changes its packages are the first occurrences in everything that was added, in the
order in which it was added.  Merging is associative, and the set of several lists of
transformers is the merge of their sets.
-/

namespace FieldBridge.Code.ImportSet

open Json

section Merging

variable {set : ImportSet}

theorem contains_iff {package : String} :
    set.contains package = true ↔ package ∈ set.packages :=
  decide_eq_true_iff

theorem mem_insert_iff {package added : String} :
    package ∈ (set.insert added).packages ↔ package ∈ set.packages ∨ package = added := by
  by_cases hmem : added ∈ set.packages
  · rw [insert_of_mem hmem, or_iff_left_of_imp]
    rintro rfl
    exact hmem
  · rw [insert_of_not_mem hmem, List.mem_append, List.mem_singleton]

theorem mem_insertAll_iff {package : String} {packages : List String} :
    package ∈ (set.insertAll packages).packages ↔
      package ∈ set.packages ∨ package ∈ packages := by
  induction packages generalizing set with
  | nil => simp [insertAll]
  | cons added packages ih =>
      change package ∈ ((set.insert added).insertAll packages).packages ↔ _
      rw [ih, mem_insert_iff, List.mem_cons, or_assoc]

theorem insertAll_append (set : ImportSet) (packages others : List String) :
    set.insertAll (packages ++ others) = (set.insertAll packages).insertAll others :=
  List.foldl_append

theorem insertAll_of_subset {packages : List String} (hsubset : packages ⊆ set.packages) :
    set.insertAll packages = set := by
  induction packages with
  | nil => rfl
  | cons package packages ih =>
      obtain ⟨hmem, hrest⟩ := List.cons_subset.1 hsubset
      change (set.insert package).insertAll packages = set
      rw [insert_of_mem hmem, ih hrest]

theorem prefix_insertAll (set : ImportSet) (packages : List String) :
    set.packages <+: (set.insertAll packages).packages := by
  induction packages generalizing set with
  | nil => exact List.prefix_rfl
  | cons package packages ih =>
      have hinsert : set.packages <+: (set.insert package).packages := by
        by_cases hmem : package ∈ set.packages
        · rewrite [insert_of_mem hmem]
          exact List.prefix_rfl
        · rw [insert_of_not_mem hmem]
          exact List.prefix_append _ _
      exact hinsert.trans (ih (set.insert package))

theorem merge_self (set : ImportSet) : set.merge set = set :=
  insertAll_of_subset (List.Subset.refl _)

theorem merge_insert (set other : ImportSet) (package : String) :
    set.merge (other.insert package) = (set.merge other).insert package := by
  by_cases hmem : package ∈ other.packages
  · have hmerged : package ∈ (set.merge other).packages := mem_insertAll_iff.2 (.inr hmem)
    rw [insert_of_mem hmem, insert_of_mem hmerged]
  · rw [insert_of_not_mem hmem]
    exact insertAll_append set other.packages [package]

theorem merge_insertAll (set other : ImportSet) (packages : List String) :
    set.merge (other.insertAll packages) = (set.merge other).insertAll packages := by
  induction packages generalizing other with
  | nil => rfl
  | cons package packages ih =>
      change set.merge ((other.insert package).insertAll packages) = _
      rw [ih, merge_insert]
      rfl

theorem merge_assoc (set other third : ImportSet) :
    (set.merge other).merge third = set.merge (other.merge third) :=
  (merge_insertAll set other third.packages).symm

end Merging

section Detecting

theorem detect_append (transformers others : List Transformer) :
    detect (transformers ++ others) = (detect transformers).merge (detect others) := by
  have hbaseline : (detect transformers).merge baseline = detect transformers :=
    insertAll_of_subset (prefix_insertAll baseline _).subset
  calc detect (transformers ++ others)
      = (detect transformers).insertAll
          (others.flatMap fun transformer => mentionedIn transformer.code) := by
        rw [detect, List.flatMap_append, insertAll_append]
        rfl
    _ = ((detect transformers).merge baseline).insertAll
          (others.flatMap fun transformer => mentionedIn transformer.code) := by rw [hbaseline]
    _ = (detect transformers).merge (detect others) := (merge_insertAll _ _ _).symm

end Detecting

/-- What a set is made from. -/
inductive Origin where
  | empty
  | baseline
  | ofList (packages : List String)

namespace Origin

def set : Origin → ImportSet
  | empty => {}
  | baseline => .baseline
  | ofList packages => .ofList packages

def added : Origin → List String
  | empty => []
  | baseline => [baselinePackage]
  | ofList packages => packages

end Origin

/-- A change of a set. -/
inductive Change where
  | insert (package : String)
  | merge (other : ImportSet)

namespace Change

def apply (set : ImportSet) : Change → ImportSet
  | insert package => (set.insertNew package).2
  | merge other => set.merge other

def added : Change → List String
  | insert package => [package]
  | merge other => other.packages

theorem apply_eq (set : ImportSet) (change : Change) :
    change.apply set = set.insertAll change.added := by
  cases change with
  | insert package => rw [apply, insertNew_eq]; rfl
  | merge other => rfl

end Change

/-- A set after changes, one after the other. -/
def run (origin : Origin) (changes : List Change) : ImportSet :=
  changes.foldl Change.apply origin.set

/-- Everything that was added to a set, from its origin on. -/
def history (origin : Origin) (changes : List Change) : List String :=
  origin.added ++ changes.flatMap Change.added

theorem insert_eraseDups (added : List String) (package : String) :
    (⟨added.eraseDups⟩ : ImportSet).insert package = ⟨(added ++ [package]).eraseDups⟩ := by
  rw [List.eraseDups_append]
  by_cases hmem : package ∈ added
  · have hpackages : package ∈ (⟨added.eraseDups⟩ : ImportSet).packages :=
      List.mem_eraseDups.2 hmem
    rw [insert_of_mem hpackages]
    simp [List.removeAll, hmem]
  · have hpackages : package ∉ (⟨added.eraseDups⟩ : ImportSet).packages :=
      fun hold => hmem (List.mem_eraseDups.1 hold)
    rw [insert_of_not_mem hpackages]
    simp [List.removeAll, hmem, List.eraseDups_cons]

theorem insertAll_eraseDups (added packages : List String) :
    (⟨added.eraseDups⟩ : ImportSet).insertAll packages = ⟨(added ++ packages).eraseDups⟩ := by
  induction packages generalizing added with
  | nil => rw [List.append_nil]; rfl
  | cons package packages ih =>
      change ((⟨added.eraseDups⟩ : ImportSet).insert package).insertAll packages = _
      rw [insert_eraseDups, ih, List.append_assoc, List.singleton_append]

theorem Origin.set_eq (origin : Origin) : origin.set = ⟨origin.added.eraseDups⟩ := by
  cases origin with
  | empty => rfl
  | baseline => rfl
  | ofList packages => exact insertAll_eraseDups [] packages

theorem run_eq (origin : Origin) (changes : List Change) :
    run origin changes = ⟨(history origin changes).eraseDups⟩ := by
  have hrun : ∀ added : List String, changes.foldl Change.apply ⟨added.eraseDups⟩ =
      ⟨(added ++ changes.flatMap Change.added).eraseDups⟩ := by
    induction changes with
    | nil => simp
    | cons change changes ih =>
        intro added
        rw [List.foldl_cons, Change.apply_eq, insertAll_eraseDups, ih, List.flatMap_cons,
          List.append_assoc]
  rw [run, origin.set_eq, hrun, history]

theorem nodup_run (origin : Origin) (changes : List Change) :
    (run origin changes).packages.Nodup := by
  have horigin : origin.set.packages.Nodup := by
    cases origin with
    | empty => exact List.nodup_nil
    | baseline => exact nodup_insert List.nodup_nil _
    | ofList packages => exact nodup_insertAll List.nodup_nil packages
  unfold run
  generalize origin.set = set at horigin
  induction changes generalizing set with
  | nil => exact horigin
  | cons change changes ih =>
      refine ih _ ?_
      rw [Change.apply_eq]
      exact nodup_insertAll horigin change.added

theorem insertNew_iff (set : ImportSet) (package : String) :
    (set.insertNew package).1 = true ↔
      set.packages.length < (set.insertNew package).2.packages.length := by
  unfold insertNew
  split <;> simp

/-- Whatever happens to a set, it holds the first occurrences in what was added to it, in order,
and tells of every insertion whether it made the set larger.  Merging is associative and
idempotent, the empty set adds nothing, and detecting packages takes appending to merging. -/
theorem run_firstOccurrences (origin : Origin) (changes : List Change) :
    ((run origin changes).packages.Nodup ∧
      (run origin changes).packages = (history origin changes).eraseDups ∧
      ∀ package, ((run origin changes).insertNew package).1 = true ↔
        (run origin changes).packages.length <
          ((run origin changes).insertNew package).2.packages.length) ∧
    (∀ value, decode value =
      (Decoder.list Decoder.text value).map fun packages => (Origin.ofList packages).set) ∧
    (({} : ImportSet).merge (run origin changes) = run origin changes ∧
      (run origin changes).merge {} = run origin changes ∧
      (∀ set : ImportSet, set.merge set = set) ∧
      ∀ set other third : ImportSet,
        (set.merge other).merge third = set.merge (other.merge third)) ∧
    ∀ transformers others : List Transformer,
      detect (transformers ++ others) = (detect transformers).merge (detect others) ∧
        (detect transformers).packages <+: (detect (transformers ++ others)).packages := by
  have hpackages := congrArg packages (run_eq origin changes)
  have hempty : ({} : ImportSet).merge (run origin changes) = run origin changes :=
    insertAll_of_nodup (nodup_run origin changes)
  refine ⟨⟨nodup_run origin changes, hpackages, insertNew_iff _⟩, fun _ => rfl,
    ⟨hempty, rfl, merge_self, merge_assoc⟩, fun transformers others => ⟨detect_append _ _, ?_⟩⟩
  rw [detect_append]
  exact prefix_insertAll _ _

end FieldBridge.Code.ImportSet
