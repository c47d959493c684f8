import FieldBridge.Project.Basic
import Mathlib.Data.List.Find
import Mathlib.Data.List.Nodup
import Std.Data.HashMap.Lemmas

/-!
# Tables and lists of ids

A table resolves an id to the last entry that has it, a list to the first.  When the ids are
distinct, both find the only entry there is, wherever it stands.  An analysis asks for structs
and transformers by their ids alone, so that it does not depend on which of the two it asks, nor
on the order of the entries.
-/

namespace FieldBridge

section Resolving

variable {α : Type} {key : α → String}

/-- Entries that are put into a table hide what it had under their ids, and the later ones hide
the earlier ones. -/
theorem getElem?_insertMany (table : Std.HashMap String α) (entries : List α) (id : String) :
    (table.insertMany (entries.map fun entry => (key entry, entry)))[id]? =
      (entries.reverse.find? (key · = id)).or table[id]? := by
  induction entries generalizing table with
  | nil => simp
  | cons entry entries ih =>
      rw [List.map_cons, Std.HashMap.insertMany_cons, ih, Std.HashMap.getElem?_insert,
        List.reverse_cons, List.find?_append, List.find?_singleton, Option.or_assoc]
      by_cases hkey : key entry = id <;> simp [hkey]

theorem getElem?_ofList (entries : List α) (id : String) :
    (Std.HashMap.ofList (entries.map fun entry => (key entry, entry)))[id]? =
      entries.reverse.find? (key · = id) := by
  rw [Std.HashMap.ofList_eq_insertMany_empty, getElem?_insertMany, Std.HashMap.getElem?_empty,
    Option.or_none]

/-- Of entries with distinct ids, the one that an id stands for is found in every order. -/
theorem find?_key_of_perm {entries others : List α} (hdistinct : (entries.map key).Nodup)
    (hperm : others.Perm entries) (id : String) :
    others.find? (key · = id) = entries.find? (key · = id) := by
  symm
  apply List.find?_eq_find?_of_perm hperm.symm
  rintro entry ⟨hentry, hid⟩ other ⟨hother, hid'⟩
  apply List.inj_on_of_nodup_map hdistinct hentry hother
  rw [of_decide_eq_true hid, of_decide_eq_true hid']

end Resolving

/-- A table resolves ids as the reversed lists do, because in it the last entry counts. -/
theorem RegistryTable.registry_ofLists (structs : List StructDescriptor)
    (transformers : List Transformer) :
    (ofLists structs transformers).registry =
      Registry.ofLists structs.reverse transformers.reverse := by
  rw [registry, Registry.ofLists, Registry.mk.injEq]
  exact ⟨funext fun id => getElem?_ofList structs id,
    funext fun id => getElem?_ofList transformers id⟩

namespace Project

variable {project : Project}

/-- The ids of the structs are distinct, and so are those of the transformers. -/
structure DistinctIds (project : Project) : Prop where
  structs : (project.structs.map (·.id)).Nodup
  transformers : (project.transformers.map (·.id)).Nodup

theorem registry_of_perm (hdistinct : project.DistinctIds) {structs : List StructDescriptor}
    (hstructs : structs.Perm project.structs) {transformers : List Transformer}
    (htransformers : transformers.Perm project.transformers) :
    Registry.ofLists structs transformers = project.registry := by
  rw [registry, Registry.ofLists, Registry.ofLists, Registry.mk.injEq]
  exact ⟨funext fun id => find?_key_of_perm hdistinct.structs hstructs id,
    funext fun id => find?_key_of_perm hdistinct.transformers htransformers id⟩

/-- Every graph is analysed alike with a project and with a table of the project's structs and
transformers, and with neither does the order of these lists matter. -/
theorem analyze_table (project : Project) (hdistinct : project.DistinctIds)
    (graph : MappingGraph) :
    graph.analyze (RegistryTable.ofLists project.structs project.transformers).registry =
        graph.analyze project.registry ∧
      ∀ structs transformers, structs.Perm project.structs →
        transformers.Perm project.transformers →
          graph.analyze (RegistryTable.ofLists structs transformers).registry =
              graph.analyze project.registry ∧
            graph.analyze
                { project with structs := structs, transformers := transformers }.registry =
              graph.analyze project.registry := by
  have htable : ∀ structs transformers, structs.Perm project.structs →
      transformers.Perm project.transformers →
        (RegistryTable.ofLists structs transformers).registry = project.registry := by
    intro structs transformers hstructs htransformers
    rw [RegistryTable.registry_ofLists]
    exact registry_of_perm hdistinct ((List.reverse_perm structs).trans hstructs)
      ((List.reverse_perm transformers).trans htransformers)
  refine ⟨?_, fun structs transformers hstructs htransformers => ⟨?_, ?_⟩⟩
  · rw [htable _ _ (List.Perm.refl _) (List.Perm.refl _)]
  · rw [htable structs transformers hstructs htransformers]
  · have hlist : registry { project with structs := structs, transformers := transformers } =
        project.registry := registry_of_perm hdistinct hstructs htransformers
    rw [hlist]

/-- Two structs that are joined through a transformer and directly, by an edge that has an
unknown transformer attached. -/
def joinedTwice : Project where
  id := "p"
  name := "P"
  structs := [{ id := "a" }, { id := "b" }]
  graph :=
    { nodes := [.ofStruct "n" "a" "", .ofTransformer "t" "g" "", .ofStruct "m" "b" ""]
      edges := [⟨"1", "n", "t", some "field-X-out", none, none⟩,
        ⟨"2", "n", "m", some "field-X-out", some "field-Y-in", some "gone"⟩,
        ⟨"3", "t", "m", none, some "field-Z-in", none⟩] }
  transformers := [{ id := "f" }, { id := "g" }]

theorem analyze_table_reversed : joinedTwice.DistinctIds ∧
    joinedTwice.structs.reverse.Perm joinedTwice.structs ∧
    joinedTwice.transformers.reverse.Perm joinedTwice.transformers ∧
    joinedTwice.graph.analyze (RegistryTable.ofLists joinedTwice.structs.reverse
        joinedTwice.transformers.reverse).registry =
      [⟨some { id := "a" }, some { id := "b" },
        [⟨"X", "Z", some { id := "g" }⟩, ⟨"X", "Y", none⟩]⟩] := by
  have hdistinct : joinedTwice.DistinctIds := ⟨by decide, by decide⟩
  have hstructs := List.reverse_perm joinedTwice.structs
  have htransformers := List.reverse_perm joinedTwice.transformers
  have htable := ((analyze_table joinedTwice hdistinct joinedTwice.graph).2 _ _ hstructs
    htransformers).1
  refine ⟨hdistinct, hstructs, htransformers, htable.trans ?_⟩
  decide

end Project

end FieldBridge
