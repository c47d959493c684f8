import FieldBridge.Proofs.ImportOrder
import Mathlib.Data.List.Induction

/-!
# Packages that code seems to mention

Code refers to a package where the name of the package stands in front of a point and no longer
word ends in it.  The search for packages looks at what follows a name and not at what stands
before it, so it finds every package that is referred to, and also those whose name is the end of
another qualifier.
-/

namespace FieldBridge.Code.ImportSet

/-- The word stands in front of a point, and no other character of a word in front of it. -/
def RefersTo (text word : List Char) : Prop :=
  ∃ before after, text = before ++ (word ++ '.' :: after) ∧
    ∀ c ∈ before.getLast?, Unicode.continuesWord c = false

/-- Some qualifier of the text ends in the word. -/
def EndsQualifier (text word : List Char) : Prop :=
  ∃ lead, (∀ c ∈ lead, Unicode.continuesWord c = true) ∧ RefersTo text (lead ++ word)

def knownPackages : List String :=
  ["strconv", "time", "strings", "errors"]

/-- Whether a word is referred to, looking at one place after the other. -/
def refers (text word : List Char) : Bool :=
  (List.range (text.length + 1)).any fun index =>
    (word ++ ['.']).isPrefixOf (text.drop index) &&
      (text.take index).getLast?.all (!Unicode.continuesWord ·)

theorem refers_iff {text word : List Char} : refers text word = true ↔ RefersTo text word := by
  simp only [refers, List.any_eq_true, Bool.and_eq_true, List.isPrefixOf_iff_prefix,
    Option.all_eq_true, Bool.not_eq_true']
  constructor
  · rintro ⟨index, _, ⟨after, hafter⟩, hbefore⟩
    refine ⟨text.take index, after, ?_, hbefore⟩
    rw [List.append_assoc, List.singleton_append] at hafter
    rw [hafter, List.take_append_drop]
  · rintro ⟨before, after, rfl, hbefore⟩
    refine ⟨before.length, List.mem_range.2 (by rw [List.length_append]; omega), ?_, ?_⟩
    · rw [List.drop_left]
      exact ⟨after, by simp⟩
    · rwa [List.take_left]

instance (text word : List Char) : Decidable (RefersTo text word) :=
  decidable_of_iff _ refers_iff

theorem occursIn_iff {part text : List Char} : occursIn part text = true ↔ part <:+: text := by
  induction text with
  | nil => simp [occursIn]
  | cons c text ih =>
      rw [occursIn, Bool.or_eq_true, List.isPrefixOf_iff_prefix, ih, List.infix_cons_iff]

/-- What stands in front of a word ends in a part, perhaps empty, of that word. -/
theorem exists_lead (before : List Char) : ∃ front lead, before = front ++ lead ∧
    (∀ c ∈ lead, Unicode.continuesWord c = true) ∧
      ∀ c ∈ front.getLast?, Unicode.continuesWord c = false := by
  -- From the end, since only the last character decides whether the word goes on to the left.
  induction before using List.reverseRecOn with
  | nil => exact ⟨[], [], rfl, by simp, by simp⟩
  | append_singleton before c ih =>
      cases hword : Unicode.continuesWord c with
      | false => exact ⟨before ++ [c], [], by simp, by simp, by simp [hword]⟩
      | true =>
          obtain ⟨front, lead, rfl, hlead, hfront⟩ := ih
          refine ⟨front, lead ++ [c], List.append_assoc _ _ _, ?_, hfront⟩
          exact List.forall_mem_append.2 ⟨hlead, by simpa using hword⟩

theorem infix_iff_endsQualifier {text word : List Char} :
    word ++ ['.'] <:+: text ↔ EndsQualifier text word := by
  constructor
  · rintro ⟨before, after, rfl⟩
    obtain ⟨front, lead, rfl, hlead, hfront⟩ := exists_lead before
    exact ⟨lead, hlead, front, after, by simp, hfront⟩
  · rintro ⟨lead, _, before, after, rfl, _⟩
    exact ⟨before ++ lead, after, by simp⟩

theorem RefersTo.endsQualifier {text word : List Char} (hrefers : RefersTo text word) :
    EndsQualifier text word :=
  ⟨[], by simp, hrefers⟩

theorem mem_mentionedIn_iff {code package : String} :
    package ∈ mentionedIn code ↔
      package ∈ knownPackages ∧ EndsQualifier code.toList package.toList := by
  -- The texts that are searched for are the names with a point behind them.
  have hneedle : ∀ mention ∈ mentions, mention.1.toList = mention.2.toList ++ ['.'] := by decide
  have hoccurs : ∀ mention ∈ mentions, occursIn mention.1.toList code.toList = true ↔
      EndsQualifier code.toList mention.2.toList := by
    intro mention hmention
    rw [occursIn_iff, hneedle mention hmention, infix_iff_endsQualifier]
  have hknown : knownPackages = mentions.map Prod.snd := rfl
  simp only [mentionedIn, hknown, List.mem_map, List.mem_filter]
  constructor
  · rintro ⟨mention, ⟨hmention, hmem⟩, rfl⟩
    exact ⟨⟨mention, hmention, rfl⟩, (hoccurs mention hmention).1 hmem⟩
  · rintro ⟨⟨mention, hmention, rfl⟩, hends⟩
    exact ⟨mention, ⟨hmention, (hoccurs mention hmention).2 hends⟩, rfl⟩

theorem contains_detect_iff {transformers : List Transformer} {package : String} :
    (detect transformers).contains package = true ↔ package = baselinePackage ∨
      package ∈ knownPackages ∧
        ∃ transformer ∈ transformers, EndsQualifier transformer.code.toList package.toList := by
  have hbaseline : package ∈ baseline.packages ↔ package = baselinePackage :=
    List.mem_singleton
  rw [contains_iff, detect, mem_insertAll_iff, hbaseline, List.mem_flatMap]
  simp only [mem_mentionedIn_iff]
  apply or_congr_right
  constructor
  · rintro ⟨transformer, hmem, hknown, hends⟩
    exact ⟨hknown, transformer, hmem, hends⟩
  · rintro ⟨hknown, transformer, hmem, hends⟩
    exact ⟨transformer, hmem, hknown, hends⟩

/-- A known package is imported exactly when some qualifier ends in its name.  That includes all
references to it; the others are those of longer names. -/
theorem detect_endsQualifier (transformers : List Transformer) {package : String}
    (hknown : package ∈ knownPackages) :
    ((detect transformers).contains package = true ↔
      ∃ transformer ∈ transformers, EndsQualifier transformer.code.toList package.toList) ∧
    ((∃ transformer ∈ transformers, RefersTo transformer.code.toList package.toList) →
      (detect transformers).contains package = true) ∧
    (((detect transformers).contains package = true ∧
        ¬ ∃ transformer ∈ transformers, RefersTo transformer.code.toList package.toList) ↔
      (∀ transformer ∈ transformers, ¬ RefersTo transformer.code.toList package.toList) ∧
        ∃ transformer ∈ transformers, ∃ lead ≠ [], (∀ c ∈ lead, Unicode.continuesWord c = true) ∧
          RefersTo transformer.code.toList (lead ++ package.toList)) := by
  have hbaseline : package ≠ baselinePackage := by
    rintro rfl
    exact absurd hknown (by decide)
  have hcontains : (detect transformers).contains package = true ↔
      ∃ transformer ∈ transformers, EndsQualifier transformer.code.toList package.toList := by
    rw [contains_detect_iff, or_iff_right hbaseline, and_iff_right hknown]
  refine ⟨hcontains, fun ⟨transformer, hmem, hrefers⟩ =>
    hcontains.2 ⟨transformer, hmem, hrefers.endsQualifier⟩, ?_⟩
  rw [hcontains, and_comm]
  simp only [not_exists, not_and]
  refine and_congr_right fun hnone => exists_congr fun transformer => and_congr_right fun hmem => ?_
  constructor
  · rintro ⟨lead, hlead, hrefers⟩
    refine ⟨lead, ?_, hlead, hrefers⟩
    rintro rfl
    exact hnone transformer hmem hrefers
  · rintro ⟨lead, _, hlead, hrefers⟩
    exact ⟨lead, hlead, hrefers⟩

def collectGarbage : Transformer where
  id := "t"
  code := "func h() \x7b runtime.GC() \x7d"

theorem detect_endsQualifier_longer_name :
    "time" ∈ knownPackages ∧ ((detect [collectGarbage]).contains "time" = true ∧
      ¬ ∃ transformer ∈ [collectGarbage], RefersTo transformer.code.toList "time".toList) := by
  have hknown : "time" ∈ knownPackages := by decide
  have hnone : ∀ transformer ∈ [collectGarbage],
      ¬ RefersTo transformer.code.toList "time".toList := by decide +kernel
  have hlead : ∀ c ∈ "run".toList, Unicode.continuesWord c = true := by
    rw [← List.all_eq_true]
    decide
  have hlonger : RefersTo collectGarbage.code.toList ("run".toList ++ "time".toList) := by
    decide +kernel
  exact ⟨hknown, (detect_endsQualifier [collectGarbage] hknown).2.2.2 ⟨hnone, collectGarbage,
    List.mem_singleton_self _, "run".toList, by decide, hlead, hlonger⟩⟩

/-- A package is imported for a name that only ends in its name. -/
theorem not_detect_refersTo_longer_name :
    ¬ ∀ package ∈ knownPackages, ((detect [collectGarbage]).contains package = true ↔
      ∃ transformer ∈ [collectGarbage], RefersTo transformer.code.toList package.toList) := by
  intro hall
  have hcontains : (detect [collectGarbage]).contains "time" = true := by decide +kernel
  obtain ⟨transformer, hmem, hrefers⟩ := (hall "time" (by decide)).1 hcontains
  rw [List.mem_singleton.1 hmem] at hrefers
  exact absurd hrefers (by decide +kernel)

end FieldBridge.Code.ImportSet
