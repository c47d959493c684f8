import Mathlib
import FieldBridge.FileTree

/-!
# What is where in a file tree

Something is at a place of a file tree when the place leads to an entry or to the home
directory, and in a tree worth the name everything is in a directory.  Putting a text at a place
changes nothing at other places, as long as the directories on the way are there.  A name with an
extension is a stem, a dot and the extension, and the stem is what stays when the extension is
replaced.
-/

namespace FieldBridge

namespace Path

/-- The last dot of a name parts it, unless nothing stands before that dot. -/
theorem split_eq_some_iff {name stem ext : List Char} :
    split name = (stem, some ext) ↔ stem ≠ [] ∧ name = stem ++ '.' :: ext ∧ '.' ∉ ext := by
  constructor
  · intro hsplit
    unfold split at hsplit
    split at hsplit
    · next dot c front hrest =>
      obtain ⟨rfl, hext⟩ := Prod.mk.inj hsplit
      obtain rfl := Option.some.inj hext
      have hdot := List.head?_dropWhile_not (· ≠ '.') name.reverse
      rw [hrest] at hdot
      obtain rfl : dot = '.' := by simpa using hdot
      refine ⟨by simp, ?_, fun hmem => ?_⟩
      · have hwhole := List.takeWhile_append_dropWhile (p := (· ≠ '.')) (l := name.reverse)
        rw [hrest] at hwhole
        simpa using (congrArg List.reverse hwhole).symm
      · have hall := List.all_takeWhile (p := (· ≠ '.')) (l := name.reverse)
        simpa using List.all_eq_true.1 hall '.' (List.mem_reverse.1 hmem)
    · cases hsplit
  · rintro ⟨hstem, rfl, hext⟩
    have hpass : ∀ c ∈ ext.reverse, decide (c ≠ '.') = true := by
      intro c hc
      refine decide_eq_true ?_
      rintro rfl
      exact hext (List.mem_reverse.1 hc)
    have hreverse : (stem ++ '.' :: ext).reverse = ext.reverse ++ '.' :: stem.reverse := by simp
    obtain ⟨c, front, hfront⟩ := List.exists_cons_of_ne_nil (mt List.reverse_eq_nil_iff.1 hstem)
    have hstop : stem = (c :: front).reverse := by rw [← hfront, List.reverse_reverse]
    unfold split
    rw [hreverse, List.dropWhile_append_of_pos hpass, List.takeWhile_append_of_pos hpass,
      List.dropWhile_cons_of_neg (by decide), List.takeWhile_cons_of_neg (by decide), hfront,
      List.append_nil, List.reverse_reverse, hstop]

theorem hasExtension_iff {name ext : String} (hext : '.' ∉ ext.toList) :
    hasExtension name ext = true ↔ ∃ stem, stem ≠ "" ∧ name = stem ++ "." ++ ext := by
  unfold hasExtension
  rw [decide_eq_true_eq]
  constructor
  · intro hsome
    obtain ⟨hstem, hname, _⟩ := split_eq_some_iff.1 (Prod.ext rfl hsome)
    refine ⟨String.ofList (split name.toList).1, ?_, ?_⟩
    · simpa using hstem
    · apply String.toList_inj.1
      simpa using hname
  · rintro ⟨stem, hstem, rfl⟩
    have hsplit : split (stem ++ "." ++ ext).toList = (stem.toList, some ext.toList) :=
      split_eq_some_iff.2 ⟨by simpa using hstem, by simp, hext⟩
    rw [hsplit]

/-- A name keeps its stem when its extension is replaced.  A stem that is a dot would make a name
of two dots with nothing behind them, which stays what it is. -/
theorem withExtension_of_stem {stem ext : String} (new : String) (hstem : stem ≠ "")
    (hext : '.' ∉ ext.toList) :
    withExtension (stem ++ "." ++ ext) new = if stem = "." then ".." else stem ++ "." ++ new := by
  have hsplit : split (stem ++ "." ++ ext).toList = (stem.toList, some ext.toList) :=
    split_eq_some_iff.2 ⟨by simpa using hstem, by simp, hext⟩
  unfold withExtension
  rw [hsplit]
  split
  · next heq =>
    have hdot : stem = "." := String.toList_inj.1 (Prod.mk.inj heq).1
    rw [if_pos hdot]
  · next front _ hdots heq =>
    obtain ⟨rfl, rfl⟩ := Prod.mk.inj heq
    have hother : stem ≠ "." := by
      rintro rfl
      exact hdots ext.toList rfl rfl
    rw [if_neg hother]
    apply String.toList_inj.1
    simp

end Path

namespace FileTree

variable {tree : FileTree} {place other : Place}

theorem mem_entries_of_lookup {entry : Entry} (hlookup : tree.entries.lookup place = some entry) :
    (place, entry) ∈ tree.entries := by
  obtain ⟨before, after, hentries, _⟩ := List.lookup_eq_some_iff.1 hlookup
  rw [hentries]
  exact List.mem_append_right before List.mem_cons_self

theorem isSome_entry?_iff :
    (tree.entry? place).isSome = true ↔
      place <+: tree.home ∨ ∃ entry ∈ tree.entries, place <+: entry.1 := by
  unfold entry?
  split
  · next entry hlookup =>
    exact iff_of_true rfl (.inr ⟨_, mem_entries_of_lookup hlookup, List.prefix_rfl⟩)
  · have hbool : (place.isPrefixOf tree.home ||
        tree.entries.any fun entry => place.isPrefixOf entry.1) = true ↔
          place <+: tree.home ∨ ∃ entry ∈ tree.entries, place <+: entry.1 := by
      simp only [Bool.or_eq_true, List.any_eq_true, List.isPrefixOf_iff_prefix]
    rw [← hbool]
    split
    · next hsome => exact iff_of_true rfl hsome
    · next hnone => exact iff_of_false Bool.false_ne_true hnone

theorem isSome_entry?_of_prefix (hbegins : other <+: place)
    (hsome : (tree.entry? place).isSome = true) : (tree.entry? other).isSome = true := by
  rcases isSome_entry?_iff.1 hsome with hhome | ⟨entry, hentry, hplace⟩
  · exact isSome_entry?_iff.2 (.inl (hbegins.trans hhome))
  · exact isSome_entry?_iff.2 (.inr ⟨entry, hentry, hbegins.trans hplace⟩)

theorem mem_entries_of_entry? {entry : Entry} (hentry : tree.entry? place = some entry)
    (hne : entry ≠ .directory) : (place, entry) ∈ tree.entries := by
  unfold entry? at hentry
  split at hentry
  · next hlookup =>
    obtain rfl := Option.some.inj hentry
    exact mem_entries_of_lookup hlookup
  · split at hentry
    · exact absurd (Option.some.inj hentry).symm hne
    · cases hentry

/-- Everything in the tree is in a directory. -/
def IsTree (tree : FileTree) : Prop :=
  ∀ place name, (tree.entry? (place ++ [name])).isSome = true →
    tree.entry? place = some .directory

theorem isTree_iff : tree.IsTree ↔ ∀ place ∈ tree.home :: tree.entries.map Prod.fst,
    ∀ above ∈ place.inits, above ≠ place → tree.entry? above = some .directory := by
  constructor
  · intro htree place hplace above habove hne
    obtain ⟨rest, rfl⟩ := (List.mem_inits _ _).1 habove
    cases rest with
    | nil => exact absurd (List.append_nil above).symm hne
    | cons name rest =>
        have hbegins : above ++ [name] <+: above ++ name :: rest := by simp
        refine htree above name (isSome_entry?_iff.2 ?_)
        rcases List.mem_cons.1 hplace with hhome | hplace
        · exact .inl (hhome ▸ hbegins)
        · obtain ⟨entry, hentry, heq⟩ := List.mem_map.1 hplace
          exact .inr ⟨entry, hentry, heq ▸ hbegins⟩
  · intro hall place name hsome
    obtain ⟨whole, hwhole, hbegins⟩ : ∃ whole ∈ tree.home :: tree.entries.map Prod.fst,
        place ++ [name] <+: whole := by
      rcases isSome_entry?_iff.1 hsome with hhome | ⟨entry, hentry, hbegins⟩
      · exact ⟨_, List.mem_cons_self, hhome⟩
      · exact ⟨_, List.mem_cons_of_mem _ (List.mem_map_of_mem hentry), hbegins⟩
    refine hall whole hwhole place ((List.mem_inits _ _).2 ?_) ?_
    · exact (List.prefix_append place [name]).trans hbegins
    · rintro rfl
      simpa using hbegins.length_le

instance : DecidablePred IsTree := fun _ => decidable_of_iff _ isTree_iff.symm

/-- The directory above the one that something is in is a directory, too. -/
theorem IsTree.entry?_dropLast (htree : tree.IsTree)
    (hplace : tree.entry? place = some .directory) :
    tree.entry? place.dropLast = some .directory := by
  rcases List.eq_nil_or_concat place with rfl | ⟨above, name, rfl⟩
  · exact hplace
  · rw [List.concat_eq_append, List.dropLast_concat]
    exact htree above name (by rw [← List.concat_eq_append, hplace]; rfl)

@[simp] theorem entry?_put_self (text : String) :
    FileTree.entry? (tree.put place text) place = some (.file text) := by
  simp [put, entry?]

theorem lookup_put_of_ne (hne : other ≠ place) (text : String) :
    (tree.put place text).entries.lookup other = tree.entries.lookup other := by
  have hkept : ∀ entries : List (Place × Entry),
      (entries.filter fun entry => entry.1 ≠ place).lookup other = entries.lookup other := by
    intro entries
    induction entries with
    | nil => rfl
    | cons entry entries ih =>
        obtain ⟨key, value⟩ := entry
        by_cases hkey : key = place
        · subst hkey
          have hother : (other == key) = false := beq_eq_false_iff_ne.2 hne
          rw [List.filter_cons_of_neg (by simp), ih, List.lookup_cons, hother]
        · rw [List.filter_cons_of_pos (by simpa using hkey), List.lookup_cons, List.lookup_cons, ih]
  have hother : (other == place) = false := by simpa using hne
  rw [put, List.lookup_cons, hother]
  exact hkept tree.entries

/-- What is put at one place is nowhere else, except that the directories it is in are there
from then on. -/
theorem entry?_put_of_ne (hne : other ≠ place)
    (habove : other <+: place → (tree.entry? other).isSome = true) (text : String) :
    FileTree.entry? (tree.put place text) other = tree.entry? other := by
  have hsome : (FileTree.entry? (tree.put place text) other).isSome = true ↔
      (tree.entry? other).isSome = true := by
    refine ⟨fun hput => ?_, fun hsome => ?_⟩
    · rcases isSome_entry?_iff.1 hput with hhome | ⟨entry, hentry, hbegins⟩
      · exact isSome_entry?_iff.2 (.inl hhome)
      · rcases List.mem_cons.1 hentry with rfl | hentry
        · exact habove hbegins
        · exact isSome_entry?_iff.2 (.inr ⟨entry, List.mem_of_mem_filter hentry, hbegins⟩)
    · rcases isSome_entry?_iff.1 hsome with hhome | ⟨entry, hentry, hbegins⟩
      · exact isSome_entry?_iff.2 (.inl hhome)
      · refine isSome_entry?_iff.2 (.inr ?_)
        by_cases hplace : entry.1 = place
        · exact ⟨(place, .file text), List.mem_cons_self, hplace ▸ hbegins⟩
        · exact ⟨entry, List.mem_cons_of_mem _ (List.mem_filter.2 ⟨hentry, by simpa using hplace⟩),
            hbegins⟩
  unfold entry? at hsome ⊢
  rw [lookup_put_of_ne hne] at hsome ⊢
  split
  · rfl
  · next hnone =>
    simp only [hnone] at hsome
    split <;> split <;> simp_all

/-- A text is put where nothing is, or a file; what is written to a device is not there. -/
theorem write_eq_put_iff {text : String} : tree.write place text = .ok (tree.put place text) ↔
    tree.entry? place = none ∨ ∃ old, tree.entry? place = some (.file old) := by
  unfold write
  split
  · next hnone => simp [hnone]
  · next old hfile => simp [hfile]
  · next other hdevice =>
    refine iff_of_false (fun hput => ?_) (by simp [hdevice])
    have hsame := congrArg (fun written => written.entry? place) (Except.ok.inj hput)
    simp [hdevice] at hsame
  · next reason hclosed => simp [hclosed]
  · next hdirectory => simp [hdirectory]

theorem mem_beginnings_iff {α : Type} {way whole : List α} :
    way ∈ beginnings whole ↔ way ≠ [] ∧ way <+: whole := by
  induction whole generalizing way with
  | nil => simp [beginnings]
  | cons first rest ih =>
      cases way with
      | nil => simp [beginnings]
      | cons start way =>
          by_cases hway : way = [] <;> simp [beginnings, ih, hway, eq_comm, and_comm]

/-- A way leads down from a place when entries stand at its end or behind it. -/
theorem mem_below_iff {way : Place} :
    way ∈ tree.below place ↔ way ≠ [] ∧ ∃ entry ∈ tree.entries, place ++ way <+: entry.1 := by
  unfold below
  rw [List.mem_eraseDups, List.mem_flatMap]
  constructor
  · rintro ⟨entry, hentry, hway⟩
    split at hway
    · next rest hrest =>
      obtain ⟨hne, hbegins⟩ := mem_beginnings_iff.1 hway
      refine ⟨hne, entry, hentry, ?_⟩
      rw [← List.isPrefixOf?_eq_some_iff_append_eq.1 hrest]
      exact (List.prefix_append_right_inj place).2 hbegins
    · cases hway
  · rintro ⟨hne, entry, hentry, rest, hrest⟩
    have hbegins : place.isPrefixOf? entry.1 = some (way ++ rest) :=
      List.isPrefixOf?_eq_some_iff_append_eq.2 (by rw [← hrest, List.append_assoc])
    refine ⟨entry, hentry, ?_⟩
    rw [hbegins]
    exact mem_beginnings_iff.2 ⟨hne, List.prefix_append way rest⟩

end FileTree

end FieldBridge
