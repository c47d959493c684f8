import FieldBridge.Graph.Handle
import Mathlib.Data.List.Infix

/-!
# Handles of fields

The handles of a struct node are an exact code for the names of its fields: a handle is read
as a field only when it is one of the two handles of that field, and both are read as it.
Names may hold the marks that handles are made with, since a handle loses its first mark and
its last one and nothing else.
-/

namespace FieldBridge.Handle

theorem between?_eq_some_iff {first last text name : List Char} :
    between? first last text = some name ↔ text = first ++ (name ++ last) := by
  simp only [between?, Option.bind_eq_some_iff, List.isPrefixOf?_eq_some_iff_append_eq,
    List.isSuffixOf?_eq_some_iff_append_eq]
  constructor
  · rintro ⟨rest, rfl, rfl⟩
    rfl
  · rintro rfl
    exact ⟨name ++ last, rfl, rfl⟩

theorem toList_reading (field : String) :
    (reading field).toList = "field-".toList ++ (field.toList ++ "-out".toList) := by
  simp [reading]

theorem toList_writing (field : String) :
    (writing field).toList = "field-".toList ++ (field.toList ++ "-in".toList) := by
  simp [writing]

theorem between?_reading {text : String} {name : List Char} :
    between? "field-".toList "-out".toList text.toList = some name ↔
      text = reading (String.ofList name) := by
  rw [between?_eq_some_iff, ← String.toList_inj, toList_reading, @String.toList_ofList name]

theorem between?_writing {text : String} {name : List Char} :
    between? "field-".toList "-in".toList text.toList = some name ↔
      text = writing (String.ofList name) := by
  rw [between?_eq_some_iff, ← String.toList_inj, toList_writing, @String.toList_ofList name]

/-- What puts a name between two marks keeps names apart. -/
theorem injective_of_toList {first last : List Char} {handle : String → String}
    (hhandle : ∀ field, (handle field).toList = first ++ (field.toList ++ last)) :
    Function.Injective handle := by
  intro field other hsame
  have hlists := congrArg String.toList hsame
  rw [hhandle, hhandle, List.append_cancel_left_eq, List.append_cancel_right_eq] at hlists
  exact String.toList_inj.1 hlists

theorem reading_injective : Function.Injective reading :=
  injective_of_toList toList_reading

theorem writing_injective : Function.Injective writing :=
  injective_of_toList toList_writing

/-- The two kinds of handles differ in their last character. -/
theorem reading_ne_writing (field other : String) : reading field ≠ writing other := by
  intro hsame
  have hlists := congrArg String.toList hsame
  rw [toList_reading, toList_writing, List.append_cancel_left_eq] at hlists
  have hlast := congrArg List.getLast? hlists
  simp at hlast

/-- Whether a handle is one of the two handles of a field. -/
def IsPort (text field : String) : Prop :=
  text = reading field ∨ text = writing field

theorem IsPort.head? {text field : String} (hport : IsPort text field) :
    text.toList.head? = some 'f' := by
  rcases hport with rfl | rfl
  · simp [toList_reading]
  · simp [toList_writing]

/-- The handles of fields begin unlike those of transformers. -/
theorem IsPort.ne_transformer {text field : String} (hport : IsPort text field) :
    text ≠ transformerInText ∧ text ≠ transformerOutText := by
  have hhead := hport.head?
  constructor
  · rintro rfl
    exact absurd hhead (by decide)
  · rintro rfl
    exact absurd hhead (by decide)

/-- What stands between the marks of a handle of a field, if it is one. -/
theorem or_between?_eq_some_iff {text : String} {name : List Char} :
    (between? "field-".toList "-out".toList text.toList).or
      (between? "field-".toList "-in".toList text.toList) = some name ↔
        IsPort text (String.ofList name) := by
  rw [Option.or_eq_some_iff, between?_reading, between?_writing, IsPort]
  refine or_congr_right (and_iff_right_of_imp ?_)
  rintro rfl
  rw [Option.eq_none_iff_forall_ne_some]
  intro other hother
  exact reading_ne_writing _ _ (between?_reading.1 hother).symm

/-- A handle is read as a field exactly when the field has a name and the handle is one of
its two. -/
theorem parse_eq_field_iff {text name : String} :
    parse text = .field name ↔ name ≠ "" ∧ IsPort text name := by
  constructor
  · intro hparse
    unfold parse at hparse
    split at hparse
    · cases hparse
    split at hparse
    · cases hparse
    dsimp only at hparse
    split at hparse
    · next c rest hbetween =>
      cases hparse
      exact ⟨by simp, or_between?_eq_some_iff.1 hbetween⟩
    · cases hparse
  · rintro ⟨hname, hport⟩
    obtain ⟨c, rest, hchars⟩ : ∃ c rest, name.toList = c :: rest :=
      List.exists_cons_of_ne_nil (by simpa using hname)
    obtain rfl : String.ofList (c :: rest) = name := by rw [← hchars, String.ofList_toList]
    obtain ⟨hin, hout⟩ := hport.ne_transformer
    rw [parse, if_neg hin, if_neg hout]
    dsimp only
    rw [or_between?_eq_some_iff.2 hport]

theorem parse_eq_transformerIn_iff {text : String} :
    parse text = .transformerIn ↔ text = transformerInText := by
  constructor
  · intro hparse
    unfold parse at hparse
    split at hparse
    · assumption
    split at hparse
    · cases hparse
    dsimp only at hparse
    split at hparse <;> cases hparse
  · rintro rfl
    rfl

theorem parse_eq_transformerOut_iff {text : String} :
    parse text = .transformerOut ↔ text = transformerOutText := by
  constructor
  · intro hparse
    unfold parse at hparse
    split at hparse
    · cases hparse
    split at hparse
    · assumption
    dsimp only at hparse
    split at hparse <;> cases hparse
  · rintro rfl
    rfl

theorem fieldKey_of_isPort {text field : String} (hfield : field ≠ "")
    (hport : IsPort text field) : fieldKey (some text) = field := by
  have hparse : parse text = .field field := parse_eq_field_iff.2 ⟨hfield, hport⟩
  simp [fieldKey, hparse, field?]

theorem fieldKey_reading {field : String} (hfield : field ≠ "") :
    fieldKey (some (reading field)) = field :=
  fieldKey_of_isPort hfield (.inl rfl)

theorem fieldKey_writing {field : String} (hfield : field ≠ "") :
    fieldKey (some (writing field)) = field :=
  fieldKey_of_isPort hfield (.inr rfl)

/-- The field that an end of an edge names: the one with a name whose handle it is attached to.
Where there is no such field, its name is `unknown`. -/
def Names (handle : Option String) (field : String) : Prop :=
  (field ≠ "" ∧ ∃ text, handle = some text ∧ IsPort text field) ∨
    field = "unknown" ∧ ∀ text name, handle = some text → name ≠ "" → ¬ IsPort text name

theorem names_iff {handle : Option String} {field : String} :
    Names handle field ↔ fieldKey handle = field := by
  have hnone : ∀ {handle : Option String},
      (∀ text name, handle = some text → name ≠ "" → ¬ IsPort text name) →
        fieldKey handle = "unknown" := by
    intro handle hports
    cases handle with
    | none => rfl
    | some text =>
        cases hparse : parse text with
        | field name =>
            obtain ⟨hname, hport⟩ := parse_eq_field_iff.1 hparse
            exact absurd hport (hports text name rfl hname)
        | _ => simp [fieldKey, hparse, field?, unknownField]
  constructor
  · rintro (⟨hfield, text, rfl, hport⟩ | ⟨rfl, hports⟩)
    · exact fieldKey_of_isPort hfield hport
    · exact hnone hports
  · rintro rfl
    by_cases hports : ∀ text name, handle = some text → name ≠ "" → ¬ IsPort text name
    · exact Or.inr ⟨hnone hports, hports⟩
    · push Not at hports
      obtain ⟨text, name, rfl, hname, hport⟩ := hports
      rw [fieldKey_of_isPort hname hport]
      exact Or.inl ⟨hname, text, rfl, hport⟩

/-- Handles that are an exact code for names: every handle of a field with a name gives the
name back, nothing else is read as a field, no two ports of fields share a handle, and none is
read as the port of a transformer. -/
structure IsExactCode (reads writes : String → String) (reader : String → Handle)
    (key : Option String → String) : Prop where
  key_reads : ∀ field, field ≠ "" → key (some (reads field)) = field
  key_writes : ∀ field, field ≠ "" → key (some (writes field)) = field
  of_field : ∀ text name, reader text = .field name →
    name ≠ "" ∧ (text = reads name ∨ text = writes name)
  reads_injective : Function.Injective reads
  writes_injective : Function.Injective writes
  disjoint : ∀ field other, reads field ≠ writes other
  no_transformer : ∀ field, ∀ text ∈ [reads field, writes field],
    reader text ≠ .transformerIn ∧ reader text ≠ .transformerOut

theorem isExactCode : IsExactCode reading writing parse fieldKey where
  key_reads _ hfield := fieldKey_reading hfield
  key_writes _ hfield := fieldKey_writing hfield
  of_field _ _ hparse := parse_eq_field_iff.1 hparse
  reads_injective := reading_injective
  writes_injective := writing_injective
  disjoint := reading_ne_writing
  no_transformer field text htext := by
    have hport : IsPort text field := by simpa [IsPort] using htext
    exact ⟨fun hin => hport.ne_transformer.1 (parse_eq_transformerIn_iff.1 hin),
      fun hout => hport.ne_transformer.2 (parse_eq_transformerOut_iff.1 hout)⟩

end FieldBridge.Handle
