import FieldBridge.Proofs.LikeReading
import FieldBridge.Reading
import Mathlib.Data.List.Forall2

/-!
# What is found about a declaration

The checks look at names, types and order, and at places only to report them.  So
declarations that are the same apart from where they stand are judged the same, and
so are the descriptors made of them.
-/

namespace FieldBridge

namespace Declaration

theorem unplaced_checkName {declaration other : Declaration}
    (hname : other.name = declaration.name) :
    other.checkName.map Diagnostic.unplaced = declaration.checkName.map Diagnostic.unplaced := by
  unfold checkName
  rw [hname]
  split
  · rfl
  · split <;> rfl

theorem unplaced_firstNamed? (name : String) {before before' : List Field}
    (hbefore : before'.map Field.unplaced = before.map Field.unplaced) :
    (firstNamed? name before').map Field.unplaced =
      (firstNamed? name before).map Field.unplaced := by
  have hfind : ∀ fields : List Field, (firstNamed? name fields).map Field.unplaced =
      (fields.map Field.unplaced).find? (·.name = name) := by
    intro fields
    rw [firstNamed?, List.find?_map]
    rfl
  rw [hfind, hfind, hbefore]

theorem unplaced_checkField {before before' : List Field} {field field' : Field}
    (hbefore : before'.map Field.unplaced = before.map Field.unplaced)
    (hfield : field'.unplaced = field.unplaced) :
    (checkField before' field').map Diagnostic.unplaced =
      (checkField before field).map Diagnostic.unplaced := by
  have hname : field'.name = field.name := by
    simpa [Field.unplaced] using congrArg Field.name hfield
  have htype : field'.type = field.type := by
    simpa [Field.unplaced] using congrArg Field.type hfield
  have hfirst := unplaced_firstNamed? field.name hbefore
  unfold checkField checkFieldName
  rw [hname, htype, List.map_append, List.map_append]
  congr 1
  · split
    · rfl
    · split
      · rfl
      · cases hleft : firstNamed? field.name before with
        | none =>
            rw [hleft] at hfirst
            rw [Option.map_eq_none_iff.1 hfirst]
        | some first =>
            rw [hleft] at hfirst
            obtain ⟨first', hright, _⟩ := Option.map_eq_some_iff.1 hfirst
            rw [hright]
            rfl
  · split <;> rfl

theorem unplaced_checkFields {before before' fields fields' : List Field}
    (hbefore : before'.map Field.unplaced = before.map Field.unplaced)
    (hfields : fields'.map Field.unplaced = fields.map Field.unplaced) :
    (checkFields before' fields').map Diagnostic.unplaced =
      (checkFields before fields).map Diagnostic.unplaced := by
  induction fields generalizing before before' fields' with
  | nil =>
      obtain rfl := List.map_eq_nil_iff.1 hfields
      rfl
  | cons field fields ih =>
      obtain ⟨field', rest', rfl, hfield, hrest⟩ := List.map_eq_cons_iff.1 hfields
      have hmore := @ih (before ++ [field]) (before' ++ [field']) rest'
        (by rw [List.map_append, List.map_append, hbefore, List.map_singleton, hfield,
          List.map_singleton]) hrest
      rw [checkFields, checkFields, List.map_append, List.map_append, hmore,
        unplaced_checkField hbefore hfield]

theorem unplaced_check {declaration other : Declaration}
    (hname : other.name = declaration.name)
    (hfields : other.fields.map Field.unplaced = declaration.fields.map Field.unplaced) :
    other.check.map Diagnostic.unplaced = declaration.check.map Diagnostic.unplaced := by
  have hempty : other.fields = [] ↔ declaration.fields = [] := by
    rw [← List.map_eq_nil_iff, hfields, List.map_eq_nil_iff]
  have hnone : (if other.fields = [] then [Diagnostic.noFields other.nameSpan] else []).map
      Diagnostic.unplaced =
        (if declaration.fields = [] then [Diagnostic.noFields declaration.nameSpan] else []).map
          Diagnostic.unplaced := by
    simp only [hempty]
    split <;> rfl
  have hchecks := @unplaced_checkFields [] [] declaration.fields other.fields rfl hfields
  unfold check
  simp only [List.map_append, unplaced_checkName hname, hnone, hchecks]

/-- Declarations of the same name and fields, that fail in the same way or not at all
and have the same errors among what was found while reading. -/
structure SameErrors (declaration other : Declaration) : Prop where
  name_eq : other.name = declaration.name
  fields_eq : other.fields.map Field.unplaced = declaration.fields.map Field.unplaced
  failure_eq : other.failure.map Diagnostic.unplaced =
    declaration.failure.map Diagnostic.unplaced
  notes_eq : (other.notes.filter Diagnostic.isError).map Diagnostic.unplaced =
    (declaration.notes.filter Diagnostic.isError).map Diagnostic.unplaced

theorem filter_unplaced (diagnostics : List Diagnostic) :
    (diagnostics.map Diagnostic.unplaced).filter Diagnostic.isError =
      (diagnostics.filter Diagnostic.isError).map Diagnostic.unplaced := by
  rw [List.filter_map]
  rfl

theorem Same.sameErrors {moved : Nat → Nat → Prop} {declaration other : Declaration}
    (hsame : declaration.Same moved other) : declaration.SameErrors other where
  name_eq := hsame.name_eq
  fields_eq := hsame.fields_eq
  failure_eq := hsame.failure_eq
  notes_eq := by rw [← filter_unplaced, hsame.notes_eq, filter_unplaced]

/-- What is found in place of the checks or by them. -/
def findings (declaration : Declaration) : List Diagnostic :=
  match declaration.failure with
  | some failure => [failure]
  | none => declaration.check

theorem diagnostics_eq (declaration : Declaration) :
    declaration.diagnostics = declaration.findings ++ declaration.notes := by
  unfold diagnostics findings
  cases declaration.failure <;> rfl

theorem unplaced_findings {declaration other : Declaration}
    (hname : other.name = declaration.name)
    (hfields : other.fields.map Field.unplaced = declaration.fields.map Field.unplaced)
    (hfailure : other.failure.map Diagnostic.unplaced =
      declaration.failure.map Diagnostic.unplaced) :
    other.findings.map Diagnostic.unplaced = declaration.findings.map Diagnostic.unplaced := by
  unfold findings
  cases hleft : declaration.failure with
  | none =>
      rw [hleft] at hfailure
      rw [Option.map_eq_none_iff.1 hfailure]
      exact unplaced_check hname hfields
  | some failure =>
      rw [hleft] at hfailure
      obtain ⟨failure', hright, hunplaced⟩ := Option.map_eq_some_iff.1 hfailure
      rw [hright]
      simpa using hunplaced

theorem Same.diagnostics {moved : Nat → Nat → Prop} {declaration other : Declaration}
    (hsame : declaration.Same moved other) :
    other.diagnostics.map Diagnostic.unplaced =
      declaration.diagnostics.map Diagnostic.unplaced := by
  have hfindings := unplaced_findings hsame.name_eq hsame.fields_eq hsame.failure_eq
  rw [diagnostics_eq, diagnostics_eq, List.map_append, List.map_append, hfindings,
    hsame.notes_eq]

theorem SameErrors.errors {declaration other : Declaration}
    (hsame : declaration.SameErrors other) :
    (other.diagnostics.filter Diagnostic.isError).map Diagnostic.unplaced =
      (declaration.diagnostics.filter Diagnostic.isError).map Diagnostic.unplaced := by
  have hfindings := congrArg (List.filter Diagnostic.isError)
    (unplaced_findings hsame.name_eq hsame.fields_eq hsame.failure_eq)
  rw [filter_unplaced, filter_unplaced] at hfindings
  rw [diagnostics_eq, diagnostics_eq, List.filter_append, List.filter_append, List.map_append,
    List.map_append, hfindings, hsame.notes_eq]

theorem head?_all (source : List Char) : (Declaration.all source).head? = first? source := by
  rw [Declaration.all, first?]
  cases hnext : next? (Position.start.after source) .file (Token.scan source) with
  | none =>
      rw [allFrom_of_next?_eq_none hnext]
      rfl
  | some found =>
      rw [allFrom_of_next?_eq_some hnext]
      rfl

theorem mem_all_of_first? {source : List Char} {declaration : Declaration}
    (hfirst : first? source = some declaration) : declaration ∈ Declaration.all source :=
  List.mem_of_mem_head? (by rw [head?_all]; exact hfirst)

end Declaration

namespace StructDescriptor

/-- The descriptor with the places of its findings left out. -/
def unplaced (descriptor : StructDescriptor) : StructDescriptor :=
  { descriptor with diagnostics := descriptor.diagnostics.map Diagnostic.unplaced }

theorem map_ofField {fields fields' : List Declaration.Field}
    (hfields : fields'.map Declaration.Field.unplaced =
      fields.map Declaration.Field.unplaced) :
    fields'.map FieldDescriptor.ofField = fields.map FieldDescriptor.ofField := by
  have hmap : ∀ fields : List Declaration.Field, fields.map FieldDescriptor.ofField =
      (fields.map Declaration.Field.unplaced).map FieldDescriptor.ofField := by
    intro fields
    rw [List.map_map]
    rfl
  rw [hmap fields', hfields, ← hmap]

theorem ofFindings_unplaced (id name : String) (fields : List FieldDescriptor)
    (sourceText : String) (diagnostics : List Diagnostic) :
    (ofFindings id name fields sourceText diagnostics).unplaced =
      ofFindings id name fields sourceText (diagnostics.map Diagnostic.unplaced) := by
  simp only [unplaced, ofFindings, List.filter_map, List.any_map, List.map_map]
  rfl

/-- Declarations that are the same apart from where they stand make the same
descriptor apart from where its findings are. -/
theorem ofDeclaration_unplaced {moved : Nat → Nat → Prop} {declaration other : Declaration}
    (hsame : declaration.Same moved other) (id sourceText : String) :
    (ofDeclaration id sourceText other).unplaced =
      (ofDeclaration id sourceText declaration).unplaced := by
  rw [ofDeclaration, ofDeclaration, ofFindings_unplaced, ofFindings_unplaced, hsame.name_eq,
    map_ofField hsame.fields_eq, hsame.diagnostics]

/-- What is read of a struct without its warnings, its text and its id. -/
def verdict (descriptor : StructDescriptor) :
    String × List FieldDescriptor × List String × Bool :=
  (descriptor.name, descriptor.fields, descriptor.errors, descriptor.isValid)

theorem verdict_ofFindings (id name : String) (fields : List FieldDescriptor)
    (sourceText : String) (diagnostics : List Diagnostic) :
    (ofFindings id name fields sourceText diagnostics).verdict =
      (name, fields, ((diagnostics.filter Diagnostic.isError).map Diagnostic.unplaced).map
        Diagnostic.message, ((diagnostics.filter Diagnostic.isError).map
          Diagnostic.unplaced).isEmpty) := by
  have hmessages : ∀ found : List Diagnostic,
      (found.map Diagnostic.unplaced).map Diagnostic.message = found.map Diagnostic.message := by
    intro found
    rw [List.map_map]
    rfl
  have hempty : ∀ found : List Diagnostic,
      ((found.filter Diagnostic.isError).map Diagnostic.unplaced).isEmpty =
        !found.any Diagnostic.isError := by
    intro found
    rw [List.isEmpty_map]
    induction found with
    | nil => rfl
    | cons finding found ih => cases herror : finding.isError <;> simp [herror, ih]
  rw [hmessages, hempty]
  rfl

theorem verdict_ofDeclaration {declaration other : Declaration}
    (hsame : declaration.SameErrors other) (id id' text text' : String) :
    (ofDeclaration id' text' other).verdict = (ofDeclaration id text declaration).verdict := by
  rw [ofDeclaration, ofDeclaration, verdict_ofFindings, verdict_ofFindings, hsame.name_eq,
    map_ofField hsame.fields_eq, hsame.errors]

/-- What does not depend on ids is read off the declarations of a source. -/
theorem map_ofDeclarations {α : Type} {source : List Char} {view : StructDescriptor → α}
    {seen : Declaration → α}
    (hview : ∀ id declaration,
      view (ofDeclaration id (declarationText source declaration) declaration) =
        seen declaration) (supply : IdSupply) (declarations : List Declaration) :
    (ofDeclarations source supply declarations).1.map view = declarations.map seen := by
  induction declarations generalizing supply with
  | nil => rfl
  | cons declaration declarations ih =>
      rw [ofDeclarations, List.map_cons, List.map_cons, hview, ih]

theorem verdict_readMany {source other : String}
    (hall : List.Forall₂ Declaration.SameErrors (Declaration.all source.toList)
      (Declaration.all other.toList)) (supply : IdSupply) :
    (readMany other supply).1.map verdict = (readMany source supply).1.map verdict := by
  have hview : ∀ source : List Char, ∀ id declaration,
      (ofDeclaration id (declarationText source declaration) declaration).verdict =
        (ofDeclaration "" "" declaration).verdict := fun source id declaration =>
    verdict_ofDeclaration ⟨rfl, rfl, rfl, rfl⟩ _ _ _ _
  rw [readMany, readMany, map_ofDeclarations (hview _), map_ofDeclarations (hview _)]
  generalize Declaration.all source.toList = declarations at hall
  generalize Declaration.all other.toList = others at hall
  induction hall with
  | nil => rfl
  | cons hsame _ ih => rw [List.map_cons, List.map_cons, verdict_ofDeclaration hsame, ih]

theorem verdict_read {source other : String}
    (hall : List.Forall₂ Declaration.SameErrors (Declaration.all source.toList)
      (Declaration.all other.toList)) (id : String) :
    (read id other).verdict = (read id source).verdict := by
  unfold read
  rw [← Declaration.head?_all, ← Declaration.head?_all]
  generalize Declaration.all source.toList = declarations at hall
  generalize Declaration.all other.toList = others at hall
  cases hall with
  | nil => rfl
  | cons hsame _ => exact verdict_ofDeclaration hsame _ _ _ _

end StructDescriptor

end FieldBridge
