import FieldBridge.Snippet.Terminal
import FieldBridge.Transformer.Basic
import Mathlib.Data.List.Infix
import Mathlib.Data.List.TakeWhile
import Mathlib.Tactic.MkIffOfInductiveProp

/-!
# Call names

Generated code calls a transformer by an identifier, whatever the transformer is called and
whatever its code is.  The name is taken from the first place that offers an identifier: the
name of the transformer, the function its code begins with, and what can be kept of the name.
Only the characters of these are looked at, so a reserved word or the blank identifier is taken
like any other, and the call name is one exactly when the place it is taken from offers one.
-/

namespace FieldBridge.Transformer

/-- The words of code that can never be names. -/
def reservedWords : List String :=
  (Snippet.Terminal.words.filter fun word => word.2 ≠ .constant ∧ word.2 ≠ .allocator).map Prod.fst

example : reservedWords =
    ["break", "case", "chan", "const", "continue", "default", "defer", "else", "fallthrough",
      "for", "func", "go", "goto", "if", "import", "interface", "map", "package", "range",
      "return", "select", "struct", "switch", "type", "var"] := by decide

/-- An identifier that can stand in front of arguments. -/
@[mk_iff]
structure IsCallable (name : String) : Prop where
  identifier : isIdentifier name.toList = true
  unreserved : name ∉ reservedWords
  not_blank : name ≠ "_"

instance (name : String) : Decidable (IsCallable name) :=
  decidable_of_iff _ (isCallable_iff name).symm

/-- Behind white space, the code begins with `func`, more white space and the identifier
`word`, which no character goes on with. -/
def Declares (code word : List Char) : Prop :=
  ∃ lead gap rest, code = lead ++ ("func".toList ++ (gap ++ (word ++ rest))) ∧
    (∀ c ∈ lead, Unicode.isWhiteSpace c = true) ∧
    gap ≠ [] ∧ (∀ c ∈ gap, Unicode.isWhiteSpace c = true) ∧
    isIdentifier word = true ∧ ∀ c ∈ rest.head?, Unicode.continuesWord c = false

/-- The characters of the name that can be part of an identifier. -/
def keptName (transformer : Transformer) : List Char :=
  transformer.name.toList.filter Unicode.continuesWord

theorem takeWhile_word {word rest : List Char} (hword : isIdentifier word = true)
    (hrest : ∀ c ∈ rest.head?, Unicode.continuesWord c = false) :
    (word ++ rest).takeWhile Unicode.continuesWord = word := by
  rw [List.takeWhile_append_of_pos (continuesWord_of_isIdentifier hword)]
  cases rest with
  | nil => exact List.append_nil word
  | cons c rest => rw [List.takeWhile_cons_of_neg (by simp [hrest c rfl]), List.append_nil]

theorem isWhiteSpace_head?_word {word : List Char} (hword : isIdentifier word = true)
    (rest : List Char) : ∀ c ∈ (word ++ rest).head?, Unicode.isWhiteSpace c = false := by
  cases word with
  | nil => cases hword
  | cons c word =>
      intro d hd
      obtain rfl := Option.some.inj hd
      rw [isIdentifier, Bool.and_eq_true] at hword
      exact Unicode.isWhiteSpace_of_startsWord hword.1

theorem declares_of_declaredFunction {transformer : Transformer} {word : List Char}
    (hdeclared : transformer.declaredFunction = some word) :
    Declares transformer.code.toList word := by
  unfold declaredFunction at hdeclared
  split at hdeclared
  · next c rest hfunc =>
    split at hdeclared
    · next hblank =>
      dsimp only at hdeclared
      split at hdeclared
      · next hword =>
        cases hdeclared
        have hcode := Text.trimStart_append transformer.code.toList
        rw [← List.isPrefixOf?_eq_some_iff_append_eq.1 hfunc] at hcode
        refine ⟨transformer.code.toList.takeWhile Unicode.isWhiteSpace,
          c :: rest.takeWhile Unicode.isWhiteSpace,
          (Text.trimStart rest).dropWhile Unicode.continuesWord, ?_,
          List.all_eq_true.1 List.all_takeWhile, List.cons_ne_nil _ _, ?_, hword, ?_⟩
        · rw [List.takeWhile_append_dropWhile, List.cons_append, Text.trimStart_append]
          exact hcode.symm
        · exact List.forall_mem_cons.2 ⟨hblank, List.all_eq_true.1 List.all_takeWhile⟩
        · intro d hd
          have hnot := List.head?_dropWhile_not Unicode.continuesWord (Text.trimStart rest)
          rw [Option.mem_def.1 hd] at hnot
          exact hnot
      · cases hdeclared
    · cases hdeclared
  · cases hdeclared

theorem declaredFunction_of_declares {transformer : Transformer} {word : List Char}
    (hdeclares : Declares transformer.code.toList word) :
    transformer.declaredFunction = some word := by
  obtain ⟨lead, gap, rest, hcode, hlead, hgap, hblank, hword, hrest⟩ := hdeclares
  obtain ⟨c, gap, rfl⟩ := List.exists_cons_of_ne_nil hgap
  obtain ⟨hc, hblank⟩ := List.forall_mem_cons.1 hblank
  have hhead : ∀ d ∈ ("func".toList ++ (c :: gap ++ (word ++ rest))).head?,
      Unicode.isWhiteSpace d = false := by
    intro d hd
    obtain rfl := Option.some.inj hd
    decide
  have hfunc : ['f', 'u', 'n', 'c'].isPrefixOf? (Text.trimStart transformer.code.toList) =
      some (c :: (gap ++ (word ++ rest))) := by
    rw [hcode, Text.trimStart_of_blank hlead, Text.trimStart_eq_self hhead,
      List.isPrefixOf?_eq_some_iff_append_eq]
    rfl
  have hbehind : Text.trimStart (gap ++ (word ++ rest)) = word ++ rest := by
    rw [Text.trimStart_of_blank hblank, Text.trimStart_eq_self (isWhiteSpace_head?_word hword rest)]
  rw [declaredFunction, hfunc]
  simp only [hc, hbehind, takeWhile_word hword hrest, hword, if_true]

theorem declaredFunction_eq_some_iff {transformer : Transformer} {word : List Char} :
    transformer.declaredFunction = some word ↔ Declares transformer.code.toList word :=
  ⟨declares_of_declaredFunction, declaredFunction_of_declares⟩

theorem callName_of_name {transformer : Transformer}
    (hname : isIdentifier transformer.name.toList = true) :
    transformer.callName = transformer.name :=
  if_pos hname

theorem callName_of_declares {transformer : Transformer} {word : List Char}
    (hname : isIdentifier transformer.name.toList = false)
    (hdeclares : Declares transformer.code.toList word) :
    transformer.callName = String.ofList word := by
  rw [callName, if_neg (by simp [hname]), declaredFunction_of_declares hdeclares]

theorem callName_of_kept {transformer : Transformer}
    (hname : isIdentifier transformer.name.toList = false)
    (hnone : ∀ word, ¬ Declares transformer.code.toList word) :
    transformer.callName = String.ofList
      (if isIdentifier transformer.keptName then transformer.keptName
        else '_' :: transformer.keptName) := by
  have hdeclared : transformer.declaredFunction = none :=
    Option.eq_none_iff_forall_ne_some.2 fun word hword =>
      hnone word (declares_of_declaredFunction hword)
  rw [callName, if_neg (by simp [hname]), hdeclared]
  rfl

/-- The three places that a call name is taken from, one of which every transformer has. -/
inductive Origin (transformer : Transformer) : Prop where
  | own (name : isIdentifier transformer.name.toList = true)
  | declared (name : isIdentifier transformer.name.toList = false) {word : List Char}
      (declares : Declares transformer.code.toList word)
  | kept (name : isIdentifier transformer.name.toList = false)
      (none : ∀ word, ¬ Declares transformer.code.toList word)

theorem origin (transformer : Transformer) : Origin transformer := by
  cases hname : isIdentifier transformer.name.toList with
  | true => exact .own hname
  | false =>
      by_cases hdeclares : ∃ word, Declares transformer.code.toList word
      · obtain ⟨word, hword⟩ := hdeclares
        exact .declared hname hword
      · exact .kept hname (not_exists.1 hdeclares)

theorem continuesWord_of_mem_keptName {transformer : Transformer} :
    ∀ c ∈ transformer.keptName, Unicode.continuesWord c = true := fun _ hc =>
  (List.mem_filter.1 hc).2

/-- Behind an underscore, every character that can continue a word does. -/
theorem isIdentifier_underscore {word : List Char}
    (hword : ∀ c ∈ word, Unicode.continuesWord c = true) : isIdentifier ('_' :: word) = true := by
  rw [isIdentifier, Bool.and_eq_true, List.all_eq_true]
  exact ⟨by decide, hword⟩

theorem isIdentifier_callName (transformer : Transformer) :
    isIdentifier transformer.callName.toList = true := by
  cases origin transformer with
  | own hname => rwa [callName_of_name hname]
  | declared hname hdeclares =>
      rw [callName_of_declares hname hdeclares, String.toList_ofList]
      obtain ⟨_, _, _, _, _, _, _, hword, _⟩ := hdeclares
      exact hword
  | kept hname hnone =>
      rw [callName_of_kept hname hnone, String.toList_ofList]
      split
      · assumption
      · exact isIdentifier_underscore continuesWord_of_mem_keptName

/-- No reserved word begins with an underscore, so more characters make it callable. -/
theorem isCallable_underscore_iff {word : List Char}
    (hword : ∀ c ∈ word, Unicode.continuesWord c = true) :
    IsCallable (String.ofList ('_' :: word)) ↔ word ≠ [] := by
  constructor
  · rintro hcallable rfl
    exact hcallable.not_blank rfl
  · intro hne
    refine ⟨?_, ?_, ?_⟩
    · rw [String.toList_ofList]
      exact isIdentifier_underscore hword
    · intro hreserved
      have hheads : ∀ name ∈ reservedWords, name.toList.head? ≠ some '_' := by decide
      exact hheads _ hreserved (by rw [String.toList_ofList]; rfl)
    · intro hblank
      have hlist := congrArg String.toList hblank
      rw [String.toList_ofList] at hlist
      exact hne (List.cons.inj hlist).2

/-- The first place that offers an identifier offers one that can stand in front of arguments.
What is kept of a name gets an underscore if it is no identifier, and needs to be something
then. -/
@[mk_iff]
structure OffersCallable (transformer : Transformer) : Prop where
  own : isIdentifier transformer.name.toList = true → IsCallable transformer.name
  declared : isIdentifier transformer.name.toList = false →
    ∀ word, Declares transformer.code.toList word → IsCallable (String.ofList word)
  kept : isIdentifier transformer.name.toList = false →
    (∀ word, ¬ Declares transformer.code.toList word) → transformer.keptName ≠ [] ∧
      (isIdentifier transformer.keptName = true →
        IsCallable (String.ofList transformer.keptName))

theorem isCallable_callName_iff (transformer : Transformer) :
    IsCallable transformer.callName ↔ OffersCallable transformer := by
  rw [offersCallable_iff]
  cases origin transformer with
  | own hname => simp [callName_of_name hname, hname]
  | @declared hname word hdeclares =>
      have hunique : ∀ other, Declares transformer.code.toList other ↔ other = word := by
        intro other
        rw [← declaredFunction_eq_some_iff, declaredFunction_of_declares hdeclares,
          Option.some.injEq, eq_comm]
      simp [callName_of_declares hname hdeclares, hname, hunique]
  | kept hname hnone =>
      rw [callName_of_kept hname hnone]
      cases hkept : isIdentifier transformer.keptName with
      | true =>
          have hne : transformer.keptName ≠ [] := by
            intro hempty
            rw [hempty] at hkept
            cases hkept
          simp [hname, hnone, hne]
      | false =>
          have hunderscore := isCallable_underscore_iff (@continuesWord_of_mem_keptName transformer)
          simpa [hname, hnone] using hunderscore

/-- How generated code calls a transformer: by the first identifier that there is among its
name, the function that its code declares, and the characters kept of its name, to which an
underscore is added if they are none. -/
structure CallsBy (transformer : Transformer) (callName : String) : Prop where
  nonempty : callName ≠ ""
  identifier : isIdentifier callName.toList = true
  own : isIdentifier transformer.name.toList = true → callName = transformer.name
  declared : isIdentifier transformer.name.toList = false →
    ∀ word, Declares transformer.code.toList word → callName = String.ofList word
  kept : isIdentifier transformer.name.toList = false →
    (∀ word, ¬ Declares transformer.code.toList word) →
      callName.toList = transformer.keptName ∨
        isIdentifier transformer.keptName = false ∧ callName.toList = '_' :: transformer.keptName
  callable_iff : IsCallable callName ↔ OffersCallable transformer

/-- Every transformer is called by an identifier. -/
theorem callsBy_callName (transformer : Transformer) :
    CallsBy transformer transformer.callName where
  nonempty hempty := by
    have hidentifier := isIdentifier_callName transformer
    rw [hempty] at hidentifier
    cases hidentifier
  identifier := isIdentifier_callName transformer
  own := callName_of_name
  declared hname _ hdeclares := callName_of_declares hname hdeclares
  kept hname hnone := by
    rw [callName_of_kept hname hnone, String.toList_ofList]
    cases isIdentifier transformer.keptName with
    | true => exact .inl rfl
    | false => exact .inr ⟨rfl, rfl⟩
  callable_iff := isCallable_callName_iff transformer

def reservedName : Transformer where
  id := "t"
  name := "func"
  code := "func toUpper(s string) string \x7b return s \x7d"

/-- A reserved word is taken as it is, although the code declares a function. -/
theorem not_isCallable_callName_reserved :
    ¬ ∀ transformer : Transformer, IsCallable transformer.callName ∧
      (¬ IsCallable transformer.name → ∀ word, Declares transformer.code.toList word →
        transformer.callName = String.ofList word) := by
  intro hall
  have hcalled : ¬ IsCallable reservedName.callName := by decide +kernel
  exact hcalled (hall reservedName).1

end FieldBridge.Transformer
