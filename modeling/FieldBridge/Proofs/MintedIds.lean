import Mathlib
import FieldBridge.Reading
import FieldBridge.Snippet.Recognizer

/-!
# Minted ids

The ids of a sequential supply are numbered from one on, whatever kinds of things they are for.
The digits behind the last underscore of an id are its number, and no kind of thing can hide an
underscore among them, so that no id is minted twice.  Reading many structs takes a number for
each of them, in the order of the source; reading one struct and making a transformer take one
number, and reading under a given id takes none.  Numbers have 64 bits, and all this holds as
long as they last.
-/

namespace FieldBridge

namespace IdSupply

/-- The sequential supply behind `used` ids. -/
def sequentialFrom (used : Nat) : IdSupply :=
  { sequential with used := used }

/-- The id for a kind of thing that is minted behind `used` ids. -/
def numbered (kind : String) (used : Nat) : String :=
  kind ++ "_" ++ toString (used + 1)

/-- The ids for kinds of things that are minted in turn behind `used` ids. -/
def numberedFrom (used : Nat) (kinds : List String) : List String :=
  kinds.mapIdx fun place kind => numbered kind (used + place)

/-- The number at the end of an id. -/
def numberOf (id : String) : Nat :=
  Nat.ofDigitChars 10 (id.toList.rtakeWhile (· ≠ '_')) 0

theorem label_sequential {used : Nat} (hfew : used + 1 < 2 ^ 64) :
    sequential.label used = toString (used + 1) := by
  have hnumber : (UInt64.ofNat (used + 1)).toNat = used + 1 := by
    rw [UInt64.toNat_ofNat', Nat.mod_eq_of_lt hfew]
  exact congrArg toString hnumber

/-- When the numbers are used up, they begin again. -/
example : sequential.label (2 ^ 64) = sequential.label 0 := by decide

theorem next_sequentialFrom {used : Nat} (hfew : used + 1 < 2 ^ 64) (kind : String) :
    (sequentialFrom used).next kind = (numbered kind used, sequentialFrom (used + 1)) := by
  have hlabel : (sequentialFrom used).label used = toString (used + 1) := label_sequential hfew
  rw [next, numbered]
  exact Prod.ext (congrArg (kind ++ "_" ++ ·) hlabel) rfl

theorem numberOf_numbered (kind : String) (used : Nat) :
    numberOf (numbered kind used) = used + 1 := by
  have hdigits : ∀ c ∈ (Nat.toDigits 10 (used + 1)).reverse, decide (c ≠ '_') = true := by
    intro c hc
    have hdigit := Nat.isDigit_of_mem_toDigits (by decide) (by decide) (List.mem_reverse.1 hc)
    refine decide_eq_true ?_
    rintro rfl
    exact absurd hdigit (by decide)
  have htext : (numbered kind used).toList =
      kind.toList ++ '_' :: Nat.toDigits 10 (used + 1) := by
    simp [numbered]
  rw [numberOf, htext, List.rtakeWhile, List.reverse_append, List.reverse_cons, List.append_assoc,
    List.takeWhile_append_of_pos hdigits, List.singleton_append,
    List.takeWhile_cons_of_neg (by decide), List.append_nil, List.reverse_reverse,
    Nat.ofDigitChars_ten_toDigits]

theorem numberedFrom_append (used : Nat) (kinds others : List String) :
    numberedFrom used (kinds ++ others) =
      numberedFrom used kinds ++ numberedFrom (used + kinds.length) others := by
  have hplace : ∀ place, used + (place + kinds.length) = used + kinds.length + place := by
    omega
  simp only [numberedFrom, List.mapIdx_append, hplace]

/-- Ids that are minted in turn are told apart by their numbers. -/
theorem nodup_numberedFrom (used : Nat) (kinds : List String) :
    (numberedFrom used kinds).Nodup := by
  have hnumbers : (numberedFrom used kinds).map numberOf =
      List.range' (used + 1) kinds.length := by
    apply List.ext_getElem
    · simp [numberedFrom]
    · intro place _ _
      simp [numberedFrom, numberOf_numbered]
      omega
  exact List.Nodup.of_map numberOf (hnumbers ▸ List.nodup_range')

end IdSupply

namespace Request

open IdSupply StructDescriptor

/-- The kinds of things that a request takes ids for, in turn. -/
def kinds : Request → List String
  | one _ => ["struct"]
  | many source => (Declaration.all source.toList).map fun _ => "struct"
  | withId _ _ => []
  | freshId kind => [kind]
  | instantiate template => (Transformer.template? template).toList.map fun _ => "transformer"
  | instantiateOwn _ => ["transformer"]

/-- The ids in a reply that were minted for its request. -/
def minted : Request → Reply → List String
  | withId _ _, _ => []
  | _, .struct descriptor => [descriptor.id]
  | _, .structs descriptors => descriptors.map (·.id)
  | _, .id text => [text]
  | _, .transformer transformer => transformer.toList.map (·.id)

/-- A transformer made from a template. -/
def made (check : String → Bool) (template : Transformer.Template) (id : String) : Transformer :=
  .create check id template.name template.inputType template.outputType template.code

/-- The reply to a request behind `used` ids. -/
inductive Answers (check : String → Bool) (used : Nat) : Request → Reply → Prop where
  | one (source : String) :
      Answers check used (.one source) (.struct (read (numbered "struct" used) source))
  | many (source : String) : Answers check used (.many source)
      (.structs ((Declaration.all source.toList).mapIdx fun place declaration =>
        ofDeclaration (numbered "struct" (used + place))
          (declarationText source.toList declaration) declaration))
  | withId (id source : String) :
      Answers check used (.withId id source) (.struct (read id source))
  | freshId (kind : String) : Answers check used (.freshId kind) (.id (numbered kind used))
  | known {name : String} {template : Transformer.Template}
      (hknown : Transformer.template? name = some template) :
      Answers check used (.instantiate name)
        (.transformer (some (made check template (numbered "transformer" used))))
  | unknown {name : String} (hunknown : Transformer.template? name = none) :
      Answers check used (.instantiate name) (.transformer none)
  | instantiateOwn (template : Transformer.Template) :
      Answers check used (.instantiateOwn template)
        (.transformer (some (made check template (numbered "transformer" used))))

/-- The replies to requests in turn, each behind the ids of the requests before it. -/
inductive AnswersAll (check : String → Bool) : Nat → List Request → List Reply → Prop where
  | nil (used : Nat) : AnswersAll check used [] []
  | cons {used : Nat} {request : Request} {reply : Reply} {requests : List Request}
      {replies : List Reply} (first : Answers check used request reply)
      (rest : AnswersAll check (used + request.kinds.length) requests replies) :
      AnswersAll check used (request :: requests) (reply :: replies)

section Answering

variable {check : String → Bool} {used : Nat}

theorem Answers.minted_eq {request : Request} {reply : Reply}
    (hanswers : Answers check used request reply) :
    request.minted reply = numberedFrom used request.kinds := by
  cases hanswers with
  | one source => simp [minted, kinds, numberedFrom, id_read]
  | many source =>
      apply List.ext_getElem
      · simp [minted, kinds, numberedFrom]
      · intro place _ _
        simp [minted, kinds, numberedFrom, ofDeclaration, ofFindings]
  | withId id source => rfl
  | freshId kind => rfl
  | known hknown =>
      simp [minted, kinds, numberedFrom, hknown, made, Transformer.create, Transformer.checked]
  | unknown hunknown => simp [minted, kinds, numberedFrom, hunknown]
  | instantiateOwn template => rfl

theorem AnswersAll.minted_eq {requests : List Request} {replies : List Reply}
    (hanswers : AnswersAll check used requests replies) :
    (List.zipWith minted requests replies).flatten =
      numberedFrom used (requests.flatMap kinds) := by
  induction hanswers with
  | nil used => rfl
  | cons first rest ih =>
      rw [List.zipWith_cons_cons, List.flatten_cons, List.flatMap_cons, numberedFrom_append,
        first.minted_eq, ih]

theorem ofDeclarations_sequentialFrom (source : List Char) {declarations : List Declaration}
    (hfew : used + declarations.length < 2 ^ 64) :
    ofDeclarations source (sequentialFrom used) declarations =
      (declarations.mapIdx fun place declaration =>
        ofDeclaration (numbered "struct" (used + place)) (declarationText source declaration)
          declaration,
      sequentialFrom (used + declarations.length)) := by
  induction declarations generalizing used with
  | nil => rfl
  | cons declaration declarations ih =>
      rw [List.length_cons, Nat.add_comm _ 1, ← Nat.add_assoc] at hfew ⊢
      have hplace : ∀ place, numbered "struct" (used + (place + 1)) =
          numbered "struct" (used + 1 + place) :=
        fun place => congrArg (numbered "struct") (by omega)
      rw [ofDeclarations, next_sequentialFrom (by omega), ih hfew, List.mapIdx_cons]
      simp only [Nat.add_zero, hplace]

theorem instantiate_sequentialFrom (hfew : used + 1 < 2 ^ 64) (template : Transformer.Template) :
    template.instantiate check (sequentialFrom used) =
      (made check template (numbered "transformer" used), sequentialFrom (used + 1)) := by
  rw [Transformer.Template.instantiate, next_sequentialFrom hfew]
  rfl

theorem exists_answer_sequentialFrom (request : Request)
    (hfew : used + request.kinds.length < 2 ^ 64) :
    ∃ reply, request.answer check (sequentialFrom used) =
        (reply, sequentialFrom (used + request.kinds.length)) ∧
      Answers check used request reply := by
  cases request with
  | one source =>
      refine ⟨_, ?_, .one source⟩
      rw [answer, readOne, next_sequentialFrom hfew]
      rfl
  | many source =>
      refine ⟨_, ?_, .many source⟩
      rw [kinds, List.length_map] at hfew ⊢
      rw [answer, readMany, ofDeclarations_sequentialFrom source.toList hfew]
  | withId id source => exact ⟨_, rfl, .withId id source⟩
  | freshId kind =>
      refine ⟨_, ?_, .freshId kind⟩
      rw [answer, next_sequentialFrom hfew]
      rfl
  | instantiate name =>
      cases hname : Transformer.template? name with
      | none =>
          refine ⟨_, ?_, .unknown hname⟩
          simp only [answer, kinds, hname]
          rfl
      | some template =>
          refine ⟨_, ?_, .known hname⟩
          simp only [kinds, hname] at hfew ⊢
          simp only [answer, hname, instantiate_sequentialFrom hfew]
          rfl
  | instantiateOwn template =>
      refine ⟨_, ?_, .instantiateOwn template⟩
      rw [answer, instantiate_sequentialFrom hfew]
      rfl

theorem answerAll_sequentialFrom {requests : List Request}
    (hfew : used + (requests.flatMap kinds).length < 2 ^ 64) :
    ∃ replies, answerAll check (sequentialFrom used) requests =
        (replies, sequentialFrom (used + (requests.flatMap kinds).length)) ∧
      AnswersAll check used requests replies := by
  induction requests generalizing used with
  | nil => exact ⟨[], rfl, .nil used⟩
  | cons request requests ih =>
      rw [List.flatMap_cons, List.length_append] at hfew ⊢
      obtain ⟨reply, hreply, hfirst⟩ :=
        @exists_answer_sequentialFrom check used request (by omega)
      obtain ⟨replies, hreplies, hrest⟩ := @ih (used + request.kinds.length) (by omega)
      refine ⟨reply :: replies, ?_, .cons hfirst hrest⟩
      rw [answerAll, hreply, hreplies, Nat.add_assoc]

end Answering

/-- Requests that mint fewer than two to the power of 64 ids are answered in turn under ids that
are numbered from one on, and no two of the ids are the same. -/
theorem answerAll_isNumbered (check : String → Bool) (requests : List Request)
    (hfew : (requests.flatMap kinds).length < 2 ^ 64) :
    AnswersAll check 0 requests (answerAll check .sequential requests).1 ∧
      (answerAll check .sequential requests).2.used = (requests.flatMap kinds).length ∧
      (List.zipWith minted requests (answerAll check .sequential requests).1).flatten =
        numberedFrom 0 (requests.flatMap kinds) ∧
      (List.zipWith minted requests (answerAll check .sequential requests).1).flatten.Nodup := by
  obtain ⟨replies, hreplies, hanswers⟩ :=
    @answerAll_sequentialFrom check 0 requests (by rwa [Nat.zero_add])
  have hrun : answerAll check .sequential requests =
      (replies, sequentialFrom (0 + (requests.flatMap kinds).length)) := hreplies
  rw [hrun]
  refine ⟨hanswers, Nat.zero_add _, hanswers.minted_eq, ?_⟩
  rw [hanswers.minted_eq]
  exact nodup_numberedFrom 0 _

def twoStructs : String := "type A struct\x7b\x7d\ntype B struct\x7b\x7d"

theorem length_all_twoStructs : (Declaration.all twoStructs.toList).length = 2 := by
  have hposition : Position.start.after twoStructs.toList = ⟨31, 1, 15⟩ := by cbv
  have hfirst : Declaration.next? ⟨31, 1, 15⟩ .file (Token.scan twoStructs.toList) =
      some (⟨"A", ⟨⟨5, 0, 5⟩, ⟨6, 0, 6⟩⟩, [], ⟨⟨0, 0, 0⟩, ⟨15, 0, 15⟩⟩, false, none, []⟩, .file,
        [⟨.newline, "\n", ⟨⟨15, 0, 15⟩, ⟨16, 1, 0⟩⟩⟩,
          ⟨.ident "type", "type", ⟨⟨16, 1, 0⟩, ⟨20, 1, 4⟩⟩⟩,
          ⟨.ident "B", "B", ⟨⟨21, 1, 5⟩, ⟨22, 1, 6⟩⟩⟩,
          ⟨.ident "struct", "struct", ⟨⟨23, 1, 7⟩, ⟨29, 1, 13⟩⟩⟩,
          ⟨.punct '{', "\x7b", ⟨⟨29, 1, 13⟩, ⟨30, 1, 14⟩⟩⟩,
          ⟨.punct '}', "\x7d", ⟨⟨30, 1, 14⟩, ⟨31, 1, 15⟩⟩⟩]) := by
    cbv
  have hsecond : Declaration.next? ⟨31, 1, 15⟩ .file
      [⟨.newline, "\n", ⟨⟨15, 0, 15⟩, ⟨16, 1, 0⟩⟩⟩,
        ⟨.ident "type", "type", ⟨⟨16, 1, 0⟩, ⟨20, 1, 4⟩⟩⟩,
        ⟨.ident "B", "B", ⟨⟨21, 1, 5⟩, ⟨22, 1, 6⟩⟩⟩,
        ⟨.ident "struct", "struct", ⟨⟨23, 1, 7⟩, ⟨29, 1, 13⟩⟩⟩,
        ⟨.punct '{', "\x7b", ⟨⟨29, 1, 13⟩, ⟨30, 1, 14⟩⟩⟩,
        ⟨.punct '}', "\x7d", ⟨⟨30, 1, 14⟩, ⟨31, 1, 15⟩⟩⟩] =
      some (⟨"B", ⟨⟨21, 1, 5⟩, ⟨22, 1, 6⟩⟩, [], ⟨⟨16, 1, 0⟩, ⟨31, 1, 15⟩⟩, false, none, []⟩, .file,
        []) := by
    cbv
  rw [Declaration.all, hposition, Declaration.allFrom_of_next?_eq_some hfirst,
    Declaration.allFrom_of_next?_eq_some hsecond, Declaration.allFrom_nil]
  rfl

/-- Two structs between other things, of which one looks as if it had a number already. -/
def everyRequest : List Request :=
  [.freshId "a_1", .many twoStructs, .withId "a_1_1" "", .instantiate "nil_check", .freshId "a",
    .instantiate "", .one ""]

theorem answerAll_isNumbered_every_request :
    (everyRequest.flatMap kinds).length < 2 ^ 64 ∧
      (List.zipWith minted everyRequest
        (answerAll Snippet.accepts .sequential everyRequest).1).flatten =
          ["a_1_1", "struct_2", "struct_3", "transformer_4", "a_5", "struct_6"] ∧
      (List.zipWith minted everyRequest
        (answerAll Snippet.accepts .sequential everyRequest).1).flatten.Nodup := by
  have hkinds : everyRequest.flatMap kinds =
      ["a_1", "struct", "struct", "transformer", "a", "struct"] := by
    have hmany : (many twoStructs).kinds = ["struct", "struct"] := by
      rw [kinds, List.map_const', length_all_twoStructs]
      rfl
    rw [everyRequest, List.flatMap_cons, List.flatMap_cons, hmany]
    rfl
  have hfew : (everyRequest.flatMap kinds).length < 2 ^ 64 := by
    rw [hkinds]
    decide
  obtain ⟨_, _, hminted, hnodup⟩ := answerAll_isNumbered Snippet.accepts everyRequest hfew
  refine ⟨hfew, hminted.trans ?_, hnodup⟩
  rw [hkinds]
  decide

end Request

end FieldBridge
