import FieldBridge.Json.Record
import FieldBridge.Proofs.WrittenJson

/-!
# Reading written records

A record is read from an object by looking up its fields.  When every key is the name of at
most one field, neither the order of the members nor the keys of no field matter, so the
sorted members of a written record give its fields back one by one.
-/

namespace FieldBridge.Json

/-- The value with a key among members. -/
def lookup (members : List (String × Json)) (key : String) : Option Json :=
  (members.find? (·.1 = key)).map Prod.snd

theorem lookup_cons (key : String) (value : Json) (members : List (String × Json))
    (name : String) :
    lookup ((key, value) :: members) name =
      if key = name then some value else lookup members name := by
  unfold lookup
  by_cases hkey : key = name
  · rw [List.find?_cons_of_pos (by simpa), if_pos hkey]
    rfl
  · rw [List.find?_cons_of_neg (by simpa), if_neg hkey]

theorem lookup_eq_none {members : List (String × Json)} {key : String}
    (hnew : key ∉ members.map Prod.fst) : lookup members key = none := by
  induction members with
  | nil => rfl
  | cons member members ih =>
      rw [List.map_cons, List.mem_cons, not_or] at hnew
      rw [lookup_cons, if_neg (Ne.symm hnew.1), ih hnew.2]

theorem lookup_append_of_ne {key name : String} (hne : key ≠ name)
    (members : List (String × Json)) (value : Json) :
    lookup (members ++ [(key, value)]) name = lookup members name := by
  induction members with
  | nil => rw [List.nil_append, lookup_cons, if_neg hne]
  | cons member members ih => rw [List.cons_append, lookup_cons, lookup_cons, ih]

theorem lookup_append_self {members : List (String × Json)} {key : String}
    (hnew : key ∉ members.map Prod.fst) (value : Json) :
    lookup (members ++ [(key, value)]) key = some value := by
  induction members with
  | nil => rw [List.nil_append, lookup_cons, if_pos rfl]
  | cons member members ih =>
      rw [List.map_cons, List.mem_cons, not_or] at hnew
      rw [List.cons_append, lookup_cons, if_neg (Ne.symm hnew.1), ih hnew.2]

theorem lookup_eq_some_iff {members : List (String × Json)} (hkeys : (members.map Prod.fst).Nodup)
    {key : String} {value : Json} : lookup members key = some value ↔ (key, value) ∈ members := by
  induction members with
  | nil => simp [lookup]
  | cons member members ih =>
      obtain ⟨name, found⟩ := member
      rw [List.map_cons, List.nodup_cons] at hkeys
      rw [lookup_cons, List.mem_cons, ← ih hkeys.2]
      split
      · next hname =>
          subst hname
          have hnone : lookup members name ≠ some value := by
            intro hfound
            exact hkeys.1 (List.mem_map.2 ⟨_, (ih hkeys.2).1 hfound, rfl⟩)
          simp [hnone, eq_comm]
      · next hname => simp [Ne.symm hname]

theorem lookup_perm {left right : List (String × Json)} (hperm : left.Perm right)
    (hkeys : (left.map Prod.fst).Nodup) : lookup left = lookup right := by
  funext key
  apply Option.ext
  intro value
  rw [lookup_eq_some_iff hkeys, lookup_eq_some_iff ((hperm.map Prod.fst).nodup_iff.1 hkeys),
    hperm.mem_iff]

theorem insertMember_perm {key : String} (value : Json) {members : List (String × Json)}
    (hnew : key ∉ members.map Prod.fst) :
    (insertMember key value members).Perm ((key, value) :: members) := by
  induction members with
  | nil => exact .refl _
  | cons member members ih =>
      rw [List.map_cons, List.mem_cons, not_or] at hnew
      rw [insertMember, if_neg hnew.1]
      split
      · exact .refl _
      · exact ((ih hnew.2).cons member).trans (.swap _ _ _)

/-- Members with different keys are only put in another order. -/
theorem sortMembers_perm {members : List (String × Json)} (hkeys : (members.map Prod.fst).Nodup) :
    (sortMembers members).Perm members := by
  have hinsert : ∀ (members sorted : List (String × Json)),
      ((sorted ++ members).map Prod.fst).Nodup →
        (members.foldl (fun sorted member => insertMember member.1 member.2 sorted) sorted).Perm
          (sorted ++ members) := by
    intro members
    induction members with
    | nil =>
        intro sorted _
        rw [List.append_nil, List.foldl_nil]
    | cons member members ih =>
        intro sorted hkeys
        have hmiddle : (sorted ++ member :: members).Perm (member :: sorted ++ members) :=
          List.perm_middle
        have hfront := (hmiddle.map Prod.fst).nodup_iff.1 hkeys
        rw [List.cons_append, List.map_cons, List.nodup_cons, List.map_append,
          List.mem_append, not_or] at hfront
        have hinserted := (insertMember_perm member.2 hfront.1.1).append_right members
        rw [List.foldl_cons]
        exact ((ih _ ((hinserted.map Prod.fst).nodup_iff.2
          ((hmiddle.map Prod.fst).nodup_iff.1 hkeys))).trans hinserted).trans hmiddle.symm
  exact hinsert members [] hkeys

theorem rereadMembers_eq_map (members : List (String × Json)) :
    rereadMembers members = members.map fun member => (member.1, member.2.reread) := by
  induction members with
  | nil => rfl
  | cons member members ih => rw [rereadMembers, ih]; rfl

theorem rereadItems_eq_map (items : List Json) : rereadItems items = items.map reread := by
  induction items with
  | nil => rfl
  | cons item items ih => rw [rereadItems, ih]; rfl

theorem keys_rereadMembers (members : List (String × Json)) :
    (rereadMembers members).map Prod.fst = members.map Prod.fst := by
  rw [rereadMembers_eq_map, List.map_map]
  rfl

theorem lookup_rereadMembers (members : List (String × Json)) (key : String) :
    lookup (rereadMembers members) key = (lookup members key).map reread := by
  induction members with
  | nil => rfl
  | cons member members ih =>
      obtain ⟨name, value⟩ := member
      rw [rereadMembers, lookup_cons, lookup_cons, ih]
      split <;> rfl

/-- No two fields share a name, and every key among `keys` that calls a field is its name. -/
def Spells (slots : List Slot) (keys : List String) : Prop :=
  (slots.map Slot.name).Nodup ∧ ∀ key ∈ keys, ∀ slot ∈ slots, slot.isCalled key → key = slot.name

instance (slots : List Slot) (keys : List String) : Decidable (Spells slots keys) := by
  unfold Spells
  infer_instance

theorem findIdx?_isCalled {slots : List Slot} {keys : List String} (hspells : Spells slots keys)
    {key : String} (hkey : key ∈ keys) :
    (slots.findIdx? (·.isCalled key) = none ∧ ∀ slot ∈ slots, slot.name ≠ key) ∨
      ∃ before slot after, slots = before ++ slot :: after ∧ slot.name = key ∧
        slots.findIdx? (·.isCalled key) = some before.length ∧
          ∀ other ∈ before ++ after, other.name ≠ key := by
  cases hfind : slots.findIdx? (·.isCalled key) with
  | none =>
      left
      refine ⟨rfl, fun slot hslot hname => ?_⟩
      have hcalled := List.findIdx?_eq_none_iff.1 hfind slot hslot
      simp [Slot.isCalled, hname] at hcalled
  | some place =>
      right
      obtain ⟨hlt, hcalled, _⟩ := List.findIdx?_eq_some_iff_getElem.1 hfind
      have hname := hspells.2 key hkey slots[place] (List.getElem_mem hlt) hcalled
      have hsplit : slots = slots.take place ++ slots[place] :: slots.drop (place + 1) := by
        rw [List.getElem_cons_drop, List.take_append_drop]
      refine ⟨slots.take place, slots[place], slots.drop (place + 1), hsplit, hname.symm, ?_, ?_⟩
      · rw [List.length_take_of_le (Nat.le_of_lt hlt)]
      · have hnames := hspells.1
        rw [hsplit, (List.perm_middle.map Slot.name).nodup_iff, List.map_cons,
          List.nodup_cons] at hnames
        rintro other hother rfl
        exact hnames.1 (List.mem_map.2 ⟨other, hother, hname⟩)

theorem visit_unknown {slots : List Slot} {key : String}
    (hnone : slots.findIdx? (·.isCalled key) = none) (value : Json)
    (rest : List (String × Json)) (row : Row) :
    visit slots ((key, value) :: rest) row = visit slots rest row := by
  rw [visit, hnone]

theorem visit_known {before after : List Slot} {slot : Slot} {key : String} {value : Json}
    (hplace : (before ++ slot :: after).findIdx? (·.isCalled key) = some before.length)
    (hcheck : slot.check value = .ok ()) {left : Row} (hlength : left.length = before.length)
    (rest : List (String × Json)) (right : Row) :
    visit (before ++ slot :: after) ((key, value) :: rest) (left ++ none :: right) =
      visit (before ++ slot :: after) rest (left ++ some value :: right) := by
  rw [visit, hplace]
  simp [hcheck, ← hlength]

/-- Members whose keys are names of fields go to the fields that they name. -/
theorem visit_of_spells {slots : List Slot} {keys : List String} (hspells : Spells slots keys)
    {members : List (String × Json)} (hsubset : members.map Prod.fst ⊆ keys)
    (hchecks : ∀ slot ∈ slots, ∀ value, (slot.name, value) ∈ members →
      slot.check value = .ok ()) (seen : List (String × Json))
    (hkeys : ((seen ++ members).map Prod.fst).Nodup) :
    visit slots members (slots.map fun slot => lookup seen slot.name) =
      .ok (slots.map fun slot => lookup (seen ++ members) slot.name) := by
  induction members generalizing seen with
  | nil => rw [List.append_nil]; rfl
  | cons member members ih =>
      obtain ⟨key, value⟩ := member
      have hmore := ih (fun name hname => hsubset (List.mem_cons_of_mem _ hname))
        (fun slot hslot value hvalue => hchecks slot hslot value (List.mem_cons_of_mem _ hvalue))
        (seen ++ [(key, value)]) (by simpa using hkeys)
      rw [List.append_assoc, List.singleton_append] at hmore
      have hnew : key ∉ seen.map Prod.fst := by
        rw [List.map_append, List.nodup_append] at hkeys
        exact fun hmem => hkeys.2.2 _ hmem _ List.mem_cons_self rfl
      rcases findIdx?_isCalled hspells (hsubset List.mem_cons_self) with
        ⟨hnone, hother⟩ | ⟨before, slot, after, rfl, hname, hplace, hother⟩
      · rw [visit_unknown hnone, ← hmore]
        congr 1
        exact List.map_congr_left fun slot hslot =>
          (lookup_append_of_ne (Ne.symm (hother slot hslot)) seen value).symm
      · have hrow : ∀ slots : List Slot, (∀ other ∈ slots, other.name ≠ key) →
            (slots.map fun slot => lookup (seen ++ [(key, value)]) slot.name) =
              slots.map fun slot => lookup seen slot.name := fun slots hslots =>
          List.map_congr_left fun slot hslot =>
            lookup_append_of_ne (Ne.symm (hslots slot hslot)) seen value
        have hcheck := hchecks slot (by simp) value (by rw [hname]; exact List.mem_cons_self)
        rw [← hmore, List.map_append, List.map_append, List.map_cons, List.map_cons,
          hrow before fun other hmem => hother other (List.mem_append_left _ hmem),
          hrow after fun other hmem => hother other (List.mem_append_right _ hmem), hname,
          lookup_append_self hnew, lookup_eq_none hnew]
        exact visit_known hplace hcheck (List.length_map _) _ _

/-- A value that was found for a field stays; a second one is refused. -/
theorem visit_keeps {slots : List Slot} {place : Nat} {value : Json}
    {members : List (String × Json)} {row row' : Row} (hrow : row[place]? = some (some value))
    (hvisit : visit slots members row = .ok row') : row'[place]? = some (some value) := by
  induction members generalizing row with
  | nil =>
      obtain rfl := Except.ok.inj hvisit
      exact hrow
  | cons member members ih =>
      obtain ⟨key, other⟩ := member
      rw [visit] at hvisit
      split at hvisit
      · exact ih hrow hvisit
      · next found hfound =>
          split at hvisit
          · exact ih hrow hvisit
          · split at hvisit
            · cases hvisit
            · next hfree =>
                split at hvisit
                · cases hvisit
                · refine ih ?_ hvisit
                  have hne : found ≠ place := by
                    rintro rfl
                    simp [hrow] at hfree
                  rw [List.getElem?_set_ne hne, hrow]

/-- A field that is called by its name only gets the value under that name. -/
theorem visit_lookup {slots : List Slot} {place : Nat} {slot : Slot}
    (hslot : slots[place]? = some slot) (haliases : slot.aliases = [])
    (hfirst : slots.findIdx? (·.isCalled slot.name) = some place)
    {members : List (String × Json)} {row row' : Row} (hrow : row[place]? = some none)
    (hvisit : visit slots members row = .ok row') :
    row'[place]? = some (lookup members slot.name) := by
  induction members generalizing row with
  | nil =>
      obtain rfl := Except.ok.inj hvisit
      exact hrow
  | cons member members ih =>
      obtain ⟨key, value⟩ := member
      rw [visit] at hvisit
      rw [lookup_cons]
      by_cases hkey : key = slot.name
      · simp only [hkey, hfirst, hslot] at hvisit
        rw [if_pos hkey]
        split at hvisit
        · cases hvisit
        · split at hvisit
          · cases hvisit
          · have hlength : place < row.length := (List.getElem?_eq_some_iff.1 hrow).1
            exact visit_keeps (List.getElem?_set_self hlength) hvisit
      · rw [if_neg hkey]
        split at hvisit
        · exact ih hrow hvisit
        · next found hfound =>
            -- without aliases only its own name leads to the place of the field
            have hne : found ≠ place := by
              rintro rfl
              obtain ⟨_, hcalled, _⟩ := List.findIdx?_eq_some_iff_getElem.1 hfound
              rw [(List.getElem?_eq_some_iff.1 hslot).2] at hcalled
              simp [Slot.isCalled, haliases, hkey] at hcalled
            split at hvisit
            · exact ih hrow hvisit
            · split at hvisit
              · cases hvisit
              · split at hvisit
                · cases hvisit
                · exact ih (by rw [List.getElem?_set_ne hne, hrow]) hvisit

namespace Record

variable {α β : Type}

/-- What a record with one more field is put together from. -/
theorem field_build_eq_ok {record : Record (α → β)} {name : String} {aliases : List String}
    {decoder : Decoder α} {absent : Option α} {row : Row} {lack : Nat → Fault} {whole : β}
    (hbuild : (record.field name aliases decoder absent).build row lack = .ok whole) :
    ∃ make value, record.build row lack = .ok make ∧ make value = whole ∧
      (∀ json, row[record.slots.length]? = some (some json) → decoder json = .ok value) ∧
      ((∃ json, decoder json = .ok value) ∨ absent = some value) := by
  dsimp only [field] at hbuild
  split at hbuild
  · cases hbuild
  · next make hmake =>
      split at hbuild
      · next json hjson =>
          cases hdecode : decoder json with
          | error fault =>
              rw [hdecode] at hbuild
              cases hbuild
          | ok value =>
              rw [hdecode] at hbuild
              refine ⟨make, value, hmake, Except.ok.inj hbuild, fun other hother => ?_,
                Or.inl ⟨json, hdecode⟩⟩
              rw [hother] at hjson
              obtain rfl := Option.some.inj hjson
              exact hdecode
      · next value hnone =>
          refine ⟨make, value, hmake, Except.ok.inj hbuild, fun other hother => ?_, Or.inr rfl⟩
          rw [hother] at hnone
          cases hnone
      · cases hbuild

theorem exists_build_of_ofMembers {record : Record α} {members : List (String × Json)} {value : α}
    (hmembers : record.ofMembers members = .ok value) :
    ∃ row lack, record.build row lack = .ok value := by
  unfold ofMembers at hmembers
  split at hmembers
  · cases hmembers
  · exact ⟨_, _, hmembers⟩

/-- Whether it was written as an object or as an array, an accepted record was built from a
row of values. -/
theorem exists_build_of_decode {record : Record α} {type : String} {json : Json} {value : α}
    (hdecode : record.decode type json = .ok value) :
    ∃ row lack, record.build row lack = .ok value := by
  cases json with
  | object members => exact exists_build_of_ofMembers hdecode
  | array items =>
      simp only [decode, ofItems] at hdecode
      split at hdecode
      · cases hdecode
      · next built hbuild =>
          split at hdecode
          · obtain rfl := Except.ok.inj hdecode
            exact ⟨_, _, hbuild⟩
          · cases hdecode
  | _ => cases hdecode

/-- A record takes a value from what is found for its fields: every field that is found
passes its check, and the row of all of them, with whatever behind it, makes the value. -/
structure Takes (record : Record α) (found : String → Option Json) (value : α) : Prop where
  checks : ∀ slot ∈ record.slots, ∀ json, found slot.name = some json → slot.check json = .ok ()
  builds : ∀ (more : Row) (lack : Nat → Fault),
    record.build ((record.slots.map fun slot => found slot.name) ++ more) lack = .ok value

variable {record : Record (α → β)} {found : String → Option Json} {make : α → β}

theorem takes_done (value : α) (found : String → Option Json) : (done value).Takes found value where
  checks _ hslot := absurd hslot List.not_mem_nil
  builds _ _ := rfl

/-- One field more: what is found for it is decoded, or its default stands in. -/
theorem Takes.field (htakes : record.Takes found make) {name : String} {aliases : List String}
    {decoder : Decoder α} {absent : Option α} {value : α}
    (hdecode : ∀ json, found name = some json → decoder json = .ok value)
    (hmissing : found name = none → absent = some value) :
    (record.field name aliases decoder absent).Takes found (make value) where
  checks slot hslot json hjson := by
    rcases List.mem_append.1 hslot with hslot | hslot
    · exact htakes.checks slot hslot json hjson
    · obtain rfl := List.mem_singleton.1 hslot
      dsimp only
      rw [hdecode json hjson]
      rfl
  builds more lack := by
    have hbuild := htakes.builds (found name :: more) lack
    simp only [Record.field, List.map_append, List.map_cons, List.map_nil, List.append_assoc,
      List.singleton_append, hbuild]
    cases hfound : found name with
    | none => simp [hmissing hfound]
    | some json => simp [hdecode json hfound, Except.map]

theorem Takes.field_found (htakes : record.Takes found make) {name : String} {json : Json}
    (hfound : found name = some json) {decoder : Decoder α} {value : α}
    (hdecode : decoder json = .ok value) (aliases : List String) (absent : Option α) :
    (record.field name aliases decoder absent).Takes found (make value) :=
  htakes.field (fun _ hjson => Option.some.inj (hfound.symm.trans hjson) ▸ hdecode)
    fun hmissing => absurd (hfound.symm.trans hmissing) (by simp)

theorem Takes.field_absent (htakes : record.Takes found make) {name : String}
    (hfound : found name = none) (aliases : List String) (decoder : Decoder α) (value : α) :
    (record.field name aliases decoder (some value)).Takes found (make value) :=
  htakes.field (fun _ hjson => absurd (hfound.symm.trans hjson) (by simp)) fun _ => rfl

theorem Takes.required (htakes : record.Takes found make) (name : String) (decoder : Decoder α)
    {json : Json} (hfound : found name = some json) {value : α}
    (hdecode : decoder json = .ok value) (aliases : List String := []) :
    (record.required name decoder aliases).Takes found (make value) :=
  htakes.field_found hfound hdecode aliases none

theorem Takes.withDefault (htakes : record.Takes found make) (name : String)
    (decoder : Decoder α) (absent : α) {json : Json} (hfound : found name = some json) {value : α}
    (hdecode : decoder json = .ok value) (aliases : List String := []) :
    (record.withDefault name decoder absent aliases).Takes found (make value) :=
  htakes.field_found hfound hdecode aliases (some absent)

/-- A field that may be absent, written when there is a value for it. -/
theorem Takes.field_optional {γ : Type} (htakes : record.Takes found make) {name : String}
    {write : γ → Json} {value : Option γ} (hfound : found name = (value.map write).map reread)
    {decoder : Decoder α} (read : Option γ → α)
    (hdecode : ∀ some, decoder (write some).reread = .ok (read some)) (aliases : List String) :
    (record.field name aliases decoder (some (read none))).Takes found (make (read value)) := by
  cases value with
  | none => exact htakes.field_absent hfound aliases decoder (read none)
  | some value => exact htakes.field_found hfound (hdecode value) aliases _

theorem Takes.maybe {γ : Type} {record : Record (Option α → β)} {make : Option α → β}
    (htakes : record.Takes found make) (name : String) (decoder : Decoder α) {write : γ → Json}
    {value : Option γ} (hfound : found name = (value.map write).map reread) (read : γ → α)
    (hdecode : ∀ some, Decoder.optional decoder (write some).reread = .ok (read some))
    (aliases : List String := []) :
    (record.maybe name decoder aliases).Takes found (make (value.map read)) :=
  htakes.field_optional hfound (Option.map read) hdecode aliases

theorem Takes.maybe_text {record : Record (Option String → β)} {make : Option String → β}
    (htakes : record.Takes found make) (name : String) {value : Option String}
    (hfound : found name = (value.map Json.string).map reread) (aliases : List String := []) :
    (record.maybe name Decoder.text aliases).Takes found (make value) :=
  htakes.field_optional hfound id (fun _ => rfl) aliases

theorem Takes.ofMembers {record : Record α} {members : List (String × Json)} {value : α}
    (htakes : record.Takes (lookup members) value) (hkeys : (members.map Prod.fst).Nodup)
    {keys : List String} (hsubset : members.map Prod.fst ⊆ keys)
    (hspells : Spells record.slots keys) : record.ofMembers members = .ok value := by
  have hvisit := visit_of_spells hspells hsubset (fun slot hslot json hjson =>
    htakes.checks slot hslot json ((lookup_eq_some_iff hkeys).2 hjson)) [] hkeys
  have hbuild := htakes.builds [] fun place =>
    .missingField ((record.slots[place]?.map Slot.name).getD "")
  rw [List.append_nil] at hbuild
  rw [Record.ofMembers]
  change visit record.slots members (record.slots.map fun _ => none) = _ at hvisit
  rw [hvisit]
  exact hbuild

end Record

/-- The members of an object that is written field by field, some of them absent. -/
def ofFields (fields : List (String × Option Json)) : List (String × Json) :=
  fields.filterMap fun field => field.2.map (field.1, ·)

/-- What is found for a field when the written object is read. -/
def found (fields : List (String × Option Json)) (name : String) : Option Json :=
  ((fields.find? (·.1 = name)).bind Prod.snd).map reread

theorem keys_ofFields (fields : List (String × Option Json)) :
    ((ofFields fields).map Prod.fst).Sublist (fields.map Prod.fst) := by
  induction fields with
  | nil => exact .slnil
  | cons field fields ih =>
      obtain ⟨key, value⟩ := field
      cases value with
      | none => exact ih.cons key
      | some value => exact ih.cons_cons key

theorem lookup_ofFields {fields : List (String × Option Json)}
    (hkeys : (fields.map Prod.fst).Nodup) :
    lookup (rereadMembers (ofFields fields)) = found fields := by
  funext name
  rw [lookup_rereadMembers, found]
  congr 1
  induction fields with
  | nil => rfl
  | cons field fields ih =>
      obtain ⟨key, value⟩ := field
      rw [List.map_cons, List.nodup_cons] at hkeys
      by_cases hkey : key = name
      · subst hkey
        have hnew : lookup (ofFields fields) key = none :=
          lookup_eq_none fun hmem => hkeys.1 ((keys_ofFields fields).subset hmem)
        rw [List.find?_cons_of_pos (by simp)]
        cases value with
        | none => exact hnew
        | some value => exact (lookup_cons key value (ofFields fields) key).trans (if_pos rfl)
      · rw [List.find?_cons_of_neg (by simpa using hkey), ← ih hkeys.2]
        cases value with
        | none => rfl
        | some value => exact (lookup_cons key value (ofFields fields) name).trans (if_neg hkey)

theorem keys_reread {fields : List (String × Option Json)} (hkeys : (fields.map Prod.fst).Nodup) :
    ((rereadMembers (ofFields fields)).map Prod.fst).Nodup := by
  rw [keys_rereadMembers]
  exact hkeys.sublist (keys_ofFields fields)

theorem member?_reread {fields : List (String × Option Json)}
    (hkeys : (fields.map Prod.fst).Nodup) (key : String) :
    (object (ofFields fields)).reread.member? key = found fields key := by
  have hperm := (sortMembers_perm (keys_reread hkeys)).symm
  rw [← lookup_ofFields hkeys, lookup_perm hperm (keys_reread hkeys)]
  rfl

/-- A record is read back from the object that is written field by field. -/
theorem Record.ofMembers_reread {α : Type} {record : Record α} {value : α}
    (fields : List (String × Option Json)) (keys : List String)
    (hwritten : fields.map Prod.fst = keys) (hkeys : keys.Nodup)
    (hspells : Spells record.slots keys) (htakes : record.Takes (found fields) value) :
    record.ofMembers (sortMembers (rereadMembers (ofFields fields))) = .ok value := by
  subst hwritten
  have hperm := (sortMembers_perm (keys_reread hkeys)).map Prod.fst
  rw [← funext (member?_reread hkeys)] at htakes
  refine htakes.ofMembers (hperm.nodup_iff.2 (keys_reread hkeys)) (fun key hkey => ?_) hspells
  have hmem := hperm.mem_iff.1 hkey
  rw [keys_rereadMembers] at hmem
  exact (keys_ofFields fields).subset hmem

theorem Record.decode_reread {α : Type} {record : Record α} {value : α} (type : String)
    (fields : List (String × Option Json)) (keys : List String)
    (hwritten : fields.map Prod.fst = keys) (hkeys : keys.Nodup)
    (hspells : Spells record.slots keys) (htakes : record.Takes (found fields) value) :
    record.decode type (object (ofFields fields)).reread = .ok value :=
  ofMembers_reread fields keys hwritten hkeys hspells htakes

theorem Decoder.list_reread {α β : Type} {decoder : Decoder β} {write : α → Json} {read : α → β}
    (hread : ∀ value, decoder (write value).reread = .ok (read value)) (values : List α) :
    Decoder.list decoder (array (values.map write)).reread = .ok (values.map read) := by
  rw [reread, rereadItems_eq_map, Decoder.list]
  induction values with
  | nil => rfl
  | cons value values ih =>
      rw [List.map_cons, List.map_cons, List.map_cons, Decoder.each, hread]
      dsimp only
      rw [ih]

theorem Decoder.texts_reread (values : List String) :
    Decoder.list Decoder.text (texts values).reread = .ok values := by
  have htext : ∀ value : String, Decoder.text (string value).reread = .ok (id value) :=
    fun _ => rfl
  have hread := Decoder.list_reread htext values
  rwa [List.map_id] at hread

theorem fits_ofFields {depth : Nat} {fields : List (String × Option Json)}
    (hfits : ∀ field ∈ fields, ∀ value ∈ field.2, Fits depth value) :
    Fits (depth + 1) (object (ofFields fields)) := by
  induction fields with
  | nil => trivial
  | cons field fields ih =>
      obtain ⟨key, value⟩ := field
      have hmore := ih fun field hfield => hfits field (List.mem_cons_of_mem _ hfield)
      cases value with
      | none => exact hmore
      | some value => exact ⟨hfits _ List.mem_cons_self value rfl, hmore⟩

theorem itemsFit_map {depth : Nat} {α : Type} {write : α → Json}
    (hfits : ∀ value, Fits depth (write value)) (values : List α) :
    ItemsFit depth (values.map write) := by
  induction values with
  | nil => trivial
  | cons value values ih => exact ⟨hfits value, ih⟩

theorem fits_texts (depth : Nat) (values : List String) : Fits (depth + 1) (texts values) := by
  have htext : ∀ value : String, Fits depth (string value) := by simp [Fits]
  exact itemsFit_map htext values

end FieldBridge.Json
