import FieldBridge.Tag
import Mathlib.Data.List.TakeWhile

/-!
# Tags with quoted values

A tag is written pair by pair, its values between quotation marks or backquotes.  Reading
finds the pairs again.  A value between quotation marks comes back exactly, although its
escapes are undone in two passes over the whole value: the first pass takes the backslashes
of the quotation marks, and what is left of the others are pairs.  A value between backquotes
goes through the same passes.
-/

namespace FieldBridge.Tag

/-- What can stand between quotation marks: characters for themselves, and characters behind a
backslash. -/
inductive Escaped : List Char → Prop where
  | nil : Escaped []
  | plain {c : Char} {body : List Char} (escape : c ≠ '\\') (mark : c ≠ '\x22')
      (more : Escaped body) : Escaped (c :: body)
  | pair {body : List Char} (c : Char) (more : Escaped body) : Escaped ('\\' :: c :: body)

def escapeChar (c : Char) : List Char :=
  if c = '\\' ∨ c = '\x22' then ['\\', c] else [c]

/-- A value with its backslashes and quotation marks behind a backslash. -/
def escape (value : List Char) : List Char :=
  value.flatMap escapeChar

theorem escape_cons (c : Char) (value : List Char) :
    escape (c :: value) = escapeChar c ++ escape value := rfl

theorem escaped_escape (value : List Char) : Escaped (escape value) := by
  induction value with
  | nil => exact .nil
  | cons c value ih =>
      rw [escape_cons, escapeChar]
      by_cases hc : c = '\\' ∨ c = '\x22'
      · rw [if_pos hc]
        exact .pair c ih
      · rw [if_neg hc]
        rw [not_or] at hc
        exact .plain hc.1 hc.2 ih

/-- A value as it is written, between quotation marks or backquotes. -/
inductive Literal where
  | quoted (body : List Char) (escaped : Escaped body)
  | raw (body : List Char) (plain : '\x60' ∉ body)

namespace Literal

def mark : Literal → Char
  | quoted _ _ => '\x22'
  | raw _ _ => '\x60'

def body : Literal → List Char
  | quoted body _ => body
  | raw body _ => body

def text (literal : Literal) : List Char :=
  literal.mark :: literal.body ++ [literal.mark]

/-- A value between quotation marks. -/
def ofValue (value : List Char) : Literal :=
  quoted (escape value) (escaped_escape value)

end Literal

/-- A key with the white space in front of it. -/
structure Key where
  gap : List Char
  name : List Char
  blank : ∀ c ∈ gap, Unicode.isWhiteSpace c = true
  name_ne_nil : name ≠ []
  plain : ∀ c ∈ name, endsKey c = false

/-- The text of the pairs of a tag. -/
def render (entries : List (Key × Literal)) : List Char :=
  entries.flatMap fun entry => entry.1.gap ++ entry.1.name ++ ':' :: entry.2.text

section Reading

theorem untilQuote_quoted {body : List Char} (hbody : Escaped body) (rest : List Char) :
    untilQuote '\x22' false (body ++ '\x22' :: rest) = some (body, rest) := by
  induction hbody with
  | nil => rfl
  | plain hescape hmark _ ih =>
      rw [List.cons_append, untilQuote, if_neg (by decide), if_neg (by simp [hescape]),
        if_neg hmark, ih]
      rfl
  | pair c _ ih =>
      rw [List.cons_append, List.cons_append, untilQuote, if_neg (by decide), if_pos (by decide),
        untilQuote, if_pos rfl, ih]
      rfl

theorem untilQuote_raw {body : List Char} (hbody : '\x60' ∉ body) (rest : List Char) :
    untilQuote '\x60' false (body ++ '\x60' :: rest) = some (body, rest) := by
  induction body with
  | nil => rfl
  | cons c body ih =>
      obtain ⟨hc, hmore⟩ := List.ne_and_not_mem_of_not_mem_cons hbody
      rw [List.cons_append, untilQuote, if_neg (by decide), if_neg (by simp), if_neg hc.symm,
        ih hmore]
      rfl

theorem untilQuote_literal (literal : Literal) (rest : List Char) :
    untilQuote literal.mark false (literal.body ++ literal.mark :: rest) =
      some (literal.body, rest) := by
  cases literal with
  | quoted _ hbody => exact untilQuote_quoted hbody rest
  | raw _ hbody => exact untilQuote_raw hbody rest

theorem isWhiteSpace_of_endsKey {c : Char} (hc : endsKey c = false) :
    Unicode.isWhiteSpace c = false := by
  simp only [endsKey, Bool.or_eq_false_iff] at hc
  exact hc.2

theorem pair?_entry (key : Key) (literal : Literal) (rest : List Char) :
    pair? (key.gap ++ key.name ++ ':' :: literal.text ++ rest) =
      some ⟨key.name, literal.body, rest⟩ := by
  have hkey : ∀ c ∈ key.name, (!endsKey c) = true := fun c hc => by simp [key.plain c hc]
  obtain ⟨c, name, hname⟩ := List.exists_cons_of_ne_nil key.name_ne_nil
  have htrim : Text.trimStart (key.gap ++ key.name ++ ':' :: literal.text ++ rest) =
      key.name ++ ':' :: literal.mark :: (literal.body ++ literal.mark :: rest) := by
    rw [List.append_assoc, List.append_assoc, Text.trimStart_of_blank key.blank, hname,
      Text.trimStart_eq_self]
    · simp [Literal.text]
    · intro d hd
      obtain rfl : c = d := by simpa using hd
      exact isWhiteSpace_of_endsKey (key.plain c (by simp [hname]))
  have htake : (key.name ++ ':' :: literal.mark :: (literal.body ++ literal.mark :: rest)).takeWhile
      (!endsKey ·) = key.name := by
    rw [List.takeWhile_append_of_pos hkey]
    simp [endsKey]
  have hdrop : (key.name ++ ':' :: literal.mark :: (literal.body ++ literal.mark :: rest)).dropWhile
      (!endsKey ·) = ':' :: literal.mark :: (literal.body ++ literal.mark :: rest) := by
    rw [List.dropWhile_append_of_pos hkey]
    simp [endsKey]
  have hmark : literal.mark = '\x22' ∨ literal.mark = '\x60' := by
    cases literal with
    | quoted => exact .inl rfl
    | raw => exact .inr rfl
  unfold pair?
  dsimp only
  rw [htrim, htake, hdrop, hname]
  simp only [if_pos hmark, untilQuote_literal, Option.map_some]

theorem pairs_of_pair? {text : List Char} {pair : Pair} (hpair : pair? text = some pair) :
    pairs text = (pair.key, pair.value) :: pairs pair.rest := by
  rw [pairs]
  split
  · next found hfound =>
    obtain rfl := Option.some.inj (hfound.symm.trans hpair)
    rfl
  · next hnone =>
    rw [hnone] at hpair
    cases hpair

theorem pairs_blank {blanks : List Char} (hblanks : ∀ c ∈ blanks, Unicode.isWhiteSpace c = true) :
    pairs blanks = [] := by
  have hnone : pair? blanks = none := by
    have htrim := @Text.trimStart_of_blank blanks [] hblanks
    rw [List.append_nil] at htrim
    unfold pair?
    rw [htrim]
    rfl
  rw [pairs]
  split
  · next found hfound =>
    rw [hnone] at hfound
    cases hfound
  · rfl

/-- The pairs of a tag are found again, whatever follows them. -/
theorem pairs_render (entries : List (Key × Literal)) (rest : List Char) :
    pairs (render entries ++ rest) =
      entries.map (fun entry => (entry.1.name, entry.2.body)) ++ pairs rest := by
  induction entries with
  | nil => rfl
  | cons entry entries ih =>
      have hrender : render (entry :: entries) ++ rest =
          entry.1.gap ++ entry.1.name ++ ':' :: entry.2.text ++ (render entries ++ rest) := by
        simp [render]
      rw [hrender, pairs_of_pair? (pair?_entry entry.1 entry.2 _), ih]
      rfl

end Reading

section Contraction

variable {first second whole : Char}

/-- Two characters that do not stand in a row are passed. -/
theorem contract_cons {c : Char} {rest : List Char}
    (hrow : c = first → rest.head? ≠ some second) :
    contract first second whole (c :: rest) = c :: contract first second whole rest := by
  cases rest with
  | nil => rfl
  | cons d rest =>
      rw [contract, if_neg]
      rintro ⟨rfl, rfl⟩
      exact hrow rfl rfl

theorem contract_row (rest : List Char) :
    contract first second whole (first :: second :: rest) =
      whole :: contract first second whole rest := by
  rw [contract, if_pos ⟨rfl, rfl⟩]

/-- A contracted text is shorter, unless nothing was contracted. -/
theorem contract_eq_self_or_shorter (text : List Char) :
    (contract first second whole text = text ∧ ¬ [first, second] <:+: text) ∨
      ((contract first second whole text).length < text.length ∧ [first, second] <:+: text) := by
  fun_induction contract first second whole text with
  | case1 a b rest hrow ih =>
      obtain ⟨rfl, rfl⟩ := hrow
      refine .inr ⟨?_, (List.prefix_append [a, b] rest).isInfix⟩
      have hle : (contract a b whole rest).length ≤ rest.length := by
        rcases ih with ⟨heq, _⟩ | ⟨hlt, _⟩
        · rw [heq]
        · exact hlt.le
      simp only [List.length_cons]
      omega
  | case2 a b rest hrow ih =>
      have hwithin : [first, second] <:+: a :: b :: rest ↔ [first, second] <:+: b :: rest := by
        rw [List.infix_cons_iff, or_iff_right]
        intro hprefix
        obtain ⟨rfl, hmore⟩ := List.cons_prefix_cons.1 hprefix
        obtain ⟨rfl, _⟩ := List.cons_prefix_cons.1 hmore
        exact hrow ⟨rfl, rfl⟩
      rw [hwithin]
      rcases ih with ⟨heq, hfree⟩ | ⟨hlt, hrows⟩
      · exact .inl ⟨by rw [heq], hfree⟩
      · exact .inr ⟨Nat.succ_lt_succ hlt, hrows⟩
  | case3 text hshort =>
      refine .inl ⟨rfl, fun hwithin => ?_⟩
      have hlength := hwithin.length_le
      match text, hshort with
      | [], _ => simp at hlength
      | [_], _ => simp at hlength
      | a :: b :: rest, hshort => exact hshort a b rest rfl

end Contraction

/-- A value in which a quotation mark stands for itself, and two backslashes for one. -/
def doubled (value : List Char) : List Char :=
  value.flatMap fun c => if c = '\\' then ['\\', '\\'] else [c]

theorem head?_escape_ne (value : List Char) : (escape value).head? ≠ some '\x22' := by
  cases value with
  | nil => simp [escape]
  | cons c value =>
      rw [escape_cons, escapeChar]
      by_cases hc : c = '\\' ∨ c = '\x22'
      · rw [if_pos hc]
        simp
      · rw [if_neg hc]
        simpa using (not_or.1 hc).2

/-- The first pass: every quotation mark behind a backslash is an escaped one. -/
theorem contract_mark_escape (value : List Char) :
    contract '\\' '\x22' '\x22' (escape value) = doubled value := by
  induction value with
  | nil => rfl
  | cons c value ih =>
      rw [escape_cons, escapeChar, doubled, List.flatMap_cons]
      by_cases hescape : c = '\\'
      · -- neither backslash stands in front of a quotation mark: the rest begins with none
        subst hescape
        rw [if_pos (.inl rfl), if_pos rfl, List.cons_append, List.cons_append,
          contract_cons (by simp), List.nil_append, contract_cons (fun _ => head?_escape_ne value),
          ih]
        rfl
      by_cases hmark : c = '\x22'
      · subst hmark
        rw [if_pos (.inr rfl), if_neg (by decide), List.cons_append, List.cons_append,
          contract_row, List.nil_append, ih]
        rfl
      · rw [if_neg (not_or.2 ⟨hescape, hmark⟩), if_neg hescape, List.cons_append,
          contract_cons fun heq => absurd heq hescape, List.nil_append, ih]
        rfl

/-- The second pass: backslashes come in pairs. -/
theorem contract_backslash_doubled (value : List Char) :
    contract '\\' '\\' '\\' (doubled value) = value := by
  induction value with
  | nil => rfl
  | cons c value ih =>
      rw [doubled, List.flatMap_cons]
      by_cases hescape : c = '\\'
      · subst hescape
        rw [if_pos rfl, List.cons_append, List.cons_append, contract_row]
        exact congrArg _ ih
      · rw [if_neg hescape, List.cons_append, contract_cons fun heq => absurd heq hescape]
        exact congrArg _ ih

theorem unescape_escape (value : List Char) : unescape (escape value) = value := by
  rw [unescape, contract_mark_escape, contract_backslash_doubled]

/-- Only a value without anything to contract goes through both passes as it is. -/
theorem unescape_eq_self_iff (value : List Char) :
    unescape value = value ↔ ¬ ['\\', '\\'] <:+: value ∧ ¬ ['\\', '\x22'] <:+: value := by
  unfold unescape
  rcases @contract_eq_self_or_shorter '\\' '\x22' '\x22' value with ⟨heq, hmarks⟩ | ⟨hlt, hmarks⟩
  · rw [heq]
    rcases @contract_eq_self_or_shorter '\\' '\\' '\\' value with ⟨heq, hfree⟩ | ⟨hlt, hrows⟩
    · exact iff_of_true heq ⟨hfree, hmarks⟩
    · exact iff_of_false (fun hself => by rw [hself] at hlt; exact hlt.false)
        (fun hboth => hboth.1 hrows)
  · refine iff_of_false (fun hself => ?_) (fun hboth => hboth.2 hmarks)
    have hlength := congrArg List.length hself
    rcases @contract_eq_self_or_shorter '\\' '\\' '\\' (contract '\\' '\x22' '\x22' value) with
      ⟨heq, _⟩ | ⟨hshorter, _⟩
    · rw [heq] at hlength
      omega
    · omega

theorem lookup_render (entries : List (Key × Literal)) (name rest : List Char) :
    lookup name (render entries ++ rest) =
      match entries.find? (·.1.name = name) with
      | some entry => some (unescape entry.2.body)
      | none => lookup name rest := by
  rw [lookup, pairs_render, List.find?_append, List.find?_map]
  cases hfound : entries.find? (·.1.name = name) with
  | none =>
      have hnone : entries.find? ((fun pair => decide (pair.1 = name)) ∘
        fun entry => (entry.1.name, entry.2.body)) = none := hfound
      rw [hnone]
      rfl
  | some entry =>
      have hsome : entries.find? ((fun pair => decide (pair.1 = name)) ∘
        fun entry => (entry.1.name, entry.2.body)) = some entry := hfound
      rw [hsome]
      rfl

theorem lookup_blank {blanks : List Char} (hblanks : ∀ c ∈ blanks, Unicode.isWhiteSpace c = true)
    (name : List Char) : lookup name blanks = none := by
  rw [lookup, pairs_blank hblanks]
  rfl

/-- The part of a text in front of its first comma. -/
def IsFront (part text : List Char) : Prop :=
  ',' ∉ part ∧ (text = part ∨ part ++ [','] <+: text)

theorem isFront_iff {part text : List Char} :
    IsFront part text ↔ part = text.takeWhile (· ≠ ',') := by
  constructor
  · rintro ⟨hpart, hends⟩
    have hplain : ∀ c ∈ part, decide (c ≠ ',') = true := by
      intro c hc
      exact decide_eq_true fun heq => hpart (heq ▸ hc)
    rcases hends with rfl | ⟨more, rfl⟩
    · exact (List.takeWhile_eq_self_iff.2 hplain).symm
    · rw [List.append_assoc, List.takeWhile_append_of_pos hplain]
      simp
  · rintro rfl
    refine ⟨fun hmem => by simpa using List.mem_takeWhile_imp hmem, ?_⟩
    have hwhole := @List.takeWhile_append_dropWhile Char (· ≠ ',') text
    have hstops := List.head?_dropWhile_not (fun c : Char => decide (c ≠ ',')) text
    cases hdrop : text.dropWhile (· ≠ ',') with
    | nil =>
        rw [hdrop, List.append_nil] at hwhole
        exact .inl hwhole.symm
    | cons c more =>
        rw [hdrop] at hwhole hstops
        obtain rfl : c = ',' := by simpa using hstops
        exact .inr ⟨more, by rw [List.append_assoc]; exact hwhole⟩

theorem jsonName_eq {text value : List Char}
    (hvalue : lookup ['j', 's', 'o', 'n'] text = some value) :
    jsonName text =
      if value.takeWhile (· ≠ ',') = [] then none else some (value.takeWhile (· ≠ ',')) := by
  unfold jsonName
  rw [hvalue]
  dsimp only
  split <;> simp_all

/-- Keys with values between quotation marks. -/
def quotedEntries (entries : List (Key × List Char)) : List (Key × Literal) :=
  entries.map fun entry => (entry.1, .ofValue entry.2)

theorem lookup_quotedEntries (entries : List (Key × List Char)) {blanks : List Char}
    (hblanks : ∀ c ∈ blanks, Unicode.isWhiteSpace c = true) (name : List Char) :
    lookup name (render (quotedEntries entries) ++ blanks) =
      (entries.find? (·.1.name = name)).map (·.2) := by
  rw [lookup_render, quotedEntries, List.find?_map]
  cases hfound : entries.find? (·.1.name = name) with
  | none =>
      have hnone : entries.find? ((fun entry => decide (entry.1.name = name)) ∘
        fun entry => (entry.1, Literal.ofValue entry.2)) = none := hfound
      rw [hnone]
      exact lookup_blank hblanks name
  | some entry =>
      have hsome : entries.find? ((fun entry => decide (entry.1.name = name)) ∘
        fun entry => (entry.1, Literal.ofValue entry.2)) = some entry := hfound
      rw [hsome]
      exact congrArg some (unescape_escape entry.2)

/-- Values between quotation marks are read back, the first one of each key. -/
theorem lookup_render_quotedEntries (entries : List (Key × List Char)) (blanks : List Char)
    (hblanks : ∀ c ∈ blanks, Unicode.isWhiteSpace c = true) :
    (∀ name, lookup name (render (quotedEntries entries) ++ blanks) =
      (entries.find? (·.1.name = name)).map (·.2)) ∧
    (∀ entry, entries.find? (·.1.name = ['j', 's', 'o', 'n']) = some entry →
      ∃ part, IsFront part entry.2 ∧
        jsonName (render (quotedEntries entries) ++ blanks) =
          if part = [] then none else some part) ∧
    (entries.find? (·.1.name = ['j', 's', 'o', 'n']) = none →
      jsonName (render (quotedEntries entries) ++ blanks) = none) := by
  have hlookup := lookup_quotedEntries entries hblanks
  refine ⟨hlookup, fun entry hentry => ?_, fun hnone => ?_⟩
  · have hvalue := hlookup ['j', 's', 'o', 'n']
    rw [hentry] at hvalue
    exact ⟨_, isFront_iff.2 rfl, jsonName_eq hvalue⟩
  · have hmissing := hlookup ['j', 's', 'o', 'n']
    rw [hnone] at hmissing
    rw [jsonName, hmissing]
    rfl

theorem plain_of_all {name : List Char} (hname : name.all (!endsKey ·) = true) :
    ∀ c ∈ name, endsKey c = false := by
  simpa using hname

def dbKey : Key where
  gap := []
  name := ['d', 'b']
  blank := by simp
  name_ne_nil := by simp
  plain := plain_of_all (by decide +kernel)

def jsonKey : Key where
  gap := [' ', '\t']
  name := ['j', 's', 'o', 'n']
  blank := List.all_eq_true.1 (by decide +kernel)
  name_ne_nil := by simp
  plain := plain_of_all (by decide +kernel)

/-- A value that ends with a backslash, and two of one key, the first with a quotation mark
behind a backslash. -/
def sampleEntries : List (Key × List Char) :=
  [(dbKey, ['\\']), (jsonKey, ['\\', '\x22', ',', 'x']), (jsonKey, [])]

theorem lookup_render_quotedEntries_sample :
    render (quotedEntries sampleEntries) =
      "db:\"\\\\\" \tjson:\"\\\\\\\",x\" \tjson:\"\"".toList ∧
    (∀ c ∈ ['\n'], Unicode.isWhiteSpace c = true) ∧
    lookup ['d', 'b'] (render (quotedEntries sampleEntries) ++ ['\n']) = some ['\\'] ∧
    jsonName (render (quotedEntries sampleEntries) ++ ['\n']) = some ['\\', '\x22'] := by
  have hblank : ∀ c ∈ ['\n'], Unicode.isWhiteSpace c = true :=
    List.forall_mem_singleton.2 (by decide +kernel)
  obtain ⟨hlookup, hjson, _⟩ := lookup_render_quotedEntries sampleEntries ['\n'] hblank
  obtain ⟨part, hpart, hname⟩ := hjson (jsonKey, ['\\', '\x22', ',', 'x']) rfl
  obtain rfl := isFront_iff.1 hpart
  exact ⟨by decide, hblank, hlookup ['d', 'b'], hname⟩

/-- A value between backquotes goes through the escapes of quotation marks.  It comes back as
it is written only without a backslash in front of a backslash or a quotation mark. -/
theorem lookup_raw (before : List (Key × Literal)) (key : Key) (value rest : List Char)
    (hvalue : '\x60' ∉ value) (hbefore : ∀ entry ∈ before, entry.1.name ≠ key.name) :
    lookup key.name (render (before ++ [(key, .raw value hvalue)]) ++ rest) =
      some (unescape value) ∧
    (lookup key.name (render (before ++ [(key, .raw value hvalue)]) ++ rest) = some value ↔
      ¬ ['\\', '\\'] <:+: value ∧ ¬ ['\\', '\x22'] <:+: value) := by
  have hlookup : lookup key.name (render (before ++ [(key, .raw value hvalue)]) ++ rest) =
      some (unescape value) := by
    have hnone : before.find? (·.1.name = key.name) = none :=
      List.find?_eq_none.2 fun entry hentry => by simpa using hbefore entry hentry
    rw [lookup_render, List.find?_append, hnone, Option.none_or, List.find?_cons_of_pos (by simp)]
    rfl
  refine ⟨hlookup, ?_⟩
  rw [hlookup, Option.some_inj]
  exact unescape_eq_self_iff value

/-- Single backslashes come back, also at the end and behind a pair of another key. -/
theorem lookup_raw_single_backslashes :
    '\x60' ∉ ['\\', 'a', '\\'] ∧
    (∀ entry ∈ [(dbKey, Literal.ofValue ['\x22'])], entry.1.name ≠ jsonKey.name) ∧
    lookup ['j', 's', 'o', 'n'] "db:\"\\\"\" \tjson:\x60\\a\\\x60 x".toList =
      some ['\\', 'a', '\\'] := by
  have hvalue : '\x60' ∉ ['\\', 'a', '\\'] := by decide
  have hbefore : ∀ entry ∈ [(dbKey, Literal.ofValue ['\x22'])], entry.1.name ≠ jsonKey.name := by
    simp [dbKey, jsonKey]
  exact ⟨hvalue, hbefore, (lookup_raw [(dbKey, .ofValue ['\x22'])] jsonKey ['\\', 'a', '\\']
    [' ', 'x'] hvalue hbefore).2.2 (by decide)⟩

/-- Two backslashes between backquotes come back as one. -/
theorem not_lookup_raw_two_backslashes :
    lookup dbKey.name (render [(dbKey, .raw ['\\', '\\'] (by decide))]) ≠ some ['\\', '\\'] := by
  decide +kernel

end FieldBridge.Tag
