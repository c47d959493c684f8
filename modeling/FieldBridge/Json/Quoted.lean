/-!
# JSON strings

A string is written between quotation marks, with escapes for quotation marks,
backslashes and control characters.  Reading also takes the escapes that are never
written, and joins surrogate pairs; it refuses control characters as such and
surrogates without a partner.
-/

namespace FieldBridge.Json.Quoted

def hexDigit (value : Nat) : Char :=
  if value < 10 then Char.ofNat (48 + value) else Char.ofNat (87 + value)

def hexValue? (c : Char) : Option Nat :=
  if '0' ≤ c ∧ c ≤ '9' then some (c.toNat - 48)
  else if 'a' ≤ c ∧ c ≤ 'f' then some (c.toNat - 87)
  else if 'A' ≤ c ∧ c ≤ 'F' then some (c.toNat - 55)
  else none

def encodeChar (c : Char) : List Char :=
  if c = '\x22' then ['\\', '\x22']
  else if c = '\\' then ['\\', '\\']
  else if c = '\n' then ['\\', 'n']
  else if c = '\r' then ['\\', 'r']
  else if c = '\t' then ['\\', 't']
  else if c = '\x08' then ['\\', 'b']
  else if c = '\x0c' then ['\\', 'f']
  else if c.toNat < 32 then ['\\', 'u', '0', '0', hexDigit (c.toNat / 16), hexDigit (c.toNat % 16)]
  else [c]

/-- A text as it is written, with its quotation marks. -/
def encode (text : List Char) : List Char :=
  '\x22' :: text.flatMap encodeChar ++ ['\x22']

/-- The value of four digits of base sixteen, and the text after them. -/
def unit? : List Char → Option (Nat × List Char)
  | a :: b :: c :: d :: rest =>
    match hexValue? a, hexValue? b, hexValue? c, hexValue? d with
    | some a, some b, some c, some d => some (a * 4096 + b * 256 + c * 16 + d, rest)
    | _, _, _, _ => none
  | _ => none

/-- The character that a lead surrogate makes with the escape after it. -/
def pair? (lead : Nat) : List Char → Option (Char × List Char)
  | '\\' :: 'u' :: rest =>
    match unit? rest with
    | some (trail, rest) =>
      if 0xdc00 ≤ trail ∧ trail ≤ 0xdfff then
        some (Char.ofNat (0x10000 + (lead - 0xd800) * 0x400 + (trail - 0xdc00)), rest)
      else none
    | none => none
  | _ => none

/-- The character of an escape, whose backslash was already taken. -/
def escape? : List Char → Option (Char × List Char)
  | 'u' :: rest =>
    match unit? rest with
    | some (unit, rest) =>
      if 0xd800 ≤ unit ∧ unit ≤ 0xdbff then pair? unit rest
      else if 0xdc00 ≤ unit ∧ unit ≤ 0xdfff then none
      else some (Char.ofNat unit, rest)
    | none => none
  | '\x22' :: rest => some ('\x22', rest)
  | '\\' :: rest => some ('\\', rest)
  | '/' :: rest => some ('/', rest)
  | 'b' :: rest => some ('\x08', rest)
  | 'f' :: rest => some ('\x0c', rest)
  | 'n' :: rest => some ('\n', rest)
  | 'r' :: rest => some ('\r', rest)
  | 't' :: rest => some ('\t', rest)
  | _ => none

theorem length_unit?_lt {text rest : List Char} {unit : Nat}
    (hunit : unit? text = some (unit, rest)) : rest.length < text.length := by
  unfold unit? at hunit
  split at hunit
  · split at hunit
    · cases hunit
      simp only [List.length_cons]
      omega
    · cases hunit
  · cases hunit

theorem length_pair?_lt {lead : Nat} {text rest : List Char} {c : Char}
    (hpair : pair? lead text = some (c, rest)) : rest.length < text.length := by
  unfold pair? at hpair
  split at hpair
  · split at hpair
    · next hunit =>
      split at hpair
      · obtain ⟨-, rfl⟩ := Prod.mk.inj (Option.some.inj hpair)
        exact Nat.lt_succ_of_lt (Nat.lt_succ_of_lt (length_unit?_lt hunit))
      · cases hpair
    · cases hpair
  · cases hpair

theorem length_escape?_lt {text rest : List Char} {c : Char}
    (hescape : escape? text = some (c, rest)) : rest.length < text.length := by
  unfold escape? at hescape
  split at hescape
  · split at hescape
    · next hunit =>
      have hshort := length_unit?_lt hunit
      split at hescape
      · exact Nat.lt_succ_of_lt (Nat.lt_trans (length_pair?_lt hescape) hshort)
      · split at hescape
        · cases hescape
        · obtain ⟨-, rfl⟩ := Prod.mk.inj (Option.some.inj hescape)
          exact Nat.lt_succ_of_lt hshort
    · cases hescape
  all_goals cases hescape
  all_goals exact Nat.lt_succ_self _

/-- The text of a string, whose opening quotation mark was already taken, and what
follows its closing one. -/
def decode? (text : List Char) : Option (List Char × List Char) :=
  match text with
  | [] => none
  | c :: rest =>
    if c = '\x22' then some ([], rest)
    else if c = '\\' then
      match _ : escape? rest with
      | some (d, rest) => (decode? rest).map fun decoded => (d :: decoded.1, decoded.2)
      | none => none
    else if c.toNat < 32 then none
    else (decode? rest).map fun decoded => (c :: decoded.1, decoded.2)
termination_by text.length
decreasing_by
  · exact Nat.lt_succ_of_lt (length_escape?_lt ‹_›)
  · exact Nat.lt_succ_self _

end FieldBridge.Json.Quoted
