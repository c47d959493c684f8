import FieldBridge.Text

/-!
# Struct tags

A tag is a sequence of pairs `key:"value"` with white space between them.  A value
may also stand between backquotes, which happens inside interpreted strings.  A
tag is read pair by pair, and reading stops for good at the first thing that is no
pair.
-/

namespace FieldBridge.Tag

def endsKey (c : Char) : Bool :=
  c = ':' || c = '\x22' || c = '\x60' || Unicode.isWhiteSpace c

/-- The text up to a closing quote and the text after it.  Between quotation marks
a backslash protects the character after it. -/
def untilQuote (quote : Char) (escaped : Bool) : List Char → Option (List Char × List Char)
  | [] => none
  | c :: rest =>
    if escaped then (untilQuote quote false rest).map fun cut => (c :: cut.1, cut.2)
    else if c = '\\' ∧ quote = '\x22' then
      (untilQuote quote true rest).map fun cut => (c :: cut.1, cut.2)
    else if c = quote then some ([], rest)
    else (untilQuote quote false rest).map fun cut => (c :: cut.1, cut.2)

/-- One pair of a tag: its key, its value as written, and the text after it. -/
structure Pair where
  key : List Char
  value : List Char
  rest : List Char

def pair? (text : List Char) : Option Pair :=
  let text := Text.trimStart text
  match text.takeWhile (!endsKey ·), text.dropWhile (!endsKey ·) with
  | c :: key, ':' :: quote :: rest =>
    if quote = '\x22' ∨ quote = '\x60' then
      (untilQuote quote false rest).map fun cut => ⟨c :: key, cut.1, cut.2⟩
    else none
  | _, _ => none

theorem length_untilQuote_lt {quote : Char} {escaped : Bool} {text : List Char}
    {cut : List Char × List Char} (hcut : untilQuote quote escaped text = some cut) :
    cut.2.length < text.length := by
  induction text generalizing escaped cut with
  | nil => cases hcut
  | cons c rest ih =>
    rw [untilQuote] at hcut
    split at hcut
    · obtain ⟨inner, hinner, rfl⟩ := Option.map_eq_some_iff.1 hcut
      exact Nat.lt_succ_of_lt (show inner.2.length < rest.length from ih hinner)
    · split at hcut
      · obtain ⟨inner, hinner, rfl⟩ := Option.map_eq_some_iff.1 hcut
        exact Nat.lt_succ_of_lt (show inner.2.length < rest.length from ih hinner)
      · split at hcut
        · cases hcut
          exact Nat.lt_succ_self _
        · obtain ⟨inner, hinner, rfl⟩ := Option.map_eq_some_iff.1 hcut
          exact Nat.lt_succ_of_lt (show inner.2.length < rest.length from ih hinner)

theorem length_pair?_lt {text : List Char} {pair : Pair} (hpair : pair? text = some pair) :
    pair.rest.length < text.length := by
  unfold pair? at hpair
  dsimp only at hpair
  split at hpair
  · next c key quote rest hkey hrest =>
    split at hpair
    · obtain ⟨cut, hcut, rfl⟩ := Option.map_eq_some_iff.1 hpair
      have hquote := length_untilQuote_lt hcut
      have hdrop := (List.dropWhile_sublist (!endsKey ·) (l := Text.trimStart text)).length_le
      have htrim := (List.dropWhile_sublist Unicode.isWhiteSpace (l := text)).length_le
      rw [hrest] at hdrop
      unfold Text.trimStart at hdrop
      simp only [List.length_cons] at hdrop
      exact Nat.lt_of_lt_of_le (Nat.lt_succ_of_lt (Nat.lt_succ_of_lt hquote))
        (Nat.le_trans hdrop htrim)
    · cases hpair
  · cases hpair

/-- The pairs of a tag, keys with values as written. -/
def pairs (text : List Char) : List (List Char × List Char) :=
  match _ : pair? text with
  | some pair => (pair.key, pair.value) :: pairs pair.rest
  | none => []
termination_by text.length
decreasing_by exact length_pair?_lt ‹_›

/-- Every occurrence of two characters in a row, from the left, made one. -/
def contract (first second whole : Char) : List Char → List Char
  | a :: b :: rest =>
    if a = first ∧ b = second then whole :: contract first second whole rest
    else a :: contract first second whole (b :: rest)
  | rest => rest

/-- A value without its escapes: first those of quotation marks, then those of
backslashes. -/
def unescape (value : List Char) : List Char :=
  contract '\\' '\\' '\\' (contract '\\' '\x22' '\x22' value)

def lookup (key text : List Char) : Option (List Char) :=
  ((pairs text).find? (·.1 = key)).map fun pair => unescape pair.2

/-- The name a field is serialised under: the `json` value up to its first comma,
unless that is empty. -/
def jsonName (text : List Char) : Option (List Char) :=
  match lookup ['j', 's', 'o', 'n'] text with
  | none => none
  | some value =>
    match value.takeWhile (· ≠ ',') with
    | [] => none
    | name => some name

end FieldBridge.Tag
