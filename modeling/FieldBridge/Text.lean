import FieldBridge.Unicode.Basic

/-!
# Text

Operations on text as a list of characters: trimming, lines, and slices by
UTF-8 byte offsets.  A slice exists only when both offsets fall on character
boundaries within the text, in order.
-/

namespace FieldBridge.Text

/-- The number of bytes of the UTF-8 encoding. -/
def byteLength : List Char → Nat
  | [] => 0
  | c :: text => c.utf8Size + byteLength text

@[simp] theorem byteLength_nil : byteLength [] = 0 := rfl

@[simp] theorem byteLength_cons (c : Char) (text : List Char) :
    byteLength (c :: text) = c.utf8Size + byteLength text := rfl

@[simp] theorem byteLength_append (left right : List Char) :
    byteLength (left ++ right) = byteLength left + byteLength right := by
  induction left with
  | nil => simp
  | cons c left ih => rw [List.cons_append, byteLength_cons, byteLength_cons, ih, Nat.add_assoc]

def trimStart (text : List Char) : List Char :=
  text.dropWhile Unicode.isWhiteSpace

def trimEnd (text : List Char) : List Char :=
  (trimStart text.reverse).reverse

def trim (text : List Char) : List Char :=
  trimEnd (trimStart text)

def isBlank (text : List Char) : Bool :=
  text.all Unicode.isWhiteSpace

def dropReturn (line : List Char) : List Char :=
  if line.getLast? = some '\r' then line.dropLast else line

/-- The lines of a text.  A line ends with a line feed, or a carriage return and
a line feed; the last line need not end at all, and then keeps what it has. -/
def lines (text : List Char) : List (List Char) :=
  let parts := text.splitOn '\n'
  let ended := parts.dropLast.map dropReturn
  match parts.getLast? with
  | some (c :: last) => ended ++ [c :: last]
  | _ => ended

/-- What follows the first `count` bytes, when these are whole characters. -/
def dropBytes? : Nat → List Char → Option (List Char)
  | 0, text => some text
  | _ + 1, [] => none
  | count + 1, c :: text =>
    if c.utf8Size ≤ count + 1 then dropBytes? (count + 1 - c.utf8Size) text else none

/-- The first `count` bytes, when these are whole characters. -/
def takeBytes? : Nat → List Char → Option (List Char)
  | 0, _ => some []
  | _ + 1, [] => none
  | count + 1, c :: text =>
    if c.utf8Size ≤ count + 1 then
      (takeBytes? (count + 1 - c.utf8Size) text).map (c :: ·)
    else none

def slice? (start stop : Nat) (text : List Char) : Option (List Char) :=
  if start ≤ stop then (dropBytes? start text).bind (takeBytes? (stop - start)) else none

theorem dropBytes?_cons (c : Char) (count : Nat) (text : List Char) :
    dropBytes? (c.utf8Size + count) (c :: text) = dropBytes? count text := by
  have hsize := c.utf8Size_pos
  obtain ⟨more, hmore⟩ := Nat.exists_eq_add_one.2 (Nat.add_pos_left hsize count)
  rw [hmore, dropBytes?, if_pos (by omega), ← hmore, Nat.add_sub_cancel_left]

theorem takeBytes?_cons (c : Char) (count : Nat) (text : List Char) :
    takeBytes? (c.utf8Size + count) (c :: text) = (takeBytes? count text).map (c :: ·) := by
  have hsize := c.utf8Size_pos
  obtain ⟨more, hmore⟩ := Nat.exists_eq_add_one.2 (Nat.add_pos_left hsize count)
  rw [hmore, takeBytes?, if_pos (by omega), ← hmore, Nat.add_sub_cancel_left]

theorem dropBytes?_append (left right : List Char) :
    dropBytes? (byteLength left) (left ++ right) = some right := by
  induction left with
  | nil => cases right <;> rfl
  | cons c left ih => rw [byteLength_cons, List.cons_append, dropBytes?_cons, ih]

theorem takeBytes?_append (left right : List Char) :
    takeBytes? (byteLength left) (left ++ right) = some left := by
  induction left with
  | nil => cases right <;> rfl
  | cons c left ih =>
    rw [byteLength_cons, List.cons_append, takeBytes?_cons, ih]
    rfl

theorem slice?_append (before part rest : List Char) :
    slice? (byteLength before) (byteLength before + byteLength part) (before ++ part ++ rest) =
      some part := by
  rw [slice?, if_pos (by omega), List.append_assoc, dropBytes?_append, Option.bind_some,
    Nat.add_sub_cancel_left, takeBytes?_append]

theorem dropBytes?_eq_some {count : Nat} {text rest : List Char}
    (hdrop : dropBytes? count text = some rest) :
    ∃ before, text = before ++ rest ∧ byteLength before = count := by
  fun_induction dropBytes? count text with
  | case1 text =>
      obtain rfl := Option.some.inj hdrop
      exact ⟨[], rfl, rfl⟩
  | case2 => cases hdrop
  | case3 count c text hsize ih =>
      obtain ⟨before, rfl, hlength⟩ := ih hdrop
      refine ⟨c :: before, rfl, ?_⟩
      rw [byteLength_cons, hlength]
      omega
  | case4 => cases hdrop

theorem takeBytes?_eq_some {count : Nat} {text part : List Char}
    (htake : takeBytes? count text = some part) :
    ∃ rest, text = part ++ rest ∧ byteLength part = count := by
  fun_induction takeBytes? count text generalizing part with
  | case1 text =>
      obtain rfl := Option.some.inj htake
      exact ⟨text, rfl, rfl⟩
  | case2 => cases htake
  | case3 count c text hsize ih =>
      obtain ⟨more, hmore, rfl⟩ := Option.map_eq_some_iff.1 htake
      obtain ⟨rest, rfl, hlength⟩ := ih hmore
      refine ⟨rest, rfl, ?_⟩
      rw [byteLength_cons, hlength]
      omega
  | case4 => cases htake

/-- A slice is what stands in a text between two places. -/
theorem slice?_eq_some {start stop : Nat} {text part : List Char}
    (hslice : slice? start stop text = some part) :
    ∃ front back, text = front ++ part ++ back ∧ byteLength front = start ∧
      byteLength front + byteLength part = stop := by
  unfold slice? at hslice
  split at hslice
  · next hle =>
    obtain ⟨rest, hdrop, htake⟩ := Option.bind_eq_some_iff.1 hslice
    obtain ⟨front, rfl, hfront⟩ := dropBytes?_eq_some hdrop
    obtain ⟨back, rfl, hpart⟩ := takeBytes?_eq_some htake
    exact ⟨front, back, by rw [List.append_assoc], hfront, by omega⟩
  · cases hslice

/-- A slice of a text is a slice of every longer text, further on by what was put in
front. -/
theorem slice?_shift {start stop : Nat} {text part : List Char}
    (hslice : slice? start stop text = some part) (before after : List Char) :
    slice? (byteLength before + start) (byteLength before + stop) (before ++ text ++ after) =
      some part := by
  obtain ⟨front, back, rfl, rfl, rfl⟩ := slice?_eq_some hslice
  have hwhole := slice?_append (before ++ front) part (back ++ after)
  rw [byteLength_append, Nat.add_assoc] at hwhole
  rw [← hwhole]
  simp

theorem trimStart_append (text : List Char) :
    text.takeWhile Unicode.isWhiteSpace ++ trimStart text = text :=
  List.takeWhile_append_dropWhile

theorem trimStart_of_blank {gap text : List Char}
    (hgap : ∀ c ∈ gap, Unicode.isWhiteSpace c = true) :
    trimStart (gap ++ text) = trimStart text :=
  List.dropWhile_append_of_pos hgap

theorem exists_takeWhile_append_trim (text : List Char) :
    ∃ after, text = text.takeWhile Unicode.isWhiteSpace ++ trim text ++ after ∧
      ∀ c ∈ after, Unicode.isWhiteSpace c = true := by
  refine ⟨((trimStart text).reverse.takeWhile Unicode.isWhiteSpace).reverse, ?_, ?_⟩
  · have hend := congrArg List.reverse (trimStart_append (trimStart text).reverse)
    rw [List.reverse_append, List.reverse_reverse] at hend
    rw [trim, trimEnd, List.append_assoc, hend, trimStart_append]
  · intro c hc
    exact List.all_eq_true.1 List.all_takeWhile c (List.mem_reverse.1 hc)

theorem exists_trim (text : List Char) :
    ∃ before after, text = before ++ trim text ++ after ∧
      (∀ c ∈ before, Unicode.isWhiteSpace c = true) ∧
      ∀ c ∈ after, Unicode.isWhiteSpace c = true := by
  obtain ⟨after, htext, hafter⟩ := exists_takeWhile_append_trim text
  exact ⟨_, after, htext, List.all_eq_true.1 List.all_takeWhile, hafter⟩

theorem trimStart_eq_self {text : List Char}
    (hhead : ∀ c, text.head? = some c → Unicode.isWhiteSpace c = false) :
    trimStart text = text := by
  cases text with
  | nil => rfl
  | cons c text => exact List.dropWhile_cons_of_neg (by simp [hhead c rfl])

theorem trim_eq_self {text : List Char}
    (hhead : ∀ c, text.head? = some c → Unicode.isWhiteSpace c = false)
    (hlast : ∀ c, text.getLast? = some c → Unicode.isWhiteSpace c = false) :
    trim text = text := by
  have hreverse : trimStart text.reverse = text.reverse := by
    apply trimStart_eq_self
    rwa [List.head?_reverse]
  rw [trim, trimStart_eq_self hhead, trimEnd, hreverse, List.reverse_reverse]

theorem head?_trimStart {text : List Char} {c : Char} (hhead : (trimStart text).head? = some c) :
    Unicode.isWhiteSpace c = false := by
  have hnot := List.head?_dropWhile_not Unicode.isWhiteSpace text
  unfold trimStart at hhead
  rw [hhead] at hnot
  exact hnot

theorem trim_trim (text : List Char) : trim (trim text) = trim text := by
  have hbegins : trim text <+: trimStart text := by
    rw [trim, trimEnd, ← List.reverse_suffix, List.reverse_reverse]
    exact List.dropWhile_suffix _
  apply trim_eq_self
  · intro c hc
    obtain ⟨rest, hrest⟩ := hbegins
    refine @head?_trimStart text c ?_
    rw [← hrest]
    cases htrim : trim text with
    | nil => rw [htrim] at hc; cases hc
    | cons d tail => rwa [htrim] at hc
  · intro c hc
    rw [trim, trimEnd, List.getLast?_reverse] at hc
    exact head?_trimStart hc

end FieldBridge.Text
