/-!
# Identities

Structs and transformers are told apart by ids.  A supply mints them: the text of
an id is the kind of thing it is for, an underscore and a label, and every id takes
the next label.
-/

namespace FieldBridge

/-- A supply of ids: the labels to use in turn, and how many were used. -/
structure IdSupply where
  label : Nat → String
  used : Nat := 0

namespace IdSupply

/-- The supply whose labels are the numbers from one on, counted in 64 bits. -/
def sequential : IdSupply where
  label n := toString (UInt64.ofNat (n + 1))

/-- The digits of a number in base sixteen, the last `count` of them. -/
def hexDigits : Nat → Nat → List Char
  | 0, _ => []
  | count + 1, n => hexDigits count (n / 16) ++ [Nat.digitChar (n % 16)]

/-- The text of a random UUID with given random bits.  Two of its bits and one of its
digits are fixed. -/
def uuidText (bits : Nat) : String :=
  let digits := hexDigits 30 (bits / 4)
  String.ofList (digits.take 12 ++ '4' :: (digits.drop 12).take 3 ++
    Nat.digitChar (8 + bits % 4) :: digits.drop 15)

/-- The supply whose labels are UUIDs, from a random one on. -/
def random (bits : Nat) : IdSupply where
  label n := uuidText (bits + n)

/-- The next id for a kind of thing, and the supply after it. -/
def next (supply : IdSupply) (kind : String) : String × IdSupply :=
  (kind ++ "_" ++ supply.label supply.used, { supply with used := supply.used + 1 })

@[simp] theorem next_used (supply : IdSupply) (kind : String) :
    (supply.next kind).2.used = supply.used + 1 := rfl

@[simp] theorem next_label (supply : IdSupply) (kind : String) :
    (supply.next kind).2.label = supply.label := rfl

end IdSupply

end FieldBridge
