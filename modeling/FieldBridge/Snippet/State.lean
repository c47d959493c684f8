import FieldBridge.Snippet.Grammar

/-!
# States

Reading a text, one is in the middle of productions.  A state is the list of them, each
with the position in it and with the terminals that can follow it.  Productions that
have not been begun are not listed: they follow from the categories that come next.
A state tells which terminals are expected, whether one of them goes on with a
production or ends one, and which state comes after it.
-/

namespace FieldBridge.Snippet

namespace Grammar

def productions : Array (Production Category) :=
  (rules.flatMap Rule.productions).toArray

def categories : List Category :=
  (rules.map Rule.category).eraseDups

/-- One more than the place of the last category. -/
def width : Nat :=
  categories.foldl (fun count category => max count (category.ctorIdx + 1)) 0

/-- What becomes of a value that is improved until nothing changes, at most `count`
times. -/
def settled {α : Type} [DecidableEq α] (improve : α → α) : Nat → α → α
  | 0, value => value
  | count + 1, value =>
    let next := improve value
    if next = value then value else settled improve count next

/-- The terminals that a symbol can begin with, when those of the categories are
known. -/
def startsIn (table : Array Terminals) : Symbol Category → Terminals
  | .terminal terminal => .single terminal
  | .category category => table.getD category.ctorIdx 0

/-- The terminals that the categories can begin with, added to those that are known. -/
def moreStarts (table : Array Terminals) : Array Terminals :=
  productions.foldl
    (fun table production =>
      match production.body[0]? with
      | some symbol =>
        table.modify production.category.ctorIdx (Terminals.union (startsIn table symbol))
      | none => table)
    table

def startTable : Array Terminals :=
  settled moreStarts width (Array.replicate width 0)

def starts (symbol : Symbol Category) : Terminals :=
  startsIn startTable symbol

/-- How one category can begin another: the terminals that can follow it inside, and
whether it can reach up to the end. -/
structure Lead where
  follow : Terminals
  isWhole : Bool
deriving DecidableEq

/-- Two ways to begin a category, taken together. -/
def Lead.join (left right : Lead) : Lead :=
  ⟨left.follow.union right.follow, left.isWhole || right.isWhole⟩

/-- The categories that some category can begin with, added to those that are known. -/
def moreLeads (table : Array (Option Lead)) : Array (Option Lead) :=
  productions.foldl
    (fun table production =>
      match table.getD production.category.ctorIdx none, production.body.toList with
      | some lead, .category first :: others =>
        let added :=
          match others with
          | [] => lead
          | second :: _ => ⟨starts second, false⟩
        table.modify first.ctorIdx fun known => some ((known.map added.join).getD added)
      | _, _ => table)
    table

def leadsOf (category : Category) : Array (Option Lead) :=
  settled moreLeads (2 * width)
    ((Array.replicate width none).setIfInBounds category.ctorIdx (some ⟨0, true⟩))

def leadTable : Array (Array (Option Lead)) :=
  categories.foldl (fun table category => table.setIfInBounds category.ctorIdx (leadsOf category))
    (Array.replicate width #[])

/-- How a category can begin another, if it can. -/
def lead? (category first : Category) : Option Lead :=
  (leadTable.getD category.ctorIdx #[]).getD first.ctorIdx none

def symbolIndex : Symbol Category → Nat
  | .terminal terminal => terminal.ctorIdx
  | .category category => Terminal.finish.ctorIdx + 1 + category.ctorIdx

/-- The productions that begin with each symbol, by their places. -/
def beginningTable : Array (List Nat) :=
  (List.range productions.size).foldr
    (fun index table =>
      match productions[index]?.bind fun production => production.body[0]? with
      | some symbol => table.modify (symbolIndex symbol) (index :: ·)
      | none => table)
    (Array.replicate (Terminal.finish.ctorIdx + 1 + width) [])

def beginnings (symbol : Symbol Category) : List Nat :=
  beginningTable.getD (symbolIndex symbol) []

end Grammar

open Grammar

/-- A production that was begun: its place among the productions, the number of
symbols of it that were read, and the terminals that can follow it. -/
structure Item where
  production : Nat
  position : Nat
  follow : Terminals
deriving DecidableEq

namespace Item

/-- The symbol that comes next, unless the production is at its end. -/
def next? (item : Item) : Option (Symbol Category) :=
  productions[item.production]?.bind fun production => production.body[item.position]?

def expected (item : Item) : Terminals :=
  match item.next? with
  | some symbol => starts symbol
  | none => item.follow

def advanced (item : Item) : Item :=
  { item with position := item.position + 1 }

/-- What an item tells about the terminals that can follow a category that begins at its
position. -/
def followOf (category : Category) (item : Item) : Terminals :=
  match item.next? with
  | some (.category next) =>
    match lead? next category with
    | some lead => if lead.isWhole then lead.follow.union item.advanced.expected else lead.follow
    | none => 0
  | _ => 0

def strength (item : Item) : Int :=
  productions[item.production]?.elim 0 Production.strength

def side (item : Item) : Side :=
  productions[item.production]?.elim .either Production.side

end Item

abbrev State := List Item

namespace State

/-- The state before a text. -/
def opening : State :=
  (List.range productions.size).filterMap fun index =>
    if (productions[index]?.any fun production => production.category = .whole) then
      some ⟨index, 0, 0⟩
    else none

/-- The terminals that can follow a category that begins here.  There is none if it
cannot. -/
def followOf (state : State) (category : Category) : Terminals :=
  state.foldl (fun found item => found.union (item.followOf category)) 0

/-- The item of a production whose first symbol was read, if it can begin here. -/
def begun? (state : State) (index : Nat) : Option Item :=
  productions[index]?.bind fun production =>
    let follow := state.followOf production.category
    if follow = 0 then none else some ⟨index, 1, follow⟩

def after (state : State) (symbol : Symbol Category) : State :=
  (state.filter fun item => item.next? = some symbol).map Item.advanced ++
    (beginnings symbol).filterMap state.begun?

def expected (state : State) : Terminals :=
  state.foldl (fun found item => found.union item.expected) 0

/-- Whether nothing can come next, as the text is at its end. -/
def isFinal (state : State) : Bool :=
  state.expected = 0

def awaiting (state : State) (terminal : Terminal) : List Item :=
  state.filter fun item => item.next?.any fun symbol => (starts symbol).has terminal

def ended (state : State) (terminal : Terminal) : List Item :=
  let items := state.filter fun item => item.next?.isNone && item.follow.has terminal
  items.filter fun item => items.all fun other => other.strength ≤ item.strength

def isStronger (items others : List Item) : Bool :=
  items.any fun item => others.any fun other => item.strength > other.strength

/-- Whether one kind of items wins over the other kind, given which kinds have a stronger
one.  When neither has, the items that end decide by their side. -/
def wins (isAbove isBelow : Bool) (side : Side) (ended : List Item) : Bool :=
  if isAbove = isBelow then !isAbove && ended.all fun item => item.side = side else isAbove

/-- Whether the items that a terminal goes on with win over those that end before it. -/
def goesOnFirst (awaiting ended : List Item) : Bool :=
  wins (isStronger awaiting ended) (isStronger ended awaiting) .right ended

/-- Whether the items that end before a terminal win over those that it goes on with. -/
def endsFirst (awaiting ended : List Item) : Bool :=
  wins (isStronger ended awaiting) (isStronger awaiting ended) .left ended

def reductions (state : State) (terminal : Terminal) : List (Production Category) :=
  let awaiting := state.awaiting terminal
  let ended := state.ended terminal
  if !awaiting.isEmpty && goesOnFirst awaiting ended then []
  else ended.filterMap fun item => productions[item.production]?

def goesOn (state : State) (terminal : Terminal) : Bool :=
  let awaiting := state.awaiting terminal
  let ended := state.ended terminal
  !awaiting.isEmpty && (ended.isEmpty || !endsFirst awaiting ended)

end State

end FieldBridge.Snippet
