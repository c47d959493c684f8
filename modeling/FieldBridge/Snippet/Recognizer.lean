import FieldBridge.Snippet.Scan
import FieldBridge.Snippet.State
import FieldBridge.Text

/-!
# The recognizer

A text is read once.  Where the grammar leaves several ways open, all are followed, as
stacks that share what they have in common.  A stack holds a state for each symbol
that was read and not yet made part of a category.  Two stacks that are in the same state
at the same place are one stack with several below.
-/

namespace FieldBridge.Snippet

open Grammar

/-- A stack.  Its number tells it from all others. -/
inductive Stack where
  | node (number : Nat) (state : State) (lower : List Stack)

namespace Stack

def number : Stack → Nat
  | node number _ _ => number

def state : Stack → State
  | node _ state _ => state

def lower : Stack → List Stack
  | node _ _ lower => lower

/-- The stacks that are `count` symbols down. -/
def down : Nat → Stack → List Stack
  | 0, stack => [stack]
  | count + 1, stack => stack.lower.flatMap (down count)

end Stack

/-- A state with one of the stacks that are below it. -/
structure Edge where
  state : State
  base : Stack

namespace Edge

def isSame (left right : Edge) : Bool :=
  left.base.number = right.base.number && left.state = right.state

def reduced (terminal : Terminal) (edge : Edge) : List Edge :=
  (edge.state.reductions terminal).flatMap fun production =>
    (edge.base.down (production.body.size - 1)).map fun base =>
      ⟨base.state.after (.category production.category), base⟩

/-- An edge added to others, unless it is among them or was `found`. -/
def fresh (found added : List Edge) (edge : Edge) : List Edge :=
  if added.any edge.isSame || found.any edge.isSame then added else edge :: added

/-- The edges that are reached before a terminal, added to those that were `found`.  At
most `count` edges are looked at. -/
def reached (terminal : Terminal) : Nat → List Edge → List Edge → List Edge
  | 0, _, found => found
  | _, [], found => found
  | count + 1, edge :: waiting, found =>
    let added := (edge.reduced terminal).foldl (fresh found) []
    reached terminal count (added ++ waiting) (added ++ found)

def gathered (edges : List Edge) : List (State × List Stack) :=
  edges.foldr
    (fun edge groups =>
      match groups.lookup edge.state with
      | some _ =>
        groups.map fun group =>
          if group.1 = edge.state then (group.1, edge.base :: group.2) else group
      | none => (edge.state, [edge.base]) :: groups)
    []

end Edge

/-- A way to read a text up to some place: the characters taken, the text after them, and
the state with the stacks below it. -/
structure Reading where
  taken : Nat
  rest : List Char
  state : State
  lower : List Stack

namespace Reading

def edges (reading : Reading) : List Edge :=
  reading.lower.map fun base => ⟨reading.state, base⟩

/-- A reading added to others, as one with that in the same state at the same place. -/
def added (reading : Reading) : List Reading → List Reading
  | [] => [reading]
  | other :: others =>
    if other.taken = reading.taken && other.state = reading.state then
      { other with lower := reading.lower ++ other.lower } :: others
    else other :: added reading others

/-- The terminals that readings come upon, each with the edges that it is read from. -/
def scanned (readings : List Reading) : List (Scanned × List Edge) :=
  readings.foldl
    (fun groups reading =>
      match scan reading.state.expected reading.taken reading.rest with
      | none => groups
      | some next =>
        let isSame := fun group : Scanned × List Edge =>
          group.1.terminal = next.terminal && group.1.taken = next.taken
        if groups.any isSame then
          groups.map fun group =>
            if isSame group then (group.1, reading.edges ++ group.2) else group
        else (next, reading.edges) :: groups)
    []

end Reading

/-- The readings of a text that are left to go on with, and the number of the next
stack. -/
structure Progress where
  readings : List Reading
  number : Nat

namespace Progress

/-- The progress with a stack more, and with the reading of a terminal from it. -/
def shifted (next : Scanned) (progress : Progress) (group : State × List Stack) : Progress :=
  let stack := Stack.node progress.number group.1 group.2
  let reading : Reading :=
    ⟨next.taken, next.rest, group.1.after (.terminal next.terminal), [stack]⟩
  ⟨reading.added progress.readings, progress.number + 1⟩

def read (progress : Progress) (next : Scanned × List Edge) : Progress :=
  let limit := next.2.length + (progress.number + 1) * width
  let edges := Edge.reached next.1.terminal limit next.2 next.2
  let going := edges.filter fun edge => edge.state.goesOn next.1.terminal
  (Edge.gathered going).foldl (shifted next.1) progress

/-- Whether a reading comes to the end of a text.  At most `count` places are looked
at. -/
def reachesEnd : Nat → Progress → Bool
  | 0, _ => false
  | count + 1, progress =>
    match (progress.readings.map Reading.taken).min? with
    | none => false
    | some place =>
      let (here, later) := progress.readings.partition fun reading => reading.taken = place
      let next := (Reading.scanned here).foldl read { progress with readings := later }
      next.readings.any (fun reading => reading.state.isFinal) || reachesEnd count next

end Progress

def afterMark : List Char → List Char
  | '\ufeff' :: text => text
  | text => text

def Progress.start (text : List Char) : Progress :=
  ⟨[⟨0, text, .opening, [.node 0 [] []]⟩], 1⟩

/-- Whether a text is well-formed code.  White space alone is not. -/
def isWellFormed (text : List Char) : Bool :=
  !Text.isBlank text &&
    (Progress.start (afterMark text)).reachesEnd (2 * text.length + 3)

/-- The check of code that the program uses. -/
def accepts (code : String) : Bool :=
  isWellFormed code.toList

end FieldBridge.Snippet
