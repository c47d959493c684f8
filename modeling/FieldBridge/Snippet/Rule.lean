import FieldBridge.Snippet.Terminal

/-!
# Rules

A rule lists the forms that a category can take, each a sequence of terminals and
categories.  The strength of a rule decides between it and another that goes on where
it ends, and its side decides when the strengths are equal.
-/

namespace FieldBridge.Snippet

/-- A terminal, or a category of a grammar. -/
inductive Symbol (κ : Type) where
  | terminal (terminal : Terminal)
  | category (category : κ)
deriving DecidableEq, Repr

abbrev Forms (κ : Type) := List (List (Symbol κ))

namespace Forms

variable {κ : Type}

def one (terminal : Terminal) : Forms κ :=
  [[.terminal terminal]]

def of (category : κ) : Forms κ :=
  [[.category category]]

def all : List (Forms κ) → Forms κ
  | [] => [[]]
  | first :: rest => first.flatMap fun form => (all rest).map (form ++ ·)

def any (forms : List (Forms κ)) : Forms κ :=
  forms.flatten

def opt (forms : Forms κ) : Forms κ :=
  forms ++ [[]]

/-- One or more items with separators between them, as the forms of `list`. -/
def listed (list : κ) (separator item : Forms κ) : Forms κ :=
  any [item, all [of list, separator, item]]

/-- One or more items, as the forms of `list`. -/
def repeated (list : κ) (item : Forms κ) : Forms κ :=
  any [item, all [of list, item]]

end Forms

/-- What happens to an operand between two equally strong rules. -/
inductive Side where
  | left
  | right
  | either
deriving DecidableEq, Repr

/-- The forms of a category that have the same strength. -/
structure Rule (κ : Type) where
  category : κ
  forms : Forms κ
  strength : Int
  side : Side

namespace Rule

variable {κ : Type}

def plain (category : κ) (forms : List (Forms κ)) : Rule κ :=
  ⟨category, Forms.any forms, 0, .either⟩

def ranked (strength : Int) (side : Side) (category : κ) (forms : List (Forms κ)) : Rule κ :=
  ⟨category, Forms.any forms, strength, side⟩

end Rule

/-- One form of a category. -/
structure Production (κ : Type) where
  category : κ
  body : Array (Symbol κ)
  strength : Int
  side : Side

def Rule.productions {κ : Type} (rule : Rule κ) : List (Production κ) :=
  rule.forms.map fun form => ⟨rule.category, form.toArray, rule.strength, rule.side⟩

end FieldBridge.Snippet
