import FieldBridge.Json.Quoted
import FieldBridge.Json.Value

/-!
# Writing JSON

Values are written with their members in order: on one line, or one item or member
to a line, indented by two blanks for each level.
-/

namespace FieldBridge.Json

def lineAt (level : Nat) : List Char :=
  '\n' :: List.replicate (2 * level) ' '

mutual

/-- A value over several lines, begun at a level of indentation. -/
def prettyText (level : Nat) : Json → List Char
  | null => ['n', 'u', 'l', 'l']
  | bool true => ['t', 'r', 'u', 'e']
  | bool false => ['f', 'a', 'l', 's', 'e']
  | integer value => (toString value).toList
  | float value => value.text.toList
  | string text => Quoted.encode text.toList
  | array [] => ['[', ']']
  | array (item :: items) =>
    '[' :: lineAt (level + 1) ++ prettyText (level + 1) item ++ prettyItems (level + 1) items ++
      lineAt level ++ [']']
  | object [] => ['{', '}']
  | object ((key, value) :: members) =>
    '{' :: lineAt (level + 1) ++ Quoted.encode key.toList ++ [':', ' '] ++
      prettyText (level + 1) value ++ prettyMembers (level + 1) members ++ lineAt level ++ ['}']

def prettyItems (level : Nat) : List Json → List Char
  | [] => []
  | item :: items => ',' :: lineAt level ++ prettyText level item ++ prettyItems level items

def prettyMembers (level : Nat) : List (String × Json) → List Char
  | [] => []
  | (key, value) :: members =>
    ',' :: lineAt level ++ Quoted.encode key.toList ++ [':', ' '] ++ prettyText level value ++
      prettyMembers level members

end

def pretty (value : Json) : String :=
  String.ofList (prettyText 0 value)

mutual

def compactText : Json → List Char
  | null => ['n', 'u', 'l', 'l']
  | bool true => ['t', 'r', 'u', 'e']
  | bool false => ['f', 'a', 'l', 's', 'e']
  | integer value => (toString value).toList
  | float value => value.text.toList
  | string text => Quoted.encode text.toList
  | array [] => ['[', ']']
  | array (item :: items) => '[' :: compactText item ++ compactItems items ++ [']']
  | object [] => ['{', '}']
  | object ((key, value) :: members) =>
    '{' :: Quoted.encode key.toList ++ ':' :: compactText value ++ compactMembers members ++ ['}']

def compactItems : List Json → List Char
  | [] => []
  | item :: items => ',' :: compactText item ++ compactItems items

def compactMembers : List (String × Json) → List Char
  | [] => []
  | (key, value) :: members =>
    ',' :: Quoted.encode key.toList ++ ':' :: compactText value ++ compactMembers members

end

def compact (value : Json) : String :=
  String.ofList (compactText value)

end FieldBridge.Json
