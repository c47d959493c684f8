import FieldBridge.Unicode.Basic

/-!
# Identifiers

An identifier is a letter or underscore followed by letters, numerics and
underscores.
-/

namespace FieldBridge

def isIdentifier (text : List Char) : Bool :=
  match text with
  | [] => false
  | c :: rest => Unicode.startsWord c && rest.all Unicode.continuesWord

theorem continuesWord_of_isIdentifier {text : List Char} (hidentifier : isIdentifier text = true) :
    ∀ c ∈ text, Unicode.continuesWord c = true := by
  cases text with
  | nil => simp
  | cons c rest =>
    simp only [isIdentifier, Bool.and_eq_true, List.all_eq_true] at hidentifier
    intro d hmem
    rcases List.mem_cons.1 hmem with rfl | hrest
    · exact Unicode.continuesWord_of_startsWord hidentifier.1
    · exact hidentifier.2 d hrest

end FieldBridge
