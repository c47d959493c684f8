import FieldBridge.Number.Binary64

/-!
# Elapsed time

A time is shown in the largest unit of which there is at least one, up to seconds.
-/

namespace FieldBridge.Command

def fixedText (places numerator denominator : Nat) : String :=
  let scaled := Binary64.roundQuotient (numerator * Nat.pow 10 places) denominator
  let digits := Nat.toDigits 10 (scaled % Nat.pow 10 places)
  toString (scaled / Nat.pow 10 places) ++ "." ++
    String.ofList (List.replicate (places - digits.length) '0' ++ digits)

def elapsedText (nanoseconds : Nat) : String :=
  let micros := nanoseconds / 1000
  if micros < 1000 then toString micros ++ "μs"
  else if micros < 1000000 then fixedText 1 micros 1000 ++ "ms"
  else fixedText 2 nanoseconds 1000000000 ++ "s"

end FieldBridge.Command
