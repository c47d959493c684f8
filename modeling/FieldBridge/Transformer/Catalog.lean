import FieldBridge.Identity
import FieldBridge.Transformer.Basic

/-!
# Transformer templates

The templates that transformers can be made from.
-/

namespace FieldBridge.Transformer

/-- A ready-made transformer without an id of its own. -/
structure Template where
  id : String
  name : String
  description : String
  inputType : String
  outputType : String
  code : String
deriving DecidableEq, Repr

namespace Template

/-- A transformer made from a template, under the next id. -/
def instantiate (check : String → Bool) (template : Template) (supply : IdSupply) :
    Transformer × IdSupply :=
  let minted := supply.next "transformer"
  (create check minted.1 template.name template.inputType template.outputType template.code,
    minted.2)

end Template

def catalog : List Template := [
  { id := "string_to_int"
    name := "String to Int"
    description := "Convert string to integer with error handling"
    inputType := "string"
    outputType := "int"
    code := "func stringToInt(s string) (int, error) \x7b\n\treturn strconv.Atoi(s)\n\x7d" },
  { id := "timestamp_to_time"
    name := "Timestamp to Time"
    description := "Convert Unix timestamp to time.Time"
    inputType := "int64"
    outputType := "time.Time"
    code := "func timestampToTime(ts int64) time.Time \x7b\n\treturn time.Unix(ts, 0)\n\x7d" },
  { id := "slice_filter"
    name := "Filter Slice"
    description := "Filter slice based on condition"
    inputType := "[]T"
    outputType := "[]T"
    code :=
      "func filterSlice[T any](slice []T, predicate func(T) bool) []T \x7b\n" ++
      "\tresult := make([]T, 0, len(slice))\n" ++
      "\tfor _, item := range slice \x7b\n" ++
      "\t\tif predicate(item) \x7b\n" ++
      "\t\t\tresult = append(result, item)\n" ++
      "\t\t\x7d\n" ++
      "\t\x7d\n" ++
      "\treturn result\n" ++
      "\x7d" },
  { id := "map_transform"
    name := "Map Transform"
    description := "Transform slice elements"
    inputType := "[]T"
    outputType := "[]U"
    code :=
      "func mapTransform[T, U any](slice []T, transform func(T) U) []U \x7b\n" ++
      "\tresult := make([]U, len(slice))\n" ++
      "\tfor i, item := range slice \x7b\n" ++
      "\t\tresult[i] = transform(item)\n" ++
      "\t\x7d\n" ++
      "\treturn result\n" ++
      "\x7d" },
  { id := "nil_check"
    name := "Nil Check"
    description := "Safe nil check with default value"
    inputType := "*T"
    outputType := "T"
    code :=
      "func nilCheck[T any](ptr *T, defaultValue T) T \x7b\n" ++
      "\tif ptr != nil \x7b\n" ++
      "\t\treturn *ptr\n" ++
      "\t\x7d\n" ++
      "\treturn defaultValue\n" ++
      "\x7d" }]

def template? (id : String) : Option Template :=
  catalog.find? (·.id = id)

end FieldBridge.Transformer
