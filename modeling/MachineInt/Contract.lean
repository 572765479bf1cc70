import MachineInt.Numeral.Report
import MachineInt.Schema.Reading
import MachineInt.Word

/-!
# Contracts

What is published of words and of readings obeys two contracts, written as schemas. A word is a width of 8, 16 or 32
and a value in the signed range of that width. A reading has succeeded with a value and no error, or failed with an
error and no value.
-/

namespace MachineInt.Contract

def dialect : String := "https://json-schema.org/draft/2020-12/schema"

/-- The widths that there are words of. -/
def widths : List Json := [.int 8, .int 16, .int 32]

/-- The demand on the value where the width is `width`. -/
def rangeRule (width least greatest : Int) : Json :=
  .object [
    ("if", .object [("properties", .object [("width", .object [("const", .int width)])])]),
    ("then", .object [("properties", .object [("value", .object [
      ("minimum", .int least), ("maximum", .int greatest)])])])]

def rangeRules : List Json :=
  [rangeRule 8 (-128) 127, rangeRule 16 (-32768) 32767, rangeRule 32 (-2147483648) 2147483647]

def wordContract : Json :=
  .object [
    ("$schema", .string dialect),
    ("$id", .string "fixed_width_integer.json"),
    ("title", .string "FixedWidthInteger"),
    ("description", .string
      "Two's-complement integer of a fixed bit width; value is the signed view of the bit pattern."),
    ("type", .string "object"),
    ("additionalProperties", .bool false),
    ("required", .array [.string "width", .string "value"]),
    ("properties", .object [
      ("width", .object [("type", .string "integer"), ("enum", .array widths)]),
      ("value", .object [("type", .string "integer")])]),
    ("allOf", .array rangeRules)]

/-- The demand on the value of a reading, whether it has succeeded or not. -/
def valueRule : Json :=
  .object [
    ("type", .array [.string "integer", .string "null"]),
    ("minimum", .int (-2147483648)),
    ("maximum", .int 2147483647)]

/-- The errors of a reading; null stands for none. -/
def errors : List Json :=
  [.string "RADIX_OUT_OF_RANGE", .string "MALFORMED_INPUT", .string "NUMERIC_OVERFLOW", .string "INDEX_OUT_OF_RANGE",
    .null]

def reportContract : Json :=
  .object [
    ("$schema", .string dialect),
    ("$id", .string "parse_result.json"),
    ("title", .string "ParseResult"),
    ("description", .string
      "Outcome of parsing text into a fixed-width integer: a value or a typed error."),
    ("type", .string "object"),
    ("additionalProperties", .bool false),
    ("required", .array [.string "ok", .string "value", .string "error", .string "details"]),
    ("properties", .object [
      ("ok", .object [("type", .string "boolean")]),
      ("value", valueRule),
      ("error", .object [("enum", .array errors)]),
      ("details", .object [("type", .string "string")])]),
    ("if", .object [("properties", .object [("ok", .object [("const", .bool true)])])]),
    ("then", .object [("properties", .object [
      ("value", .object [("type", .string "integer")]),
      ("error", .object [("const", .null)])])]),
    ("else", .object [("properties", .object [
      ("value", .object [("const", .null)]),
      ("error", .object [("type", .string "string")])])])]

def wordContractName : String := "fixed_width_integer"

def reportContractName : String := "parse_result"

end MachineInt.Contract
