import SignedAdmission.Error

/-! Policy rules: which images a rule is for, and which validator checks them how. -/
namespace SignedAdmission

structure Rule where
  pattern : String
  validator : Option String
  /-- Handed to the validator as they are. -/
  arguments : Json.Fields

namespace Rule

def defaultValidator : String := "default"

def validatorName (rule : Rule) : String :=
  rule.validator.getD defaultValidator

open Json in
def decode (value : Json) : Except ShapeError Rule := do
  let pattern : RecordField String := { name := "pattern", decode := Decoder.string }
  let validator : RecordField (Option String) :=
    { name := "validator", decode := Decoder.optional Decoder.string, absence := .anywhere none }
  let arguments : RecordField Fields :=
    { name := "with", decode := Decoder.fields, absence := .anywhere [] }
  let slots ← Record.slots "PolicyRule" [pattern.rule, validator.rule, arguments.rule] value
  return {
    pattern := ← pattern.get slots
    validator := ← validator.get slots
    arguments := ← arguments.get slots }

/-- The form that `decode` reads, without what is left at its default. -/
def toJson (rule : Rule) : Json :=
  .ofFields [
    ("pattern", some (.string rule.pattern)),
    ("validator", rule.validator.map .string),
    ("with", if rule.arguments.isEmpty then none else some (.object rule.arguments))]

/-- The pattern with any tag allowed if it names none. -/
def glob (rule : Rule) : List Char :=
  let cs := rule.pattern.toList
  if cs.contains ':' then cs else cs ++ [':', '*']

end Rule

end SignedAdmission
