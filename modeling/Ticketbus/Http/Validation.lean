import Mathlib.Data.List.Basic

/-! Validation of a decoded body by the tags of its fields: of each field the first tag that
fails is reported, and the reports of all fields are the message. -/
namespace Ticketbus.Http

structure FieldChecks where
  name : String
  /-- The tags in their order, with whether the value passes. -/
  tags : List (String × Bool)
  deriving DecidableEq, Repr

/-- The tag `required` on a text. -/
def required (text : String) : String × Bool := ("required",text ≠ "")

namespace FieldChecks

def report (struct : String) (field : FieldChecks) : Option String :=
  (field.tags.find? fun tag => !tag.2).map fun tag =>
    "Key: '" ++ struct ++ "." ++ field.name ++ "' Error:Field validation for '" ++ field.name ++ "' failed on the '" ++
      tag.1 ++ "' tag"

end FieldChecks

def validate (struct : String) (fields : List FieldChecks) : Option String :=
  match fields.filterMap (FieldChecks.report struct) with
  | [] => none
  | reports => some ("\n".intercalate reports)

theorem validate_eq_none {struct : String} {fields : List FieldChecks} :
    validate struct fields = none ↔ ∀ field ∈ fields, ∀ tag ∈ field.tags, tag.2 = true := by
  have silent : validate struct fields = none ↔ fields.filterMap (FieldChecks.report struct) = [] := by
    unfold validate
    split <;> simp_all
  rw [silent,List.filterMap_eq_nil_iff]
  simp [FieldChecks.report]

end Ticketbus.Http
