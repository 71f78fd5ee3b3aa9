import SentinelAI.Proxy.Schemas

/-!
# Proxy — SchemaValidator

`SCHEMA_REGISTRY` and `proxy/middleware/schema_validator.py`.  What a model makes of a text,
`model_validate_json` followed by `model_dump`, is a parameter.
-/

namespace SentinelAI
open Support

/-- The models of `SCHEMA_REGISTRY`. -/
inductive SchemaModel where
  | ReceiptFields
  | PolicyVerdict
deriving DecidableEq, Repr

def SCHEMA_REGISTRY : List (Str × SchemaModel) :=
  [("receipt_fields", .ReceiptFields), ("policy_verdict", .PolicyVerdict)]

/-- What `validate_structured_output` raises. -/
inductive SchemaError where
  | KeyError
  | SchemaValidationFailed

/-- The value and whether the getter was called twice.  `rawOutputGetter i` is the text that call
`i` of the getter returns. -/
def validateStructuredOutput (modelValidateJson : SchemaModel → Str → Option Json)
    (schemaName : Str) (rawOutputGetter : Nat → Str) : Except SchemaError (Json × Bool) :=
  match SCHEMA_REGISTRY.lookup schemaName with
  | none => .error .KeyError
  | some model =>
      match modelValidateJson model (rawOutputGetter 0) with
      | some value => .ok (value, false)
      | none =>
          match modelValidateJson model (rawOutputGetter 1) with
          | some value => .ok (value, true)
          | none => .error .SchemaValidationFailed

/-- The lookup is the only way to a `KeyError`. -/
theorem validateStructuredOutput_eq_keyError {modelValidateJson : SchemaModel → Str → Option Json}
    {schemaName : Str} {rawOutputGetter : Nat → Str} :
    validateStructuredOutput modelValidateJson schemaName rawOutputGetter = .error .KeyError ↔
      SCHEMA_REGISTRY.lookup schemaName = none := by
  unfold validateStructuredOutput
  cases SCHEMA_REGISTRY.lookup schemaName with
  | none => simp
  | some model =>
      dsimp only
      split
      · simp
      · split <;> simp

end SentinelAI
