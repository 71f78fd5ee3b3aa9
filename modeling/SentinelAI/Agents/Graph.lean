import SentinelAI.Proxy.Schemas

/-!
# Agents — Graph

`agents/graph.py` with the functions of its four nodes (`agents/extractor.py`,
`agents/policy_checker.py`, `agents/report_writer.py`), the client of the proxy, and the two
callers that never raise: `frontend/lib/pipeline_client.py` and `agents/api.py`.

The proxy answers a call with any status and any JSON body, or is unreachable.  A body that does not
have the shape a node reads makes the node raise, and no node catches that.
-/

namespace SentinelAI
open Support

/-- What `call_proxy` posts. -/
structure ProxyCall where
  sessionId : Str
  operation : Operation
  messages : List Message
  schemaName : Option Str := none
  groundingContext : Option Str := none

/-- What `call_proxy` returns, or the message of `ProxyCallFailed`. -/
inductive ProxyReply where
  | unreachable (message : Str)
  | answered (statusCode : Int) (body : Json)

/-- What the pipeline is given by its surroundings. -/
structure AgentsEnv where
  proxy : ProxyCall → ProxyReply
  /-- The lines that RapidOCR reads in an image, or the text of what it raises. -/
  rapidOcr : Str → Except Str (List Str)
  /-- `analyze(image_path).model_dump()`, or the text of what it raises. -/
  analyze : Str → Except Str Json
  /-- `json.dumps` -/
  dumps : Json → Str
  /-- `yaml.dump(load_policy())` -/
  policyYaml : Str
  /-- `str(exc)` -/
  strError : PyError → Str

/-- An entry of `errors`. -/
structure NodeError where
  node : Str
  code : Json
  message : Json

def NodeError.toJson (e : NodeError) : Json :=
  .obj [("node", .str e.node), ("code", e.code), ("message", e.message)]

/-- A field that no node has set is null. -/
structure FraudCaseState where
  sessionId : Str
  imagePath : Str
  ocrText : Json := .null
  extractedFields : Json := .null
  extractionGuardrails : Json := .null
  forensicsResult : Json := .null
  policyVerdict : Json := .null
  policyGuardrails : Json := .null
  reportText : Json := .null
  reportGuardrails : Json := .null
  errors : List NodeError := []

/-- `_append_error`, where there is an error. -/
def FraudCaseState.appendError (s : FraudCaseState) : Option NodeError → List NodeError
  | none => s.errors
  | some e => s.errors ++ [e]

/-- What the function of a node returns: its result, the guardrails and the error. -/
abbrev NodeResult := Except PyError (Json × Json × Option NodeError)

/-- How a node reads the body of an answer that is not 200. -/
def refusedResult (node failed : Str) (body : Json) : NodeResult := do
  let error := (← body.getOr "error" .null).or
    (.obj [("code", .str "unknown"), ("message", .str failed)])
  let guardrails ← body.getOr "guardrails" .null
  let code ← error.item "code"
  let message ← error.item "message"
  return (.null, guardrails, some ⟨node, code, message⟩)

/-- How a node reads the body of an answer of 200. -/
def outputResult (body : Json) : NodeResult := do
  let output ← body.item "output"
  let guardrails ← body.item "guardrails"
  return (output, guardrails, none)

/-- How a node reads a reply: the part that `extract_fields`, `check_policy` and `write_report`
share. -/
def proxyResult (node failed : Str) : ProxyReply → NodeResult
  | .unreachable message =>
      .ok (.null, .null, some ⟨node, .str "proxy_unreachable", .str message⟩)
  | .answered statusCode body =>
      if statusCode ≠ 200 then refusedResult node failed body else outputResult body

variable (env : AgentsEnv)

/-! ### The extractor -/

/-- `run_ocr`: the text of the image, or the message of `OcrError`. -/
def runOcr (imagePath : Str) : Except Str Str :=
  match env.rapidOcr imagePath with
  | .error exc => .error ("OCR failed for ".toList ++ imagePath ++ ": ".toList ++ exc)
  | .ok [] => .error ("OCR produced no text for ".toList ++ imagePath)
  | .ok lines => .ok (join "\n" lines)

def EXTRACTOR_SYSTEM_PROMPT : Str :=
  "Extract vendor, date, line_items, and total from the receipt text below. ".toList ++
    "Respond with JSON matching this shape exactly: \x7b\"vendor\": str|null, ".toList ++
    "\"date\": str|null, \"line_items\": [str], \"total\": float|null\x7d.".toList

def extractCall (sessionId ocrText : Str) : ProxyCall where
  sessionId
  operation := .extract
  messages := [⟨.system, EXTRACTOR_SYSTEM_PROMPT⟩, ⟨.user, ocrText⟩]
  schemaName := some "receipt_fields"

def extractFields (sessionId ocrText : Str) : NodeResult :=
  proxyResult "extractor" "extract call failed" (env.proxy (extractCall sessionId ocrText))

def extractorNode (s : FraudCaseState) : Except PyError FraudCaseState :=
  match runOcr env s.imagePath with
  | .error message =>
      .ok { s with
        ocrText := .null
        extractedFields := .null
        extractionGuardrails := .null
        errors := s.errors ++ [⟨"extractor", .str "ocr_failed", .str message⟩] }
  | .ok ocrText => do
      let (fields, guardrails, error) ← extractFields env s.sessionId ocrText
      return { s with
        ocrText := .str ocrText
        extractedFields := fields
        extractionGuardrails := guardrails
        errors := s.appendError error }

/-! ### Forensics -/

def forensicsNode (s : FraudCaseState) : FraudCaseState :=
  match env.analyze s.imagePath with
  | .ok result => { s with forensicsResult := result }
  | .error message =>
      { s with
        forensicsResult := .null
        errors := s.errors ++ [⟨"forensics", .str "forensics_failed", .str message⟩] }

/-! ### The policy checker -/

/-- `POLICY_SYSTEM_PROMPT_TEMPLATE.format(policy_yaml=…)` -/
def policySystemPrompt : Str :=
  "Check the extracted receipt fields against this expense policy (YAML):\n\n".toList ++
    env.policyYaml ++ "\n\nRespond with JSON matching this shape exactly: ".toList ++
    "\x7b\"triggered_rules\": [str], \"compliant\": bool\x7d.".toList

def dateMissing : Str := "date is missing; receipt age cannot be verified against the policy."

/-- The call of `check_policy` on fields that have a date, or have none. -/
def policyCall (sessionId : Str) (fields : Json) (dated : Bool) : ProxyCall where
  sessionId
  operation := .policy_check
  messages := [⟨.system, policySystemPrompt env⟩,
    ⟨.user, env.dumps fields ++ if dated then [] else '\n' :: dateMissing⟩]
  schemaName := some "policy_verdict"

/-- The verdict on a receipt of which nothing was extracted. -/
def extractionFailed : Json :=
  .obj [("triggered_rules", .strs ["extraction_failed"]), ("compliant", .bool false)]

def checkPolicy (sessionId : Str) (extractedFields : Json) : NodeResult :=
  if extractedFields.isNull then .ok (extractionFailed, .null, none)
  else do
    let date ← extractedFields.getOr "date" .null
    proxyResult "policy_checker" "policy check failed"
      (env.proxy (policyCall env sessionId extractedFields !date.isNull))

def policyCheckerNode (s : FraudCaseState) : Except PyError FraudCaseState := do
  let (verdict, guardrails, error) ← checkPolicy env s.sessionId s.extractedFields
  return { s with
    policyVerdict := verdict
    policyGuardrails := guardrails
    errors := s.appendError error }

/-! ### The report writer -/

def REPORT_SYSTEM_PROMPT : Str :=
  "You are an audit report writer. Write a short, human-readable summary of the ".toList ++
    "expense claim using only the evidence provided below. ".toList ++
    "Do not state anything not present in the evidence.".toList

def buildEvidenceBundle (extractedFields forensicsResult policyVerdict : Json) : Str :=
  env.dumps (.obj [("extracted_fields", extractedFields), ("forensics_result", forensicsResult),
    ("policy_verdict", policyVerdict)])

def reportCall (sessionId evidenceBundle : Str) : ProxyCall where
  sessionId
  operation := .report
  messages := [⟨.system, REPORT_SYSTEM_PROMPT⟩,
    ⟨.user, "Evidence:\n".toList ++ evidenceBundle ++
      "\n\nWrite the audit report using only the evidence above.".toList⟩]
  groundingContext := some evidenceBundle

def writeReport (sessionId : Str) (extractedFields forensicsResult policyVerdict : Json) :
    NodeResult :=
  proxyResult "report_writer" "report call failed" (env.proxy (reportCall sessionId
    (buildEvidenceBundle env extractedFields forensicsResult policyVerdict)))

def reportWriterNode (s : FraudCaseState) : Except PyError FraudCaseState := do
  let (reportText, guardrails, error) ←
    writeReport env s.sessionId s.extractedFields s.forensicsResult s.policyVerdict
  return { s with
    reportText
    reportGuardrails := guardrails
    errors := s.appendError error }

/-! ### The graph -/

/-- The run of the graph up to its third node. -/
def policyChecked (s : FraudCaseState) : Except PyError FraudCaseState := do
  let s ← extractorNode env s
  policyCheckerNode env (forensicsNode env s)

/-- `graph.invoke` -/
def invoke (s : FraudCaseState) : Except PyError FraudCaseState := do
  let s ← policyChecked env s
  reportWriterNode env s

/-- The state a run starts with. -/
def FraudCaseState.start (sessionId imagePath : Str) : FraudCaseState := { sessionId, imagePath }

/-- The state that stands for a run that raised. -/
def pipelineFailed (sessionId imagePath : Str) (exc : PyError) : FraudCaseState where
  sessionId
  imagePath
  errors := [⟨"pipeline", .str "pipeline_failed", .str (env.strError exc)⟩]

/-- `run_on_receipt` -/
def runOnReceipt (sessionId imagePath : Str) : FraudCaseState :=
  match invoke env (.start sessionId imagePath) with
  | .ok s => s
  | .error exc => pipelineFailed env sessionId imagePath exc

/-- What `POST /v1/analyze-receipt` answers for an image. -/
def analyzeReceipt (sessionId imagePath : Str) : Json :=
  let state := runOnReceipt env sessionId imagePath
  .obj [("extracted_fields", state.extractedFields),
    ("extraction_guardrails", state.extractionGuardrails),
    ("forensics_result", state.forensicsResult), ("policy_verdict", state.policyVerdict),
    ("report_text", state.reportText), ("report_guardrails", state.reportGuardrails),
    ("errors", .arr (state.errors.map (·.toJson)))]

end SentinelAI
