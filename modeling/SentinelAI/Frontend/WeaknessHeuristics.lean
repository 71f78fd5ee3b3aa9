import SentinelAI.Frontend.Playground

/-!
# Frontend — WeaknessHeuristics

`web/lib/weakness-heuristics.ts`, and when `ResultCard` shows what it says.  The coach looks for
words in the prompt in lower case, and not for what the proxy looks for.
-/

namespace SentinelAI
open Support

namespace Web

structure CoachTip where
  pattern : Str
  headline : Str
  detail : Str
  disclaimer : Str

def DISCLAIMER : Str := "Based on known attack pattern names, not a live proxy check."

structure PatternHint where
  name : Str
  keywords : List Str
  trigger : Str
  whyItWorks : Str

/-- One for each of `ATTACK_PATTERNS`. -/
def PATTERN_HINTS : List PatternHint :=
  [{ name := "ignore_instructions"
     keywords := ["ignore".toList, "instructions".toList, "disregard".toList]
     trigger := "\"ignore [all/previous] instructions\""
     whyItWorks := "Explicitly tells the model to discard its system prompt." },
   { name := "role_override"
     keywords := ["you are now".toList, "act as".toList, "pretend".toList, "persona".toList]
     trigger := "\"you are now...\", \"act as...\", \"pretend to be...\""
     whyItWorks :=
       "Redefines the assistant's role/persona to bypass its original instructions." },
   { name := "system_prompt_leak"
     keywords := ["system prompt".toList, "your instructions".toList, "your prompt".toList]
     trigger := "\"reveal your system prompt\", \"show me your instructions\""
     whyItWorks := "Directly asks the model to disclose its hidden configuration." },
   { name := "dan_jailbreak"
     keywords := ["dan".toList, "do anything now".toList]
     trigger := "\"DAN\", \"do anything now\""
     whyItWorks := "Invokes the well-known DAN jailbreak persona to remove restrictions." },
   { name := "policy_override"
     keywords := ["policy".toList, "guardrails".toList, "safety".toList,
       "approve this claim".toList, "approve the claim".toList]
     trigger := "\"ignore policy/guardrails/safety\", \"approve this claim\""
     whyItWorks :=
       "Targets fraud-domain policy checks specifically, trying to force an approval." },
   { name := "developer_mode"
     keywords := ["developer mode".toList, "jailbreak".toList]
     trigger := "\"developer mode\", \"jailbreak\""
     whyItWorks :=
       "Claims a special unrestricted mode exists to coax the model out of its guardrails." },
   { name := "encoded_payload"
     keywords := ["base64:".toList, "\\x".toList]
     trigger := "\"base64:\" prefix or \"\\xNN\" escapes"
     whyItWorks :=
       "Hides the real instruction in an encoded payload so plain-text scanners miss it." },
   { name := "prompt_extraction"
     keywords := ["repeat the above".toList, "repeat above".toList, "print your prompt".toList,
       "print the prompt".toList, "print your instructions".toList]
     trigger := "\"repeat the words above\", \"print your prompt/instructions\""
     whyItWorks :=
       "Asks the model to echo back hidden context instead of directly requesting it." },
   { name := "delimiter_escape"
     keywords := ["</system>".toList, "<system>".toList, "```system".toList,
       "end of prompt".toList]
     trigger := "\"</system>\", \"```system\", \"--- end of prompt\""
     whyItWorks :=
       "Fakes a delimiter/tag to trick the model into thinking the system block ended." },
   { name := "hidden_text_marker"
     keywords := ["[hidden]".toList, "invisible text".toList, "tiny text".toList]
     trigger := "\"[hidden]\", \"invisible text\", \"tiny text\""
     whyItWorks :=
       "References hidden/invisible text markers to smuggle instructions past a human reviewer." }]

variable (U : Ucd)

/-- One of the keywords is in the prompt, which is in lower case. -/
def PatternHint.hits (hint : PatternHint) (lower : Str) : Bool :=
  hint.keywords.any fun kw => U.lower kw <:+: lower

def PatternHint.tip (hint : PatternHint) : CoachTip where
  pattern := hint.name
  headline := "Closest miss: ".toList ++ hint.name
  detail := "Attacks in this family use phrasing like ".toList ++ hint.trigger ++ ". ".toList ++
    hint.whyItWorks ++
    " Your prompt used softer or partial phrasing the detector doesn't key on.".toList
  disclaimer := DISCLAIMER

def noCloseMatch : CoachTip where
  pattern := "none"
  headline := "No close match"
  detail := "This doesn't resemble any of our known attack families, and wasn't flagged. ".toList ++
    "It may be a genuinely novel attempt, or simply not adversarial.".toList
  disclaimer := DISCLAIMER

def explainWeakness (promptText : Str) : List CoachTip :=
  let lower := U.lower promptText
  let hits := PATTERN_HINTS.filter (·.hits U lower)
  if hits = [] then [noCloseMatch] else (hits.take 3).map PatternHint.tip

/-- The tips under the card, if the coach is shown. -/
def coachTips (panel : SubmitPanel) (card : Card) : Option (List CoachTip) :=
  match card with
  | .notBlocked _ => if panel.isOwnPrompt then some (explainWeakness U panel.promptText) else none
  | _ => none

end Web

end SentinelAI
