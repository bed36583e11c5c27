import StProxy.Lib.Json

/-!
# Thinking controls of a TabbyAPI chat

`adapt_chat_request` of `llm/tabbyapi.py` on the decoded body.  A body that it
leaves alone is its own translation.
-/

namespace StProxy.Tabby

open Json

variable (text : Text)

def budgetKeys : List String :=
  ["reasoning_budget_tokens", "reasoning_budget", "thinking_budget", "thinking_token_budget"]

def outputKeys : List String := ["max_tokens", "max_completion_tokens", "max_length"]

def effortDivisors : List (String × ℤ) := [("minimal", 10), ("low", 4), ("medium", 2)]

/-- The value of the first alias that is present, also of one that is null. -/
def firstPresent (payload : Fields) (keys : List String) : Json :=
  (keys.findSome? fun key ↦ payload.lookup key).getD .null

def integer : Json → Option ℤ
  | .bool b => some (if b then 1 else 0)
  | .int n => some n
  | .float x => if x.den = 1 then some x.num else none
  | .str s => text.int s
  | _ => none

def budgetFallsBack (value : Json) : Bool :=
  match value, integer text value with
  | .null, _ => true
  | _, some n => n < 0
  | _, none => false

/-- The two objects that hold nested controls: `reasoning` and the template. -/
structure Nested where
  reasoning : Fields
  template : Fields

/-- `none` where one of them is not an object. -/
def nested (payload : Fields) : Option Nested :=
  match Json.get payload "reasoning",
      firstPresent payload ["template_vars", "chat_template_kwargs"] with
  | .null, .null => some ⟨[], []⟩
  | .null, .obj template => some ⟨[], template⟩
  | .obj reasoning, .null => some ⟨reasoning, []⟩
  | .obj reasoning, .obj template => some ⟨reasoning, template⟩
  | _, _ => none

/-- A top-level value that is not null wins over `reasoning`, and the template
over both. -/
def precedence (inner : Json) (top : Json) (template : Option Json) : Json :=
  template.getD (match top with
    | .null => inner
    | value => value)

/-- The level of effort, `None` where it is not text. -/
def effort (payload : Fields) (objects : Nested) : Option String :=
  match precedence (Json.get objects.reasoning "effort") (Json.get payload "reasoning_effort")
      (objects.template.lookup "reasoning_effort") with
  | .str s => some (text.lower (text.strip s))
  | _ => none

def enabled (payload : Fields) (objects : Nested) : Json :=
  precedence (Json.get objects.reasoning "enabled") (Json.get payload "enable_thinking")
    (objects.template.lookup "enable_thinking")

/-- Whether the level of effort switches thinking off. -/
def disables (payload : Fields) (objects : Nested) : Bool :=
  (effort text payload objects == some "none" || effort text payload objects == some "off") &&
    (match enabled payload objects with
      | .null => true
      | _ => false) &&
    !Json.has objects.template "enable_thinking"

/-- `native_wins`. -/
def nativeWins (payload : Fields) (objects : Nested) : Bool :=
  !budgetFallsBack text (firstPresent payload budgetKeys) ||
    !budgetFallsBack text (Json.get objects.reasoning "max_tokens")

/-- The budget that a level of effort stands for. -/
def effortBudget (payload : Fields) (objects : Nested) : Option ℤ :=
  if !nativeWins text payload objects && !Json.has payload "thinking_budget_tokens" &&
      !budgetKeys.any (Json.has payload) && !Json.has objects.reasoning "max_tokens" &&
      !(match enabled payload objects with
        | .bool b => !b
        | _ => false) then
    match (effort text payload objects).bind fun level ↦ effortDivisors.lookup level,
        integer text (firstPresent payload outputKeys) with
    | some divisor, some limit => if 0 < limit then some (limit / divisor) else none
    | _, _ => none
  else none

/-- The assignment to `enable_thinking`. -/
def withSwitch (payload : Fields) (objects : Nested) : Fields :=
  if disables text payload objects then Json.set "enable_thinking" (.bool false) payload
  else payload

/-- The assignments to `reasoning_budget_tokens`. -/
def withBudget (objects : Nested) (asked payload : Fields) : Fields :=
  if !nativeWins text asked objects && Json.has asked "thinking_budget_tokens" then
    Json.set "reasoning_budget_tokens" (Json.get payload "thinking_budget_tokens")
      (Json.erase "thinking_budget_tokens" payload)
  else
    match effortBudget text asked objects with
    | some budget => Json.set "reasoning_budget_tokens" (.int budget) payload
    | none => payload

def adaptChatRequest (payload : Fields) : Fields :=
  match nested payload with
  | none => payload
  | some objects => withBudget text objects payload (withSwitch text payload objects)

end StProxy.Tabby
