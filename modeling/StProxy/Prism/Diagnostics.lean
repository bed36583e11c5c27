import Mathlib.Algebra.Group.Int.Defs
import Mathlib.Data.List.DropRight
import StProxy.Lib.Json

/-!
# Observing the responses of Prism

`llm/prism_diagnostics.py`.  `json.loads` on bytes is a parameter, `none` where it
raises.  An unavailable value is `none`.
-/

namespace StProxy.Prism

open Json

abbrev Bytes : Type := List UInt8

def maxEventBytes : ℕ := 1024 * 1024

/-- ASCII text. -/
def ascii (text : String) : Bytes := text.toList.map fun c ↦ UInt8.ofNat c.toNat

/-- `_count`. -/
def count : Json → Option ℤ
  | .int n => if 0 ≤ n ∧ n ≤ 2 ^ 63 - 1 then some n else none
  | _ => none

/-- The entries of `usage`. -/
structure Usage where
  promptTokens : Option ℤ
  completionTokens : Option ℤ
  cachedTokens : Option ℤ
  reasoningTokens : Option ℤ
  deriving DecidableEq, Repr

structure PrismDiagnostics where
  maxTokens : Option ℤ
  effort : Option String
  enabled : Option Bool
  status : Option ℕ
  sse : Bool
  valid : Bool
  done : Bool
  buffer : Bytes
  data : List Bytes
  dataSize : ℕ
  reasoningChars : ℕ
  finishReasons : List String
  usage : Option Usage
  deriving DecidableEq, Repr

namespace PrismDiagnostics

def efforts : List String := ["none", "minimal", "low", "medium", "high", "xhigh", "unset"]

/-- `__init__` on the decoded body, which is an object. -/
def init (payload : Fields) : PrismDiagnostics where
  maxTokens := count (Json.get payload "max_tokens")
  effort := match Json.get payload "reasoning_effort" with
    | .str effort => if effort ∈ efforts then some effort else none
    | _ => none
  enabled := match Json.get payload "chat_template_kwargs" with
    | .obj kwargs => match Json.get kwargs "enable_thinking" with
      | .bool enabled => some enabled
      | _ => none
    | _ => none
  status := none
  sse := false
  valid := true
  done := false
  buffer := []
  data := []
  dataSize := 0
  reasoningChars := 0
  finishReasons := []
  usage := none

def start (status : ℕ) (contentType : String) (s : PrismDiagnostics) : PrismDiagnostics :=
  { s with
    status := some status
    sse := contentType == "text/event-stream"
    valid := status == 200 && ["text/event-stream", "application/json"].contains contentType }

/-- `_invalidate`. -/
def invalidate (s : PrismDiagnostics) : PrismDiagnostics :=
  { s with valid := false, buffer := [], data := [], dataSize := 0 }

/-! ## `_event` -/

def knownFinishReasons : List String :=
  ["stop", "length", "tool_calls", "function_call", "content_filter"]

/-- `self.finish_reasons.add(..)`. -/
def addReason (s : PrismDiagnostics) (reason : Json) : PrismDiagnostics :=
  let name := match reason with
    | .str reason => if reason ∈ knownFinishReasons then reason else "other"
    | _ => "other"
  if name ∈ s.finishReasons then s else { s with finishReasons := s.finishReasons ++ [name] }

/-- The body of the loop over the choices; an error carries what was changed before. -/
def onChoice (s : PrismDiagnostics) (choice : Json) :
    Except PrismDiagnostics PrismDiagnostics :=
  match choice with
  | .obj choice =>
      let s := match Json.get choice "finish_reason" with
        | .null => s
        | reason => s.addReason reason
      match (choice.lookup (if s.sse then "delta" else "message")).getD (.obj []) with
      | .obj message =>
          match Json.get message "reasoning_content" with
          | .str thinking => .ok { s with reasoningChars := s.reasoningChars + thinking.length }
          | _ => .ok s
      | _ => .error s
  | _ => .error s

def onChoices (s : PrismDiagnostics) : List Json → Except PrismDiagnostics PrismDiagnostics
  | [] => .ok s
  | choice :: choices => (s.onChoice choice).bind fun s ↦ s.onChoices choices

/-- `details.get(key) if isinstance(details, dict) else None`, counted. -/
def detail (details : Json) (key : String) : Option ℤ :=
  match details with
  | .obj details => count (Json.get details key)
  | _ => none

def onUsage (s : PrismDiagnostics) (usage : Json) : PrismDiagnostics :=
  match usage with
  | .obj usage => { s with usage := some {
      promptTokens := count (Json.get usage "prompt_tokens")
      completionTokens := count (Json.get usage "completion_tokens")
      cachedTokens := detail (Json.get usage "prompt_tokens_details") "cached_tokens"
      reasoningTokens := detail (Json.get usage "completion_tokens_details") "reasoning_tokens" } }
  | _ => s

/-- The body of the `try` statement. -/
def readEvent (s : PrismDiagnostics) : Json → Except PrismDiagnostics PrismDiagnostics
  | .obj event =>
      if Json.has event "error" then .error s
      else match (event.lookup "choices").getD (.arr []) with
        | .arr choices => (s.onChoices choices).map fun s ↦ s.onUsage (Json.get event "usage")
        | _ => .error s
  | _ => .error s

def event (loads : Bytes → Option Json) (raw : Bytes) (s : PrismDiagnostics) : PrismDiagnostics :=
  match loads raw with
  | none => s.invalidate
  | some event =>
      match s.readEvent event with
      | .ok s => s
      | .error s => s.invalidate

/-! ## `feed` -/

def lineFeed : UInt8 := 10

def carriageReturn : UInt8 := 13

/-- `splitlines(keepends=True)`, after the bytes `line` of the first line. -/
def splitlines : Bytes → Bytes → List Bytes
  | line, [] => if line = [] then [] else [line]
  | line, b :: rest =>
      if b = lineFeed then (line ++ [b]) :: splitlines [] rest
      else if b = carriageReturn then
        match rest with
        | c :: others =>
            if c = lineFeed then (line ++ [b, c]) :: splitlines [] others
            else (line ++ [b]) :: splitlines [] (c :: others)
        | [] => [line ++ [b]]
      else splitlines (line ++ [b]) rest

/-- `line.rstrip(b"\r\n")`. -/
def stripEnd (line : Bytes) : Bytes := line.rdropWhile fun b ↦ b == carriageReturn || b == lineFeed

/-- What `bytes.strip` removes. -/
def isSpace (b : UInt8) : Bool := [9, 10, 11, 12, 13, 32].contains b

def strip (line : Bytes) : Bytes := (line.dropWhile isSpace).rdropWhile isSpace

/-- `line[5:].removeprefix(b" ")` of a line that starts with `data:`. -/
def dataOf (line : Bytes) : Option Bytes :=
  if (ascii "data:").isPrefixOf line then
    some (match line.drop 5 with
      | b :: rest => if b = 32 then rest else b :: rest
      | [] => [])
  else none

/-- A blank line ends an event. -/
def dispatch (loads : Bytes → Option Json) (s : PrismDiagnostics) : PrismDiagnostics :=
  let raw := [lineFeed].intercalate s.data
  let s := { s with data := [], dataSize := 0 }
  if strip raw = ascii "[DONE]" then { s with done := true } else s.event loads raw

/-- A complete line. -/
def onLine (loads : Bytes → Option Json) (s : PrismDiagnostics) : PrismDiagnostics :=
  let line := stripEnd s.buffer
  let s := { s with buffer := [] }
  match dataOf line with
  | some value =>
      { s with data := s.data ++ [value], dataSize := s.dataSize + value.length + 1 }
  | none => if line = [] ∧ s.data ≠ [] then s.dispatch loads else s

/-- `self.buffer.endswith(b"\n")`. -/
def endsLine (buffer : Bytes) : Bool := buffer.getLast? == some lineFeed

/-- The body of the loop. -/
def feedPiece (loads : Bytes → Option Json) (s : PrismDiagnostics) (piece : Bytes) :
    PrismDiagnostics :=
  if maxEventBytes < s.buffer.length + s.dataSize + piece.length then s.invalidate
  else
    let s := { s with buffer := s.buffer ++ piece }
    if !s.sse || !endsLine s.buffer then s else s.onLine loads

/-- The loop, which is left as soon as the observer is invalid. -/
def feedPieces (loads : Bytes → Option Json) : PrismDiagnostics → List Bytes → PrismDiagnostics
  | s, [] => s
  | s, piece :: pieces =>
      if (s.feedPiece loads piece).valid then feedPieces loads (s.feedPiece loads piece) pieces
      else s.feedPiece loads piece

def feed (loads : Bytes → Option Json) (s : PrismDiagnostics) (chunk : Bytes) :
    PrismDiagnostics :=
  if s.valid then feedPieces loads s (if s.sse then splitlines [] chunk else [chunk]) else s

/-! ## `finish` -/

inductive StreamStatus
  | httpError | interrupted | incomplete | complete
  deriving DecidableEq, Repr

/-- The values that `finish` logs. -/
structure Report where
  maxTokens : Option ℤ
  effort : Option String
  enabled : Option Bool
  usage : Option Usage
  reasoningChars : Option ℕ
  finishReasons : List String
  streamStatus : StreamStatus
  clientDisconnected : Bool
  deriving DecidableEq, Repr

/-- The state that `finish` reports. -/
def close (loads : Bytes → Option Json) (upstreamComplete : Bool) (s : PrismDiagnostics) :
    PrismDiagnostics :=
  let s := if s.valid && !s.sse && upstreamComplete then s.event loads s.buffer else s
  if s.sse && (s.buffer ≠ [] || s.data ≠ []) then { s with valid := false } else s

def streamStatus (upstreamComplete : Bool) (s : PrismDiagnostics) : StreamStatus :=
  if s.status.any (· ≠ 200) then .httpError
  else if !upstreamComplete then .interrupted
  else if !s.valid || s.finishReasons = [] || (s.sse && !s.done) then .incomplete
  else .complete

def finish (loads : Bytes → Option Json) (upstreamComplete clientConnected : Bool)
    (s : PrismDiagnostics) : Report :=
  let s := s.close loads upstreamComplete
  { maxTokens := s.maxTokens
    effort := s.effort
    enabled := s.enabled
    usage := s.usage
    reasoningChars := if s.valid then some s.reasoningChars else none
    finishReasons := s.finishReasons.mergeSort (· ≤ ·)
    streamStatus := s.streamStatus upstreamComplete
    clientDisconnected := !clientConnected }

end PrismDiagnostics

end StProxy.Prism
