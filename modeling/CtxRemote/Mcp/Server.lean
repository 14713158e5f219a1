import CtxRemote.Capture.Retention
import CtxRemote.Mcp.Lines

/-! The MCP server over standard input and output. It reads messages line by line, answers requests in
their order, and runs tools only for a client that has initialized it.
-/

namespace CtxRemote.Mcp
open CtxRemote.Store (Json)
open CtxRemote.Capture (BufReader cutLine cutLine_append isObject)
open CtxRemote.Turso (trim)

-----------------------------------------------------------------------------------------
-- Responses
-----------------------------------------------------------------------------------------

mutual
/-- `prune_null_json`, which is `compact_json`. -/
def pruneNullJson : Json → Json
  | .object fields => .object (pruneFields fields)
  | .array items => .array (pruneItems items)
  | value => value

def pruneItems : List Json → List Json
  | [] => []
  | item :: rest => pruneNullJson item :: pruneItems rest

def pruneFields : List (String × Json) → List (String × Json)
  | [] => []
  | (key, value) :: rest =>
      match pruneNullJson value with
      | .null => pruneFields rest
      | pruned => (key, pruned) :: pruneFields rest
end

/-- An `i64` as a JSON number. -/
def intJson (value : Int) : Json :=
  .number (if 0 ≤ value then .posInt (UInt64.ofNat value.toNat) else .negInt value)

/-- `success_response`. -/
def successResponse (id result : Json) : Json :=
  .object [("id", id), ("jsonrpc", .string "2.0"), ("result", result)]

/-- `error_response`. -/
def errorResponse (id : Json) (code : Int) (message : String) (data : Option Json) : Json :=
  pruneNullJson (.object
    [("error", .object
        [("code", intJson code), ("data", data.getD .null), ("message", .string message)]),
      ("id", id), ("jsonrpc", .string "2.0")])

/-- `json_rpc_error`. -/
def jsonRpcError (code : Int) (message : String) (data : Option Json) : Json :=
  pruneNullJson (.object
    [("code", intJson code), ("data", data.getD .null), ("message", .string message)])

/-- An error with a text. -/
def errorData (text : String) : Json := .object [("error", .string text)]

-----------------------------------------------------------------------------------------
-- Tools
-----------------------------------------------------------------------------------------

/-- Functions that this model leaves open: `serde_json::from_str`, the version and the definitions that
the server reports, what a tool makes of its arguments for the message of that number, and
`render_tool_text`.
-/
structure Externals where
  fromStr : String → Except String Json
  packageVersion : String
  toolDefinitions : List Json
  runTool : Nat → String → Json → Except String Json
  renderToolText : Json → String

/-- The tools, each with the keys of its arguments. -/
def toolArguments : List (String × List String) :=
  [("status", []), ("sources", []),
    ("search",
      ["query", "limit", "provider", "history_source", "provider_key", "source_id",
        "source_format", "workspace", "since", "primary_only", "include_subagents", "event_type",
        "file", "session", "events", "include_current_session", "backend", "semantic_weight"]),
    ("sql",
      ["sql", "max_rows", "max_columns", "max_value_bytes", "max_sql_bytes", "timeout_ms"]),
    ("show_session", ["ctx_session_id", "mode"]),
    ("show_event", ["ctx_event_id", "before", "after", "window"])]

/-- The error of a call with parameters that the server does not accept. -/
def invalidParams (text : String) : Json :=
  jsonRpcError (-32602) "Invalid params" (some (errorData text))

/-- `validate_argument_keys`. -/
def validateArgumentKeys (arguments : Json) (allowed : List String) : Except Json Unit :=
  match arguments.asObject with
  | none => .error (invalidParams "tools/call params.arguments must be an object")
  | some object =>
      match (object.map (·.1)).find? (!allowed.contains ·) with
      | some key => .error (invalidParams ("unknown argument " ++ key))
      | none => .ok ()

/-- A part of a tool's content. -/
def textContent (text : String) : Json :=
  .array [.object [("text", .string text), ("type", .string "text")]]

/-- `tool_error_result`. -/
def toolErrorResult (error : String) : Json :=
  .object
    [("content", textContent error), ("isError", .bool true),
      ("structuredContent", errorData error)]

variable (externals : Externals)

/-- `tool_result`. -/
def toolResult (structured : Json) : Json :=
  .object
    [("content", textContent (externals.renderToolText structured)),
      ("structuredContent", structured)]

/-- `handle_tools_call`. -/
def handleToolsCall (number : Nat) (params : Json) : Except Json Json := do
  let name ←
    match (params.get "name").bind Json.asStr with
    | none => .error (invalidParams "tools/call requires params.name")
    | some name => .ok name
  let arguments := (params.get "arguments").getD (.object [])
  if !isObject arguments then
    .error (invalidParams "tools/call params.arguments must be an object")
  else
    match toolArguments.lookup name with
    | none => .error (invalidParams ("unknown tool " ++ name))
    | some allowed =>
        validateArgumentKeys arguments allowed
        match externals.runTool number name arguments with
        | .ok value => .ok (toolResult externals value)
        | .error error => .ok (toolErrorResult error)

-----------------------------------------------------------------------------------------
-- Messages
-----------------------------------------------------------------------------------------

/-- `MCP_SUPPORTED_PROTOCOL_VERSIONS`, `MCP_PROTOCOL_VERSION` first. -/
def mcpSupportedProtocolVersions : List String := ["2025-11-25", "2025-06-18"]

/-- `negotiate_protocol_version`. -/
def negotiateProtocolVersion (params : Json) : String :=
  match (params.get "protocolVersion").bind Json.asStr with
  | none => "2025-11-25"
  | some requested => (mcpSupportedProtocolVersions.find? (· = requested)).getD "2025-11-25"

/-- The instructions for clients. -/
def instructions : String :=
  "Read-only access to the configured ctx history. Tool output may include absolute paths, source "
  ++ "metadata, snippets, transcript text, and raw SQL query results; MCP hosts may log or forward "
  ++ "it. This minimal server supports initialize, ping, tools/list, and tools/call over "
  ++ "newline-delimited stdio. It does not expose MCP resources or prompts, and tools do not import "
  ++ "provider history, write provider files, or write repositories."

/-- `initialize_result`. -/
def initializeResult (params : Json) : Json :=
  .object
    [("capabilities", .object [("tools", .object [("listChanged", .bool false)])]),
      ("instructions", .string instructions),
      ("protocolVersion", .string (negotiateProtocolVersion params)),
      ("serverInfo", .object
        [("name", .string "ctx"), ("version", .string externals.packageVersion)])]

/-- A value that a request can have as its id. -/
def isRequestId : Json → Bool
  | .null | .array _ | .object _ => false
  | _ => true

/-- The response to a request with a result or an error. -/
def resultResponse (id : Json) : Except Json Json → Json
  | .ok result => successResponse id result
  | .error error =>
      match error.asObject with
      | some object =>
          errorResponse id (((object.lookup "code").bind Json.asI64).getD (-32603))
            (((object.lookup "message").bind Json.asStr).getD "Internal error")
            (object.lookup "data")
      | none => errorResponse id (-32603) "Internal error" (some error)

/-- The result of a request to an initialized server. -/
def requestResult (number : Nat) (method : String) (params : Json) : Except Json Json :=
  match method with
  | "initialize" => .ok (initializeResult externals params)
  | "ping" => .ok (.object [])
  | "tools/list" => .ok (.object [("tools", .array externals.toolDefinitions)])
  | "tools/call" => handleToolsCall externals number params
  | _ => .error (jsonRpcError (-32601) "Method not found" none)

/-- A request with a method and an id. -/
def handleRequest (number : Nat) (id : Json) (method : String) (params : Json) (initialized : Bool)
    : Json × Bool :=
  if !isObject params then
    (errorResponse id (-32602) "Invalid params" (some (errorData "params must be an object")),
      initialized)
  else if method ≠ "initialize" ∧ !initialized then
    (errorResponse id (-32002) "Server not initialized"
        (some (errorData "send initialize before calling ctx MCP tools")), initialized)
  else
    (resultResponse id (requestResult externals number method params),
      initialized || method == "initialize")

/-- `handle_message`. -/
def handleMessage (number : Nat) (message : Json) (initialized : Bool) : Option Json × Bool :=
  match message.asObject with
  | none => (some (errorResponse .null (-32600) "Invalid Request" none), initialized)
  | some object =>
      if (object.lookup "jsonrpc").bind Json.asStr ≠ some "2.0" then
        (some (errorResponse ((object.lookup "id").getD .null) (-32600) "Invalid Request" none),
          initialized)
      else
        match (message.get "method").bind Json.asStr, object.lookup "id" with
        | none, id =>
            (id.map fun id => errorResponse id (-32600) "Invalid Request" none, initialized)
        | some method, none => (none, initialized || method == "notifications/initialized")
        | some method, some id =>
            if !isRequestId id then
              (some (errorResponse .null (-32600) "Invalid Request" none), initialized)
            else
              let (response, initialized) :=
                handleRequest externals number id method
                  ((message.get "params").getD (.object [])) initialized
              (some response, initialized)

/-- `handle_line`. -/
def handleLine (number : Nat) (line : String) (initialized : Bool) : Option Json × Bool :=
  match externals.fromStr line with
  | .error error =>
      (some (errorResponse .null (-32700) "Parse error" (some (errorData error))), initialized)
  | .ok message => handleMessage externals number message initialized

/-- The body of the loop of `serve_stdio`. -/
def handleInput (number : Nat) (input : McpInputLine) (initialized : Bool) : Option Json × Bool :=
  match input with
  | .line line =>
      let line := trim line.toList
      if line.isEmpty then (none, initialized)
      else handleLine externals number (String.ofList line) initialized
  | .invalidUtf8 =>
      (some (errorResponse .null (-32700) "Parse error"
        (some (errorData "MCP message is not valid UTF-8"))), initialized)
  | .tooLarge =>
      (some (errorResponse .null (-32700) "Parse error"
        (some (errorData "MCP message exceeds max line bytes (1048576)"))), initialized)

/-- A call that reads a line consumes it. -/
theorem readMcpInputLine_lt {reader rest : BufReader} {input : McpInputLine}
    (reads : readMcpInputLine reader = (some input, rest))
    : rest.stream.length < reader.stream.length := by
  obtain ⟨found, behind⟩ := readMcpInputLine_spec reader
  rw [reads] at found behind
  cases stream : reader.stream with
  | nil =>
      rw [stream, if_pos rfl] at found
      cases found
  | cons byte bytes =>
      have whole := cutLine_append (byte :: bytes)
      have shorter := congrArg List.length whole
      have line : (cutLine (byte :: bytes)).1.length > 0 := by
        unfold cutLine
        split <;> exact Nat.succ_pos _
      change rest.stream = _ at behind
      rw [List.length_append] at shorter
      rw [behind, stream]
      omega

/-- The loop of `serve_stdio`: the responses that it writes, and whether it has been initialized. -/
def serveFrom (reader : BufReader) (number : Nat) (initialized : Bool) : List Json :=
  match _ : readMcpInputLine reader with
  | (none, _) => []
  | (some input, rest) =>
      let (response, initialized) := handleInput externals number input initialized
      response.toList ++ serveFrom rest (number + 1) initialized
termination_by reader.stream.length
decreasing_by exact readMcpInputLine_lt ‹_›

/-- `serve_stdio`. -/
def serveStdio (reader : BufReader) : List Json := serveFrom externals reader 0 false

end CtxRemote.Mcp
