import CtxRemote.Mcp.Server

/-! What the MCP server writes for a stream of requests: it answers each of them once, and it is closed
until one of them initializes it.
-/

namespace CtxRemote.Mcp
open CtxRemote.Store (Json)
open CtxRemote.Capture (BufReader streamLines streamLines_cut isObject)
open CtxRemote.Turso (trim)

variable (externals : Externals)

-----------------------------------------------------------------------------------------
-- Requests
-----------------------------------------------------------------------------------------

/-- What a line asks of the server. -/
inductive Request where
  | nothing
  | notification (method : String)
  | call (id : Json) (method : String) (params : Json)
  | invalid (id : Json)

/-- What a message asks of the server. -/
def requestOfMessage (message : Json) : Request :=
  match message.asObject with
  | none => .invalid .null
  | some object =>
      if (object.lookup "jsonrpc").bind Json.asStr ≠ some "2.0" then
        .invalid ((object.lookup "id").getD .null)
      else
        match (message.get "method").bind Json.asStr, object.lookup "id" with
        | none, none => .nothing
        | none, some id => .invalid id
        | some method, none => .notification method
        | some method, some id =>
            if isRequestId id then .call id method ((message.get "params").getD (.object []))
            else .invalid .null

/-- What a line of the input asks of the server. -/
def requestOf (input : McpInputLine) : Request :=
  match input with
  | .line line =>
      if (trim line.toList).isEmpty then .nothing
      else
        match externals.fromStr (String.ofList (trim line.toList)) with
        | .error _ => .invalid .null
        | .ok message => requestOfMessage message
  | .invalidUtf8 | .tooLarge => .invalid .null

/-- The requests of a stream. -/
def requests (stream : List UInt8) : List Request :=
  (streamLines stream).map fun line => requestOf externals (inputLine line)

/-- A request that initializes the server. -/
def Request.initializes : Request → Bool
  | .notification method => method == "notifications/initialized"
  | .call _ method params => method == "initialize" && isObject params
  | _ => false

/-- The id that an error carries: `compact_json` leaves out what is null. -/
def keptId : Json → Option Json
  | .null => none
  | id => some (pruneNullJson id)

/-- The id of the response to a request that has one. -/
def Request.responseId : Request → Option (Option Json)
  | .nothing | .notification _ => none
  | .call id _ _ => some (some id)
  | .invalid id => some (keptId id)

-----------------------------------------------------------------------------------------
-- Responses to requests
-----------------------------------------------------------------------------------------

/-- A response of the protocol with that id: it has a result or an error, and not both. -/
structure IsResponse (id : Option Json) (response : Json) : Prop where
  id : response.get "id" = id
  version : response.get "jsonrpc" = some (.string "2.0")
  outcome : (response.get "result").isSome = !(response.get "error").isSome

/-- A response with an error. -/
structure IsError (id : Option Json) (response : Json) : Prop extends IsResponse id response where
  noResult : response.get "result" = none

theorem isResponse_success (id result : Json) : IsResponse (some id) (successResponse id result) where
  id := rfl
  version := rfl
  outcome := rfl

/-- Pruning turns nothing but null into null. -/
theorem pruneNullJson_ne_null {value : Json} (some' : value ≠ .null)
    : pruneNullJson value ≠ .null := by
  cases value with
  | null => exact absurd rfl some'
  | object fields =>
      rw [pruneNullJson]
      exact Json.noConfusion
  | array items =>
      rw [pruneNullJson]
      exact Json.noConfusion
  | bool _ | number _ | string _ => exact some'

theorem pruneFields_kept {key : String} {value : Json} (some' : value ≠ .null)
    (rest : List (String × Json))
    : pruneFields ((key, value) :: rest) = (key, pruneNullJson value) :: pruneFields rest := by
  have kept := pruneNullJson_ne_null some'
  rw [pruneFields]
  split
  next null => exact absurd null kept
  next => rfl

theorem isError_errorResponse (id : Json) (code : Int) (message : String) (data : Option Json)
    : IsError (keptId id) (errorResponse id code message data) := by
  have version (rest : List (String × Json))
      : pruneFields (("jsonrpc", .string "2.0") :: rest)
        = ("jsonrpc", .string "2.0") :: pruneFields rest := rfl
  unfold errorResponse
  rw [pruneNullJson, pruneFields_kept Json.noConfusion]
  by_cases null : id = .null
  · subst null
    exact ⟨⟨rfl, rfl, rfl⟩, rfl⟩
  · have kept : keptId id = some (pruneNullJson id) := by
      unfold keptId
      split
      next => exact absurd rfl null
      next => rfl
    rw [pruneFields_kept null, version, kept]
    exact ⟨⟨rfl, rfl, rfl⟩, rfl⟩

/-- A scalar id is carried as it is. -/
theorem keptId_of_isRequestId {id : Json} (scalar : isRequestId id = true)
    : keptId id = some id := by
  cases id with
  | null | array _ | object _ => cases scalar
  | bool _ | number _ | string _ => rfl

theorem isResponse_resultResponse {id : Json} (scalar : isRequestId id = true)
    (result : Except Json Json)
    : IsResponse (some id) (resultResponse id result) := by
  rw [← keptId_of_isRequestId scalar]
  cases result with
  | ok result =>
      rw [keptId_of_isRequestId scalar]
      exact isResponse_success id result
  | error error =>
      cases fields : error.asObject with
      | none =>
          simp only [resultResponse, fields]
          exact (isError_errorResponse _ _ _ _).toIsResponse
      | some object =>
          simp only [resultResponse, fields]
          exact (isError_errorResponse _ _ _ _).toIsResponse

/-- What the server makes of a request: the response, and whether it is initialized from then on. -/
structure Answers (request : Request) (initialized : Bool) (answer : Option Json × Bool) : Prop where
  responseId : (answer.1.map fun response => response.get "id") = request.responseId
  response : ∀ response ∈ answer.1, ∃ id, IsResponse id response
  refused : initialized = false → request.initializes = false →
    ∀ response ∈ answer.1, ∃ id, IsError id response
  state : answer.2 = (initialized || request.initializes)

theorem answers_none {request : Request} {initialized state : Bool}
    (unanswered : request.responseId = none) (next : state = (initialized || request.initializes))
    : Answers request initialized (none, state) where
  responseId := unanswered.symm
  response response member := by cases member
  refused _ _ response member := by cases member
  state := next

theorem answers_error {request : Request} {initialized : Bool} {id : Option Json} {error : Json}
    (isError : IsError id error) (answered : request.responseId = some id)
    (not : request.initializes = false)
    : Answers request initialized (some error, initialized) where
  responseId := by rw [answered, Option.map_some, isError.id]
  response response member := by
    obtain rfl := Option.some.inj member
    exact ⟨id, isError.toIsResponse⟩
  refused _ _ response member := by
    obtain rfl := Option.some.inj member
    exact ⟨id, isError⟩
  state := by rw [not, Bool.or_false]

theorem answers_handleRequest (number : Nat) {id : Json} (scalar : isRequestId id = true)
    (method : String) (params : Json) (initialized : Bool)
    : Answers (.call id method params) initialized
        (some (handleRequest externals number id method params initialized).1,
          (handleRequest externals number id method params initialized).2) := by
  have answered : (Request.call id method params).responseId = some (keptId id) := by
    rw [keptId_of_isRequestId scalar]
    rfl
  unfold handleRequest
  by_cases object : isObject params = true
  · rw [if_neg (by simp [object])]
    by_cases gated : method ≠ "initialize" ∧ (!initialized) = true
    · rw [if_pos gated]
      refine answers_error (isError_errorResponse _ _ _ _) answered ?_
      simp [Request.initializes, gated.1]
    · rw [if_neg gated]
      have isResponse := isResponse_resultResponse scalar
        (requestResult externals number method params)
      refine ⟨?_, ?_, fun closed not => absurd ?_ gated, ?_⟩
      · rw [Option.map_some, isResponse.id]
        rfl
      · intro response member
        obtain rfl := Option.some.inj member
        exact ⟨_, isResponse⟩
      · refine ⟨?_, by rw [closed]; rfl⟩
        rintro rfl
        simp [Request.initializes, object] at not
      · simp [Request.initializes, object]
  · rw [if_pos (by simpa using object)]
    refine answers_error (isError_errorResponse _ _ _ _) answered ?_
    simp [Request.initializes, object]

theorem answers_handleMessage (number : Nat) (message : Json) (initialized : Bool)
    : Answers (requestOfMessage message) initialized
        (handleMessage externals number message initialized) := by
  unfold requestOfMessage handleMessage
  cases message.asObject with
  | none => exact answers_error (isError_errorResponse _ _ _ _) rfl rfl
  | some object =>
      by_cases version : (object.lookup "jsonrpc").bind Json.asStr ≠ some "2.0"
      · simp only [if_pos version]
        exact answers_error (isError_errorResponse _ _ _ _) rfl rfl
      · simp only [if_neg version]
        cases (message.get "method").bind Json.asStr with
        | none =>
            cases object.lookup "id" with
            | none => exact answers_none rfl (Bool.or_false _).symm
            | some id => exact answers_error (isError_errorResponse _ _ _ _) rfl rfl
        | some method =>
            cases object.lookup "id" with
            | none => exact answers_none rfl rfl
            | some id =>
                by_cases scalar : isRequestId id = true
                · simp only [scalar, Bool.not_true, Bool.false_eq_true, if_false, if_true]
                  exact answers_handleRequest externals number scalar _ _ _
                · simp only [scalar, Bool.not_false, if_true, if_false, Bool.false_eq_true]
                  exact answers_error (isError_errorResponse _ _ _ _) rfl rfl

/-- What the loop makes of a line. -/
theorem answers_handleInput (number : Nat) (input : McpInputLine) (initialized : Bool)
    : Answers (requestOf externals input) initialized
        (handleInput externals number input initialized) := by
  cases input with
  | line line =>
      unfold requestOf handleInput
      by_cases blank : (trim line.toList).isEmpty = true
      · simp only [if_pos blank]
        exact answers_none rfl (Bool.or_false _).symm
      · simp only [if_neg blank, handleLine]
        cases externals.fromStr (String.ofList (trim line.toList)) with
        | error error => exact answers_error (isError_errorResponse _ _ _ _) rfl rfl
        | ok message => exact answers_handleMessage externals number message initialized
  | invalidUtf8 => exact answers_error (isError_errorResponse _ _ _ _) rfl rfl
  | tooLarge => exact answers_error (isError_errorResponse _ _ _ _) rfl rfl

-----------------------------------------------------------------------------------------
-- Runs
-----------------------------------------------------------------------------------------

/-- The responses to lines, and whether they leave the server initialized. -/
def respond (number : Nat) (initialized : Bool) : List (List UInt8) → List Json × Bool
  | [] => ([], initialized)
  | line :: rest =>
      let (response, next) := handleInput externals number (inputLine line) initialized
      let (responses, final) := respond (number + 1) next rest
      (response.toList ++ responses, final)

theorem respond_cons (line : List UInt8) (rest : List (List UInt8)) (number : Nat)
    (initialized : Bool)
    : (respond externals number initialized (line :: rest)).1
      = (handleInput externals number (inputLine line) initialized).1.toList
        ++ (respond externals (number + 1)
            (handleInput externals number (inputLine line) initialized).2 rest).1 := rfl

/-- The server answers the lines of its stream, by induction on the calls that read them. -/
theorem serveFrom_eq (reader : BufReader) (number : Nat) (initialized : Bool)
    : serveFrom externals reader number initialized
      = (respond externals number initialized (streamLines reader.stream)).1 := by
  fun_induction serveFrom externals reader number initialized with
  | case1 reader number initialized rest reads =>
      have found := (readMcpInputLine_spec reader).1
      rw [reads] at found
      by_cases empty : reader.stream = []
      · rw [empty]
        rfl
      · rw [if_neg empty] at found
        cases found
  | case2 reader number initialized input rest reads response next handled ih =>
      obtain ⟨found, behind⟩ := readMcpInputLine_spec reader
      rw [reads] at found behind
      by_cases empty : reader.stream = []
      · rw [if_pos empty] at found
        cases found
      · rw [if_neg empty] at found
        obtain rfl := Option.some.inj found
        change rest.stream = _ at behind
        rw [streamLines_cut empty, respond, handled, ih, behind]

/-- The responses to lines are those that their requests ask for, by induction on the lines. -/
theorem respond_ids (lines : List (List UInt8)) (number : Nat) (initialized : Bool)
    : (respond externals number initialized lines).1.map (fun response => response.get "id")
      = lines.filterMap fun line => (requestOf externals (inputLine line)).responseId := by
  induction lines generalizing number initialized with
  | nil => rfl
  | cons line rest ih =>
      have answers := answers_handleInput externals number (inputLine line) initialized
      rw [respond, List.filterMap_cons, ← answers.responseId]
      cases response : (handleInput externals number (inputLine line) initialized).1 with
      | none => simp only [response, Option.toList_none, List.nil_append, Option.map_none, ih]
      | some response' =>
          simp only [response, Option.toList_some, List.singleton_append, List.map_cons,
            Option.map_some, ih]

/-- Every response to lines is one of the protocol, by induction on the lines. -/
theorem isResponse_of_mem_respond {lines : List (List UInt8)} {number : Nat} {initialized : Bool}
    {response : Json} (member : response ∈ (respond externals number initialized lines).1)
    : ∃ id, IsResponse id response := by
  induction lines generalizing number initialized with
  | nil => cases member
  | cons line rest ih =>
      have answers := answers_handleInput externals number (inputLine line) initialized
      rw [respond_cons] at member
      rcases List.mem_append.mp member with here | later
      · exact answers.response response (Option.mem_toList.mp here)
      · exact ih later

theorem respond_append (before after : List (List UInt8)) (number : Nat) (initialized : Bool)
    : (respond externals number initialized (before ++ after)).1
      = (respond externals number initialized before).1
        ++ (respond externals (number + before.length)
            (respond externals number initialized before).2 after).1 := by
  induction before generalizing number initialized with
  | nil => rfl
  | cons line rest ih =>
      rw [List.cons_append, respond, respond]
      simp only [ih, List.append_assoc, List.length_cons]
      rw [Nat.add_right_comm, Nat.add_assoc]

/-- A server that is not initialized runs no tool. -/
theorem handleInput_closed (runTool : Nat → String → Json → Except String Json) (number : Nat)
    (input : McpInputLine)
    : handleInput { externals with runTool } number input false
      = handleInput externals number input false := by
  have request (id : Json) (method : String) (params : Json)
      : handleRequest { externals with runTool } number id method params false
        = handleRequest externals number id method params false := by
    unfold handleRequest
    by_cases opening : method = "initialize"
    · subst opening
      rfl
    · simp only [ne_eq, opening, not_false_eq_true, Bool.not_false, and_self, if_true]
  have message (value : Json)
      : handleMessage { externals with runTool } number value false
        = handleMessage externals number value false := by
    unfold handleMessage
    simp only [request]
  cases input with
  | line line =>
      simp only [handleInput, handleLine, message]
  | invalidUtf8 => rfl
  | tooLarge => rfl

/-- What a server answers before any request initializes it, by induction on the lines. -/
theorem respond_closed {lines : List (List UInt8)}
    (closed : ∀ line ∈ lines, (requestOf externals (inputLine line)).initializes = false)
    (number : Nat)
    : (∀ response ∈ (respond externals number false lines).1, ∃ id, IsError id response)
      ∧ ∀ runTool, respond { externals with runTool } number false lines
          = respond externals number false lines := by
  induction lines generalizing number with
  | nil =>
      refine ⟨?_, fun runTool => rfl⟩
      intro response member
      cases member
  | cons line rest ih =>
      have answers := answers_handleInput externals number (inputLine line) false
      have first := closed line (.head _)
      have still : (handleInput externals number (inputLine line) false).2 = false := by
        rw [answers.state, first]
        rfl
      obtain ⟨refused, same⟩ := ih (fun line member => closed line (.tail _ member)) (number + 1)
      constructor
      · intro response member
        rw [respond_cons, still] at member
        rcases List.mem_append.mp member with here | later
        · exact answers.refused rfl first response (Option.mem_toList.mp here)
        · exact refused response later
      · intro runTool
        rw [respond, respond]
        simp only [handleInput_closed, still, same]

-----------------------------------------------------------------------------------------
-- The server
-----------------------------------------------------------------------------------------

theorem serveStdio_eq (reader : BufReader)
    : serveStdio externals reader = (respond externals 0 false (streamLines reader.stream)).1 :=
  serveFrom_eq externals reader 0 false

/-- However its input comes in chunks, the server writes one response for each request of the stream
that has an id or that it cannot accept, in the order of the requests and with their ids; each has a
result or an error.
-/
theorem serveStdio_answers (reader : BufReader)
    : (serveStdio externals reader).map (fun response => response.get "id")
        = (requests externals reader.stream).filterMap Request.responseId
      ∧ (∀ response ∈ serveStdio externals reader, ∃ id, IsResponse id response)
      ∧ ∀ other : BufReader, other.stream = reader.stream →
          serveStdio externals other = serveStdio externals reader := by
  rw [serveStdio_eq]
  refine ⟨?_, fun response member => isResponse_of_mem_respond externals member, ?_⟩
  · rw [respond_ids, requests, List.filterMap_map]
    rfl
  · intro other same
    rw [serveStdio_eq, same]

/-- Before a request of the stream initializes the server, it writes errors only, and what it writes
does not depend on what the tools would return.
-/
theorem serveStdio_uninitialized (reader : BufReader) (count : Nat)
    (closed : ∀ request ∈ (requests externals reader.stream).take count, request.initializes = false)
    : ∃ refused, refused.length
          = (((requests externals reader.stream).take count).filterMap Request.responseId).length
        ∧ (∀ response ∈ refused, ∃ id, IsError id response)
        ∧ ∀ runTool, refused <+: serveStdio { externals with runTool } reader := by
  have closedLines : ∀ line ∈ (streamLines reader.stream).take count,
      (requestOf externals (inputLine line)).initializes = false := by
    intro line member
    refine closed _ ?_
    rw [requests, ← List.map_take]
    exact List.mem_map_of_mem member
  obtain ⟨refused, same⟩ := respond_closed externals closedLines 0
  refine ⟨(respond externals 0 false ((streamLines reader.stream).take count)).1, ?_, refused, ?_⟩
  · have ids := respond_ids externals ((streamLines reader.stream).take count) 0 false
    rw [← List.length_map, ids, requests, ← List.map_take, List.filterMap_map]
    rfl
  · intro runTool
    have parts := List.take_append_drop count (streamLines reader.stream)
    rw [serveStdio_eq]
    conv_rhs => rw [← parts, respond_append, same]
    exact List.prefix_append _ _

/-- A request with a number as its id. -/
def clientRequest (id : UInt64) (method : String) (params : List (String × Json)) : Json :=
  .object
    [("id", .number (.posInt id)), ("jsonrpc", .string "2.0"), ("method", .string method),
      ("params", .object params)]

/-- The lines of a client that calls a tool, initializes the server and calls the tool again, with what
`from_str` reads from them.
-/
def clientLines : List (String × Json) :=
  [("\x7b\"jsonrpc\":\"2.0\",\"id\":1,\"method\":\"tools/call\",\"params\":\x7b\"name\":\"status\"\x7d\x7d",
      clientRequest 1 "tools/call" [("name", .string "status")]),
    ("\x7b\"jsonrpc\":\"2.0\",\"id\":2,\"method\":\"initialize\",\"params\":\x7b\x7d\x7d",
      clientRequest 2 "initialize" []),
    ("\x7b\"jsonrpc\":\"2.0\",\"id\":3,\"method\":\"tools/call\",\"params\":\x7b\"name\":\"status\"\x7d\x7d",
      clientRequest 3 "tools/call" [("name", .string "status")])]

/-- A server whose tool `status` says that it is ready. -/
def statusServer : Externals where
  fromStr line :=
    match clientLines.lookup line with
    | some message => .ok message
    | none => .error "expected value"
  packageVersion := "0.1.0"
  toolDefinitions := []
  runTool _ _ _ := .ok (.string "ready")
  renderToolText _ := "ready"

/-- The client's input, in chunks of seven bytes. -/
def clientInput : BufReader where
  stream := clientLines.flatMap fun line => line.1.toUTF8.toList ++ [0x0a]
  shown _ := 7

/-- The id of a response, the code of its error, and the text that the tool has answered with. -/
def shownResponse (response : Json) : Option Int × Option Int × Option String :=
  ((response.get "id").bind Json.asI64,
    (((response.get "error").bind (·.get "code")).bind Json.asI64,
      ((response.get "result").bind (·.get "structuredContent")).bind Json.asStr))

/-- The first call is refused, whatever the tool would answer; the call behind the initialization is
answered with what the tool says.
-/
theorem clientInput_opens
    : (∃ refused : List Json, refused.length
          = (((requests statusServer clientInput.stream).take 1).filterMap
              Request.responseId).length
        ∧ (∀ response ∈ refused, ∃ id, IsError id response)
        ∧ ∀ runTool, refused <+: serveStdio { statusServer with runTool } clientInput)
      ∧ (serveStdio statusServer clientInput).map shownResponse
        = [(some 1, some (-32002), none), (some 2, none, none), (some 3, none, some "ready")] := by
  constructor
  · have closed
        : (((requests statusServer clientInput.stream).take 1).all fun request =>
            !request.initializes) = true := by
      decide +kernel
    exact serveStdio_uninitialized statusServer clientInput 1 fun request member => by
      simpa using List.all_eq_true.mp closed request member
  · rw [serveStdio_eq]
    decide +kernel

end CtxRemote.Mcp
