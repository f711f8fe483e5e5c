import ArchitectureCourse.JsonRpc.Registry

/-!
# Request dispatch

`Session::processRequest` turns one JSON value into one response object, and
`Session::processBatchRequest` applies it to each element of an array.  Neither reads
the session itself: only the registry, and through the handlers it calls, the
handler-owned state `σ`, which passes from one request of a batch to the next.

The main results say that every value is answered by a well-formed JSON-RPC 2.0
response echoing the request's `id`, and that a batch is answered element by element,
in order, with nothing dropped.
-/

namespace ArchitectureCourse.JsonRpc

open Json

variable {σ : Type} (registry : MethodRegistry σ)

/-! ## Building responses -/

/-- The `error` member: code, message, and `data` unless it is null. -/
def errorObject (code : Int) (message : String) (data : Json) : Json :=
  .obj ([("code", .int code), ("message", .str message)] ++
    if data.isNull then [] else [("data", data)])

/-- `Session::createErrorResponse(id, JsonRpcError, language)`.  The message is the
catalog's text for the error's code; the text the error carries is not used. -/
def createErrorResponse (id : Json) (error : JsonRpcError) (language : String) : Json :=
  .obj [("jsonrpc", .str "2.0"),
    ("error", errorObject error.code (registry.getErrorMessage error.code language) error.data),
    ("id", if id.isNull then .null else id)]

/-- `Session::createErrorResponse(id, code, message, data)` and its `const char*`
overload: the response above for the error `(code, message, data)` in `en-US`. -/
def createErrorResponseWithCode (id : Json) (code : Int) (message : String) (data : Json) : Json :=
  createErrorResponse registry id ⟨code, message, data⟩ "en-US"

/-- The success response `{"jsonrpc": "2.0", "result": result, "id": id}`. -/
def resultResponse (id result : Json) : Json :=
  .obj [("jsonrpc", .str "2.0"), ("result", result), ("id", id)]

/-! ## Single requests -/

/-- The method name of a request that passes the shape check of `processRequest`: an
object whose `jsonrpc` member is the string `"2.0"` and whose `method` is a string. -/
def requestMethod (request : Json) : Option String :=
  if request.isObject then
    match request.get? "jsonrpc", request.get? "method" with
    | some (.str "2.0"), some (.str name) => some name
    | _, _ => none
  else none

/-- `request["id"]` when present, else `json()`. -/
def requestId (request : Json) : Json :=
  (request.get? "id").getD .null

/-- `request["params"]` when present, else `json()`. -/
def requestParams (request : Json) : Json :=
  (request.get? "params").getD .null

/-- The request language: `params["language"]` converted to `std::string` when
`params` is an object with that member, and `"en-US"` otherwise. -/
def requestLanguage (params : Json) : Except String String :=
  if params.isObject && params.contains "language" then
    ((params.get? "language").getD .null).getString
  else .ok "en-US"

/-- The `try` block of `processRequest` after the shape check: the response it
returns, or the exception that leaves it. -/
def invokeMethod (name : String) (params id : Json) (st : σ) : Except Thrown Json × σ :=
  match requestLanguage params with
  | .error what => (.error (.exception what), st)
  | .ok language =>
    if registry.hasMethod name then
      match registry.getMethod name with
      | .error what => (.error (.exception what), st)
      | .ok method =>
        match method.handler params language st with
        | (.ok result, st') => (.ok (resultResponse id result), st')
        | (.error thrown, st') => (.error thrown, st')
    else (.ok (createErrorResponse registry id Errors.MethodNotFound language), st)

/-- The two `catch` clauses of `processRequest`; both answer in `en-US`. -/
def catchResponse (id : Json) : Thrown → Json
  | .rpcError error => createErrorResponse registry id error "en-US"
  | .exception what => createErrorResponse registry id ⟨Errors.InternalError.code, what, .null⟩ "en-US"

/-- `Session::processRequest`. -/
def processRequest (request : Json) (st : σ) : Json × σ :=
  match requestMethod request with
  | none => (createErrorResponse registry .null Errors.InvalidRequest "en-US", st)
  | some name =>
    match invokeMethod registry name (requestParams request) (requestId request) st with
    | (.ok response, st') => (response, st')
    | (.error thrown, st') => (catchResponse registry (requestId request) thrown, st')

/-- One turn of the loop of `processBatchRequest`: the response is kept unless it is
null. -/
def batchStep (acc : List Json × σ) (request : Json) : List Json × σ :=
  let result := processRequest registry request acc.2
  (if result.1.isNull then acc.1 else acc.1 ++ [result.1], result.2)

/-- `Session::processBatchRequest`. -/
def processBatchRequest (requests : List Json) (st : σ) : Json × σ :=
  let loop := requests.foldl (batchStep registry) ([], st)
  (.arr loop.1, loop.2)

/-! ## Well-formed responses -/

/-- The `error` member of a JSON-RPC 2.0 response: an integer `code`, a string
`message`, and a `data` member only when it is not null. -/
structure IsErrorMember (error : Json) : Prop where
  code : ∃ c : Int, error.get? "code" = some (.int c)
  message : ∃ m : String, error.get? "message" = some (.str m)
  data : ∀ d, error.get? "data" = some d → d.isNull = false

/-- A JSON-RPC 2.0 response: an object with `jsonrpc` equal to `"2.0"`, an `id`, and
exactly one of `result` and `error`. -/
structure IsResponse (response : Json) : Prop where
  isObject : response.isObject = true
  jsonrpc : response.get? "jsonrpc" = some (.str "2.0")
  id : (response.get? "id").isSome = true
  resultXorError : xor (response.get? "result").isSome (response.get? "error").isSome = true
  error : ∀ e, response.get? "error" = some e → IsErrorMember e

theorem IsResponse.isNull_eq_false {response : Json} (h : IsResponse response) :
    response.isNull = false := by
  cases response <;> first | rfl | exact absurd h.isObject (by decide)

@[simp] theorem ite_isNull_self (id : Json) : (if id.isNull then Json.null else id) = id := by
  cases id <;> rfl

theorem errorObject_isErrorMember (code : Int) (message : String) (data : Json) :
    IsErrorMember (errorObject code message data) := by
  refine ⟨⟨code, ?_⟩, ⟨message, ?_⟩, fun d hd => ?_⟩ <;>
    cases h : data.isNull <;> simp_all [errorObject, List.lookup_cons]

theorem createErrorResponse_isResponse (id : Json) (error : JsonRpcError) (language : String) :
    IsResponse (createErrorResponse registry id error language) where
  isObject := rfl
  jsonrpc := by simp [createErrorResponse, List.lookup_cons]
  id := by simp [createErrorResponse, List.lookup_cons]
  resultXorError := by simp [createErrorResponse, List.lookup_cons]
  error e he := by
    simp only [createErrorResponse, get?_obj, List.lookup_cons] at he
    simp only [String.reduceBEq, Option.some.injEq] at he
    exact he ▸ errorObject_isErrorMember _ _ _

@[simp] theorem createErrorResponse_id (id : Json) (error : JsonRpcError) (language : String) :
    (createErrorResponse registry id error language).get? "id" = some id := by
  simp [createErrorResponse, List.lookup_cons]

theorem resultResponse_isResponse (id result : Json) : IsResponse (resultResponse id result) where
  isObject := rfl
  jsonrpc := by simp [resultResponse, List.lookup_cons]
  id := by simp [resultResponse, List.lookup_cons]
  resultXorError := by simp [resultResponse, List.lookup_cons]
  error e he := by simp [resultResponse, List.lookup_cons] at he

@[simp] theorem resultResponse_id (id result : Json) :
    (resultResponse id result).get? "id" = some id := by
  simp [resultResponse, List.lookup_cons]

theorem catchResponse_isResponse (id : Json) (thrown : Thrown) :
    IsResponse (catchResponse registry id thrown) := by
  cases thrown <;> exact createErrorResponse_isResponse ..

@[simp] theorem catchResponse_id (id : Json) (thrown : Thrown) :
    (catchResponse registry id thrown).get? "id" = some id := by
  cases thrown <;> exact createErrorResponse_id ..

/-- An answer built inside the `try` block is a success response or `MethodNotFound`. -/
theorem invokeMethod_eq_ok {name : String} {params id : Json} {st : σ} {response : Json}
    (h : (invokeMethod registry name params id st).1 = .ok response) :
    (∃ result, response = resultResponse id result) ∨
      ∃ language, response = createErrorResponse registry id Errors.MethodNotFound language := by
  unfold invokeMethod at h
  split at h
  · cases h
  · split at h
    · split at h
      · cases h
      · split at h <;> cases h
        exact .inl ⟨_, rfl⟩
    · cases h
      exact .inr ⟨_, rfl⟩

/-- Every response built inside the `try` block is well formed and carries `id`. -/
theorem invokeMethod_ok {name : String} {params id : Json} {st : σ} {response : Json}
    (h : (invokeMethod registry name params id st).1 = .ok response) :
    IsResponse response ∧ response.get? "id" = some id := by
  rcases invokeMethod_eq_ok registry h with ⟨_, rfl⟩ | ⟨_, rfl⟩
  · exact ⟨resultResponse_isResponse .., resultResponse_id ..⟩
  · exact ⟨createErrorResponse_isResponse .., createErrorResponse_id ..⟩

/-- A request that passes the shape check is answered by a well-formed response that
echoes its `id`, whichever way the call ends. -/
theorem processRequest_of_requestMethod {request : Json} {name : String} (st : σ)
    (hm : requestMethod request = some name) :
    IsResponse (processRequest registry request st).1 ∧
      (processRequest registry request st).1.get? "id" = some (requestId request) := by
  simp only [processRequest, hm]
  split
  · next h => exact invokeMethod_ok registry (congrArg Prod.fst h)
  · exact ⟨catchResponse_isResponse .., catchResponse_id ..⟩

theorem processRequest_isResponse (request : Json) (st : σ) :
    IsResponse (processRequest registry request st).1 := by
  cases hm : requestMethod request with
  | none => simpa only [processRequest, hm] using createErrorResponse_isResponse ..
  | some name => exact (processRequest_of_requestMethod registry st hm).1

/-- Every JSON value is answered by a well-formed JSON-RPC 2.0 response.  A value that
fails the shape check gets `InvalidRequest` with a null `id`; any other gets its own
`id` back, or null when it has none. -/
theorem processRequest_wellFormed (request : Json) (st : σ) :
    IsResponse (processRequest registry request st).1 ∧
      (requestMethod request = none →
        (processRequest registry request st).1.get? "id" = some .null ∧
          ((processRequest registry request st).1.get? "error").bind (·.get? "code") =
            some (.int (-32600))) ∧
      (requestMethod request ≠ none →
        (processRequest registry request st).1.get? "id" = some (requestId request)) := by
  refine ⟨processRequest_isResponse registry request st, fun hm => ?_, fun hm => ?_⟩
  · simp [processRequest, hm, createErrorResponse, errorObject, List.lookup_cons, Errors.InvalidRequest]
  · obtain ⟨name, hname⟩ := Option.ne_none_iff_exists'.mp hm
    exact (processRequest_of_requestMethod registry st hname).2

/-! ## Which handler a request calls -/

/-- With a language that converts and a registered method, the `try` block calls the
method's handler once and builds the success response from its result. -/
theorem invokeMethod_call {name : String} {params : Json} {method : MethodInfo σ}
    {language : String} (id : Json) (st : σ) (hlookup : registry.methods.lookup name = some method)
    (hlang : requestLanguage params = .ok language) :
    invokeMethod registry name params id st =
      ((method.handler params language st).1.map (resultResponse id),
        (method.handler params language st).2) := by
  have hhas : registry.hasMethod name = true := by simp [MethodRegistry.hasMethod, hlookup]
  simp only [invokeMethod, hlang, hhas, MethodRegistry.getMethod, hlookup, if_true]
  split <;> simp_all [Except.map]

theorem invokeMethod_language_error {name : String} {params : Json} {what : String} (id : Json)
    (st : σ) (hlang : requestLanguage params = .error what) :
    invokeMethod registry name params id st = (.error (.exception what), st) := by
  simp only [invokeMethod, hlang]

theorem invokeMethod_unregistered {name : String} {params : Json} {language : String} (id : Json)
    (st : σ) (hreg : registry.hasMethod name = false) (hlang : requestLanguage params = .ok language) :
    invokeMethod registry name params id st =
      (.ok (createErrorResponse registry id Errors.MethodNotFound language), st) := by
  simp only [invokeMethod, hlang, hreg, Bool.false_eq_true, if_false]

/-- A request reaches a handler exactly when it passes the shape check, names a
registered method and carries no `language` that fails to convert.  The handler is then
called once, with the request's `params` (null when absent) and that language, and the
response and the new state are those of that one call.  Every other request calls no
handler and leaves the handlers' state as it was. -/
theorem processRequest_handler_call (request : Json) (st : σ) :
    (∀ name method language, requestMethod request = some name →
      registry.methods.lookup name = some method →
      requestLanguage (requestParams request) = .ok language →
      processRequest registry request st =
        (match (method.handler (requestParams request) language st).1 with
          | .ok result => resultResponse (requestId request) result
          | .error thrown => catchResponse registry (requestId request) thrown,
          (method.handler (requestParams request) language st).2)) ∧
    ((∀ name method language, requestMethod request = some name →
        registry.methods.lookup name = some method →
        requestLanguage (requestParams request) ≠ .ok language) →
      (processRequest registry request st).2 = st) := by
  refine ⟨fun name method language hm hlookup hlang => ?_, fun hnone => ?_⟩
  · simp only [processRequest, hm, invokeMethod_call registry _ st hlookup hlang]
    cases (method.handler (requestParams request) language st).1 <;> rfl
  · cases hm : requestMethod request with
    | none => simp only [processRequest, hm]
    | some name =>
      cases hlang : requestLanguage (requestParams request) with
      | error what =>
        simp only [processRequest, hm, invokeMethod_language_error registry _ st hlang]
      | ok language =>
        cases hreg : registry.hasMethod name with
        | false => simp only [processRequest, hm, invokeMethod_unregistered registry _ st hreg hlang]
        | true =>
          obtain ⟨method, hlookup⟩ := Option.isSome_iff_exists.mp hreg
          exact absurd hlang (hnone name method language hm hlookup)

/-- A handler that counts its calls, reached by a request in `ru-RU`: it runs once, and
the answer carries the count it saw. -/
theorem processRequest_handler_call_counter :
    let registry : MethodRegistry Nat :=
      MethodRegistry.init.registerMethod ⟨"inc", fun _ _ n => (.ok (.int n), n + 1)⟩
    let request := Json.obj [("jsonrpc", .str "2.0"), ("method", .str "inc"),
      ("params", .obj [("language", .str "ru-RU")]), ("id", .int 7)]
    processRequest registry request 0 = (resultResponse (.int 7) (.int 0), 1) := by
  intro registry request
  exact (processRequest_handler_call registry request 0).1 "inc" _ "ru-RU" rfl rfl rfl

/-! ## Which error a request gets -/

/-- A request that passes the shape check and names no registered method is answered
without calling anything.  When its language converts, the answer is `MethodNotFound`
with the catalog's text in that language; when `params.language` is not a string, the
conversion throws before the registry is asked, and the answer is `InternalError` with
the catalog's `en-US` text. -/
theorem processRequest_unregistered (request : Json) (st : σ) {name : String}
    (hm : requestMethod request = some name) (hreg : registry.hasMethod name = false) :
    processRequest registry request st =
      (.obj [("jsonrpc", .str "2.0"),
        ("error", match requestLanguage (requestParams request) with
          | .ok language => errorObject (-32601) (registry.getErrorMessage (-32601) language) .null
          | .error _ => errorObject (-32603) (registry.getErrorMessage (-32603) "en-US") .null),
        ("id", requestId request)], st) := by
  cases hlang : requestLanguage (requestParams request) with
  | ok language =>
    simp only [processRequest, hm, invokeMethod_unregistered registry _ st hreg hlang,
      createErrorResponse, ite_isNull_self]
    rfl
  | error what =>
    simp only [processRequest, hm, invokeMethod_language_error registry _ st hlang, catchResponse,
      createErrorResponse, ite_isNull_self]
    rfl

/-- `processRequest_unregistered` at a request for the unknown method `nope` with no
`params`: `MethodNotFound` in `en-US`. -/
theorem processRequest_unregistered_nope :
    let request := Json.obj [("jsonrpc", .str "2.0"), ("method", .str "nope"), ("id", .int 1)]
    requestMethod request = some "nope" ∧ (MethodRegistry.init : MethodRegistry Unit).hasMethod "nope" = false ∧
      processRequest MethodRegistry.init request () =
        (.obj [("jsonrpc", .str "2.0"), ("error", errorObject (-32601) "Method not found" .null),
          ("id", .int 1)], ()) :=
  ⟨rfl, rfl, processRequest_unregistered _ _ () rfl rfl⟩

/-- An unknown method asked for with `params.language` a number is answered with
`InternalError`, not `MethodNotFound`: the conversion of the language throws before the
registry is asked. -/
theorem processRequest_unregistered_language_number :
    let request := Json.obj [("jsonrpc", .str "2.0"), ("method", .str "nope"),
      ("params", .obj [("language", .int 1)]), ("id", .int 1)]
    (processRequest (MethodRegistry.init : MethodRegistry Unit) request ()).1 =
      .obj [("jsonrpc", .str "2.0"), ("error", errorObject (-32603) "Internal error" .null),
        ("id", .int 1)] :=
  rfl

@[simp] theorem createErrorResponse_error (id : Json) (error : JsonRpcError) (language : String) :
    (createErrorResponse registry id error language).get? "error" =
      some (errorObject error.code (registry.getErrorMessage error.code language) error.data) := by
  simp [createErrorResponse, List.lookup_cons]

/-- The `error` member of every answer, whichever path built it, is the catalog's text
for its code: in the request's language on the `MethodNotFound` path, and in `en-US` on
every other, the two `catch` clauses included. -/
theorem processRequest_error_member (request : Json) (st : σ) {error : Json}
    (h : (processRequest registry request st).1.get? "error" = some error) :
    ∃ code language data, error = errorObject code (registry.getErrorMessage code language) data ∧
      (code ≠ -32601 → language = "en-US") := by
  have herror : ∀ {id : Json} {e : JsonRpcError} {language : String},
      (createErrorResponse registry id e language).get? "error" = some error →
        error = errorObject e.code (registry.getErrorMessage e.code language) e.data :=
    fun h => (Option.some.inj ((createErrorResponse_error ..).symm.trans h)).symm
  unfold processRequest at h
  split at h
  · exact ⟨_, _, _, herror h, fun _ => rfl⟩
  · split at h
    · next hok =>
      rcases invokeMethod_eq_ok registry (congrArg Prod.fst hok) with ⟨_, rfl⟩ | ⟨_, rfl⟩
      · simp [resultResponse, List.lookup_cons] at h
      · exact ⟨_, _, _, herror h, fun hc => absurd rfl hc⟩
    · next thrown _ _ => cases thrown <;> exact ⟨_, _, _, herror h, fun _ => rfl⟩

/-! ## Batches -/

/-- The handler state after dispatching `requests` one after another from `st`. -/
def stateAfter (requests : List Json) (st : σ) : σ :=
  requests.foldl (fun s request => (processRequest registry request s).2) st

/-- The responses to `requests` one after another from `st`, each in the state the
previous ones left. -/
def respondEach : List Json → σ → List Json
  | [], _ => []
  | request :: rest, st =>
    (processRequest registry request st).1 :: respondEach rest (processRequest registry request st).2

theorem foldl_batchStep (requests : List Json) (acc : List Json) (st : σ) :
    requests.foldl (batchStep registry) (acc, st) =
      (acc ++ respondEach registry requests st, stateAfter registry requests st) := by
  induction requests generalizing acc st with
  | nil => simp [respondEach, stateAfter]
  | cons request rest ih =>
    simp only [List.foldl_cons, batchStep, (processRequest_isResponse ..).isNull_eq_false, ih]
    simp [respondEach, stateAfter]

theorem length_respondEach (requests : List Json) (st : σ) :
    (respondEach registry requests st).length = requests.length := by
  induction requests generalizing st <;> simp_all [respondEach]

theorem getElem?_respondEach (requests : List Json) (st : σ) (i : Nat) (hi : i < requests.length) :
    (respondEach registry requests st)[i]? =
      some (processRequest registry requests[i] (stateAfter registry (requests.take i) st)).1 := by
  induction requests generalizing st i with
  | nil => simp at hi
  | cons request rest ih =>
    cases i with
    | zero => simp [respondEach, stateAfter]
    | succ i => simpa [respondEach, stateAfter] using ih _ i (by simpa using hi)

/-- A batch of `N` values is answered by an array of exactly `N` responses, the `i`-th
being the response to the `i`-th value in the handler state left by the ones before. -/
theorem processBatchRequest_elementwise (requests : List Json) (st : σ) :
    ∃ responses : List Json,
      processBatchRequest registry requests st = (.arr responses, stateAfter registry requests st) ∧
        responses.length = requests.length ∧
        ∀ i (hi : i < requests.length), responses[i]? =
          some (processRequest registry requests[i] (stateAfter registry (requests.take i) st)).1 :=
  ⟨respondEach registry requests st, by simp [processBatchRequest, foldl_batchStep],
    length_respondEach registry requests st, getElem?_respondEach registry requests st⟩

end ArchitectureCourse.JsonRpc
