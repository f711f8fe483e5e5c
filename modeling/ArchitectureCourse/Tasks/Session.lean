import ArchitectureCourse.Tasks.Soap
import ArchitectureCourse.Support.Workers

/-!
# Connections of the SOAP server

`SOAPServer::DoAccept` runs every connection on a detached thread of its own, and the
thread runs `HandleSession`: it reads a request, answers it, and reads the next as long
as the request asked to keep the connection alive.  A `POST` goes to
`HandleSOAPRequest`; a `GET` is answered with the file `taskmanagement.wsdl`, or with a
short document naming it when the file does not open; any other method is answered
`400 Invalid request method`.  When the client sends nothing more before a request
without keep-alive, `http::read` throws and the session ends.

A session answers the requests up to and including the first one without keep-alive,
each on the manager that the `POST`s before it left, and leaves the manager that the
bodies of its `POST`s, handled in order, leave; a `GET` or another method never reaches
the manager.

Every thread shares the one `TaskManager`, and each of its calls holds `tasksMutex`, so
a session is a `Worker` whose calls are the manager calls of its requests in order: one
for a create, a get or a delete, two for an update.  Run alone, it is the session
above.  Every call keeps a manager fed through SOAP, given the manager it was made on,
so over every interleaving of any connections every stored task is stored as the
handlers store it, and the manager restarts from its data file with every task.
-/

namespace ArchitectureCourse.Tasks.SOAPServer

open TaskManager

/-! ## Requests on a connection -/

/-- `http::verb`, as far as `HandleSession` tells the methods apart. -/
inductive Verb where
  | post
  | get
  /-- Any other method. -/
  | other
  deriving DecidableEq, Repr

/-- A request as `HandleSession` reads it: the method, the body and `keep_alive()`. -/
structure HttpRequest where
  method : Verb
  body : StdString
  keepAlive : Bool

/-- A response as `HandleSession` writes it: the status, the `Content-Type` and the
body. -/
structure HttpResponse where
  status : Nat
  contentType : String
  body : StdString
  deriving DecidableEq, Repr

/-- The body of the answer to a `GET` when `taskmanagement.wsdl` does not open. -/
def wsdlFallback : StdString :=
  .ofString ("<?xml version=\"1.0\"?>" ++ "<wsdl:definitions " ++
    "xmlns:wsdl=\"http://schemas.xmlsoap.org/wsdl/\">" ++ "<wsdl:message>WSDL доступен по адресу: " ++
    "taskmanagement.wsdl</wsdl:message>" ++ "</wsdl:definitions>")

section Session

variable (parse : StdString → Except StdString XmlNode) (save : XmlNode → StdString)
  (wsdlFile : Option StdString)

/-- One pass of the loop of `HandleSession`: the response to a request and the manager
after it.  `wsdlFile` is the content of `taskmanagement.wsdl` when the file opens. -/
def respond (req : HttpRequest) (m : TaskManager) : HttpResponse × TaskManager :=
  match req.method with
  | .post =>
    (⟨200, "text/xml; charset=utf-8", (handleSOAPRequest parse save req.body m).1⟩,
      (handleSOAPRequest parse save req.body m).2)
  | .get => (⟨200, "text/xml; charset=utf-8", wsdlFile.getD wsdlFallback⟩, m)
  | .other => (⟨400, "text/plain", .ofString "Invalid request method"⟩, m)

/-- `HandleSession` on the requests the client sends, served alone: each is answered, and
the loop stops after the first without keep-alive, or when the client sends no more. -/
def handleSession : List HttpRequest → TaskManager → List HttpResponse × TaskManager
  | [], m => ([], m)
  | req :: rest, m =>
    if req.keepAlive then
      ((respond parse save wsdlFile req m).1 ::
          (handleSession rest (respond parse save wsdlFile req m).2).1,
        (handleSession rest (respond parse save wsdlFile req m).2).2)
    else ([(respond parse save wsdlFile req m).1], (respond parse save wsdlFile req m).2)

/-! ## What a session answers -/

/-- The requests a session reads: those up to and including the first without
keep-alive. -/
def sessionRequests (requests : List HttpRequest) : List HttpRequest :=
  requests.take ((requests.takeWhile (·.keepAlive)).length + 1)

/-- The bodies of the `POST` requests, in order. -/
def postBodies (requests : List HttpRequest) : List StdString :=
  (requests.filter (·.method = .post)).map (·.body)

theorem sessionRequests_cons (req : HttpRequest) (rest : List HttpRequest) :
    sessionRequests (req :: rest) = if req.keepAlive then req :: sessionRequests rest else [req] := by
  cases h : req.keepAlive <;> simp [sessionRequests, List.takeWhile_cons, h]

theorem postBodies_cons (req : HttpRequest) (rest : List HttpRequest) :
    postBodies (req :: rest) = postBodies [req] ++ postBodies rest := by
  by_cases h : req.method = .post <;> simp [postBodies, List.filter_cons, h]

theorem runSoap_append (requests requests' : List StdString) (m : TaskManager) :
    runSoap parse save (requests ++ requests') m = runSoap parse save requests' (runSoap parse save requests m) :=
  List.foldl_append _ _ _ _

/-- Only a `POST` reaches the manager. -/
theorem respond_manager (req : HttpRequest) (m : TaskManager) :
    (respond parse save wsdlFile req m).2 = runSoap parse save (postBodies [req]) m := by
  unfold respond
  cases h : req.method <;> simp [postBodies, runSoap, h]

/-- A session answers the requests up to and including the first without keep-alive,
each as one pass of the loop on the manager that the `POST`s before it left, and leaves
the manager that the bodies of its `POST`s, handled in order, leave. -/
theorem handleSession_spec (requests : List HttpRequest) (m : TaskManager) :
    (handleSession parse save wsdlFile requests m).2 =
        runSoap parse save (postBodies (sessionRequests requests)) m ∧
      (handleSession parse save wsdlFile requests m).1.length = (sessionRequests requests).length ∧
      ∀ (i : Nat) (req : HttpRequest), (sessionRequests requests)[i]? = some req →
        (handleSession parse save wsdlFile requests m).1[i]? =
          some (respond parse save wsdlFile req
            (runSoap parse save (postBodies ((sessionRequests requests).take i)) m)).1 := by
  induction requests generalizing m with
  | nil => exact ⟨rfl, rfl, fun _ _ h => by simp [sessionRequests] at h⟩
  | cons req rest ih =>
    have hm := respond_manager parse save wsdlFile req m
    rw [sessionRequests_cons]
    cases hkeep : req.keepAlive with
    | false =>
      refine ⟨by simp [handleSession, hkeep, hm], by simp [handleSession, hkeep], fun i r hr => ?_⟩
      cases i with
      | zero =>
        obtain rfl : req = r := by simpa using hr
        simp [handleSession, hkeep, postBodies, runSoap]
      | succ i => simp at hr
    | true =>
      obtain ⟨hstore, hlength, hanswers⟩ := ih (respond parse save wsdlFile req m).2
      have hrun : ∀ l, runSoap parse save (postBodies (req :: l)) m =
          runSoap parse save (postBodies l) (respond parse save wsdlFile req m).2 := by
        intro l
        rw [postBodies_cons, runSoap_append, hm]
      refine ⟨?_, by simp [handleSession, hkeep, hlength], fun i r hr => ?_⟩
      · simp only [handleSession, hkeep, if_true, hstore, hrun]
      cases i with
      | zero =>
        obtain rfl : req = r := by simpa using hr
        simp [handleSession, hkeep, postBodies, runSoap]
      | succ i => simpa [handleSession, hkeep, hrun] using hanswers i r (by simpa using hr)

/-! ## Connections as threads -/

/-- `HandleUpdateTask` as a thread: `GetTask`, then `UpdateTask` of the merged task. -/
def updateWorker (requestNode : XmlNode) : Worker TaskManager (Except StdString XmlNode) :=
  match taskElement requestNode with
  | .error what => .done (.error what)
  | .ok taskNode =>
    let request := updateRequest taskNode
    if request.taskId = [] then .done (.error (.ofString "TaskID is required"))
    else
      .call (fun m =>
          match m.getTask request.taskId with
          | none => .done (.error (.ofString "Task with ID \x27" ++ request.taskId ++ .ofString "\x27 not found"))
          | some existing =>
            let task := mergeUpdate existing request
            .single fun m =>
              match m.updateTask task with
              | (false, m') =>
                (.error (.ofString "Failed to update task with ID \x27" ++ request.taskId ++ .ofString "\x27"), m')
              | (true, m') => (.ok (createXMLResponse task), m'))
        fun m => m

/-- A handler as a thread: the update makes two calls; a create, a get or a delete is
one step, its checks included, as they touch nothing shared. -/
def Operation.worker : Operation → XmlNode → Worker TaskManager (Except StdString XmlNode)
  | .updateTask, node => updateWorker node
  | op, node => .single (op.handle node)

/-- `ProcessSOAPMessage` as a thread: finding the operation touches nothing shared. -/
def processWorker (doc : XmlNode) : Worker TaskManager (Except StdString XmlNode) :=
  match doc.child "soap:Envelope" <|> doc.child "Envelope" with
  | none => .done (.error (.ofString "SOAP Envelope not found"))
  | some envelope =>
    match envelope.child "soap:Body" <|> envelope.child "Body" with
    | none => .done (.error (.ofString "SOAP Body not found"))
    | some body =>
      match body.children.findSome? fun child => (Operation.ofName child.name).map (·, child) with
      | none => .done (.error (.ofString "Unknown SOAP operation"))
      | some (op, child) => op.worker child

/-- `HandleSOAPRequest` as a thread. -/
def requestWorker (soapRequest : StdString) : Worker TaskManager StdString :=
  match parse soapRequest with
  | .error description =>
    .done (createSOAPFault (.ofString "SOAP-ENV:Server")
      (.ofString "Failed to parse SOAP request: " ++ description))
  | .ok doc =>
    (processWorker doc).bind fun
      | .ok response => .done (createSOAPResponse (save response))
      | .error what => .done (createSOAPFault (.ofString "SOAP-ENV:Server") what)

/-- One pass of the loop of `HandleSession` as a thread. -/
def respondWorker (req : HttpRequest) : Worker TaskManager HttpResponse :=
  match req.method with
  | .post => (requestWorker parse save req.body).bind fun body => .done ⟨200, "text/xml; charset=utf-8", body⟩
  | .get => .done ⟨200, "text/xml; charset=utf-8", wsdlFile.getD wsdlFallback⟩
  | .other => .done ⟨400, "text/plain", .ofString "Invalid request method"⟩

/-- The thread of a connection, on the requests its client sends. -/
def sessionWorker : List HttpRequest → Worker TaskManager (List HttpResponse)
  | [] => .done []
  | req :: rest =>
    (respondWorker parse save wsdlFile req).bind fun res =>
      if req.keepAlive then (sessionWorker rest).bind fun responses => .done (res :: responses)
      else .done [res]

/-! ## Run alone, a connection is the session -/

theorem updateWorker_runAlone (requestNode : XmlNode) (m : TaskManager) :
    (updateWorker requestNode).runAlone m = handleUpdateTask requestNode m := by
  unfold updateWorker handleUpdateTask
  rcases taskElement requestNode with what | taskNode
  · rfl
  dsimp only
  split
  · rfl
  cases hget : m.getTask (updateRequest taskNode).taskId with
  | none => simp [Worker.runAlone, hget]
  | some existing =>
    rcases h : m.updateTask (mergeUpdate existing (updateRequest taskNode)) with ⟨_ | _, m'⟩ <;>
      simp [Worker.runAlone, hget, h]

theorem processWorker_runAlone (doc : XmlNode) (m : TaskManager) :
    (processWorker doc).runAlone m = processSOAPMessage doc m := by
  unfold processWorker processSOAPMessage
  rcases doc.child "soap:Envelope" <|> doc.child "Envelope" with _ | envelope
  · rfl
  dsimp only
  rcases envelope.child "soap:Body" <|> envelope.child "Body" with _ | body
  · rfl
  dsimp only
  generalize body.children.findSome? _ = found
  rcases found with _ | ⟨op, child⟩
  · rfl
  cases op
  case updateTask => exact updateWorker_runAlone child m
  all_goals rfl

theorem requestWorker_runAlone (soapRequest : StdString) (m : TaskManager) :
    (requestWorker parse save soapRequest).runAlone m = handleSOAPRequest parse save soapRequest m := by
  unfold requestWorker handleSOAPRequest
  rcases parse soapRequest with description | doc
  · rfl
  · simp only [Worker.runAlone_bind, processWorker_runAlone]
    rcases processSOAPMessage doc m with ⟨_ | _, m'⟩ <;> rfl

/-- Run with no other connection's call in between, the thread of a connection is the
session `HandleSession` serves. -/
theorem sessionWorker_runAlone (requests : List HttpRequest) (m : TaskManager) :
    (sessionWorker parse save wsdlFile requests).runAlone m = handleSession parse save wsdlFile requests m := by
  have hrespond : ∀ req m, (respondWorker parse save wsdlFile req).runAlone m = respond parse save wsdlFile req m := by
    intro req m
    unfold respondWorker respond
    cases req.method
    · simp [Worker.runAlone_bind, requestWorker_runAlone, Worker.runAlone]
    all_goals rfl
  induction requests generalizing m with
  | nil => rfl
  | cons req rest ih =>
    cases hkeep : req.keepAlive <;>
      simp [sessionWorker, handleSession, hkeep, Worker.runAlone_bind, hrespond, ih, Worker.runAlone]

/-! ## Every interleaving of the connections -/

theorem SoapStore.updateTask {m : TaskManager} (h : SoapStore m) {task : Task} (ht : FromSoap task) :
    SoapStore (m.updateTask task).2 := by
  rcases updateTask_spec m task with ⟨-, hc⟩ | ⟨-, hc⟩ <;> rw [hc]
  exacts [h.insert ht, h]

theorem updateWorker_keeps (requestNode : XmlNode) : (updateWorker requestNode).Keeps SoapStore := by
  unfold updateWorker
  rcases h : taskElement requestNode with what | taskNode
  · exact .done _
  dsimp only
  split
  · exact .done _
  refine .call (fun _ hm => hm) fun m hm => ?_
  split
  · exact .done _
  next existing hget =>
  have ht : FromSoap (mergeUpdate existing (updateRequest taskNode)) :=
    (hm.fromSoap _ _ hget).mergeUpdate (hm.key_eq _ _ hget).symm (getNodeValue_nul_free _ _)
      (getNodeValue_nul_free _ _)
  refine .single fun m' hm' => ?_
  rcases hc : m'.updateTask (mergeUpdate existing (updateRequest taskNode)) with ⟨_ | _, m''⟩ <;>
    simpa [hc] using hm'.updateTask ht

theorem processWorker_keeps (doc : XmlNode) : (processWorker doc).Keeps SoapStore := by
  unfold processWorker
  split
  · exact .done _
  split
  · exact .done _
  split
  · exact .done _
  next op child _ =>
  cases op
  case updateTask => exact updateWorker_keeps child
  all_goals exact .single fun m hm => hm.handle _ child

theorem sessionWorker_keeps (requests : List HttpRequest) :
    (sessionWorker parse save wsdlFile requests).Keeps SoapStore := by
  have hrequest : ∀ body, (requestWorker parse save body).Keeps SoapStore := by
    intro body
    unfold requestWorker
    split
    · exact .done _
    · exact (processWorker_keeps _).bind fun r => by cases r <;> exact .done _
  have hrespond : ∀ req, (respondWorker parse save wsdlFile req).Keeps SoapStore := by
    intro req
    unfold respondWorker
    split
    · exact (hrequest _).bind fun _ => .done _
    all_goals exact .done _
  induction requests with
  | nil => exact .done _
  | cons req rest ih =>
    refine (hrespond req).bind fun res => ?_
    split
    · exact ih.bind fun _ => .done _
    · exact .done _

/-- Connections in flight on a manager, each on a thread of its own. -/
def sessionPool (sessions : List (List HttpRequest)) (m : TaskManager) : Pool TaskManager (List HttpResponse) :=
  ⟨m, sessions.map (sessionWorker parse save wsdlFile)⟩

/-- Over every interleaving of the calls of any connections, each sending any requests,
a manager fed through SOAP stays fed through SOAP: every task stored under its own
`TaskID`, as the handlers store it. -/
theorem sessionPool_soapStore {sessions : List (List HttpRequest)} {m : TaskManager}
    {schedule : List Nat} {p : Pool TaskManager (List HttpResponse)} (hm : SoapStore m)
    (h : (sessionPool parse save wsdlFile sessions m).run schedule = some p) : SoapStore p.store :=
  (Pool.run_keeps (fun w hw => by
    obtain ⟨requests, -, rfl⟩ := List.mem_map.mp hw
    exact sessionWorker_keeps parse save wsdlFile requests) hm h).1

/-- A manager that starts empty and serves any connections concurrently, under any
interleaving of their calls, restarts from its data file with every task it held, when
its task count and string lengths fit the file's `size_t` fields. -/
theorem sessionPool_restart_restores_tasks {sessions : List (List HttpRequest)} {schedule : List Nat}
    {p : Pool TaskManager (List HttpResponse)}
    (h : (sessionPool parse save wsdlFile sessions empty).run schedule = some p)
    (hcount : p.store.getTaskCount < 2 ^ 64)
    (hlen : ∀ k task, p.store.getTask k = some task →
      task.title.length < 2 ^ 64 ∧ task.description.length < 2 ^ 64) :
    ∃ m', empty.loadFromFile p.store.saveToFile = some m' ∧ ∀ k, m'.getTask k = p.store.getTask k :=
  getTask_loadFromFile_saveToFile
    ((sessionPool_soapStore parse save wsdlFile soapStore_empty h).persistable hlen) hcount

/-- Serving the connections one at a time, each to its end, is one of the
interleavings, and ends with the manager the sessions served one after another leave. -/
theorem sessionPool_serial (sessions : List (List HttpRequest)) (m : TaskManager) :
    ∃ (schedule : List Nat) (p : Pool TaskManager (List HttpResponse)),
      (sessionPool parse save wsdlFile sessions m).run schedule = some p ∧
      p.store = sessions.foldl (fun m requests => (handleSession parse save wsdlFile requests m).2) m ∧
      ∀ (i : Nat) (requests : List HttpRequest), sessions[i]? = some requests →
        p.workers[i]? = some (.done (handleSession parse save wsdlFile requests
          ((sessions.take i).foldl (fun m requests => (handleSession parse save wsdlFile requests m).2) m)).1) :=
  Pool.run_serial _ _ (sessionWorker_runAlone parse save wsdlFile) sessions m

end Session

/-- One connection that posts a `CreateTaskRequest` for the task `"t"` titled `"a"` and
closes, on an empty manager: after its one call the manager restarts with the task. -/
theorem sessionPool_restart_restores_tasks_create :
    let taskNode := XmlNode.element "Task"
      [.element "TaskID" [.text ⟨[116], by decide⟩], .element "Title" [.text ⟨[97], by decide⟩]]
    let parse : StdString → Except StdString XmlNode := fun _ =>
      .ok (.document [.element "Envelope" [.element "Body" [.element "CreateTaskRequest" [taskNode]]]])
    let save : XmlNode → StdString := fun _ => []
    ∃ p, (sessionPool parse save none [[⟨.post, [], false⟩]] empty).run [0] = some p ∧
      ∃ m', empty.loadFromFile p.store.saveToFile = some m' ∧ ∀ k, m'.getTask k = p.store.getTask k := by
  intro taskNode parse save
  have hrun : (sessionPool parse save none [[⟨.post, [], false⟩]] empty).run [0] =
      some ⟨⟨(∅ : AList _).insert [116] ⟨[116], [97], [], .NEW⟩⟩,
        [.done [⟨200, "text/xml; charset=utf-8", createSOAPResponse []⟩]]⟩ :=
    rfl
  refine ⟨_, hrun, sessionPool_restart_restores_tasks parse save none hrun (by decide) ?_⟩
  intro k task hk
  rcases getTask_insert_eq_some hk with ⟨-, rfl⟩ | hk
  · decide
  · simp [getTask] at hk

end ArchitectureCourse.Tasks.SOAPServer
