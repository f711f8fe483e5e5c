import ArchitectureCourse.Tasks.Persistence
import ArchitectureCourse.Tasks.UpdateRace

/-!
# The SOAP front end

`SOAPServer::HandleSOAPRequest` parses a request body with pugixml, finds the
operation in the SOAP body, runs its handler on the shared `TaskManager`, and wraps the
handler's document in a SOAP envelope.  Every exception on the way (from the parser, a
missing element, `ValidateTaskData` or the manager) becomes a SOAP fault carrying its
`what()` text.

pugixml keeps each text of a document NUL-terminated, and the handlers read each one
as a C string, so a `CString` holds no NUL byte.  Parsing a request and serialising a
response document belong to the library and are parameters.

Every task the handlers store sits under its own `TaskID`, which is non-empty and at
most 100 bytes long, has a non-empty title, strings without NUL bytes and a named status
(`SoapStore`); `Tasks/Session.lean` carries this over every interleaving of connections,
so that the manager restarts from its data file with every task.  Run alone,
`HandleUpdateTask` is the two steps of the race model one after the other, and a fault
carries its `what()` text unescaped.
-/

namespace ArchitectureCourse.Tasks

open TaskManager

/-! ## Documents -/

/-- A C string: bytes with no NUL among them. -/
structure CString where
  bytes : StdString
  nul_free : 0 ∉ bytes

/-- The empty C string. -/
def CString.empty : CString := ⟨[], List.not_mem_nil 0⟩

/-- `s.c_str()` read as a C string: the bytes before the first NUL. -/
def CString.ofStdString (s : StdString) : CString :=
  ⟨ofCString s, zero_not_mem_ofCString s⟩

/-- A node of a parsed document: an element with its name and children, or a text
(PCDATA or CDATA).  The server never looks at comments or processing instructions,
which are left out. -/
inductive XmlNode where
  | element (name : String) (children : List XmlNode)
  | text (value : CString)

namespace XmlNode

/-- `xml_node::name()`, empty for a text. -/
def name : XmlNode → String
  | element name _ => name
  | text _ => ""

/-- The children of a node; a text has none. -/
def children : XmlNode → List XmlNode
  | element _ children => children
  | text _ => []

/-- `xml_node::child(name)`: the first child element with that name. -/
def child (node : XmlNode) (name : String) : Option XmlNode :=
  node.children.find? fun
    | element n _ => n == name
    | text _ => false

/-- `xml_node::text().as_string()`: a text's own value, or the value of an element's
first text child, or the empty string. -/
def textValue : XmlNode → CString
  | text value => value
  | element _ children =>
    (children.findSome? fun
      | text value => some value
      | element _ _ => none).getD .empty

end XmlNode

/-- A document: the document node, whose children are the top-level nodes. -/
def XmlNode.document (nodes : List XmlNode) : XmlNode :=
  .element "" nodes

namespace SOAPServer

/-! ## Handlers -/

/-- `GetNodeValue`: the text of the child `nodeName`, else of `tns:nodeName`, else the
empty string. -/
def getNodeValue (parent : XmlNode) (nodeName : String) : StdString :=
  match parent.child nodeName <|> parent.child ("tns:" ++ nodeName) with
  | some node => node.textValue.bytes
  | none => []

/-- `ValidateTaskData`: the text of the first check that fails. -/
def validateTaskData (taskId title : StdString) : Except StdString Unit :=
  if taskId = [] then .error (.ofString "TaskID is required")
  else if title = [] then .error (.ofString "Title is required")
  else if taskId.length > 100 then .error (.ofString "TaskID is too long (max 100 characters)")
  else if title.length > 200 then .error (.ofString "Title is too long (max 200 characters)")
  else .ok ()

/-- The `Task` element of a create or update request, or `tns:Task`. -/
def taskElement (requestNode : XmlNode) : Except StdString XmlNode :=
  match requestNode.child "Task" <|> requestNode.child "tns:Task" with
  | some node => .ok node
  | none => .error (.ofString "Task element not found")

/-- The four fields of a `Task` element; an empty one was not given. -/
def updateRequest (taskNode : XmlNode) : UpdateRequest :=
  ⟨getNodeValue taskNode "TaskID", getNodeValue taskNode "Title",
    getNodeValue taskNode "Description", getNodeValue taskNode "Status"⟩

/-- The document `CreateXMLResponse` serialises. -/
def createXMLResponse (task : Task) : XmlNode :=
  .document [.element "Task" [
    .element "TaskID" [.text (.ofStdString task.taskId)],
    .element "Title" [.text (.ofStdString task.title)],
    .element "Description" [.text (.ofStdString task.description)],
    .element "Status" [.text (.ofStdString (taskStatusToString task.status))]]]

/-- The document `CreateDeleteResponse` serialises. -/
def createDeleteResponse (success : Bool) : XmlNode :=
  .document [.element "DeleteTaskResponse"
    [.element "Success" [.text (.ofStdString (.ofString (if success then "true" else "false")))]]]

/-- `HandleCreateTask`. -/
def handleCreateTask (requestNode : XmlNode) (m : TaskManager) : Except StdString XmlNode × TaskManager :=
  match taskElement requestNode with
  | .error what => (.error what, m)
  | .ok taskNode =>
    let taskId := getNodeValue taskNode "TaskID"
    let title := getNodeValue taskNode "Title"
    let description := getNodeValue taskNode "Description"
    let statusStr := getNodeValue taskNode "Status"
    match validateTaskData taskId title with
    | .error what => (.error what, m)
    | .ok () =>
      let status := if statusStr = [] then TaskStatus.NEW else stringToTaskStatus statusStr
      let task : Task := ⟨taskId, title, description, status⟩
      match m.createTask task with
      | (false, m') => (.error (.ofString "Task with ID \x27" ++ taskId ++ .ofString "\x27 already exists"), m')
      | (true, m') => (.ok (createXMLResponse task), m')

/-- `HandleGetTask`. -/
def handleGetTask (requestNode : XmlNode) (m : TaskManager) : Except StdString XmlNode :=
  let taskId := getNodeValue requestNode "TaskID"
  if taskId = [] then .error (.ofString "TaskID is required")
  else
    match m.getTask taskId with
    | none => .error (.ofString "Task with ID \x27" ++ taskId ++ .ofString "\x27 not found")
    | some task => .ok (createXMLResponse task)

/-- `HandleUpdateTask`: the fields the request leaves empty are taken from the task
read with `GetTask`, and the result is written with `UpdateTask`. -/
def handleUpdateTask (requestNode : XmlNode) (m : TaskManager) : Except StdString XmlNode × TaskManager :=
  match taskElement requestNode with
  | .error what => (.error what, m)
  | .ok taskNode =>
    let request := updateRequest taskNode
    if request.taskId = [] then (.error (.ofString "TaskID is required"), m)
    else
      match m.getTask request.taskId with
      | none => (.error (.ofString "Task with ID \x27" ++ request.taskId ++ .ofString "\x27 not found"), m)
      | some existing =>
        let task := mergeUpdate existing request
        match m.updateTask task with
        | (false, m') =>
          (.error (.ofString "Failed to update task with ID \x27" ++ request.taskId ++ .ofString "\x27"), m')
        | (true, m') => (.ok (createXMLResponse task), m')

/-- `HandleDeleteTask`: an unknown id is answered with `false`, not with a fault. -/
def handleDeleteTask (requestNode : XmlNode) (m : TaskManager) : Except StdString XmlNode × TaskManager :=
  let taskId := getNodeValue requestNode "TaskID"
  if taskId = [] then (.error (.ofString "TaskID is required"), m)
  else
    let result := m.deleteTask taskId
    (.ok (createDeleteResponse result.1), result.2)

/-! ## Dispatch -/

/-- The four operations of the service. -/
inductive Operation where
  | createTask
  | getTask
  | updateTask
  | deleteTask
  deriving DecidableEq, Repr

/-- The operation a body element names, with or without the `tns:` prefix. -/
def Operation.ofName (name : String) : Option Operation :=
  if name = "CreateTaskRequest" ∨ name = "tns:CreateTaskRequest" then some .createTask
  else if name = "GetTaskRequest" ∨ name = "tns:GetTaskRequest" then some .getTask
  else if name = "UpdateTaskRequest" ∨ name = "tns:UpdateTaskRequest" then some .updateTask
  else if name = "DeleteTaskRequest" ∨ name = "tns:DeleteTaskRequest" then some .deleteTask
  else none

/-- The handler of an operation, on its request element. -/
def Operation.handle : Operation → XmlNode → TaskManager → Except StdString XmlNode × TaskManager
  | .createTask, node, m => handleCreateTask node m
  | .getTask, node, m => (handleGetTask node m, m)
  | .updateTask, node, m => handleUpdateTask node m
  | .deleteTask, node, m => handleDeleteTask node m

/-- `ProcessSOAPMessage`: the envelope, its body, and the first child of the body that
names an operation. -/
def processSOAPMessage (doc : XmlNode) (m : TaskManager) : Except StdString XmlNode × TaskManager :=
  match doc.child "soap:Envelope" <|> doc.child "Envelope" with
  | none => (.error (.ofString "SOAP Envelope not found"), m)
  | some envelope =>
    match envelope.child "soap:Body" <|> envelope.child "Body" with
    | none => (.error (.ofString "SOAP Body not found"), m)
    | some body =>
      match body.children.findSome? fun child => (Operation.ofName child.name).map (·, child) with
      | none => (.error (.ofString "Unknown SOAP operation"), m)
      | some (op, child) => op.handle child m

/-- `CreateSOAPResponse`: the handler's serialised document inside the envelope. -/
def createSOAPResponse (responseBody : StdString) : StdString :=
  .ofString "<?xml version=\"1.0\" encoding=\"UTF-8\"?>\n" ++
    .ofString "<soap:Envelope xmlns:soap=\"http://schemas.xmlsoap.org/soap/envelope/\">\n" ++
    .ofString "  <soap:Body>\n" ++ responseBody ++ .ofString "\n" ++
    .ofString "  </soap:Body>\n" ++ .ofString "</soap:Envelope>\n"

/-- `CreateSOAPFault`: the code and the message are copied into the envelope as they
are. -/
def createSOAPFault (errorCode errorMessage : StdString) : StdString :=
  .ofString "<?xml version=\"1.0\" encoding=\"UTF-8\"?>\n" ++
    .ofString "<soap:Envelope xmlns:soap=\"http://schemas.xmlsoap.org/soap/envelope/\">\n" ++
    .ofString "  <soap:Body>\n" ++ .ofString "    <soap:Fault>\n" ++
    .ofString "      <faultcode>" ++ errorCode ++ .ofString "</faultcode>\n" ++
    .ofString "      <faultstring>" ++ errorMessage ++ .ofString "</faultstring>\n" ++
    .ofString "    </soap:Fault>\n" ++ .ofString "  </soap:Body>\n" ++ .ofString "</soap:Envelope>\n"

variable (parse : StdString → Except StdString XmlNode) (save : XmlNode → StdString)

/-- `HandleSOAPRequest`: the response envelope, or the fault for the exception that
stopped the request.  `parse` is `load_string` (its error is the parser's
description), `save` is `xml_document::save`. -/
def handleSOAPRequest (soapRequest : StdString) (m : TaskManager) : StdString × TaskManager :=
  match parse soapRequest with
  | .error description =>
    (createSOAPFault (.ofString "SOAP-ENV:Server")
      (.ofString "Failed to parse SOAP request: " ++ description), m)
  | .ok doc =>
    match processSOAPMessage doc m with
    | (.ok response, m') => (createSOAPResponse (save response), m')
    | (.error what, m') => (createSOAPFault (.ofString "SOAP-ENV:Server") what, m')

/-- The manager after SOAP requests handled one at a time. -/
def runSoap (requests : List StdString) (m : TaskManager) : TaskManager :=
  requests.foldl (fun m request => (handleSOAPRequest parse save request m).2) m

/-! ## What each handler does -/

theorem getNodeValue_nul_free (parent : XmlNode) (nodeName : String) :
    0 ∉ getNodeValue parent nodeName := by
  unfold getNodeValue
  split
  · exact XmlNode.textValue _ |>.nul_free
  · exact List.not_mem_nil 0

theorem validateTaskData_eq_ok {taskId title : StdString} (h : validateTaskData taskId title = .ok ()) :
    taskId ≠ [] ∧ title ≠ [] ∧ taskId.length ≤ 100 ∧ title.length ≤ 200 := by
  unfold validateTaskData at h
  split_ifs at h with h₁ h₂ h₃ h₄
  exact ⟨h₁, h₂, by omega, by omega⟩

/-- A task as the SOAP handlers store it: a non-empty `TaskID` of at most 100 bytes, a
non-empty title, no NUL byte in its strings, and a named status. -/
structure FromSoap (task : Task) : Prop where
  taskId_ne_nil : task.taskId ≠ []
  taskId_length_le : task.taskId.length ≤ 100
  title_ne_nil : task.title ≠ []
  nul_free : 0 ∉ task.taskId ∧ 0 ∉ task.title ∧ 0 ∉ task.description
  status : ∀ value, task.status ≠ .unnamed value

theorem stringToTaskStatus_ne_unnamed (statusStr : StdString) (value : Int) :
    stringToTaskStatus statusStr ≠ .unnamed value := by
  unfold stringToTaskStatus
  split_ifs <;> simp

/-- `HandleCreateTask` fails and changes nothing, or stores a new task under a free id. -/
theorem handleCreateTask_effect (requestNode : XmlNode) (m : TaskManager) :
    (∃ what, handleCreateTask requestNode m = (.error what, m)) ∨
      ∃ task, FromSoap task ∧ m.getTask task.taskId = none ∧
        handleCreateTask requestNode m = (.ok (createXMLResponse task), ⟨m.tasks.insert task.taskId task⟩) := by
  unfold handleCreateTask
  split
  · exact .inl ⟨_, rfl⟩
  next taskNode _ =>
  dsimp only
  split
  · exact .inl ⟨_, rfl⟩
  next hv =>
  obtain ⟨hid, htitle, hlen, -⟩ := validateTaskData_eq_ok hv
  split
  next m' hc =>
    obtain rfl := createTask_eq_false hc
    exact .inl ⟨_, rfl⟩
  next m' hc =>
    obtain ⟨hnone, rfl⟩ := createTask_eq_true hc
    refine .inr ⟨_, ⟨hid, hlen, htitle, ⟨getNodeValue_nul_free _ _, getNodeValue_nul_free _ _,
      getNodeValue_nul_free _ _⟩, fun value => ?_⟩, hnone, rfl⟩
    split <;> simp [stringToTaskStatus_ne_unnamed]

theorem FromSoap.mergeUpdate {existing : Task} (he : FromSoap existing) {request : UpdateRequest}
    (hid : request.taskId = existing.taskId) (htitle : 0 ∉ request.title)
    (hdesc : 0 ∉ request.description) : FromSoap (mergeUpdate existing request) where
  taskId_ne_nil := by simpa [hid] using he.taskId_ne_nil
  taskId_length_le := by simpa [hid] using he.taskId_length_le
  title_ne_nil := by
    simp only [Tasks.mergeUpdate]
    split
    · exact he.title_ne_nil
    · assumption
  nul_free := by
    refine ⟨by simpa [hid] using he.nul_free.1, ?_, ?_⟩ <;> simp only [Tasks.mergeUpdate] <;> split
    exacts [he.nul_free.2.1, htitle, he.nul_free.2.2, hdesc]
  status value := by
    simp only [Tasks.mergeUpdate]
    split
    · exact he.status value
    · exact stringToTaskStatus_ne_unnamed _ value

/-- `HandleUpdateTask` fails and changes nothing, or replaces the stored task by its
merge with the request. -/
theorem handleUpdateTask_effect (requestNode : XmlNode) (m : TaskManager) :
    (∃ what, handleUpdateTask requestNode m = (.error what, m)) ∨
      ∃ taskNode existing, taskElement requestNode = .ok taskNode ∧
        m.getTask (updateRequest taskNode).taskId = some existing ∧
        handleUpdateTask requestNode m =
          (.ok (createXMLResponse (mergeUpdate existing (updateRequest taskNode))),
            ⟨m.tasks.insert (updateRequest taskNode).taskId (mergeUpdate existing (updateRequest taskNode))⟩) := by
  unfold handleUpdateTask
  split
  · exact .inl ⟨_, rfl⟩
  next taskNode he =>
  dsimp only
  split
  · exact .inl ⟨_, rfl⟩
  split
  · exact .inl ⟨_, rfl⟩
  next existing hget =>
  split
  next m' hc =>
    obtain rfl := updateTask_eq_false hc
    exact .inl ⟨_, rfl⟩
  next m' hc =>
    obtain ⟨-, rfl⟩ := updateTask_eq_true hc
    exact .inr ⟨taskNode, existing, he, hget, rfl⟩

/-- `HandleDeleteTask` fails and changes nothing, or answers whether a task was erased. -/
theorem handleDeleteTask_effect (requestNode : XmlNode) (m : TaskManager) :
    (∃ what, handleDeleteTask requestNode m = (.error what, m)) ∨
      ∃ success, (handleDeleteTask requestNode m).1 = .ok (createDeleteResponse success) ∧
        ((handleDeleteTask requestNode m).2 = m ∨
          ∃ taskId, (handleDeleteTask requestNode m).2 = ⟨m.tasks.erase taskId⟩) := by
  unfold handleDeleteTask
  dsimp only
  split
  · exact .inl ⟨_, rfl⟩
  · rcases deleteTask_spec m (getNodeValue requestNode "TaskID") with ⟨-, hd⟩ | ⟨-, hd⟩ <;> rw [hd]
    · exact .inr ⟨true, rfl, .inr ⟨_, rfl⟩⟩
    · exact .inr ⟨false, rfl, .inl rfl⟩

/-! ## A manager fed through SOAP -/

/-- A manager fed only through the SOAP handlers: every task stored under its own
`TaskID`, as the handlers store it. -/
structure SoapStore (m : TaskManager) : Prop where
  key_eq : ∀ k task, m.getTask k = some task → task.taskId = k
  fromSoap : ∀ k task, m.getTask k = some task → FromSoap task

theorem soapStore_empty : SoapStore empty :=
  ⟨by simp [empty, getTask], by simp [empty, getTask]⟩

theorem SoapStore.insert {m : TaskManager} (h : SoapStore m) {task : Task} (ht : FromSoap task) :
    SoapStore ⟨m.tasks.insert task.taskId task⟩ where
  key_eq k t hk := by
    rcases getTask_insert_eq_some hk with ⟨rfl, rfl⟩ | hk
    · rfl
    · exact h.key_eq k t hk
  fromSoap k t hk := by
    rcases getTask_insert_eq_some hk with ⟨-, rfl⟩ | hk
    · exact ht
    · exact h.fromSoap k t hk

theorem SoapStore.erase {m : TaskManager} (h : SoapStore m) (taskId : StdString) :
    SoapStore ⟨m.tasks.erase taskId⟩ :=
  ⟨fun k t hk => h.key_eq k t (getTask_erase_eq_some hk),
    fun k t hk => h.fromSoap k t (getTask_erase_eq_some hk)⟩

/-- Every handler keeps a manager fed through SOAP. -/
theorem SoapStore.handle {m : TaskManager} (h : SoapStore m) (op : Operation) (node : XmlNode) :
    SoapStore (op.handle node m).2 := by
  cases op with
  | createTask =>
    rcases handleCreateTask_effect node m with ⟨w, hc⟩ | ⟨task, ht, -, hc⟩ <;>
      simp only [Operation.handle, hc]
    exacts [h, h.insert ht]
  | getTask => exact h
  | updateTask =>
    rcases handleUpdateTask_effect node m with ⟨w, hc⟩ | ⟨taskNode, existing, -, hget, hc⟩ <;>
      simp only [Operation.handle, hc]
    · exact h
    · exact h.insert ((h.fromSoap _ _ hget).mergeUpdate (h.key_eq _ _ hget).symm
        (getNodeValue_nul_free _ _) (getNodeValue_nul_free _ _))
  | deleteTask =>
    rcases handleDeleteTask_effect node m with ⟨w, hc⟩ | ⟨-, -, hc | ⟨taskId, hc⟩⟩ <;>
      simp only [Operation.handle, hc]
    exacts [h, h, h.erase taskId]

theorem isCast_of_ne_unnamed {status : TaskStatus} (h : ∀ value, status ≠ .unnamed value) :
    status.IsCast := by
  cases status with
  | NEW => exact ⟨0, by decide, rfl⟩
  | IN_PROGRESS => exact ⟨1, by decide, rfl⟩
  | COMPLETED => exact ⟨2, by decide, rfl⟩
  | unnamed value => exact absurd rfl (h value)

/-- A manager fed through SOAP can be saved and loaded back, given titles and
descriptions whose lengths fit a `size_t`. -/
theorem SoapStore.persistable {m : TaskManager} (h : SoapStore m)
    (hlen : ∀ k task, m.getTask k = some task →
      task.title.length < 2 ^ 64 ∧ task.description.length < 2 ^ 64) :
    m.Persistable where
  key_eq := h.key_eq
  storable k task hk := by
    have hs := h.fromSoap k task hk
    have hid := hs.taskId_length_le
    exact ⟨⟨hs.nul_free.1, by omega⟩, ⟨hs.nul_free.2.1, (hlen k task hk).1⟩,
      ⟨hs.nul_free.2.2, (hlen k task hk).2⟩, isCast_of_ne_unnamed hs.status⟩

/-! ## The race model, run alone -/

/-- Run alone, the two locked steps of the race model compute `HandleUpdateTask`: the
same result, with the task written answered by its document, and the same manager. -/
theorem handleUpdateTask_runAlone {requestNode taskNode : XmlNode}
    (h : taskElement requestNode = .ok taskNode) (m : TaskManager) :
    ∃ n result m', runAlone (updateRequest taskNode) n .start m = some (.done result, m') ∧
      handleUpdateTask requestNode m = (result.map createXMLResponse, m') := by
  unfold handleUpdateTask
  simp only [h]
  split
  next hid => exact ⟨1, .error _, m, by simp [runAlone, updateStep, hid], rfl⟩
  next hid =>
  split
  next _ hget => exact ⟨1, .error _, m, by simp [runAlone, updateStep, hid, hget], rfl⟩
  next _ existing hget =>
  split
  next _ m' hc => exact ⟨2, .error _, m', by simp [runAlone, updateStep, hid, hget, hc], rfl⟩
  next _ m' hc => exact ⟨2, .ok _, m', by simp [runAlone, updateStep, hid, hget, hc], rfl⟩

/-- An `UpdateTaskRequest` for the task `"t"` on an empty manager. -/
theorem handleUpdateTask_runAlone_missing :
    let taskNode := XmlNode.element "Task" [.element "TaskID" [.text ⟨[116], by decide⟩]]
    let requestNode := XmlNode.element "UpdateTaskRequest" [taskNode]
    ∃ n result m', runAlone (updateRequest taskNode) n .start empty = some (.done result, m') ∧
      handleUpdateTask requestNode empty = (result.map createXMLResponse, m') := by
  intro taskNode requestNode
  exact handleUpdateTask_runAlone (by rfl) empty

/-! ## The text of a fault -/

/-- `CreateSOAPFault` puts the message between the `faultstring` tags byte for byte. -/
theorem createSOAPFault_faultstring (errorCode errorMessage : StdString) :
    StdString.ofString "<faultstring>" ++ errorMessage ++ StdString.ofString "</faultstring>" <:+:
      createSOAPFault errorCode errorMessage := by
  unfold createSOAPFault
  rw [show "      <faultstring>" = "      " ++ "<faultstring>" from rfl,
    show "</faultstring>\n" = "</faultstring>" ++ "\n" from rfl,
    StdString.ofString_append, StdString.ofString_append]
  exact ⟨StdString.ofString "<?xml version=\"1.0\" encoding=\"UTF-8\"?>\n" ++
      StdString.ofString "<soap:Envelope xmlns:soap=\"http://schemas.xmlsoap.org/soap/envelope/\">\n" ++
      StdString.ofString "  <soap:Body>\n" ++ StdString.ofString "    <soap:Fault>\n" ++
      StdString.ofString "      <faultcode>" ++ errorCode ++ StdString.ofString "</faultcode>\n" ++
      StdString.ofString "      ",
    StdString.ofString "\n" ++ StdString.ofString "    </soap:Fault>\n" ++
      StdString.ofString "  </soap:Body>\n" ++ StdString.ofString "</soap:Envelope>\n",
    by simp only [List.append_assoc]⟩

/-- A `GetTaskRequest` for an id the manager does not hold is answered with a fault, and
the id stands between the `faultstring` tags as the parser gave it. -/
theorem handleSOAPRequest_getTask_fault (soapRequest : StdString) (m : TaskManager) (taskId : CString)
    (hparse : parse soapRequest = .ok (.document [.element "soap:Envelope" [.element "soap:Body"
      [.element "GetTaskRequest" [.element "TaskID" [.text taskId]]]]]))
    (hid : taskId.bytes ≠ []) (hm : m.getTask taskId.bytes = none) :
    handleSOAPRequest parse save soapRequest m =
        (createSOAPFault (.ofString "SOAP-ENV:Server")
          (.ofString "Task with ID \x27" ++ taskId.bytes ++ .ofString "\x27 not found"), m) ∧
      StdString.ofString "<faultstring>Task with ID \x27" ++ taskId.bytes ++
        StdString.ofString "\x27 not found</faultstring>" <:+: (handleSOAPRequest parse save soapRequest m).1 := by
  have hget : handleGetTask (.element "GetTaskRequest" [.element "TaskID" [.text taskId]]) m =
      .error (.ofString "Task with ID \x27" ++ taskId.bytes ++ .ofString "\x27 not found") := by
    simp [handleGetTask, getNodeValue, XmlNode.child, XmlNode.children, XmlNode.textValue, hid, hm]
  have hrun : handleSOAPRequest parse save soapRequest m = (createSOAPFault (.ofString "SOAP-ENV:Server")
      (.ofString "Task with ID \x27" ++ taskId.bytes ++ .ofString "\x27 not found"), m) := by
    simp [handleSOAPRequest, hparse, processSOAPMessage, XmlNode.child, XmlNode.children,
      XmlNode.document, XmlNode.name, Operation.ofName, Operation.handle, hget]
  refine ⟨hrun, ?_⟩
  rw [hrun, show "<faultstring>Task with ID \x27" = "<faultstring>" ++ "Task with ID \x27" from rfl,
    show "\x27 not found</faultstring>" = "\x27 not found" ++ "</faultstring>" from rfl,
    StdString.ofString_append, StdString.ofString_append]
  simpa only [List.append_assoc] using createSOAPFault_faultstring (.ofString "SOAP-ENV:Server")
    (.ofString "Task with ID \x27" ++ taskId.bytes ++ .ofString "\x27 not found")

/-- The request asks for the task `&lt;`, which pugixml reads as the one byte `<` (60).
The fault sends that byte back raw inside `faultstring`, and holds no `&` anywhere, so
no `&lt;` either. -/
theorem handleSOAPRequest_getTask_fault_lt :
    let soapRequest := StdString.ofString ("<soap:Envelope><soap:Body><GetTaskRequest>" ++
      "<TaskID>&lt;</TaskID></GetTaskRequest></soap:Body></soap:Envelope>")
    let taskId : CString := ⟨[60], by decide⟩
    let parse : StdString → Except StdString XmlNode := fun _ => .ok (.document [.element "soap:Envelope"
      [.element "soap:Body" [.element "GetTaskRequest" [.element "TaskID" [.text taskId]]]]])
    let save : XmlNode → StdString := fun _ => []
    parse soapRequest = .ok (.document [.element "soap:Envelope" [.element "soap:Body"
        [.element "GetTaskRequest" [.element "TaskID" [.text taskId]]]]]) ∧
      taskId.bytes ≠ [] ∧ empty.getTask taskId.bytes = none ∧
      (handleSOAPRequest parse save soapRequest empty =
          (createSOAPFault (.ofString "SOAP-ENV:Server")
            (.ofString "Task with ID \x27" ++ taskId.bytes ++ .ofString "\x27 not found"), empty) ∧
        StdString.ofString "<faultstring>Task with ID \x27" ++ taskId.bytes ++
          StdString.ofString "\x27 not found</faultstring>" <:+:
            (handleSOAPRequest parse save soapRequest empty).1) ∧
      (handleSOAPRequest parse save soapRequest empty).1 = StdString.ofString
        ("<?xml version=\"1.0\" encoding=\"UTF-8\"?>\n" ++
          "<soap:Envelope xmlns:soap=\"http://schemas.xmlsoap.org/soap/envelope/\">\n" ++
          "  <soap:Body>\n    <soap:Fault>\n      <faultcode>SOAP-ENV:Server</faultcode>\n" ++
          "      <faultstring>Task with ID \x27<\x27 not found</faultstring>\n" ++
          "    </soap:Fault>\n  </soap:Body>\n</soap:Envelope>\n") ∧
      ¬ StdString.ofString "&lt;" <:+: (handleSOAPRequest parse save soapRequest empty).1 := by
  intro soapRequest taskId parse save
  have hfault := handleSOAPRequest_getTask_fault parse save soapRequest empty taskId rfl
    (List.cons_ne_nil _ _) rfl
  have hlt : ([60] : StdString) = StdString.ofString "<" := by
    simp only [StdString.ofString_eq]
    decide
  have hamp : (38 : UInt8) ∉ (handleSOAPRequest parse save soapRequest empty).1 := by
    simp only [hfault.1, createSOAPFault, StdString.ofString_eq, List.mem_append, not_or]
    decide
  refine ⟨rfl, List.cons_ne_nil _ _, rfl, hfault, ?_, fun h => hamp (h.subset ?_)⟩
  · simp only [hfault.1, createSOAPFault, show taskId.bytes = [60] from rfl, hlt,
      ← StdString.ofString_append, String.reduceAppend]
  · simp only [StdString.ofString_eq]
    decide

end SOAPServer

end ArchitectureCourse.Tasks
