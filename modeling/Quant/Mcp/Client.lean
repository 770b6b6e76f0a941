import Mathlib.Data.List.Basic
import Quant.Json

/-!
# The MCP client over the stdio transport

`MCPClient` with `transport="stdio"`: the calls of `_send_rpc` as tasks that interleave at their awaits, the child processes they
talk to, and the pipes between them. A process keeps every line that was written to it and every line it wrote, and the calls that
took the latter, so what is in a pipe is what is left of such a list.
-/

namespace Quant

/-! ## Messages -/

/-- The exceptions of the platform that the client lets through. -/
inductive PlatformExc where
  | attributeError
  | runtimeError
  | valueError
  | cancelledError
  deriving DecidableEq

/-- The exception classes of a call. -/
inductive MCPExcClass where
  | protocol
  | transport
  | schemaValidation
  | platform (exc : PlatformExc)
  deriving DecidableEq

/-- The diagnostic code of a class. -/
def MCPExcClass.code : MCPExcClass → Option String
  | .protocol => some "ERR-MCP-002"
  | .transport => some "ERR-MCP-003"
  | .schemaValidation => some "ERR-MCP-005"
  | .platform _ => none

/-- A raised exception: `%` marks each gap of the text. -/
structure MCPExc where
  cls : MCPExcClass
  text : String
  args : List Json := []

/-- A request of `_send_rpc`. -/
structure Request where
  id : ℕ
  method : String
  params : Option Fields := none

/-- `req_payload`. -/
def Request.payload (r : Request) : Fields :=
  [("jsonrpc", .str "2.0"), ("id", .int r.id), ("method", .str r.method)] ++
    match r.params with
    | none => []
    | some params => [("params", .dict params)]

/-- A line on standard output: a JSON value, text that does not parse, with what the parser says, or what `readline` or `decode`
raises a `ValueError` on. -/
inductive Line where
  | json (value : Json)
  | garbled (fault : String)
  | refused (fault : String)

/-- `_send_rpc_stdio` from a line on. -/
def Line.responseDict : Line → Except MCPExc Fields
  | .json (.dict fields) => .ok fields
  | .json _ => .error ⟨.protocol, "Stdio server emitted response that is not a JSON object", []⟩
  | .garbled fault => .error ⟨.protocol, "Failed to parse JSON response from stdio server: %", [.str fault]⟩
  | .refused fault => .error ⟨.platform .valueError, fault, []⟩

/-- `_send_rpc` from `response_dict` on. -/
def unwrapResult (response : Fields) : Except MCPExc Fields :=
  match response.lookup "error" with
  | some (.dict err) =>
    .error ⟨.protocol, "Server returned error code %: %",
      [(err.lookup "code").getD (.int (-32603)), (err.lookup "message").getD (.str "Unknown JSON-RPC error")]⟩
  | some err => .error ⟨.protocol, "Server returned error code %: %", [.int (-32603), err]⟩
  | none =>
    match response.lookup "result" with
    | none => .error ⟨.protocol, "Protocol violation: Server response missing mandatory 'result' field", []⟩
    | some (.dict result) => .ok result
    | some value => .error ⟨.protocol, "Protocol violation: 'result' field must be an object (%)", [.str value.typeName]⟩

/-! ## The child process -/

/-- A child process: whether it has no return code yet, the requests written to its standard input, the lines on its standard
output, and the calls that took those, each list from the first on. -/
structure StdioServer where
  running : Bool := true
  requests : List Request := []
  lines : List Line := []
  readers : List ℕ := []

namespace StdioServer

def write (server : StdioServer) (r : Request) : StdioServer := { server with requests := server.requests ++ [r] }

/-- The first line in the pipe. -/
def nextLine (server : StdioServer) : Option Line := server.lines[server.readers.length]?

def take (server : StdioServer) (c : ℕ) : StdioServer := { server with readers := server.readers ++ [c] }

/-- The head of the first line in the pipe is dropped; what is left of it does not parse. -/
def cut (server : StdioServer) (fault : String) : StdioServer :=
  { server with lines := server.lines.set server.readers.length (.garbled fault) }

/-- The first request without an answer. -/
def pendingRequest (server : StdioServer) : Option Request := server.requests[server.lines.length]?

def serve (server : StdioServer) (line : Line) : StdioServer := { server with lines := server.lines ++ [line] }

def exit (server : StdioServer) : StdioServer := { server with running := false }

end StdioServer

/-! ## The client -/

/-- The client. Its process is the position of a child process. -/
structure MCPClient where
  timeout : ℚ
  serverCommand : String
  requestId : ℕ := 0
  process : Option ℕ := none

/-- `MCPClient.__init__` with `transport="stdio"`. -/
def MCPClient.create (timeoutSeconds : ℚ) (serverCommand : String) : Except MCPExc MCPClient :=
  if timeoutSeconds ≤ 0 then .error ⟨.schemaValidation, "timeout_seconds must be a strictly positive float", []⟩
  else .ok { timeout := timeoutSeconds, serverCommand := serverCommand }

/-- What an await raises: `TimeoutError`, another `OSError`, or an exception that is neither. -/
inductive Fault where
  | timeout
  | os (text : String)
  | platform (exc : PlatformExc) (text : String)

/-- The text of the exception. -/
def Fault.text : Fault → String
  | .timeout => ""
  | .os text => text
  | .platform _ text => text

/-- What `_send_rpc_stdio` makes of it. -/
def MCPClient.stdioFault (client : MCPClient) : Fault → MCPExc
  | .timeout => ⟨.transport, "Timeout waiting %s for stdio server response", [.float client.timeout]⟩
  | .os text => ⟨.transport, "Pipe error communicating with stdio server: %", [.str text]⟩
  | .platform exc text => ⟨.platform exc, text, []⟩

/-- What `connect` makes of it. -/
def MCPClient.spawnFault (client : MCPClient) : Fault → MCPExc
  | .platform .cancelledError text => ⟨.platform .cancelledError, text, []⟩
  | fault => ⟨.transport, "Failed to spawn stdio server process '%': %", [.str client.serverCommand, .str fault.text]⟩

/-- Where a call waits. -/
inductive RpcPhase where
  | connecting
  | draining
  | reading (s : ℕ)
  | done (result : Except MCPExc Fields)

def RpcPhase.isDone : RpcPhase → Bool
  | .done _ => true
  | _ => false

/-- A call of `_send_rpc`, with its `response_dict` once it has one. -/
structure RpcCall where
  request : Request
  phase : RpcPhase := .connecting
  response : Option Fields := none

/-- The call after a line. -/
def RpcCall.take (call : RpcCall) (line : Line) : RpcCall :=
  match line.responseDict with
  | .error exc => { call with phase := .done (.error exc) }
  | .ok fields => { call with phase := .done (unwrapResult fields), response := some fields }

/-- An event a call waits for. A read is `cut` where what came in of a line is too long and its end is not there yet. -/
inductive RpcAnswer where
  | spawned (running : Bool)
  | drained
  | line
  | cut (text fault : String)
  | eof
  | raised (fault : Fault)

/-- The client, its calls in the order they were made, the child processes in the order they were spawned, and the processes that
calls of `close` wait for. -/
structure StdioWorld where
  client : MCPClient
  servers : List StdioServer := []
  calls : List RpcCall := []
  closing : List ℕ := []

/-- What may happen next: a call, an answer to one, the two halves of `close`, an answer of a process, and its end. -/
inductive StdioOp where
  | call (method : String) (params : Option Fields)
  | answer (c : ℕ) (a : RpcAnswer)
  | close
  | closed (s : ℕ)
  | serve (s : ℕ) (line : Line)
  | exit (s : ℕ)

namespace StdioWorld

/-- The process of the client, while it runs. -/
def live (w : StdioWorld) : Option ℕ := w.client.process.filter fun s => (w.servers[s]?).any StdioServer.running

/-- `is_connected`. -/
def isConnected (w : StdioWorld) : Bool := w.live.isSome

def setPhase (w : StdioWorld) (c : ℕ) (phase : RpcPhase) : StdioWorld :=
  { w with calls := w.calls.modify c fun call => { call with phase := phase } }

/-- A call that raises. -/
def raise (w : StdioWorld) (c : ℕ) (exc : MCPExc) : StdioWorld := w.setPhase c (.done (.error exc))

def setServer (w : StdioWorld) (s : ℕ) (f : StdioServer → StdioServer) : StdioWorld :=
  { w with servers := w.servers.modify s f }

/-- `_send_rpc_stdio` up to its first await. -/
def sendRpcStdio (w : StdioWorld) (c : ℕ) (r : Request) : StdioWorld :=
  match w.live with
  | none => w.raise c ⟨.transport, "Stdio server process is not running or pipes unavailable", []⟩
  | some s => (w.setServer s fun server => server.write r).setPhase c .draining

/-- `_send_rpc` up to its first await. -/
def sendRpc (w : StdioWorld) (method : String) (params : Option Fields) : StdioWorld :=
  let r : Request := { id := w.client.requestId + 1, method := method, params := params }
  let w' : StdioWorld :=
    { w with client := { w.client with requestId := w.client.requestId + 1 }, calls := w.calls ++ [{ request := r }] }
  if w.isConnected then w'.sendRpcStdio w.calls.length r else w'

/-- A call takes a line. -/
def takeLine (w : StdioWorld) (c s : ℕ) (line : Line) : StdioWorld :=
  { w.setServer s (fun server => server.take c) with calls := w.calls.modify c fun call => call.take line }

/-- A call from an answer to its next await; nothing for an answer it does not wait for. -/
def resume (w : StdioWorld) (c : ℕ) (call : RpcCall) (a : RpcAnswer) : Option StdioWorld :=
  match call.phase, a with
  | .connecting, .spawned running =>
    let w' : StdioWorld :=
      { w with
        client := { w.client with process := some w.servers.length }
        servers := w.servers ++ [{ running := running }] }
    some (w'.sendRpcStdio c call.request)
  | .connecting, .raised fault => some (w.raise c (w.client.spawnFault fault))
  | .draining, .drained =>
    match w.client.process with
    | none => some (w.raise c ⟨.platform .attributeError, "'NoneType' object has no attribute 'stdout'", []⟩)
    | some s => some (w.setPhase c (.reading s))
  | .draining, .raised fault => some (w.raise c (w.client.stdioFault fault))
  | .reading s, .line => ((w.servers[s]?).bind StdioServer.nextLine).map (w.takeLine c s)
  -- `readline` and `decode` drop the line they refuse, whatever it says
  | .reading s, .raised (.platform .valueError text) =>
    ((w.servers[s]?).bind StdioServer.nextLine).map fun _ => w.takeLine c s (.refused text)
  | .reading s, .cut text fault =>
    ((w.servers[s]?).bind StdioServer.nextLine).map fun _ =>
      (w.setServer s fun server => server.cut fault).raise c ⟨.platform .valueError, text, []⟩
  | .reading s, .eof =>
    if ((w.servers[s]?).bind StdioServer.nextLine).isNone then
      some (w.raise c ⟨.transport, "Stdio server process closed output stream (EOF)", []⟩)
    else none
  | .reading _, .raised fault => some (w.raise c (w.client.stdioFault fault))
  | _, _ => none

/-- One step; nothing for one that cannot be. -/
def step (w : StdioWorld) : StdioOp → Option StdioWorld
  | .call method params => some (w.sendRpc method params)
  | .answer c a => (w.calls[c]?).bind fun call => w.resume c call a
  | .close =>
    match w.client.process, w.live with
    | none, _ => some w
    | some _, none => some { w with client := { w.client with process := none } }
    | some s, some _ => some { w with closing := w.closing ++ [s] }
  | .closed s =>
    if s ∈ w.closing ∧ ¬ (w.servers[s]?).any StdioServer.running then
      some { w with client := { w.client with process := none }, closing := w.closing.erase s }
    else none
  | .serve s line =>
    if ((w.servers[s]?).bind StdioServer.pendingRequest).isSome then some (w.setServer s fun server => server.serve line)
    else none
  | .exit s => some (w.setServer s StdioServer.exit)

/-- A server whose response to each request carries the identifier of the request. -/
def Echoes (w : StdioWorld) : StdioOp → Prop
  | .serve s line =>
    ∀ r, (w.servers[s]?).bind StdioServer.pendingRequest = some r →
      ∃ fields, line = .json (.dict fields) ∧ fields.lookup "id" = r.payload.lookup "id"
  | _ => True

end StdioWorld

end Quant
