import Mathlib.Tactic.NormNum
import Quant.Mcp.Client
import Quant.Pylib.Lists
import Quant.Pylib.Runs

/-!
# Whose response a call returns

A call takes the first line in the pipe, and does not compare the identifier. Lines come in the order of the requests, so a call
has its own response exactly when it takes a line of the process it wrote to, and in its turn.
-/

namespace Quant

open Pylib

/-! ## The law -/

/-- A line answers a request: an object carries the identifier of the request. -/
def Line.Answers (line : Line) (r : Request) : Prop :=
  ∀ fields, line = .json (.dict fields) → fields.lookup "id" = r.payload.lookup "id"

theorem Request.lookup_id (r : Request) : r.payload.lookup "id" = some (.int r.id) := rfl

/-- Each line answers the request of its place. -/
def StdioServer.Answering (server : StdioServer) : Prop :=
  ∀ (n : ℕ) (line : Line), server.lines[n]? = some line → ∃ r, server.requests[n]? = some r ∧ line.Answers r

/-! ## Processes and calls -/

theorem StdioServer.Answering.write {server : StdioServer} (h : server.Answering) (r : Request) :
    (server.write r).Answering := by
  intro n line hline
  obtain ⟨r', hr', hanswers⟩ := h n line hline
  exact ⟨r', getElem?_of_prefix (List.prefix_append _ _) hr', hanswers⟩

theorem StdioServer.Answering.serve {server : StdioServer} (h : server.Answering) {r : Request}
    (hr : server.pendingRequest = some r) {line : Line} (hline : line.Answers r) : (server.serve line).Answering := by
  intro n line' hn
  rcases concat_cases hn with hn | ⟨rfl, rfl⟩
  · exact h n line' hn
  · exact ⟨r, hr, hline⟩

theorem StdioServer.Answering.cut {server : StdioServer} (h : server.Answering) (fault : String) :
    (server.cut fault).Answering := by
  intro n line hn
  have hlt : n < server.lines.length := by
    have hlt' := (List.getElem?_eq_some_iff.1 hn).1
    rwa [StdioServer.cut, List.length_set] at hlt'
  rcases set_cases hn with ⟨-, rfl⟩ | ⟨-, hold⟩
  · obtain ⟨r, hr, -⟩ := h n _ (List.getElem?_eq_getElem hlt)
    exact ⟨r, hr, nofun⟩
  · exact h n line hold

theorem RpcCall.take_request (call : RpcCall) (line : Line) : (call.take line).request = call.request := by
  unfold RpcCall.take
  split <;> rfl

theorem RpcCall.isDone_take (call : RpcCall) (line : Line) : (call.take line).phase.isDone = true := by
  unfold RpcCall.take
  split <;> rfl

/-- The response of a call is the object of the line it took. -/
theorem RpcCall.response_take {call : RpcCall} (hcall : call.response = none) {line : Line} {fields : Fields}
    (h : (call.take line).response = some fields) : line = .json (.dict fields) := by
  unfold RpcCall.take at h
  split at h
  · rw [hcall] at h
    cases h
  · rename_i hdict
    cases h
    unfold Line.responseDict at hdict
    split at hdict <;> cases hdict
    rfl

theorem RpcCall.result_take {call : RpcCall} {line : Line} {result : Fields}
    (h : (call.take line).phase = .done (.ok result)) :
    ∃ fields, (call.take line).response = some fields ∧ unwrapResult fields = .ok result := by
  unfold RpcCall.take at h ⊢
  split
  · rename_i exc hdict
    rw [hdict] at h
    cases h
  · rename_i fields hdict
    rw [hdict] at h
    have hunwrap : RpcPhase.done (unwrapResult fields) = .done (.ok result) := h
    exact ⟨fields, rfl, RpcPhase.done.inj hunwrap⟩

/-! ## The invariant -/

namespace StdioWorld

/-- A call took a line of a process, as the reader of that place. -/
def Took (w : StdioWorld) (c s n : ℕ) : Prop := ∃ server, w.servers[s]? = some server ∧ server.readers[n]? = some c

/-- What holds of the lines, their readers and the responses, whatever the interleaving. -/
structure Correlated (w : StdioWorld) : Prop where
  counted : w.client.requestId = w.calls.length
  ids : ∀ (c : ℕ) (call : RpcCall), w.calls[c]? = some call → call.request.id = c + 1
  answering : ∀ server ∈ w.servers, server.Answering
  took : ∀ (s : ℕ) (server : StdioServer) (n c : ℕ), w.servers[s]? = some server → server.readers[n]? = some c →
    ∃ call, w.calls[c]? = some call ∧ call.phase.isDone = true ∧
      ∀ fields, call.response = some fields → server.lines[n]? = some (.json (.dict fields))
  once : ∀ c s s' n n' : ℕ, w.Took c s n → w.Took c s' n' → s = s' ∧ n = n'
  responded : ∀ (c : ℕ) (call : RpcCall) (fields : Fields), w.calls[c]? = some call → call.response = some fields →
    ∃ s n, w.Took c s n
  result : ∀ (c : ℕ) (call : RpcCall) (result : Fields), w.calls[c]? = some call → call.phase = .done (.ok result) →
    ∃ fields, call.response = some fields ∧ unwrapResult fields = .ok result

/-- A call that is not done has not taken a line. -/
theorem Correlated.not_took {w : StdioWorld} (h : w.Correlated) {c : ℕ} {call : RpcCall} (hc : w.calls[c]? = some call)
    (hp : call.phase.isDone = false) (s n : ℕ) : ¬ w.Took c s n := by
  rintro ⟨server, hs, hn⟩
  obtain ⟨call', hc', hdone, -⟩ := h.took s server n c hs hn
  rw [hc] at hc'
  cases hc'
  rw [hp] at hdone
  cases hdone

/-! ## What the steps keep -/

/-- The process of the client and the calls of `close` do not matter. -/
theorem Correlated.of_eq {w w' : StdioWorld} (h : w.Correlated) (hid : w'.client.requestId = w.client.requestId)
    (hcalls : w'.calls = w.calls) (hservers : w'.servers = w.servers) : w'.Correlated := by
  obtain ⟨client, servers, calls, closing⟩ := w
  obtain ⟨client', servers', calls', closing'⟩ := w'
  subst hcalls hservers
  exact ⟨hid.trans h.counted, h.ids, h.answering, h.took, h.once, h.responded, h.result⟩

/-- A call goes on, or raises. -/
theorem Correlated.setPhase {w : StdioWorld} (h : w.Correlated) {c : ℕ} {call : RpcCall} (hc : w.calls[c]? = some call)
    (hp : call.phase.isDone = false) {phase : RpcPhase} (hphase : ∀ result, phase ≠ .done (.ok result)) :
    (w.setPhase c phase).Correlated where
  counted := by
    rw [StdioWorld.setPhase, List.length_modify]
    exact h.counted
  ids c' call' hc' := by
    obtain ⟨-, call'', hget, rfl⟩ | ⟨-, hget⟩ := modify_cases hc'
    · exact h.ids c' call'' hget
    · exact h.ids c' call' hget
  answering := h.answering
  took s server n c' hs hn := by
    obtain ⟨call', hc', hdone, hline⟩ := h.took s server n c' hs hn
    have hne : c ≠ c' := by
      rintro rfl
      exact h.not_took hc hp s n ⟨server, hs, hn⟩
    refine ⟨call', ?_, hdone, hline⟩
    rw [StdioWorld.setPhase, List.getElem?_modify_ne _ _ hne]
    exact hc'
  once := h.once
  responded c' call' fields hc' hres := by
    obtain ⟨-, call'', hget, rfl⟩ | ⟨-, hget⟩ := modify_cases hc'
    · exact h.responded c' call'' fields hget hres
    · exact h.responded c' call' fields hget hres
  result c' call' result hc' hdone := by
    obtain ⟨-, call'', hget, rfl⟩ | ⟨-, hget⟩ := modify_cases hc'
    · exact absurd hdone (hphase result)
    · exact h.result c' call' result hget hdone

theorem Correlated.raise {w : StdioWorld} (h : w.Correlated) {c : ℕ} {call : RpcCall} (hc : w.calls[c]? = some call)
    (hp : call.phase.isDone = false) (exc : MCPExc) : (w.raise c exc).Correlated :=
  h.setPhase hc hp (by rintro result ⟨⟩)

/-- A process is written to, answers or ends: its readers stay, and what they took. -/
theorem Correlated.setServer {w : StdioWorld} (h : w.Correlated) {s : ℕ} {f : StdioServer → StdioServer}
    (hf : ∀ server, w.servers[s]? = some server →
      (f server).readers = server.readers ∧
        (∀ n line, n < server.readers.length → server.lines[n]? = some line → (f server).lines[n]? = some line) ∧
        (f server).Answering) :
    (w.setServer s f).Correlated := by
  have htook : ∀ {c s' n}, (w.setServer s f).Took c s' n → w.Took c s' n := by
    rintro c s' n ⟨server, hs, hn⟩
    obtain ⟨rfl, server', hget, rfl⟩ | ⟨-, hget⟩ := modify_cases hs
    · rw [(hf server' hget).1] at hn
      exact ⟨server', hget, hn⟩
    · exact ⟨server, hget, hn⟩
  refine ⟨h.counted, h.ids, ?_, ?_, fun c s' s'' n n' h1 h2 => h.once c s' s'' n n' (htook h1) (htook h2), ?_, h.result⟩
  · intro server hmem
    obtain ⟨s', hs⟩ := List.mem_iff_getElem?.1 hmem
    obtain ⟨rfl, server', hget, rfl⟩ | ⟨-, hget⟩ := modify_cases hs
    · exact (hf server' hget).2.2
    · exact h.answering server (List.mem_of_getElem? hget)
  · intro s' server n c hs hn
    obtain ⟨rfl, server', hget, rfl⟩ | ⟨-, hget⟩ := modify_cases hs
    · rw [(hf server' hget).1] at hn
      obtain ⟨call, hc, hdone, hline⟩ := h.took s server' n c hget hn
      exact ⟨call, hc, hdone, fun fields hres =>
        (hf server' hget).2.1 n _ (List.getElem?_eq_some_iff.1 hn).1 (hline fields hres)⟩
    · exact h.took s' server n c hget hn
  · intro c call fields hc hres
    obtain ⟨s', n, server, hs, hn⟩ := h.responded c call fields hc hres
    refine ⟨s', n, ?_⟩
    by_cases hss : s = s'
    · subst hss
      refine ⟨f server, ?_, ?_⟩
      · rw [StdioWorld.setServer, List.getElem?_modify_eq, hs]
        rfl
      · rw [(hf server hs).1]
        exact hn
    · refine ⟨server, ?_, hn⟩
      rw [StdioWorld.setServer, List.getElem?_modify_ne _ _ hss]
      exact hs

/-- A new call has taken nothing. -/
theorem Correlated.newCall {w : StdioWorld} (h : w.Correlated) {r : Request} (hr : r.id = w.client.requestId + 1) :
    ({ w with client := { w.client with requestId := w.client.requestId + 1 }, calls := w.calls ++ [{ request := r }] } :
      StdioWorld).Correlated := by
  refine ⟨?_, ?_, h.answering, ?_, h.once, ?_, ?_⟩
  · rw [List.length_append, List.length_singleton, h.counted]
  · intro c call hc
    rcases concat_cases hc with hc | ⟨rfl, rfl⟩
    · exact h.ids c call hc
    · rw [← h.counted]
      exact hr
  · intro s server n c hs hn
    obtain ⟨call, hc, hrest⟩ := h.took s server n c hs hn
    exact ⟨call, getElem?_of_prefix (List.prefix_append _ _) hc, hrest⟩
  · intro c call fields hc hres
    rcases concat_cases hc with hc | ⟨-, rfl⟩
    · exact h.responded c call fields hc hres
    · cases hres
  · intro c call result hc hdone
    rcases concat_cases hc with hc | ⟨-, rfl⟩
    · exact h.result c call result hc hdone
    · cases hdone

/-- Nobody has read from a new process. -/
theorem Correlated.newServer {w : StdioWorld} (h : w.Correlated) (running : Bool) :
    ({ w with servers := w.servers ++ [{ running := running }] } : StdioWorld).Correlated := by
  have htook : ∀ {c s n : ℕ},
      ({ w with servers := w.servers ++ [{ running := running }] } : StdioWorld).Took c s n → w.Took c s n := by
    rintro c s n ⟨server, hs, hn⟩
    rcases concat_cases hs with hs | ⟨-, rfl⟩
    · exact ⟨server, hs, hn⟩
    · cases hn
  refine ⟨h.counted, h.ids, ?_, ?_, fun c s s' n n' h1 h2 => h.once c s s' n n' (htook h1) (htook h2), ?_, h.result⟩
  · intro server hmem
    rcases List.mem_append.1 hmem with hmem | hmem
    · exact h.answering server hmem
    · rw [List.mem_singleton.1 hmem]
      rintro n line ⟨⟩
  · intro s server n c hs hn
    rcases concat_cases hs with hs | ⟨-, rfl⟩
    · exact h.took s server n c hs hn
    · cases hn
  · intro c call fields hc hres
    obtain ⟨s, n, server, hs, hn⟩ := h.responded c call fields hc hres
    exact ⟨s, n, server, getElem?_of_prefix (List.prefix_append _ _) hs, hn⟩

/-- The calls after one of them took a line. -/
theorem calls_takeLine {w : StdioWorld} {c s c' : ℕ} {line : Line} {call call' : RpcCall} (hc : w.calls[c]? = some call)
    (hc' : (w.takeLine c s line).calls[c']? = some call') :
    (c = c' ∧ call' = call.take line) ∨ (c ≠ c' ∧ w.calls[c']? = some call') := by
  rcases modify_cases hc' with ⟨rfl, call'', hget, rfl⟩ | hother
  · rw [hc] at hget
    cases hget
    exact .inl ⟨rfl, rfl⟩
  · exact .inr hother

/-- A place of a process after a call took a line: the new one, or one that was there. -/
theorem took_takeLine {w : StdioWorld} {c s c' s' n : ℕ} {line : Line} {server : StdioServer}
    (hs : w.servers[s]? = some server) (h : (w.takeLine c s line).Took c' s' n) :
    (c' = c ∧ s' = s ∧ n = server.readers.length) ∨ w.Took c' s' n := by
  obtain ⟨server', hs', hn⟩ := h
  rcases modify_cases hs' with ⟨rfl, server'', hget, rfl⟩ | ⟨-, hget⟩
  · rw [hs] at hget
    cases hget
    rcases concat_cases hn with hn | ⟨rfl, rfl⟩
    · exact .inr ⟨server, hs, hn⟩
    · exact .inl ⟨rfl, rfl, rfl⟩
  · exact .inr ⟨server', hget, hn⟩

theorem Took.takeLine {w : StdioWorld} {c' s' n : ℕ} (h : w.Took c' s' n) (c s : ℕ) (line : Line) :
    (w.takeLine c s line).Took c' s' n := by
  obtain ⟨server', hs', hn⟩ := h
  by_cases hss : s = s'
  · subst hss
    refine ⟨server'.take c, ?_, getElem?_of_prefix (List.prefix_append _ _) hn⟩
    exact (List.getElem?_modify_eq _ _ _).trans (by rw [hs']; rfl)
  · exact ⟨server', (List.getElem?_modify_ne _ _ hss).trans hs', hn⟩

/-- The call that takes a line is its only reader, and has what the line says. -/
theorem Correlated.takeLine {w : StdioWorld} (h : w.Correlated) {c s : ℕ} {call : RpcCall} (hc : w.calls[c]? = some call)
    (hp : call.phase.isDone = false) {server : StdioServer} (hs : w.servers[s]? = some server) {line : Line}
    (hline : ∀ fields, line = .json (.dict fields) → server.nextLine = some line) : (w.takeLine c s line).Correlated := by
  have hnone : call.response = none := by
    cases hres : call.response with
    | none => rfl
    | some fields =>
      obtain ⟨s', n, htook⟩ := h.responded c call fields hc hres
      exact absurd htook (h.not_took hc hp s' n)
  have hself : (w.takeLine c s line).calls[c]? = some (call.take line) := by
    rw [StdioWorld.takeLine, List.getElem?_modify_eq, hc]
    rfl
  have hother : ∀ {c' s' n : ℕ} {call' : RpcCall}, w.Took c' s' n → w.calls[c']? = some call' →
      (w.takeLine c s line).calls[c']? = some call' := by
    intro c' s' n call' hold hc'
    have hne : c ≠ c' := by
      rintro rfl
      exact h.not_took hc hp s' n hold
    exact (List.getElem?_modify_ne _ _ hne).trans hc'
  constructor
  case counted =>
    exact h.counted.trans (List.length_modify _ _ _).symm
  case ids =>
    intro c' call' hc'
    rcases calls_takeLine hc hc' with ⟨rfl, rfl⟩ | ⟨-, hget⟩
    · rw [RpcCall.take_request]
      exact h.ids c call hc
    · exact h.ids c' call' hget
  case answering =>
    intro server' hmem
    obtain ⟨s', hs'⟩ := List.mem_iff_getElem?.1 hmem
    rcases modify_cases hs' with ⟨-, server'', hget, rfl⟩ | ⟨-, hget⟩
    · exact h.answering server'' (List.mem_of_getElem? hget)
    · exact h.answering server' (List.mem_of_getElem? hget)
  case took =>
    intro s' server' n c' hs' hn
    rcases modify_cases hs' with ⟨rfl, server'', hget, rfl⟩ | ⟨-, hget⟩
    · rw [hs] at hget
      cases hget
      rcases concat_cases hn with hn | ⟨rfl, rfl⟩
      · obtain ⟨call', hc', hrest⟩ := h.took s server n c' hs hn
        exact ⟨call', hother ⟨server, hs, hn⟩ hc', hrest⟩
      · refine ⟨call.take line, hself, RpcCall.isDone_take _ _, fun fields hres => ?_⟩
        obtain rfl := RpcCall.response_take hnone hres
        exact hline fields rfl
    · obtain ⟨call', hc', hrest⟩ := h.took s' server' n c' hget hn
      exact ⟨call', hother ⟨server', hget, hn⟩ hc', hrest⟩
  case once =>
    intro c' s' s'' n n' h1 h2
    rcases took_takeLine hs h1 with ⟨rfl, rfl, rfl⟩ | hold1
    · rcases took_takeLine hs h2 with ⟨-, rfl, rfl⟩ | hold2
      · exact ⟨rfl, rfl⟩
      · exact absurd hold2 (h.not_took hc hp _ _)
    · rcases took_takeLine hs h2 with ⟨rfl, rfl, rfl⟩ | hold2
      · exact absurd hold1 (h.not_took hc hp _ _)
      · exact h.once c' s' s'' n n' hold1 hold2
  case responded =>
    intro c' call' fields hc' hres
    rcases calls_takeLine hc hc' with ⟨rfl, rfl⟩ | ⟨-, hget⟩
    · refine ⟨s, server.readers.length, server.take c, ?_, List.getElem?_concat_length⟩
      exact (List.getElem?_modify_eq _ _ _).trans (by rw [hs]; rfl)
    · obtain ⟨s', n, hold⟩ := h.responded c' call' fields hget hres
      exact ⟨s', n, hold.takeLine c s line⟩
  case result =>
    intro c' call' result hc' hdone
    rcases calls_takeLine hc hc' with ⟨rfl, rfl⟩ | ⟨-, hget⟩
    · exact RpcCall.result_take hdone
    · exact h.result c' call' result hget hdone

theorem Correlated.sendRpcStdio {w : StdioWorld} (h : w.Correlated) {c : ℕ} {call : RpcCall} (hc : w.calls[c]? = some call)
    (hp : call.phase.isDone = false) (r : Request) : (w.sendRpcStdio c r).Correlated := by
  unfold StdioWorld.sendRpcStdio
  split
  · exact h.raise hc hp _
  · rename_i s _
    have hwritten : (w.setServer s fun server => server.write r).Correlated := by
      refine h.setServer fun server hs => ⟨rfl, fun _ _ _ hline => hline, ?_⟩
      exact (h.answering server (List.mem_of_getElem? hs)).write r
    exact hwritten.setPhase hc hp (by rintro result ⟨⟩)

theorem Correlated.sendRpc {w : StdioWorld} (h : w.Correlated) (method : String) (params : Option Fields) :
    (w.sendRpc method params).Correlated := by
  unfold StdioWorld.sendRpc
  dsimp only
  split
  · exact (h.newCall rfl).sendRpcStdio List.getElem?_concat_length rfl _
  · exact h.newCall rfl

theorem Correlated.resume {w w' : StdioWorld} (h : w.Correlated) {c : ℕ} {call : RpcCall} (hc : w.calls[c]? = some call)
    {a : RpcAnswer} (hs : w.resume c call a = some w') : w'.Correlated := by
  unfold StdioWorld.resume at hs
  split at hs
  · rename_i running hp
    cases hs
    have hspawned : ({ w with
        client := { w.client with process := some w.servers.length }
        servers := w.servers ++ [{ running := running }] } : StdioWorld).Correlated :=
      (h.newServer running).of_eq rfl rfl rfl
    exact hspawned.sendRpcStdio hc (by rw [hp]; rfl) _
  · rename_i fault hp
    cases hs
    exact h.raise hc (by rw [hp]; rfl) _
  · rename_i hp
    split at hs
    · cases hs
      exact h.raise hc (by rw [hp]; rfl) _
    · cases hs
      exact h.setPhase hc (by rw [hp]; rfl) (by rintro result ⟨⟩)
  · rename_i fault hp
    cases hs
    exact h.raise hc (by rw [hp]; rfl) _
  · rename_i s hp
    obtain ⟨line, hline, rfl⟩ := Option.map_eq_some_iff.1 hs
    obtain ⟨server, hserver, hnext⟩ := Option.bind_eq_some_iff.1 hline
    exact h.takeLine hc (by rw [hp]; rfl) hserver fun _ _ => hnext
  · rename_i s text hp
    obtain ⟨line, hline, rfl⟩ := Option.map_eq_some_iff.1 hs
    obtain ⟨server, hserver, -⟩ := Option.bind_eq_some_iff.1 hline
    exact h.takeLine hc (by rw [hp]; rfl) hserver nofun
  · rename_i s text fault hp
    obtain ⟨line, -, rfl⟩ := Option.map_eq_some_iff.1 hs
    have hcut : (w.setServer s fun server => server.cut fault).Correlated := by
      refine h.setServer fun server hs' => ⟨rfl, fun n line hlt hline => ?_, ?_⟩
      · exact (List.getElem?_set_ne hlt.ne').trans hline
      · exact (h.answering server (List.mem_of_getElem? hs')).cut fault
    exact hcut.raise hc (by rw [hp]; rfl) _
  · rename_i s hp
    split at hs
    · cases hs
      exact h.raise hc (by rw [hp]; rfl) _
    · cases hs
  · rename_i s fault hp
    cases hs
    exact h.raise hc (by rw [hp]; rfl) _
  · cases hs

theorem Correlated.step {w w' : StdioWorld} (h : w.Correlated) {op : StdioOp} (hechoes : w.Echoes op)
    (hs : w.step op = some w') : w'.Correlated := by
  cases op with
  | call method params =>
    cases hs
    exact h.sendRpc method params
  | answer c a =>
    obtain ⟨call, hc, hresume⟩ := Option.bind_eq_some_iff.1 hs
    exact h.resume hc hresume
  | close =>
    unfold StdioWorld.step at hs
    dsimp only at hs
    split at hs <;> cases hs
    · exact h
    · exact h.of_eq rfl rfl rfl
    · exact h.of_eq rfl rfl rfl
  | closed s =>
    unfold StdioWorld.step at hs
    dsimp only at hs
    split at hs <;> cases hs
    exact h.of_eq rfl rfl rfl
  | serve s line =>
    unfold StdioWorld.step at hs
    dsimp only at hs
    split at hs <;> cases hs
    rename_i hpending
    obtain ⟨r, hr⟩ := Option.isSome_iff_exists.1 hpending
    obtain ⟨server, hserver, hrequest⟩ := Option.bind_eq_some_iff.1 hr
    refine h.setServer fun server' hs' => ⟨rfl, fun _ _ _ => getElem?_of_prefix (List.prefix_append _ _), ?_⟩
    rw [hserver] at hs'
    cases hs'
    obtain ⟨fields, rfl, hid⟩ := hechoes r hr
    refine (h.answering server (List.mem_of_getElem? hserver)).serve hrequest fun fields' heq => ?_
    cases heq
    exact hid
  | exit s =>
    cases hs
    exact h.setServer fun server hs' => ⟨rfl, fun _ _ _ hline => hline, h.answering server (List.mem_of_getElem? hs')⟩

/-- A client before its first call. -/
def start (client : MCPClient) : StdioWorld := { client := client }

theorem Correlated.start {timeoutSeconds : ℚ} {serverCommand : String} {client : MCPClient}
    (hclient : MCPClient.create timeoutSeconds serverCommand = .ok client) : (StdioWorld.start client).Correlated := by
  unfold MCPClient.create at hclient
  split at hclient <;> cases hclient
  refine ⟨rfl, nofun, nofun, nofun, ?_, nofun, nofun⟩
  rintro c s s' n n' ⟨server, hs, -⟩
  cases hs

/-- The request of a call and the line it took have the same place at one process: as many lines were taken before as requests
were written before. -/
def InTurn (w : StdioWorld) (c : ℕ) (call : RpcCall) : Prop :=
  ∃ (s n : ℕ) (server : StdioServer) (r : Request), w.servers[s]? = some server ∧ server.requests[n]? = some r ∧
    r.id = call.request.id ∧ server.readers[n]? = some c

end StdioWorld

/-- A call returned the result of the response to its own request. -/
def RpcCall.ReturnedOwn (call : RpcCall) : Prop :=
  ∃ result fields, call.phase = .done (.ok result) ∧ call.response = some fields ∧
    fields.lookup "id" = call.request.payload.lookup "id" ∧ fields.lookup "result" = some (.dict result)

/-- The result of a response. -/
theorem lookup_of_unwrapResult {fields result : Fields} (h : unwrapResult fields = .ok result) :
    fields.lookup "result" = some (.dict result) := by
  unfold unwrapResult at h
  split at h
  · cases h
  · cases h
  · split at h <;> cases h
    assumption

/-- The response a call has answers the request of the place it read at. -/
theorem StdioWorld.Correlated.returnedOwn_iff_inTurn {w : StdioWorld} (h : w.Correlated) {c : ℕ} {call : RpcCall}
    (hc : w.calls[c]? = some call) {result : Fields} (hdone : call.phase = .done (.ok result)) :
    call.ReturnedOwn ↔ w.InTurn c call := by
  obtain ⟨fields, hres, hunwrap⟩ := h.result c call result hc hdone
  obtain ⟨s, n, server, hs, hn⟩ := h.responded c call fields hc hres
  obtain ⟨call', hc', -, hlines⟩ := h.took s server n c hs hn
  rw [hc] at hc'
  cases hc'
  obtain ⟨r, hr, hanswers⟩ := h.answering server (List.mem_of_getElem? hs) n _ (hlines fields hres)
  have hid := hanswers fields rfl
  constructor
  · rintro ⟨result', fields', -, hres', hown, -⟩
    rw [hres] at hres'
    cases hres'
    rw [hid, r.lookup_id, call.request.lookup_id] at hown
    refine ⟨s, n, server, r, hs, hr, ?_, hn⟩
    injection hown with hown
    injection hown with hown
    omega
  · rintro ⟨s', n', server', r', hs', hr', hid', hn'⟩
    obtain ⟨rfl, rfl⟩ := h.once c s s' n n' ⟨server, hs, hn⟩ ⟨server', hs', hn'⟩
    rw [hs] at hs'
    cases hs'
    rw [hr] at hr'
    cases hr'
    refine ⟨result, fields, hdone, hres, ?_, lookup_of_unwrapResult hunwrap⟩
    rw [hid, r.lookup_id, call.request.lookup_id, hid']

/-- A call that returns a result returns its own exactly when it read in its turn. -/
theorem returnedOwn_iff {timeoutSeconds : ℚ} {serverCommand : String} {client : MCPClient}
    (hclient : MCPClient.create timeoutSeconds serverCommand = .ok client) {w : StdioWorld}
    (hrun : Run (fun w op w' => w.step op = some w') StdioWorld.Echoes (StdioWorld.start client) w) {c : ℕ} {call : RpcCall}
    (hc : w.calls[c]? = some call) {result : Fields} (hdone : call.phase = .done (.ok result)) :
    call.ReturnedOwn ↔ w.InTurn c call := by
  have h : w.Correlated := hrun.invariant (fun w op w' h hechoes hs => h.step hechoes hs) (.start hclient)
  exact h.returnedOwn_iff_inTurn hc hdone

/-! ## A call after one that timed out, and a call of its own -/

/-- A client before its first call. -/
def idleClient : MCPClient := { timeout := 15, serverCommand := "python -m quant.mcp.server" }

theorem idleClient_create : MCPClient.create 15 "python -m quant.mcp.server" = .ok idleClient := by
  norm_num [MCPClient.create, idleClient]

/-- The response to a request, with an empty result. -/
def pong (id : ℕ) : Line := .json (.dict [("id", .int id), ("result", .dict [])])

/-- The first call is sent and waits for its line. -/
def pinged : StdioWorld where
  client := { idleClient with requestId := 1, process := some 0 }
  servers := [{ requests := [{ id := 1, method := "ping" }] }]
  calls := [{ request := { id := 1, method := "ping" }, phase := .reading 0 }]

theorem pinged_run : Run (fun w op w' => w.step op = some w') StdioWorld.Echoes (StdioWorld.start idleClient) pinged :=
  have hcalled : Run (fun w op w' => w.step op = some w') StdioWorld.Echoes (StdioWorld.start idleClient)
      ((StdioWorld.start idleClient).sendRpc "ping" none) := Run.refl.tail (i := StdioOp.call "ping" none) trivial rfl
  (hcalled.tail (i := StdioOp.answer 0 (.spawned true)) trivial rfl).tail (i := StdioOp.answer 0 .drained) trivial rfl

/-- A call returns the result of a request that timed out. -/
theorem not_returnedOwn : ¬ ∀ (timeoutSeconds : ℚ) (serverCommand : String) (client : MCPClient),
    MCPClient.create timeoutSeconds serverCommand = .ok client → ∀ w : StdioWorld,
      Run (fun w op w' => w.step op = some w') StdioWorld.Echoes (StdioWorld.start client) w →
      ∀ (c : ℕ) (call : RpcCall) (result : Fields), w.calls[c]? = some call → call.phase = .done (.ok result) →
        call.ReturnedOwn := by
  intro h
  have hlate := (((pinged_run.tail (i := StdioOp.answer 0 (.raised .timeout)) trivial rfl).tail
    (i := StdioOp.serve 0 (pong 1)) (by rintro r ⟨⟩; exact ⟨_, rfl, rfl⟩) rfl).tail
    (i := StdioOp.call "ping" none) trivial rfl).tail (i := StdioOp.answer 1 .drained) trivial rfl
  have hread := hlate.tail (i := StdioOp.answer 1 .line) trivial rfl
  obtain ⟨result, fields, -, hres, hown, -⟩ := h 15 _ _ idleClient_create _ hread 1 _ [] rfl rfl
  cases hres
  cases hown

/-- A call whose response comes in time returns it. -/
theorem returnedOwn_pinged : ∃ (w : StdioWorld) (call : RpcCall), w.calls[0]? = some call ∧ call.ReturnedOwn := by
  have hserved := pinged_run.tail (i := StdioOp.serve 0 (pong 1)) (by rintro r ⟨⟩; exact ⟨_, rfl, rfl⟩) rfl
  have hread := hserved.tail (i := StdioOp.answer 0 .line) trivial rfl
  refine ⟨(pinged.setServer 0 fun server => server.serve (pong 1)).takeLine 0 0 (pong 1), _, rfl, ?_⟩
  exact (returnedOwn_iff idleClient_create hread (c := 0) rfl rfl).2 ⟨0, 0, _, _, rfl, rfl, rfl, rfl⟩

end Quant
