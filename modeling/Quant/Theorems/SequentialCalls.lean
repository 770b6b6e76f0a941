import Quant.Theorems.Correlation

/-!
# Calls one after another

Where a call is only made once the call before it is over, the process it writes to is the one it reads from, and the only way to
read out of turn is to follow a call that gave up on that process after its request was written.
-/

namespace Quant

open Pylib

/-! ## One process -/

/-- The requests of a process in the order of their identifiers, all of the first calls, and its readers in the same order among
them. -/
structure StdioServer.InOrder (n : ℕ) (server : StdioServer) : Prop where
  known : ∀ r ∈ server.requests, 0 < r.id ∧ r.id ≤ n
  increasing : (server.requests.map Request.id).Pairwise (· < ·)
  readers : (server.readers.map (· + 1)).Sublist (server.requests.map Request.id)

namespace StdioServer

variable {n : ℕ} {server : StdioServer}

theorem InOrder.mono {n' : ℕ} (h : server.InOrder n) (hle : n ≤ n') : server.InOrder n' :=
  ⟨fun r hr => ⟨(h.known r hr).1, (h.known r hr).2.trans hle⟩, h.increasing, h.readers⟩

/-- The request of a call that has not written before. -/
theorem InOrder.write (h : server.InOrder n) {r : Request} {c : ℕ} (hid : r.id = c + 1) (hle : c + 1 ≤ n)
    (hfresh : ∀ r' ∈ server.requests, r'.id ≤ c) : (server.write r).InOrder n := by
  refine ⟨?_, ?_, ?_⟩
  · intro r' hr'
    rcases List.mem_append.1 hr' with hr' | hr'
    · exact h.known r' hr'
    · rw [List.mem_singleton.1 hr']
      omega
  · rw [StdioServer.write, List.map_append, List.pairwise_append]
    refine ⟨h.increasing, List.pairwise_singleton _ _, ?_⟩
    intro a ha b hb
    obtain ⟨r', hr', rfl⟩ := List.mem_map.1 ha
    rw [List.map_singleton, List.mem_singleton] at hb
    have := hfresh r' hr'
    omega
  · rw [StdioServer.write, List.map_append]
    exact h.readers.trans (List.sublist_append_left _ _)

/-- The call that wrote last takes its first line. -/
theorem InOrder.take (h : server.InOrder n) {c : ℕ} {init : List Request} {r : Request} (hlast : server.requests = init ++ [r])
    (hid : r.id = c + 1) (hnot : c ∉ server.readers) : (server.take c).InOrder n := by
  refine ⟨h.known, h.increasing, ?_⟩
  have hreaders := h.readers
  rw [hlast, List.map_append, List.map_singleton, hid] at hreaders
  obtain ⟨l₁, l₂, heq, hinit, hone⟩ := List.sublist_append_iff.1 hreaders
  have hnil : l₂ = [] := by
    rcases List.sublist_singleton.1 hone with rfl | rfl
    · rfl
    · have hmem : c + 1 ∈ server.readers.map (· + 1) := by simp [heq]
      obtain ⟨c', hc', hsucc⟩ := List.mem_map.1 hmem
      rw [Nat.succ.inj hsucc] at hc'
      exact absurd hc' hnot
  rw [hnil, List.append_nil] at heq
  rw [StdioServer.take, List.map_append, List.map_singleton, heq, hlast, List.map_append, List.map_singleton, hid]
  exact hinit.append (List.Sublist.refl _)

end StdioServer

/-! ## The invariant -/

namespace StdioWorld

/-- Nothing of the client is under way. -/
def Quiet (w : StdioWorld) : Prop := (∀ call ∈ w.calls, call.phase.isDone = true) ∧ w.closing = []

/-- Calls, of `close` too, are made one after another. -/
def Sequential (w : StdioWorld) : StdioOp → Prop
  | .call _ _ => w.Quiet
  | .close => w.Quiet
  | _ => True

/-- A call was the last to write to a process. -/
def LastWrote (w : StdioWorld) (c s : ℕ) : Prop :=
  ∃ (server : StdioServer) (init : List Request) (r : Request),
    w.servers[s]? = some server ∧ server.requests = init ++ [r] ∧ r.id = c + 1

/-- Where a call waits, and what it has written. -/
inductive Awaits (w : StdioWorld) (c : ℕ) : RpcPhase → Prop
  | connecting (h : ∀ server ∈ w.servers, ∀ r ∈ server.requests, r.id ≤ c) : Awaits w c .connecting
  | draining {s : ℕ} (hs : w.client.process = some s) (h : w.LastWrote c s) : Awaits w c .draining
  | reading {s : ℕ} (h : w.LastWrote c s) : Awaits w c (.reading s)
  | done (result : Except MCPExc Fields) : Awaits w c (.done result)

/-- What holds of the requests and their readers while calls are made one after another. -/
structure Sequenced (w : StdioWorld) : Prop where
  last : ∀ (c : ℕ) (call : RpcCall), w.calls[c]? = some call → call.phase.isDone = false →
    c + 1 = w.calls.length ∧ w.closing = []
  awaits : ∀ (c : ℕ) (call : RpcCall), w.calls[c]? = some call → w.Awaits c call.phase
  inOrder : ∀ server ∈ w.servers, server.InOrder w.calls.length

theorem awaits_of_isDone (w : StdioWorld) (c : ℕ) {phase : RpcPhase} (h : phase.isDone = true) : w.Awaits c phase := by
  cases phase <;> cases h
  exact .done _

/-! ## What the steps keep -/

variable {w w' : StdioWorld} {c : ℕ} {call : RpcCall}

/-- The processes have the requests they had. -/
theorem Awaits.congr {phase : RpcPhase} (h : w.Awaits c phase) (hprocess : w'.client.process = w.client.process)
    (hservers : ∀ server' ∈ w'.servers, ∃ server ∈ w.servers, server'.requests = server.requests)
    (hwrote : ∀ s, w.LastWrote c s → w'.LastWrote c s) : w'.Awaits c phase := by
  cases h with
  | connecting hle =>
    refine .connecting fun server' hmem r hr => ?_
    obtain ⟨server, hmem, hreq⟩ := hservers server' hmem
    exact hle server hmem r (hreq ▸ hr)
  | draining hs hlast => exact .draining (hprocess.trans hs) (hwrote _ hlast)
  | reading hlast => exact .reading (hwrote _ hlast)
  | done result => exact .done result

/-- The call under way goes on. -/
theorem Sequenced.goesOn (h : w.Sequenced) (hc : w.calls[c]? = some call) (hp : call.phase.isDone = false)
    {f : RpcCall → RpcCall} (hcalls : w'.calls = w.calls.modify c f) (hclosing : w'.closing = w.closing)
    (hawaits : w'.Awaits c (f call).phase) (hservers : ∀ server ∈ w'.servers, server.InOrder w.calls.length) :
    w'.Sequenced := by
  have hlength : w'.calls.length = w.calls.length := by rw [hcalls, List.length_modify]
  obtain ⟨hlast, hclosed⟩ := h.last c call hc hp
  -- the call under way, or one that is over
  have hcases : ∀ (c' : ℕ) (call' : RpcCall), w'.calls[c']? = some call' →
      (c' = c ∧ call' = f call) ∨ call'.phase.isDone = true := by
    intro c' call' hc'
    rw [hcalls] at hc'
    rcases modify_cases hc' with ⟨rfl, call'', hget, rfl⟩ | ⟨hne, hget⟩
    · rw [hc] at hget
      cases hget
      exact .inl ⟨rfl, rfl⟩
    · right
      by_contra hnot
      have := (h.last c' call' hget (by simpa using hnot)).1
      omega
  refine ⟨fun c' call' hc' hp' => ?_, fun c' call' hc' => ?_, fun server hmem => ?_⟩
  · rcases hcases c' call' hc' with ⟨rfl, -⟩ | hdone
    · exact ⟨hlast.trans hlength.symm, hclosing.trans hclosed⟩
    · rw [hp'] at hdone
      cases hdone
  · rcases hcases c' call' hc' with ⟨rfl, rfl⟩ | hdone
    · exact hawaits
    · exact w'.awaits_of_isDone c' hdone
  · rw [hlength]
    exact hservers server hmem

theorem Sequenced.raise (h : w.Sequenced) (hc : w.calls[c]? = some call) (hp : call.phase.isDone = false) (exc : MCPExc) :
    (w.raise c exc).Sequenced :=
  h.goesOn hc hp rfl rfl (.done _) h.inOrder

/-- No call waits where all are done. -/
theorem Sequenced.quiet (h : w.Sequenced) (hq : w.Quiet) (hcalls : w'.calls = w.calls) (hservers : w'.servers = w.servers) :
    w'.Sequenced := by
  have hdone : ∀ (c : ℕ) (call : RpcCall), w'.calls[c]? = some call → call.phase.isDone = true := by
    intro c call hc
    rw [hcalls] at hc
    exact hq.1 call (List.mem_of_getElem? hc)
  refine ⟨fun c call hc hp => ?_, fun c call hc => w'.awaits_of_isDone c (hdone c call hc), ?_⟩
  · rw [hdone c call hc] at hp
    cases hp
  · rw [hcalls, hservers]
    exact h.inOrder

/-- A process answers or ends. -/
theorem Sequenced.setServer (h : w.Sequenced) {s : ℕ} {f : StdioServer → StdioServer}
    (hf : ∀ server, (f server).requests = server.requests ∧ (f server).readers = server.readers) :
    (w.setServer s f).Sequenced := by
  have hserver : ∀ server' ∈ (w.setServer s f).servers, ∃ server ∈ w.servers,
      server'.requests = server.requests ∧ server'.readers = server.readers := by
    intro server' hmem
    obtain ⟨s', hs'⟩ := List.mem_iff_getElem?.1 hmem
    rcases modify_cases hs' with ⟨-, server, hget, rfl⟩ | ⟨-, hget⟩
    · exact ⟨server, List.mem_of_getElem? hget, hf server⟩
    · exact ⟨server', List.mem_of_getElem? hget, rfl, rfl⟩
  have hwrote : ∀ {c s' : ℕ}, w.LastWrote c s' → (w.setServer s f).LastWrote c s' := by
    rintro c s' ⟨server, init, r, hs', hlast, hid⟩
    by_cases hss : s = s'
    · subst hss
      refine ⟨f server, init, r, ?_, (hf server).1.trans hlast, hid⟩
      exact (List.getElem?_modify_eq _ _ _).trans (by rw [hs']; rfl)
    · exact ⟨server, init, r, (List.getElem?_modify_ne _ _ hss).trans hs', hlast, hid⟩
  refine ⟨h.last, fun c call hc => ?_, fun server' hmem => ?_⟩
  · refine (h.awaits c call hc).congr rfl (fun server' hmem => ?_) fun s' => hwrote
    obtain ⟨server, hmem, hreq, -⟩ := hserver server' hmem
    exact ⟨server, hmem, hreq⟩
  · obtain ⟨server, hmem, hreq, hread⟩ := hserver server' hmem
    obtain ⟨hknown, hinc, hreaders⟩ := h.inOrder server hmem
    exact ⟨hreq ▸ hknown, hreq ▸ hinc, hreq ▸ hread ▸ hreaders⟩

/-- The request of a call that connects is not written yet. -/
theorem Sequenced.unwritten (h : w.Sequenced) (hc : w.calls[c]? = some call) (hp : call.phase = .connecting) :
    ∀ server ∈ w.servers, ∀ r ∈ server.requests, r.id ≤ c := by
  have hawaits := h.awaits c call hc
  rw [hp] at hawaits
  cases hawaits with
  | connecting hle => exact hle

/-- A call under way that has not written yet writes its request, or raises. -/
theorem Sequenced.sendRpcStdio (h : w.Sequenced) (hc : w.calls[c]? = some call) (hp : call.phase = .connecting) {r : Request}
    (hid : r.id = c + 1) : (w.sendRpcStdio c r).Sequenced := by
  have hnot : call.phase.isDone = false := by
    rw [hp]
    rfl
  unfold StdioWorld.sendRpcStdio
  split
  · exact h.raise hc hnot _
  · rename_i s hlive
    obtain ⟨hprocess, hrunning⟩ := Option.filter_eq_some_iff.1 hlive
    obtain ⟨server, hs, -⟩ := (Option.any_eq_true _ _).1 hrunning
    refine h.goesOn hc hnot rfl rfl (.draining hprocess ?_) fun server' hmem => ?_
    · exact ⟨server.write r, server.requests, r, (List.getElem?_modify_eq _ _ _).trans (by rw [hs]; rfl), rfl, hid⟩
    · obtain ⟨s', hs'⟩ := List.mem_iff_getElem?.1 hmem
      rcases modify_cases hs' with ⟨-, server'', hget, rfl⟩ | ⟨-, hget⟩
      · have hmem := List.mem_of_getElem? hget
        exact (h.inOrder server'' hmem).write hid (h.last c call hc hnot).1.le (h.unwritten hc hp server'' hmem)
      · exact h.inOrder server' (List.mem_of_getElem? hget)

/-- A call where nothing is under way. -/
theorem Sequenced.newCall (h : w.Sequenced) (hq : w.Quiet) (r : Request) :
    ({ w with client := { w.client with requestId := w.client.requestId + 1 }, calls := w.calls ++ [{ request := r }] } :
      StdioWorld).Sequenced := by
  have hlength : (w.calls ++ [({ request := r } : RpcCall)]).length = w.calls.length + 1 := by simp
  refine ⟨fun c call hc hp => ?_, fun c call hc => ?_, fun server hmem => ?_⟩
  · rcases concat_cases hc with hc | ⟨rfl, -⟩
    · rw [hq.1 call (List.mem_of_getElem? hc)] at hp
      cases hp
    · exact ⟨hlength.symm, hq.2⟩
  · rcases concat_cases hc with hc | ⟨rfl, rfl⟩
    · exact awaits_of_isDone _ c (hq.1 call (List.mem_of_getElem? hc))
    · exact .connecting fun server hmem r' hr' => ((h.inOrder server hmem).known r' hr').2
  · refine (h.inOrder server hmem).mono ?_
    rw [hlength]
    omega

theorem Sequenced.sendRpc (h : w.Sequenced) (hcor : w.Correlated) (hq : w.Quiet) (method : String) (params : Option Fields) :
    (w.sendRpc method params).Sequenced := by
  unfold StdioWorld.sendRpc
  dsimp only
  split
  · refine (h.newCall hq _).sendRpcStdio List.getElem?_concat_length rfl ?_
    rw [← hcor.counted]
  · exact h.newCall hq _

/-- A call gets a process of its own. -/
theorem Sequenced.newServer (h : w.Sequenced) (hc : w.calls[c]? = some call) (hp : call.phase = .connecting) (running : Bool) :
    ({ w with
        client := { w.client with process := some w.servers.length }
        servers := w.servers ++ [{ running := running }] } : StdioWorld).Sequenced := by
  have hnot : call.phase.isDone = false := by
    rw [hp]
    rfl
  refine h.goesOn hc hnot (f := id) ?_ rfl ?_ fun server hmem => ?_
  · exact (List.modify_id _ _).symm
  · rw [id, hp]
    refine .connecting fun server hmem r hr => ?_
    rcases List.mem_append.1 hmem with hmem | hmem
    · exact h.unwritten hc hp server hmem r hr
    · rw [List.mem_singleton.1 hmem] at hr
      cases hr
  · rcases List.mem_append.1 hmem with hmem | hmem
    · exact h.inOrder server hmem
    · rw [List.mem_singleton.1 hmem]
      exact ⟨nofun, List.Pairwise.nil, List.Sublist.slnil⟩

/-- The call under way takes a line of the process it wrote to. -/
theorem Sequenced.takeLine (h : w.Sequenced) (hcor : w.Correlated) (hc : w.calls[c]? = some call) {s : ℕ}
    (hp : call.phase = .reading s) (line : Line) : (w.takeLine c s line).Sequenced := by
  have hnot : call.phase.isDone = false := by
    rw [hp]
    rfl
  have hawaits := h.awaits c call hc
  rw [hp] at hawaits
  cases hawaits with
  | reading hwrote =>
    obtain ⟨server, init, r, hs, hlast, hid⟩ := hwrote
    have hnew : c ∉ server.readers := by
      intro hmem
      obtain ⟨n, hn⟩ := List.mem_iff_getElem?.1 hmem
      exact hcor.not_took hc hnot s n ⟨server, hs, hn⟩
    refine h.goesOn hc hnot rfl rfl (awaits_of_isDone _ c (RpcCall.isDone_take call line)) fun server' hmem => ?_
    obtain ⟨s', hs'⟩ := List.mem_iff_getElem?.1 hmem
    rcases modify_cases hs' with ⟨rfl, server'', hget, rfl⟩ | ⟨-, hget⟩
    · rw [hs] at hget
      cases hget
      exact (h.inOrder server (List.mem_of_getElem? hs)).take hlast hid hnew
    · exact h.inOrder server' (List.mem_of_getElem? hget)

theorem Sequenced.resume (h : w.Sequenced) (hcor : w.Correlated) (hc : w.calls[c]? = some call) {a : RpcAnswer}
    (hs : w.resume c call a = some w') : w'.Sequenced := by
  unfold StdioWorld.resume at hs
  split at hs
  · rename_i running hp
    cases hs
    exact (h.newServer hc hp running).sendRpcStdio hc hp (hcor.ids c call hc)
  · rename_i fault hp
    cases hs
    exact h.raise hc (by rw [hp]; rfl) _
  · rename_i hp
    have hawaits := h.awaits c call hc
    rw [hp] at hawaits
    cases hawaits with
    | draining hprocess hwrote =>
      rw [hprocess] at hs
      cases hs
      exact h.goesOn hc (by rw [hp]; rfl) rfl rfl (.reading hwrote) h.inOrder
  · rename_i fault hp
    cases hs
    exact h.raise hc (by rw [hp]; rfl) _
  · rename_i s hp
    obtain ⟨line, -, rfl⟩ := Option.map_eq_some_iff.1 hs
    exact h.takeLine hcor hc hp line
  · rename_i s text hp
    obtain ⟨line, -, rfl⟩ := Option.map_eq_some_iff.1 hs
    exact h.takeLine hcor hc hp (.refused text)
  · rename_i s text fault hp
    obtain ⟨line, -, rfl⟩ := Option.map_eq_some_iff.1 hs
    have hcut : (w.setServer s fun server => server.cut fault).Sequenced := h.setServer fun server => ⟨rfl, rfl⟩
    exact hcut.raise hc (by rw [hp]; rfl) _
  · rename_i s hp
    split at hs
    · cases hs
      exact h.raise hc (by rw [hp]; rfl) _
    · cases hs
  · rename_i s fault hp
    cases hs
    exact h.raise hc (by rw [hp]; rfl) _
  · cases hs

theorem Sequenced.step (h : w.Sequenced) (hcor : w.Correlated) {op : StdioOp} (hseq : w.Sequential op)
    (hs : w.step op = some w') : w'.Sequenced := by
  cases op with
  | call method params =>
    cases hs
    exact h.sendRpc hcor hseq method params
  | answer c a =>
    obtain ⟨call, hc, hresume⟩ := Option.bind_eq_some_iff.1 hs
    exact h.resume hcor hc hresume
  | close =>
    unfold StdioWorld.step at hs
    dsimp only at hs
    split at hs <;> cases hs
    · exact h
    · exact h.quiet hseq rfl rfl
    · exact h.quiet hseq rfl rfl
  | closed s =>
    unfold StdioWorld.step at hs
    dsimp only at hs
    split at hs <;> cases hs
    rename_i hclosing
    -- a call under way has no `close` beside it
    have hquiet : ∀ (c : ℕ) (call : RpcCall), w.calls[c]? = some call → call.phase.isDone = true := by
      intro c call hc
      by_contra hp
      have hnil := (h.last c call hc (by simpa using hp)).2
      rw [hnil] at hclosing
      cases hclosing.1
    refine ⟨fun c call hc hp => ?_, fun c call hc => awaits_of_isDone _ c (hquiet c call hc), h.inOrder⟩
    rw [hquiet c call hc] at hp
    cases hp
  | serve s line =>
    unfold StdioWorld.step at hs
    dsimp only at hs
    split at hs <;> cases hs
    exact h.setServer fun server => ⟨rfl, rfl⟩
  | exit s =>
    cases hs
    exact h.setServer fun server => ⟨rfl, rfl⟩

theorem Sequenced.start (client : MCPClient) : (StdioWorld.start client).Sequenced :=
  ⟨nofun, nofun, nofun⟩

/-! ## Whole runs -/

/-- A call gave up on a process: its request was written, and it never took a line. -/
def GaveUp (w : StdioWorld) (c s : ℕ) : Prop :=
  ∃ server, w.servers[s]? = some server ∧ (∃ r ∈ server.requests, r.id = c + 1) ∧ c ∉ server.readers

/-- A call read in its turn exactly when no call before it gave up on the process it read from. -/
theorem Sequenced.inTurn_iff (h : w.Sequenced) (hcor : w.Correlated) (hc : w.calls[c]? = some call) {s n : ℕ}
    (htook : w.Took c s n) : w.InTurn c call ↔ ∀ c' < c, ¬ w.GaveUp c' s := by
  obtain ⟨server, hs, hn⟩ := htook
  obtain ⟨hknown, hincreasing, hreaders⟩ := h.inOrder server (List.mem_of_getElem? hs)
  have hplace : (server.readers.map (· + 1))[n]? = some (c + 1) := by
    rw [List.getElem?_map, hn]
    rfl
  obtain ⟨m, hm⟩ := List.mem_iff_getElem?.1 (hreaders.subset (List.mem_of_getElem? hplace))
  have hid : call.request.id = c + 1 := hcor.ids c call hc
  obtain ⟨-, hiff⟩ := sublist_place hreaders hincreasing hplace hm
  have hturn : w.InTurn c call ↔ n = m := by
    constructor
    · rintro ⟨s', n', server', r, hs', hr, hrid, hn'⟩
      obtain ⟨rfl, rfl⟩ := hcor.once c s s' n n' ⟨server, hs, hn⟩ ⟨server', hs', hn'⟩
      rw [hs] at hs'
      cases hs'
      have hnth : (server.requests.map Request.id)[n]? = some (c + 1) := by
        rw [List.getElem?_map, hr, ← hid, ← hrid]
        rfl
      have hnodup : (server.requests.map Request.id).Nodup := hincreasing.imp fun hlt => hlt.ne
      exact (List.getElem?_inj (List.getElem?_eq_some_iff.1 hnth).1 hnodup).1 (hnth.trans hm.symm)
    · rintro rfl
      rw [List.getElem?_map] at hm
      obtain ⟨r, hr, hrid⟩ := Option.map_eq_some_iff.1 hm
      exact ⟨s, n, server, r, hs, hr, hrid.trans hid.symm, hn⟩
  rw [hturn, hiff]
  constructor
  · rintro hall c' hlt ⟨server', hs', ⟨r, hr, hrid⟩, hnot⟩
    rw [hs] at hs'
    cases hs'
    have hmem := hall (c' + 1) (List.mem_map.2 ⟨r, hr, hrid⟩) (by omega)
    obtain ⟨c'', hc'', hsucc⟩ := List.mem_map.1 hmem
    rw [Nat.succ.inj hsucc] at hc''
    exact hnot hc''
  · intro hnone y hy hlt
    obtain ⟨r, hr, rfl⟩ := List.mem_map.1 hy
    obtain ⟨c', hc'⟩ := Nat.exists_eq_succ_of_ne_zero (hknown r hr).1.ne'
    by_contra hnot
    refine hnone c' (by omega) ⟨server, hs, ⟨r, hr, hc'⟩, fun hread => hnot ?_⟩
    exact List.mem_map.2 ⟨c', hread, hc'.symm⟩

end StdioWorld

/-- Where calls are made one after another, a call that returns a result returns its own exactly when no call before it gave up on
the process it read from. -/
theorem returnedOwn_iff_of_sequential {timeoutSeconds : ℚ} {serverCommand : String} {client : MCPClient}
    (hclient : MCPClient.create timeoutSeconds serverCommand = .ok client) {w : StdioWorld}
    (hrun : Run (fun w op w' => w.step op = some w') (fun w op => w.Echoes op ∧ w.Sequential op) (StdioWorld.start client) w)
    {c : ℕ} {call : RpcCall} (hc : w.calls[c]? = some call) {result : Fields} (hdone : call.phase = .done (.ok result)) :
    call.ReturnedOwn ↔ ∀ s n, w.Took c s n → ∀ c' < c, ¬ w.GaveUp c' s := by
  obtain ⟨hcor, hseq⟩ := hrun.invariant (I := fun w => w.Correlated ∧ w.Sequenced)
    (fun w op w' h hcond hs => ⟨h.1.step hcond.1 hs, h.2.step h.1 hcond.2 hs⟩) ⟨.start hclient, .start client⟩
  obtain ⟨fields, hres, -⟩ := hcor.result c call result hc hdone
  obtain ⟨s, n, htook⟩ := hcor.responded c call fields hc hres
  rw [hcor.returnedOwn_iff_inTurn hc hdone, hseq.inTurn_iff hcor hc htook]
  constructor
  · intro h s' n' htook'
    obtain ⟨rfl, -⟩ := hcor.once c s s' n n' htook htook'
    exact h
  · intro h
    exact h s n htook

end Quant
