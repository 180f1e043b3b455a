import Px4.Control.Proof.Connections

/-!
# The end of the control server

`shutdown` lets every connection go, one after the other (`Table.Leaving`), and nothing that comes
later brings one back (`Table.Deserted`).

* `removeClient_leads`, `removeStreamClient_leads`: one that goes.
* `handleCompletion_deserted`, `shutdownLoop_deserted`: none comes back.
* `shutdown_deserts`: when `shutdown` has ended no connection is left, and `poll_once` does nothing
  more.
-/

namespace Px4.Control

open Ipc Lib

namespace Table

variable {t : Table} {id : UInt64} {ids streamIds : List UInt64}

/-- Only these connections are left. -/
structure Leaving (ids streamIds : List UInt64) (t : Table) : Prop where
  holds : t.Holds none
  clients : ∀ c ∈ t.clients, c.id ∈ ids
  streams : ∀ i ∈ t.streams, i ∈ streamIds

/-- No connection is left. -/
structure Deserted (t : Table) : Prop where
  clients : t.clients = []
  streams : t.streams = []

theorem Leaving.deserted (h : t.Leaving [] []) : t.Deserted :=
  ⟨List.eq_nil_iff_forall_not_mem.2 fun c hc => List.not_mem_nil (h.clients c hc),
    List.eq_nil_iff_forall_not_mem.2 fun i hi => List.not_mem_nil (h.streams i hi)⟩

/-- A client that goes is no longer there. -/
theorem Leaving.removeClient (h : t.Leaving (id :: ids) streamIds) :
    (t.removeClient id).Leaving ids streamIds := by
  refine ⟨h.holds.removeClient, fun c hc => ?_, h.streams⟩
  obtain hcid | hcid := List.mem_cons.1 (h.clients c (List.mem_of_mem_eraseP hc))
  · have hmem : c.id ∈ (t.clients.eraseP (·.id == id)).map (·.id) := List.mem_map_of_mem hc
    have hmap : (t.clients.eraseP (·.id == id)).map (·.id) = (t.clients.map (·.id)).erase id := by
      rw [List.erase_eq_eraseP', List.eraseP_map]
      rfl
    rw [hmap, hcid] at hmem
    exact (h.holds.nodup.of_append_left.not_mem_erase hmem).elim
  · exact hcid

/-- A stream connection that goes is no longer there. -/
theorem Leaving.removeStream (h : t.Leaving ids (id :: streamIds)) :
    (t.removeStream id).Leaving ids streamIds := by
  refine ⟨h.holds.removeStream, h.clients, fun i hi => ?_⟩
  obtain rfl | hi' := List.mem_cons.1 (h.streams i (List.mem_of_mem_erase hi))
  · exact (h.holds.nodup.of_append_right.not_mem_erase hi).elim
  · exact hi'

end Table

namespace Serve

variable {α β : Type} {ids streamIds : List UInt64}

theorem Aside.deserted {x : Serve α} (h : Aside x) : Keeps (fun s : Server => s.table.Deserted) x :=
  h.keeps Table.Deserted

/-! ## Connections that go -/

/-- The clients go. -/
theorem removeClients_leads (ids streamIds : List UInt64) :
    Leads (fun s : Server => s.table.Leaving ids streamIds) (fun s => s.table.Leaving [] streamIds)
      (ids.forM removeClient) := by
  induction ids with
  | nil => exact .pure _
  | cons id ids ih =>
    refine .bind (J := fun s : Server => s.table.Leaving ids streamIds) ⟨fun s h => ?_⟩ fun _ => ih
    rw [removeClient_table]
    exact h.removeClient

/-- The stream connections go. -/
theorem removeStreamClients_leads (ids streamIds : List UInt64) :
    Leads (fun s : Server => s.table.Leaving ids streamIds) (fun s => s.table.Leaving ids [])
      (streamIds.forM removeStreamClient) := by
  induction streamIds with
  | nil => exact .pure _
  | cons id streamIds ih =>
    refine .bind (J := fun s : Server => s.table.Leaving ids streamIds) ⟨fun s h => ?_⟩ fun _ => ih
    rw [removeStreamClient_table]
    exact h.removeStream

/-! ## Nothing comes back -/

/-- A completion finds no client. -/
theorem handleCompletion_deserted (completion : ControlWorkerCompletion) :
    Keeps (fun s : Server => s.table.Deserted) (handleCompletion completion) := by
  refine handleCompletion_of (I := Table.Deserted)
    ((retired?_aside _).deserted.bind fun retired => ?_)
  split
  · exact (handleOrphanCompletion_aside ..).deserted.bind fun _ =>
      retryRetiredCleanup_aside.deserted.bind fun _ => (observeStatus_aside _).deserted
  · refine ⟨fun s hs => ?_⟩
    have hnone : (client? completion.clientId s).1 = none := by
      change s.table.clients.find? _ = none
      rw [hs.clients]
      rfl
    rw [bind_apply, hnone]
    dsimp only
    rw [ite_run]
    split
    · exact (recordError_aside _).deserted.run s hs
    · exact hs

theorem removeStreamClient_deserted (id : UInt64) :
    Keeps (fun s : Server => s.table.Deserted) (removeStreamClient id) := by
  refine ⟨fun s hs => ?_⟩
  rw [removeStreamClient_table]
  exact ⟨hs.clients, by rw [Table.removeStream, hs.streams, List.erase_nil]⟩

theorem submitShutdown_aside {pending : Server → Server}
    (h : ∀ s, (pending s).table = s.table) (done : Bool) (lane : ControlWorkerLane)
    (operation : ControlWorkerOperation) :
    Aside (submitShutdown done lane operation pending) := by
  unfold submitShutdown
  split
  · exact .pure _
  refine (laneSubmit_aside ..).bind fun submitted => ?_
  split
  · exact aside_modify h
  · exact recordError_aside _

@[simp] theorem shutServices_aside : Aside shutServices := by
  unfold shutServices
  refine allRetiredCleanupDone_aside.bind fun done => lanesIdle_aside.bind fun idle => ?_
  split
  · exact .pure _
  exact .bind .get fun _ => .bind (submitShutdown_aside (fun _ => by rfl) ..) fun _ =>
    submitShutdown_aside (fun _ => by rfl) ..

theorem shutdownLoop_deserted (fuel : Nat) :
    Keeps (fun s : Server => s.table.Deserted) (shutdownLoop fuel) := by
  induction fuel with
  | zero => exact .pure _
  | succ fuel ih =>
    unfold shutdownLoop
    refine Leads.get.bind fun s => allRetiredCleanupDone_aside.deserted.bind fun done => ?_
    dsimp only
    split
    · exact .pure _
    refine (processCompletions_keeps handleCompletion_deserted fuel).bind fun _ =>
      retryRetiredCleanup_aside.deserted.bind fun _ => Leads.get.bind fun s =>
        .bind (.forM removeStreamClient_deserted _) fun _ =>
          shutServices_aside.deserted.bind fun _ =>
          workers_aside.deserted.bind fun _ => Leads.get.bind fun s => ?_
    split
    · exact .pure _
    refine (ask_aside _).deserted.bind fun polled => ?_
    split
    · exact (recordError_aside _).deserted.bind fun _ => ih
    · exact ih

theorem discard_aside (lane : ControlWorkerLane) (fuel : Nat) : Aside (discard lane fuel) := by
  induction fuel with
  | zero => exact .pure _
  | succ fuel ih =>
    refine (laneTryPop_aside lane).bind fun completion => ?_
    split
    · exact .pure _
    · exact ih.bind fun _ => .pure _

@[simp] theorem discardAll_aside (fuel : Nat) : Aside (discardAll fuel) :=
  (discard_aside _ fuel).bind fun _ => (discard_aside _ fuel).bind fun _ =>
    (discard_aside _ fuel).bind fun _ => .pure _

theorem joinLoop_aside (fuel : Nat) : Aside (joinLoop fuel) := by
  induction fuel with
  | zero => exact .pure _
  | succ fuel ih =>
    unfold joinLoop
    refine workers_aside.bind fun _ => .bind .get fun s => ?_
    split
    · exact .pure _
    refine (discardAll_aside fuel).bind fun discarded => ?_
    split
    · exact (ask_aside _).bind fun _ => (drainWake_aside fuel).bind fun _ => ih
    · exact ih

@[simp] theorem stopAndJoin_aside (fuel : Nat) : Aside (stopAndJoin fuel) := by
  unfold stopAndJoin
  refine (Aside.forM laneStop_aside _).bind fun _ => (joinLoop_aside fuel).bind fun ended => ?_
  split
  · exact .pure _
  refine (discardAll_aside fuel).bind fun _ => (ask_aside _).bind fun fails =>
    .bind .get fun s => ?_
  split
  · exact .pure _
  · exact .pure _

/-! ## `shutdown` -/

theorem finishShutdown_keeps (joined : Result Unit) :
    Keeps (fun s : Server => s.table.Deserted) (finishShutdown joined) := by
  have hend : Keeps (fun s : Server => s.table.Deserted) (do
      reapRetired
      modify fun s => { s with shutdownComplete := true }
      takeError) :=
    reapRetired_aside.deserted.bind fun _ =>
      .bind (.modify fun _ h => ⟨h.clients, h.streams⟩) fun _ =>
      takeError_aside.deserted
  unfold finishShutdown
  split
  · exact hend
  · exact (recordError_aside _).deserted.bind fun _ => hend

theorem finishShutdown_complete (joined : Result Unit) (s : Server) :
    (finishShutdown joined s).2.shutdownComplete = true := by
  have hend (s : Server) : ((do
      reapRetired
      modify fun s => { s with shutdownComplete := true }
      takeError : Serve (Result Unit)) s).2.table.complete = true := by
    rw [bind_apply, bind_apply]
    exact congrArg Table.complete (takeError_aside.same _)
  unfold finishShutdown
  cases joined with
  | ok u => exact hend s
  | error e =>
    dsimp only
    rw [bind_apply]
    exact hend _

/-- **Every connection goes.** -/
theorem shutdown_leads (fuel : Nat) :
    Leads (Server.Connected none) (fun s => s.table.Deserted) (shutdown fuel) := by
  refine .get_bind fun s hs => ?_
  have hrunning : ¬s.shutdownComplete = true := by
    rw [Bool.not_eq_true]
    exact Table.Holds.running hs
  rw [if_neg hrunning, set_bind]
  have hall : s.table.Leaving (s.clients.map (·.id)).reverse (s.streamClients.map (·.id)).reverse :=
    ⟨hs, fun c hc => List.mem_reverse.2 (List.mem_map_of_mem hc), fun i hi => List.mem_reverse.2 hi⟩
  have hclients := (removeClients_leads _ _).run { s with shuttingDown := true } hall
  have hstreams := (removeStreamClients_leads _ _).run _ hclients
  rw [bind_apply, bind_apply]
  refine (Leads.bind (K := fun s : Server => s.table.Deserted) (shutdownLoop_deserted fuel)
    fun ended => ?_).run _
    hstreams.deserted
  split
  · exact .pure _
  refine (stopAndJoin_aside fuel).deserted.bind fun joined => ?_
  split
  · exact .pure _
  · exact (finishShutdown_keeps _).bind fun _ => .pure _

/-- A `shutdown` that has ended says so. -/
theorem shutdown_complete {fuel : Nat} {s : Server} {result : Result Unit}
    (h : (shutdown fuel s).1 = some result) :
    (shutdown fuel s).2.shutdownComplete = true := by
  unfold shutdown at h ⊢
  rw [get_bind] at h ⊢
  by_cases hcomplete : s.shutdownComplete = true
  · rw [if_pos hcomplete]
    exact hcomplete
  rw [if_neg hcomplete, set_bind, bind_apply, bind_apply, bind_apply, ite_run] at h ⊢
  split at h
  · cases h
  next hended =>
    rw [if_neg hended]
    rw [bind_apply] at h ⊢
    generalize stopAndJoin fuel _ = outcome at h ⊢
    obtain ⟨joined, s⟩ := outcome
    cases joined with
    | none => cases h
    | some joined => exact finishShutdown_complete joined s

/-- After that, `poll_once` does nothing. -/
theorem pollOnce_complete {s : Server} (h : s.shutdownComplete = true) (fuel timeout : Nat) :
    pollOnce fuel timeout s = (.error .notReady, s) := by
  unfold pollOnce
  rw [get_bind, if_pos h]
  rfl

end Serve

/-- **The end of the control server.** However the clients, the services and the threads of the
lanes behave, `shutdown` after any run of `poll_once` leaves no connection, and when it has ended
every later `poll_once` reports that the server is not ready and leaves it as it is. -/
theorem shutdown_deserts (config : Config) (outside : Outside) (wakeCapacity now : Nat)
    (calls : List (Nat × Nat)) (fuel : Nat) :
    let s := (Server.create config outside wakeCapacity now).run calls
    let ended := Serve.shutdown fuel s
    ended.2.clients = [] ∧ ended.2.streamClients = [] ∧
      ∀ result, ended.1 = some result →
        ∀ rounds timeout, Serve.pollOnce rounds timeout ended.2 = (.error .notReady, ended.2) := by
  intro s ended
  have hs : s.Connected none := run_connected (create_connected ..) calls
  have h : ended.2.table.Deserted := (Serve.shutdown_leads fuel).run s hs
  exact ⟨h.clients, List.map_eq_nil_iff.1 h.streams, fun result hresult rounds timeout =>
    Serve.pollOnce_complete (Serve.shutdown_complete hresult) rounds timeout⟩

end Px4.Control
