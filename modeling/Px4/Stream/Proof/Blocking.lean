import Px4.Stream.Blocking
import Px4.Stream.Proof.Frame

/-!
# Attachment isolation of blocking reads

The identity of a read is checked before its wait and not after it. `SharedInv` says whose the
queued packets are: always those of the session's present attachment, which may have changed since
the check. So a read keeps to its own attachment exactly when its wake-up meets `WakeCond`
(`wake_isolated_iff`), and over runs `blocking_read_isolated_iff`.
-/

namespace Px4.Stream

/-- The queued packets belong to the session's attachment, and every waiting reader has room for a
packet. -/
structure SharedInv (b : Shared) : Prop where
  session : SessionInv b.session
  length : b.owners.length = b.session.queue.count
  owners : ∀ owner ∈ b.owners, owner = b.session.binding.identity
  room : ∀ w ∈ b.waiting, 0 < w.size / kPacketSize

section

variable {cfg : Config} {b : Shared} {s s' : Session}

/-! ## Steps of the session -/

/-- A step adds at most one packet, and keeps the attachment of the session or leaves its ring
empty. -/
theorem step_ring (hs : SessionInv s) (op : Op) :
    (step cfg s op).queue.count ≤ s.queue.count + 1 ∧
      ((step cfg s op).binding.identity = s.binding.identity ∨
        (step cfg s op).queue.count = 0) := by
  cases hstream : op.isStream with
  | true =>
    have hst := step_stream cfg hstream s
    exact ⟨hst.count_le, .inl (congrArg Binding.identity hst.binding_eq)⟩
  | false =>
    cases hattach : op.isAttach with
    | false =>
      have hc := step_client cfg hstream hattach s
      exact ⟨Nat.le_succ_of_le hc.count, .inl hc.identity⟩
    | true =>
      cases op with
      | attach attachment env =>
        simp only [step]
        cases ha : attachSession cfg attachment env s with
        | error err => rw [attach_of_error ha]; exact ⟨Nat.le_succ _, .inl rfl⟩
        | ok s' =>
          obtain ⟨-, hcount, -, -, -⟩ := hs.attachSession ha
          rcases attach_of_ok ha with heq | heq
          · rw [heq, hcount]; exact ⟨Nat.zero_le _, .inr rfl⟩
          · rw [heq]; exact ⟨Nat.zero_le _, .inr rfl⟩
      | _ => cases hattach

theorem SharedInv.become (h : SharedInv b) (hs : SessionInv s')
    (hcount : s'.queue.count ≤ b.session.queue.count + 1)
    (hid : s'.binding.identity = b.session.binding.identity ∨ s'.queue.count = 0) :
    SharedInv (b.become s') := by
  have hlen : (ownersAfter b.session s' b.owners).length = s'.queue.count := by
    unfold ownersAfter
    split
    · simp [h.length]; omega
    · simp [h.length]; omega
  refine ⟨hs, hlen, fun owner howner => ?_, h.room⟩
  rcases hid with hid | hzero
  · simp only [Shared.become, ownersAfter] at howner ⊢
    rw [hid]
    split at howner
    · rcases List.mem_append.mp howner with hmem | hmem
      · exact h.owners owner hmem
      · exact List.mem_singleton.mp hmem
    · exact h.owners owner (List.mem_of_mem_drop howner)
  · have hnil : ownersAfter b.session s' b.owners = [] :=
      List.eq_nil_of_length_eq_zero (hlen.trans hzero)
    simp [Shared.become, hnil] at howner

theorem SharedInv.readCopy (h : SharedInv b) (size : Nat) :
    SharedInv (b.become (Stream.readCopy size b.session).1) :=
  have hc := readCopy_client size b.session
  h.become (h.session.readCopy size) (Nat.le_succ_of_le hc.count) (.inl hc.identity)

/-- **Every step** keeps the queued packets those of the session's attachment. -/
theorem SharedInv.step (h : SharedInv b) (op : SharedOp) : SharedInv (b.step cfg op) := by
  cases op with
  | session op =>
    obtain ⟨hcount, hid⟩ := step_ring h.session op
    exact h.become (h.session.step cfg op) hcount hid
  | readStart attachment output =>
    simp only [Shared.step, Shared.readStart]
    split
    · exact h
    rename_i hcheck
    obtain ⟨-, hroom⟩ := readCheck_ok h.session hcheck
    split
    · refine ⟨h.session, h.length, h.owners, fun w hw => ?_⟩
      rcases List.mem_append.mp hw with hmem | hmem
      · exact h.room w hmem
      · rw [List.mem_singleton.mp hmem]; exact hroom
    · exact h.readCopy output.size
  | wake waiter =>
    simp only [Shared.step, Shared.wake]
    split
    · exact h
    · rename_i w hw
      have hread := h.readCopy w.size
      exact ⟨hread.session, hread.length, hread.owners,
        fun w' hw' => h.room w' (List.mem_of_mem_eraseIdx hw')⟩

/-! ## Isolation -/

theorem readIsolated_of_identity (h : SharedInv b) {attachment : TunerAttachment} {b' : Shared}
    (hid : b.session.binding.identity = attachment) : ReadIsolated attachment b b' :=
  ⟨fun owner howner => (h.owners owner (List.mem_of_mem_take howner)).trans hid,
    fun hd _ => (h.session.draining hd).2.trans hid⟩

/-- **A wake-up** keeps to its own attachment exactly when it meets `WakeCond`. -/
theorem wake_isolated_iff (h : SharedInv b) {w : Waiter} {waiter : Nat}
    (hw : b.waiting[waiter]? = some w) :
    ReadIsolated w.attachment b (b.step cfg (.wake waiter)) ↔
      (sameAttachment b.session.binding.identity w.attachment = true ∨
        b.session.queue.count = 0 ∧
          (b.session.terminal = .none ∨ b.session.binding.draining = false)) := by
  have hstep : (b.step cfg (.wake waiter)).session = (readCopy w.size b.session).1 := by
    simp [Shared.step, Shared.wake, hw, Shared.become]
  rw [sameAttachment_iff]
  constructor
  · rintro ⟨howners, hdrain⟩
    by_contra hcond
    simp only [not_or, not_and, Bool.not_eq_false] at hcond
    obtain ⟨hne, hcond⟩ := hcond
    rw [hstep] at howners hdrain
    by_cases hcount : b.session.queue.count = 0
    · -- end of stream for someone else: the present attachment's draining is ended
      obtain ⟨hterm, hd⟩ := hcond hcount
      have hcopy : (readCopy w.size b.session).1.binding.draining = false := by
        simp [readCopy, hcount, hterm]
      exact hne ((h.session.draining hd).2.symm.trans (hdrain hd hcopy))
    · -- at least one packet is taken, and it belongs to the present attachment
      have hroom := h.room w (List.mem_of_getElem? hw)
      have htaken : 0 < b.session.queue.count -
          (readCopy w.size b.session).1.queue.count := by
        simp only [readCopy, if_neg hcount, Queue.pop]
        split <;> omega
      have hpos : 0 < b.owners.length := by rw [h.length]; omega
      obtain ⟨owner, rest, hcons⟩ := List.exists_cons_of_length_pos hpos
      have hmem : owner ∈ b.owners.take (b.session.queue.count -
          (readCopy w.size b.session).1.queue.count) := by
        rw [hcons, List.take_cons htaken]
        exact List.mem_cons_self
      exact hne ((h.owners owner (List.mem_of_mem_take hmem)).symm.trans (howners owner hmem))
  · rintro (hid | ⟨hcount, hquiet⟩)
    · exact readIsolated_of_identity h hid
    · constructor
      · intro owner howner
        simp [hcount] at howner
      · intro hd hnd
        rw [hstep] at hnd
        rcases hquiet with hterm | hdf
        · simp [readCopy, hcount, hterm, hd] at hnd
        · rw [hd] at hdf; cases hdf

/-- A read that fails its checks does nothing, and one that passes them is of the present
attachment. -/
theorem readIsolated_of_check (h : SharedInv b) (cfg : Config)
    (attachment : TunerAttachment) (output : OutputView) {b' : Shared}
    (hb : ∀ err, readCheck cfg attachment output b.session = .error err →
      b'.session = b.session) : ReadIsolated attachment b b' := by
  cases hcheck : readCheck cfg attachment output b.session with
  | error err =>
    rw [ReadIsolated, hb err hcheck]
    exact ⟨by simp, fun hd hnd => by rw [hd] at hnd; cases hnd⟩
  | ok _ => exact readIsolated_of_identity h (readCheck_ok h.session hcheck).1

theorem isolated_iff (h : SharedInv b) (op : SharedOp) :
    Isolated cfg b op ↔ WakeCond b op := by
  cases op with
  | session op =>
    cases op with
    | read attachment output =>
      refine iff_of_true (readIsolated_of_check h cfg attachment output
        fun err herr => ?_) trivial
      simp [Shared.step, Shared.become, Stream.step, Stream.read, herr]
    | _ => exact Iff.rfl
  | readStart attachment output =>
    refine iff_of_true (readIsolated_of_check h cfg attachment output
      fun err herr => ?_) trivial
    simp [Shared.step, Shared.readStart, herr]
  | wake waiter => exact forall₂_congr fun w hw => wake_isolated_iff h hw

/-- **Blocking reads over runs.** No read touches another attachment's packets or draining, exactly
in the runs in which every wake-up meets `WakeCond`. -/
theorem blocking_read_isolated_iff (cfg : Config) (ops : List SharedOp) :
    Lib.AllSteps (Shared.step cfg) (Isolated cfg) {} ops ↔
      Lib.AllSteps (Shared.step cfg) WakeCond {} ops := by
  have hinit : SharedInv {} := ⟨sessionInv_init, rfl, by simp, by simp⟩
  exact Lib.allSteps_iff (fun b op h hc => ⟨h.step op, (isolated_iff h op).mpr hc⟩)
    (fun b op h hc hgood => hc ((isolated_iff h op).mp hgood)) ops hinit

end

/-! ## A read that outlives its attachment -/

/-- The first client waits, is detached and released, and a second one attaches. -/
def handover : List SharedOp :=
  [.session (.attach firstClient calmEnv), .readStart firstClient ⟨false, 188⟩,
    .session (.detach firstClient (.ok ())), .session (.releaseFinal firstClient),
    .session (.attach secondClient calmEnv)]

/-- The waiting read of the first client ends the draining of the second, and takes a packet
published for it. -/
theorem blocking_read_leaks :
    ¬Lib.AllSteps (Shared.step q3u4Config) (Isolated q3u4Config) {}
      (handover ++ [.session (.detach secondClient (.ok ()))] ++ [.wake 0]) ∧
    ¬Lib.AllSteps (Shared.step promptConfig) (Isolated promptConfig) {}
      (handover ++ [.session (.packet markerPacket), .session (.eventEnd 0 false),
        .session (.packet nullPacket)] ++ [.wake 0]) := by
  constructor
  · intro h
    exact absurd (h.last ⟨firstClient, 188⟩ (by decide +kernel)) (by decide +kernel)
  · intro h
    exact absurd (h.last ⟨firstClient, 188⟩ (by decide +kernel)) (by decide +kernel)

end Px4.Stream
