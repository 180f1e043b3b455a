import Px4.Ipc.Framer

/-!
# The framer and the cuts of its input

The frames of a byte string are an incremental machine (`framing`): the next step is decided by the
bytes it sees. A framer between two rounds holds the bytes that the machine has left (`Waiting`),
and a round is a step of the machine or none. So whatever the pieces are in which the bytes arrive,
the framer has done what the machine does on all of them.
-/

namespace Px4.Ipc

open Lib (Incremental)

variable {size : Nat} {consumer : List FrameView → Result Unit}

/-! ## The machine -/

theorem Framing.step_none_of_failure {s : Framing} {b : List UInt8} (h : s.failure.isSome = true) :
    s.step size consumer b = none := by
  rw [step, if_pos (by rw [h, Bool.true_or])]

theorem Framing.step_none_of_short {s : Framing} {b : List UInt8}
    (h : b.length < kFrameHeaderSize) : s.step size consumer b = none := by
  rw [step, if_pos (by simp [h])]

/-- The bytes of a header, of which the frame does not follow as a whole. -/
theorem Framing.step_none_of_payload {s : Framing} {b : List UInt8} {header : FrameHeader}
    (hd : decodeFrameHeader (.of (b.take kFrameHeaderSize)) = .ok header)
    (hsize : kFrameHeaderSize + header.payloadLength.toNat ≤ size)
    (h : b.length < kFrameHeaderSize + header.payloadLength.toNat) :
    s.step size consumer b = none := by
  unfold step
  split
  · rfl
  · rw [hd]
    dsimp only
    rw [if_neg (by omega), if_pos h]

/-- What a step consumes: the header or the frame. -/
theorem Framing.step_cases {s s' : Framing} {b b' : List UInt8} {o : List FrameView}
    (h : s.step size consumer b = some (s', b', o)) :
    ∃ n, kFrameHeaderSize ≤ n ∧ n ≤ b.length ∧ b' = b.drop n ∧
      (o = [] ∧ s'.failure.isSome = true ∨
        ∃ frame, o = [frame] ∧ decodeFrame (.of (b.take n)) = .ok frame) ∧
      s'.delivered = s.delivered ++ o ∧
      ∀ c, s.step size consumer (b ++ c) = some (s', b' ++ c, o) := by
  unfold step at h
  split at h
  · cases h
  · next hf =>
    simp only [Bool.or_eq_true, decide_eq_true_eq, not_or, Nat.not_lt] at hf
    have htake : ∀ c, (b ++ c).take kFrameHeaderSize = b.take kFrameHeaderSize :=
      fun c => List.take_append_of_le_length hf.2
    have hdrop : ∀ c, (b ++ c).drop kFrameHeaderSize = b.drop kFrameHeaderSize ++ c :=
      fun c => List.drop_append_of_le_length hf.2
    have hlong : ∀ c,
        ¬(s.failure.isSome || decide ((b ++ c).length < kFrameHeaderSize)) = true := by
      intro c
      simp [hf.1]
      omega
    split at h
    · next e hd =>
      cases h
      refine ⟨_, Nat.le_refl _, hf.2, rfl, .inl ⟨rfl, rfl⟩, (List.append_nil _).symm, fun c => ?_⟩
      rw [step, if_neg (hlong c), htake, hd, hdrop]
    · next header hd =>
      dsimp only at h
      split at h
      · next hbig =>
        cases h
        refine ⟨_, Nat.le_refl _, hf.2, rfl, .inl ⟨rfl, rfl⟩, (List.append_nil _).symm, fun c => ?_⟩
        rw [step, if_neg (hlong c), htake, hd, hdrop]
        dsimp only
        rw [if_pos hbig]
      · next hfit =>
        split at h
        · cases h
        · next hwhole =>
          have hwhole := Nat.le_of_not_lt hwhole
          have htake' : ∀ c, (b ++ c).take (kFrameHeaderSize + header.payloadLength.toNat) =
              b.take (kFrameHeaderSize + header.payloadLength.toNat) :=
            fun c => List.take_append_of_le_length hwhole
          have hdrop' : ∀ c, (b ++ c).drop (kFrameHeaderSize + header.payloadLength.toNat) =
              b.drop (kFrameHeaderSize + header.payloadLength.toNat) ++ c :=
            fun c => List.drop_append_of_le_length hwhole
          have hlong' : ∀ c, ¬(b ++ c).length <
              kFrameHeaderSize + header.payloadLength.toNat := by
            intro c
            rw [List.length_append]
            omega
          split at h
          · next e hframe =>
            cases h
            refine ⟨_, Nat.le_add_right _ _, hwhole, rfl, .inl ⟨rfl, rfl⟩, (List.append_nil _).symm,
              fun c => ?_⟩
            rw [step, if_neg (hlong c), htake, hd]
            dsimp only
            rw [if_neg hfit, if_neg (hlong' c), htake', hframe, hdrop']
          · next frame hframe =>
            split at h
            all_goals
              next hcons =>
              cases h
              refine ⟨_, Nat.le_add_right _ _, hwhole, rfl, .inr ⟨frame, rfl, hframe⟩, rfl,
                fun c => ?_⟩
              rw [step, if_neg (hlong c), htake, hd]
              dsimp only
              rw [if_neg hfit, if_neg (hlong' c), htake', hframe, hdrop']
              dsimp only
              rw [hcons]

/-- **The frames of a byte string**, as an incremental machine. -/
def framing (size : Nat) (consumer : List FrameView → Result Unit) :
    Incremental Framing UInt8 FrameView where
  step := Framing.step size consumer
  rank _ b := b.length
  rank_lt h := by
    obtain ⟨n, hn, hle, rfl, -⟩ := Framing.step_cases h
    have hpos : 0 < n := Nat.lt_of_lt_of_le (by decide) hn
    rw [List.length_drop]
    omega
  stable c h := by
    obtain ⟨_, -, -, -, -, -, hstable⟩ := Framing.step_cases h
    exact hstable c

/-- The frames come one after the other, each of them decoded from its bytes. -/
inductive Frames : List UInt8 → List FrameView → List UInt8 → Prop
  | nil (b : List UInt8) : Frames b [] b
  | cons {bytes b rest : List UInt8} {frame : FrameView} {frames : List FrameView} :
    decodeFrame (.of bytes) = .ok frame → Frames b frames rest →
      Frames (bytes ++ b) (frame :: frames) rest

/-! ## The framer -/

namespace StreamFramer

/-- The buffer holds `p`. -/
structure Holds (f : StreamFramer) (p : List UInt8) : Prop where
  buffered : f.buffered = p.length
  bytes : Lib.slice f.storage 0 p.length = p

/-- The header of the frame is known, and the frame fits the storage. -/
structure Headed (size : Nat) (f : StreamFramer) (p : List UInt8) : Prop extends Holds f p where
  failure : f.failure = none
  data : f.data = true
  size_eq : f.size = size
  header : ∃ header, decodeFrameHeader (.of (p.take kFrameHeaderSize)) = .ok header ∧
    f.expected = kFrameHeaderSize + header.payloadLength.toNat
  fits : f.expected ≤ size
  long : kFrameHeaderSize ≤ p.length
  short : p.length ≤ f.expected

/-- Between two rounds: no frame is complete. -/
structure Waiting (size : Nat) (f : StreamFramer) (p : List UInt8) : Prop extends Holds f p where
  failure : f.failure = none
  data : f.data = true
  size_eq : f.size = size
  incomplete : p.length < kFrameHeaderSize ∨ Headed size f p ∧ p.length < f.expected

theorem Holds.copy {f : StreamFramer} {p : List UInt8} (h : f.Holds p) (bytes : List UInt8) :
    (f.copy bytes).Holds (p ++ bytes) where
  buffered := by rw [List.length_append, ← h.buffered, StreamFramer.copy]
  bytes := by
    have ha := Lib.slice_write_append f.storage 0 p.length bytes
    rw [h.bytes, Nat.zero_add, ← h.buffered] at ha
    rw [List.length_append, ← h.buffered]
    exact ha

theorem Holds.slice {f : StreamFramer} {p : List UInt8} (h : f.Holds p) {n : Nat}
    (hn : n ≤ p.length) : Lib.slice f.storage 0 n = p.take n := by
  rw [← Lib.slice_take f.storage 0 hn, h.bytes]

theorem Waiting.step_none {f : StreamFramer} {p : List UInt8} (h : f.Waiting size p)
    (s : Framing) : s.step size consumer p = none := by
  rcases h.incomplete with hshort | ⟨hh, hlt⟩
  · exact Framing.step_none_of_short hshort
  · obtain ⟨header, hd, he⟩ := hh.header
    have hfits := hh.fits
    exact Framing.step_none_of_payload hd (by omega) (by omega)

/-- The bytes that a copy takes off the front. -/
theorem append_take_drop (p rest : List UInt8) (n : Nat) :
    p ++ rest = p ++ rest.take n ++ rest.drop n := by
  rw [List.append_assoc, List.take_append_drop]

theorem takeHeader_continue {f f' : StreamFramer} {p rest rest' : List UInt8}
    (hw : f.Waiting size p) (h : f.takeHeader rest = (f', rest', .ok false)) :
    ∃ q, p ++ rest = q ++ rest' ∧ f'.Waiting size q := by
  unfold takeHeader at h
  split at h
  · dsimp only at h
    split at h
    · next hshort =>
      cases h
      have hc := hw.toHolds.copy (rest.take (min (kFrameHeaderSize - f.buffered) rest.length))
      refine ⟨_, append_take_drop _ _ _, hc, hw.failure, hw.data, hw.size_eq, .inl ?_⟩
      rw [← hc.buffered]
      exact hshort
    · split at h
      · cases h
      · split at h <;> cases h
  · cases h

/-- The header of the byte string is the header in the buffer. -/
theorem Holds.copy_header {f : StreamFramer} {p rest : List UInt8} (h : f.Holds p)
    (hb : f.buffered < kFrameHeaderSize)
    (hlong : ¬(f.copy (rest.take (min (kFrameHeaderSize - f.buffered) rest.length))).buffered <
      kFrameHeaderSize) :
    (p ++ rest.take (min (kFrameHeaderSize - f.buffered) rest.length)).length = kFrameHeaderSize ∧
      kFrameHeaderSize ≤ (p ++ rest).length ∧
      Lib.slice (f.copy (rest.take (min (kFrameHeaderSize - f.buffered) rest.length))).storage 0
        kFrameHeaderSize = (p ++ rest).take kFrameHeaderSize := by
  have hc := h.copy (rest.take (min (kFrameHeaderSize - f.buffered) rest.length))
  have hlen : (p ++ rest.take (min (kFrameHeaderSize - f.buffered) rest.length)).length =
      kFrameHeaderSize := by
    rw [← hc.buffered]
    simp only [StreamFramer.copy, List.length_take] at hlong ⊢
    omega
  refine ⟨hlen, ?_, ?_⟩
  · rw [← hlen, List.length_append, List.length_append, List.length_take]
    omega
  · rw [hc.slice (Nat.le_of_eq hlen.symm), ← List.take_append_of_le_length (Nat.le_of_eq hlen.symm),
      ← append_take_drop]

theorem takeHeader_go {f f' : StreamFramer} {p rest rest' : List UInt8}
    (hw : f.Waiting size p) (h : f.takeHeader rest = (f', rest', .ok true)) :
    ∃ q, p ++ rest = q ++ rest' ∧ f'.Headed size q := by
  unfold takeHeader at h
  split at h
  · next hb =>
    dsimp only at h
    split at h
    · cases h
    · next hlong =>
      have hc := hw.toHolds.copy (rest.take (min (kFrameHeaderSize - f.buffered) rest.length))
      obtain ⟨hlen, -, -⟩ := hw.toHolds.copy_header hb hlong
      split at h
      · cases h
      · next header hd =>
        split at h
        · cases h
        · next hfits =>
          cases h
          rw [hc.slice (Nat.le_of_eq hlen.symm)] at hd
          refine ⟨_, append_take_drop _ _ _, ⟨hc.buffered, hc.bytes⟩, hw.failure,
            hw.data, hw.size_eq,
            ⟨header, hd, rfl⟩, ?_, (Nat.le_of_eq hlen.symm), ?_⟩
          · rw [← hw.size_eq]
            exact Nat.le_of_not_lt hfits
          · rw [hlen]
            exact Nat.le_add_right _ _
  · next hb =>
    cases h
    rcases hw.incomplete with hshort | ⟨hh, -⟩
    · rw [hw.buffered] at hb
      exact absurd hshort hb
    · exact ⟨p, rfl, hh⟩

theorem takeHeader_error {f f' : StreamFramer} {p rest rest' : List UInt8} {e : Error}
    (hw : f.Waiting size p) (h : f.takeHeader rest = (f', rest', .error e))
    (delivered : List FrameView) :
    f'.failure = some e ∧ ∃ b', (⟨delivered, none⟩ : Framing).step size consumer (p ++ rest) =
      some (⟨delivered, some (e, f'.buffered)⟩, b', []) := by
  unfold takeHeader at h
  split at h
  · next hb =>
    dsimp only at h
    split at h
    · cases h
    · next hlong =>
      have hc := hw.toHolds.copy (rest.take (min (kFrameHeaderSize - f.buffered) rest.length))
      obtain ⟨hlen, hwhole, hslice⟩ := hw.toHolds.copy_header hb hlong
      have hbuf := hc.buffered.trans hlen
      split at h
      · next e' hd =>
        cases h
        rw [hslice] at hd
        refine ⟨rfl, (p ++ rest).drop kFrameHeaderSize, ?_⟩
        rw [Framing.step, if_neg (by simpa using hwhole), hd]
        simp only [fail, hbuf]
      · next header hd =>
        split at h
        · next hbig =>
          cases h
          rw [hslice] at hd
          refine ⟨rfl, (p ++ rest).drop kFrameHeaderSize, ?_⟩
          rw [Framing.step, if_neg (by simpa using hwhole), hd]
          dsimp only
          rw [if_pos (by rw [← hw.size_eq]; exact hbig)]
          simp only [fail, hbuf]
        · cases h
  · cases h

theorem takePayload_spec {f f' : StreamFramer} {p rest rest' : List UInt8} {complete : Bool}
    (hh : f.Headed size p) (h : f.takePayload rest = (f', rest', complete)) :
    ∃ q, p ++ rest = q ++ rest' ∧ f'.Headed size q ∧
      (complete = false → q.length < f'.expected) ∧ (complete = true → q.length = f'.expected) := by
  have hbuf := hh.buffered
  have hshort := hh.short
  unfold takePayload at h
  split at h
  · next hlt =>
    dsimp only at h
    have hc := hh.toHolds.copy (rest.take (min (f.expected - f.buffered) rest.length))
    have hle : (p ++ rest.take (min (f.expected - f.buffered) rest.length)).length ≤
        f.expected := by
      rw [List.length_append, List.length_take]
      omega
    cases h
    refine ⟨_, append_take_drop _ _ _,
      ⟨hc, hh.failure, hh.data, hh.size_eq, ?_, hh.fits, ?_, hle⟩, ?_, ?_⟩
    · obtain ⟨header, hd, he⟩ := hh.header
      refine ⟨header, ?_, he⟩
      rw [List.take_append_of_le_length hh.long]
      exact hd
    · rw [List.length_append]
      exact Nat.le_add_right_of_le hh.long
    · intro hfalse
      rw [← hc.buffered]
      simpa using hfalse
    · intro htrue
      rw [← hc.buffered] at hle ⊢
      simp only [Bool.not_eq_true', decide_eq_false_iff_not, Nat.not_lt] at htrue
      exact Nat.le_antisymm hle htrue
  · next hge =>
    cases h
    exact ⟨p, rfl, hh, nofun, fun _ => by omega⟩

/-- What a step makes of the bytes of a frame, with `rest` behind them. -/
def framed (consumer : List FrameView → Result Unit) (delivered : List FrameView)
    (p rest : List UInt8) :
    Framing × List UInt8 × List FrameView :=
  match decodeFrame (.of p) with
  | .error e => (⟨delivered, some (e, p.length)⟩, rest, [])
  | .ok frame =>
    match consumer (delivered ++ [frame]) with
    | .error e => (⟨delivered ++ [frame], some (e, p.length)⟩, rest, [frame])
    | .ok () => (⟨delivered ++ [frame], none⟩, rest, [frame])

/-- A complete frame is delivered by a step of the machine. -/
theorem deliver_spec {f f' : StreamFramer} {p rest : List UInt8}
    {delivered delivered' : List FrameView} {result : Result Unit} (hh : f.Headed size p)
    (hcomplete : p.length = f.expected)
    (h : f.deliver consumer delivered = (f', delivered', result)) :
    ∃ s o, (⟨delivered, none⟩ : Framing).step size consumer (p ++ rest) = some (s, rest, o) ∧
      s.delivered = delivered' ∧
      (∀ e, result = .error e → f'.failure = some e ∧ s.failure = some (e, f'.buffered)) ∧
      (result = .ok () → f'.Waiting size [] ∧ s.failure = none) := by
  obtain ⟨header, hd, he⟩ := hh.header
  have hfits := hh.fits
  have hstep : (⟨delivered, none⟩ : Framing).step size consumer (p ++ rest) =
      some (framed consumer delivered p rest) := by
    have hlong := hh.long
    unfold framed
    rcases hdec : decodeFrame (.of p) with e | frame
    · rw [Framing.step, if_neg (by simp; omega), List.take_append_of_le_length hlong, hd]
      dsimp only
      rw [← he, ← hcomplete, if_neg (by omega), if_neg (by simp), List.take_left, List.drop_left]
      simp only [hdec]
    rcases hcons : consumer (delivered ++ [frame]) with e | ⟨⟩
    all_goals
      rw [Framing.step, if_neg (by simp; omega), List.take_append_of_le_length hlong, hd]
      dsimp only
      rw [← he, ← hcomplete, if_neg (by omega), if_neg (by simp), List.take_left, List.drop_left]
      simp only [hdec, hcons]
  have hslice : Lib.slice f.storage 0 f.expected = p := by
    rw [← hcomplete, hh.bytes]
  have hbuf := hh.buffered
  unfold deliver at h
  rw [hslice] at h
  rw [hstep]
  unfold framed
  rcases hdec : decodeFrame (.of p) with e | frame
  · rw [hdec] at h
    cases h
    refine ⟨_, _, rfl, rfl, ?_, by rintro ⟨⟩⟩
    rintro _ ⟨⟩
    exact ⟨rfl, by rw [fail, hbuf]⟩
  · rw [hdec] at h
    dsimp only at h ⊢
    rcases hcons : consumer (delivered ++ [frame]) with e | ⟨⟩
    · rw [hcons] at h
      cases h
      refine ⟨_, _, rfl, rfl, ?_, by rintro ⟨⟩⟩
      rintro _ ⟨⟩
      exact ⟨rfl, by rw [fail, hbuf]⟩
    · rw [hcons] at h
      cases h
      exact ⟨_, _, rfl, rfl, by rintro _ ⟨⟩,
        fun _ => ⟨⟨⟨rfl, rfl⟩, hh.failure, hh.data, hh.size_eq, .inl (by decide)⟩, rfl⟩⟩

/-- **A round** is a step of the machine or none. -/
theorem round_tracks {f : StreamFramer} {p rest : List UInt8} (hw : f.Waiting size p)
    (delivered : List FrameView) :
    ((f.round consumer delivered rest).completed.isOk = true ∧
      ∃ q o, (f.round consumer delivered rest).framer.Waiting size q ∧
        (framing size consumer).Reach ⟨delivered, none⟩ (p ++ rest) o
          ⟨(f.round consumer delivered rest).delivered, none⟩
          (q ++ (f.round consumer delivered rest).rest)) ∨
    ∃ e o left, (f.round consumer delivered rest).completed = .error e ∧
      (f.round consumer delivered rest).framer.failure = some e ∧
      (framing size consumer).Reach ⟨delivered, none⟩ (p ++ rest) o
        ⟨(f.round consumer delivered rest).delivered,
          some (e, (f.round consumer delivered rest).framer.buffered)⟩ left := by
  unfold round
  rcases hhead : f.takeHeader rest with ⟨f₁, rest₁, e | _ | _⟩
  · obtain ⟨hfail, b', hstep⟩ := takeHeader_error hw hhead delivered
    exact .inr ⟨e, _, b', rfl, hfail, .one hstep⟩
  · obtain ⟨q, heq, hq⟩ := takeHeader_continue hw hhead
    refine .inl ⟨rfl, q, [], hq, ?_⟩
    rw [heq]
    exact .refl _ _
  · obtain ⟨q₁, heq₁, hh₁⟩ := takeHeader_go hw hhead
    dsimp only
    rcases hpay : f₁.takePayload rest₁ with ⟨f₂, rest₂, _ | _⟩
    · obtain ⟨q₂, heq₂, hh₂, hlt, -⟩ := takePayload_spec hh₁ hpay
      refine .inl ⟨rfl, q₂, [], ⟨hh₂.toHolds, hh₂.failure, hh₂.data, hh₂.size_eq,
        .inr ⟨hh₂, hlt rfl⟩⟩, ?_⟩
      rw [heq₁, heq₂]
      exact .refl _ _
    · obtain ⟨q₂, heq₂, hh₂, -, hcomplete⟩ := takePayload_spec hh₁ hpay
      dsimp only
      rw [heq₁, heq₂]
      rcases hdel : f₂.deliver consumer delivered with ⟨f₃, delivered₃, e | ⟨⟩⟩
      · obtain ⟨⟨_, failure⟩, o, hstep, rfl, herr, -⟩ := deliver_spec hh₂ (hcomplete rfl) hdel
        obtain ⟨hf, rfl⟩ := herr e rfl
        exact .inr ⟨e, o, rest₂, rfl, hf, .one hstep⟩
      · obtain ⟨⟨_, failure⟩, o, hstep, rfl, -, hok⟩ := deliver_spec hh₂ (hcomplete rfl) hdel
        obtain ⟨hf, rfl⟩ := hok rfl
        exact .inl ⟨rfl, [], o, hf, .one hstep⟩

/-- **The loop** of one call, by induction along its rounds. -/
theorem feedLoop_tracks {f : StreamFramer} {p : List UInt8} (hw : f.Waiting size p)
    (delivered : List FrameView) (rest : List UInt8) (completed : Nat) :
    ((f.feedLoop consumer delivered rest completed).2.2.isOk = true ∧
      ∃ q o, (f.feedLoop consumer delivered rest completed).1.Waiting size q ∧
        (framing size consumer).Reach ⟨delivered, none⟩ (p ++ rest) o
          ⟨(f.feedLoop consumer delivered rest completed).2.1, none⟩ q) ∨
    ∃ e o left, (f.feedLoop consumer delivered rest completed).2.2 = .error e ∧
      (f.feedLoop consumer delivered rest completed).1.failure = some e ∧
      (framing size consumer).Reach ⟨delivered, none⟩ (p ++ rest) o
        ⟨(f.feedLoop consumer delivered rest completed).2.1,
          some (e, (f.feedLoop consumer delivered rest completed).1.buffered)⟩ left := by
  fun_induction feedLoop consumer f delivered rest completed generalizing p with
  | case1 f delivered completed =>
    refine .inl ⟨rfl, p, [], hw, ?_⟩
    rw [List.append_nil]
    exact .refl _ _
  | case2 f delivered rest completed hne e he =>
    rcases round_tracks hw delivered with ⟨hok, -⟩ | ⟨e', o, left, he', hf, hreach⟩
    · rw [he] at hok
      cases hok
    · rw [he] at he'
      cases he'
      exact .inr ⟨e, o, left, rfl, hf, hreach⟩
  | case3 f delivered rest completed hne n hn ih =>
    rcases round_tracks hw delivered with ⟨-, q, o, hq, hreach⟩ | ⟨e', _, _, he', -⟩
    · rcases ih hq with ⟨hok, q', o', hq', hreach'⟩ | ⟨e, o', left, he, hf, hreach'⟩
      · exact .inl ⟨hok, q', _, hq', hreach.trans hreach'⟩
      · exact .inr ⟨e, _, left, he, hf, hreach.trans hreach'⟩
    · rw [hn] at he'
      cases he'

/-- What the framer has done is what the machine has done, and what it holds is what the machine has
left. -/
def Tracks (size : Nat) (consumer : List FrameView → Result Unit) (before : List FrameView)
    (b : List UInt8) (f : StreamFramer) (delivered : List FrameView) : Prop :=
  (∃ q o, f.Waiting size q ∧
    (framing size consumer).Reach ⟨before, none⟩ b o ⟨delivered, none⟩ q) ∨
  ∃ e o left, f.failure = some e ∧
    (framing size consumer).Reach ⟨before, none⟩ b o ⟨delivered, some (e, f.buffered)⟩ left

/-- **All calls**, by induction along the pieces. -/
theorem feedAll_tracks {f : StreamFramer} {p : List UInt8} (hw : f.Waiting size p)
    (hsize : kFrameHeaderSize ≤ size) (delivered : List FrameView) (pieces : List (List UInt8)) :
    Tracks size consumer delivered (p ++ pieces.flatten)
      (f.feedAll consumer delivered pieces).1 (f.feedAll consumer delivered pieces).2 := by
  induction pieces generalizing f p delivered with
  | nil =>
    refine .inl ⟨p, [], hw, ?_⟩
    rw [List.flatten_nil, List.append_nil]
    exact .refl _ _
  | cons piece pieces ih =>
    have hfeed : f.feed consumer delivered (.of piece) =
        f.feedLoop consumer delivered piece 0 := by
      unfold feed
      rw [hw.failure]
      dsimp only
      rw [if_neg (by simp [validView, hw.data, hw.size_eq, hsize]), ByteView.of_bytes]
    have hl := @feedLoop_tracks size consumer f p hw delivered piece 0
    unfold feedAll
    rw [hfeed]
    rcases hloop : f.feedLoop consumer delivered piece 0 with ⟨f', delivered', e | n⟩
    · rw [hloop] at hl
      obtain ⟨hok, -⟩ | ⟨e', o, left, he, hf, hreach⟩ := hl
      · cases hok
      · cases he
        refine .inr ⟨e, o, left ++ pieces.flatten, hf, ?_⟩
        rw [List.flatten_cons, ← List.append_assoc]
        exact hreach.append _
    · rw [hloop] at hl
      obtain ⟨-, q, o, hq, hreach⟩ | ⟨e', _, _, he, -⟩ := hl
      · have hreach' := hreach.append pieces.flatten
        rw [List.append_assoc, ← List.flatten_cons] at hreach'
        rcases ih hq delivered' with ⟨q', o', hq', hrest⟩ | ⟨e', o', left, hf, hrest⟩
        · exact .inl ⟨q', _, hq', hreach'.trans hrest⟩
        · exact .inr ⟨e', _, left, hf, hreach'.trans hrest⟩
      · cases he

/-- A framer with nothing in its buffer. -/
theorem waiting_nil (storage : Nat → UInt8) (size : Nat) :
    Waiting size { storage, data := true, size } [] :=
  ⟨⟨rfl, rfl⟩, rfl, rfl, rfl, .inl (by decide)⟩

end StreamFramer

/-! ## Independence of the cuts -/

/-- What can be seen of a framer: the frames delivered, `failed` with `failure`, and
`buffered_size`. -/
structure FramerOutcome where
  delivered : List FrameView
  failure : Option Error
  buffered : Nat

/-- The outcome of `feed` of all pieces, up to the first failure. -/
def feedOutcome (storage : Nat → UInt8) (size : Nat) (consumer : List FrameView → Result Unit)
    (pieces : List (List UInt8)) : FramerOutcome :=
  let r := StreamFramer.feedAll consumer { storage, data := true, size } [] pieces
  ⟨r.2, r.1.failure, r.1.buffered⟩

/-- The outcome on a byte string that is there as a whole. -/
def greedyOutcome (size : Nat) (consumer : List FrameView → Result Unit) (b : List UInt8) :
    FramerOutcome :=
  let r := (framing size consumer).run {} b
  match r.1.failure with
  | none => ⟨r.2.2, none, r.2.1.length⟩
  | some (e, n) => ⟨r.2.2, some e, n⟩

theorem reach_delivered {s s' : Framing} {b b' : List UInt8} {o : List FrameView}
    (h : (framing size consumer).Reach s b o s' b') : s'.delivered = s.delivered ++ o := by
  induction h with
  | refl => exact (List.append_nil _).symm
  | step hs _ ih =>
    obtain ⟨_, -, -, -, -, hd, -⟩ := Framing.step_cases hs
    rw [ih, hd, List.append_assoc]

theorem reach_frames {s s' : Framing} {b b' : List UInt8} {o : List FrameView}
    (h : (framing size consumer).Reach s b o s' b') : ∃ tail, Frames b o tail := by
  induction h with
  | refl => exact ⟨_, .nil _⟩
  | @step s b s₁ b₁ o₁ o s' b' hs hrest ih =>
    obtain ⟨n, -, -, rfl, hkind, -⟩ := Framing.step_cases hs
    obtain ⟨rfl, hfail⟩ | ⟨frame, rfl, hdec⟩ := hkind
    · -- a failure without a frame is the last step
      cases hrest with
      | refl => exact ⟨_, .nil _⟩
      | step hs' _ =>
        have hnone : s₁.step size consumer (b.drop n) = none := Framing.step_none_of_failure hfail
        exact absurd (hnone.symm.trans hs') nofun
    · obtain ⟨tail, htail⟩ := ih
      refine ⟨tail, ?_⟩
      rw [← List.take_append_drop n b]
      exact .cons hdec htail

/-- The outcome of the framer is the outcome on the byte string as a whole. -/
theorem feedOutcome_eq (storage : Nat → UInt8) (hsize : kFrameHeaderSize ≤ size)
    (pieces : List (List UInt8)) :
    feedOutcome storage size consumer pieces = greedyOutcome size consumer pieces.flatten := by
  have ht := @StreamFramer.feedAll_tracks size consumer _ [] (StreamFramer.waiting_nil storage size)
    hsize [] pieces
  rw [List.nil_append] at ht
  unfold feedOutcome greedyOutcome
  rcases hr : StreamFramer.feedAll consumer { storage, data := true, size } [] pieces with
    ⟨f, delivered⟩
  rw [hr] at ht
  dsimp only at ht ⊢
  rcases ht with ⟨q, o, hq, hreach⟩ | ⟨e, o, left, hf, hreach⟩
  · have hd : delivered = o := reach_delivered hreach
    have hrun := hreach.run_eq_of_none (hq.step_none _)
    rw [hrun, hd, hq.failure, hq.buffered]
  · have hd : delivered = o := reach_delivered hreach
    have hstop : Framing.step size consumer ⟨delivered, some (e, f.buffered)⟩ left = none :=
      Framing.step_none_of_failure rfl
    rw [hreach.run_eq_of_none hstop, hd, hf]

theorem greedyOutcome_delivered (b : List UInt8) :
    (greedyOutcome size consumer b).delivered = ((framing size consumer).run {} b).2.2 := by
  unfold greedyOutcome
  dsimp only
  split <;> rfl

/-- **Fragmentation**: whatever the pieces, the outcome is the same, and the frames delivered are
the greedy sequence of `decode_frame` on the byte string. -/
theorem feedOutcome_independent (storage : Nat → UInt8) (size : Nat)
    (hsize : kFrameHeaderSize ≤ size) (consumer : List FrameView → Result Unit) (b : List UInt8) :
    (∀ pieces pieces' : List (List UInt8), pieces.flatten = b → pieces'.flatten = b →
      feedOutcome storage size consumer pieces = feedOutcome storage size consumer pieces') ∧
    (∀ pieces : List (List UInt8), pieces.flatten = b →
      feedOutcome storage size consumer pieces = greedyOutcome size consumer b) ∧
    ∃ tail, Frames b (greedyOutcome size consumer b).delivered tail := by
  refine ⟨?_, ?_, ?_⟩
  · rintro pieces pieces' rfl hb
    rw [feedOutcome_eq storage hsize, feedOutcome_eq storage hsize, hb]
  · rintro pieces rfl
    exact feedOutcome_eq storage hsize pieces
  · rw [greedyOutcome_delivered]
    exact reach_frames (Incremental.reach_run _ _)

/-- A request for STATUS and the first bytes of the next frame, cut in two places. -/
theorem feedOutcome_independent_status :
    kFrameHeaderSize ≤ 64 ∧
    feedOutcome (fun _ => 0) 64 (fun _ => .ok ())
        [[0x50, 0x58, 0x34], [0x55, 1, 0, 0, 0, 0x11, 0, 0, 0, 7, 0, 0, 0, 0,
          0, 0, 0, 0x50, 0x58]] =
      ⟨[⟨{ type := .status, requestId := 7 }, .of []⟩], none, 2⟩ ∧
    feedOutcome (fun _ => 0) 64 (fun _ => .ok ())
        [[0x50, 0x58, 0x34, 0x55, 1, 0, 0, 0, 0x11, 0, 0, 0, 7, 0, 0, 0, 0, 0, 0, 0],
          [0x50, 0x58]] =
      ⟨[⟨{ type := .status, requestId := 7 }, .of []⟩], none, 2⟩ := by
  have hgreedy : greedyOutcome 64 (fun _ => .ok ())
      [0x50, 0x58, 0x34, 0x55, 1, 0, 0, 0, 0x11, 0, 0, 0, 7, 0, 0, 0, 0, 0, 0, 0, 0x50, 0x58] =
        ⟨[⟨{ type := .status, requestId := 7 }, .of []⟩], none, 2⟩ := by
    have hstep : (framing 64 fun _ => .ok ()).step {}
        [0x50, 0x58, 0x34, 0x55, 1, 0, 0, 0, 0x11, 0, 0, 0, 7, 0, 0, 0, 0, 0, 0, 0, 0x50, 0x58] =
          some (⟨[⟨{ type := .status, requestId := 7 }, .of []⟩], none⟩, [0x50, 0x58],
            [⟨{ type := .status, requestId := 7 }, .of []⟩]) := rfl
    unfold greedyOutcome
    rw [(Incremental.Reach.one hstep).run_eq_of_none rfl]
    rfl
  have h := (feedOutcome_independent (fun _ => 0) 64 (by decide) (fun _ => .ok ())
    [0x50, 0x58, 0x34, 0x55, 1, 0, 0, 0, 0x11, 0, 0, 0, 7, 0, 0, 0, 0, 0, 0, 0, 0x50, 0x58]).2.1
  refine ⟨by decide, ?_, ?_⟩
  · rw [h _ rfl, hgreedy]
  · rw [h _ rfl, hgreedy]

end Px4.Ipc
