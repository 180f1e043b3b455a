import Px4.Ipc.Encode
import Px4.Lib.Incremental

/-!
# Frames out of a stream of bytes (`ipc.cpp`)

`StreamFramer` collects the bytes of a connection in its storage, the header of a frame first, and
hands every frame that is complete to a consumer. The consumer's answer is a function of the frames
it was handed so far. A failure is kept: a framer that has failed takes no more bytes.
-/

namespace Px4.Ipc

/-- `StreamFramer`. `failure` is `failed_` with `failure_`. -/
structure StreamFramer where
  storage : Nat → UInt8
  data : Bool
  size : Nat
  buffered : Nat := 0
  expected : Nat := 0
  failure : Option Error := none

namespace StreamFramer

/-- `memcpy` behind the bytes that are buffered. -/
def copy (f : StreamFramer) (bytes : List UInt8) : StreamFramer :=
  { f with
    storage := Lib.write f.storage f.buffered bytes
    buffered := f.buffered + bytes.length }

/-- `fail`. -/
def fail (f : StreamFramer) (error : Error) : StreamFramer := { f with failure := some error }

/-- The first part of a round, which completes the header. `.ok false` is `continue`. -/
def takeHeader (f : StreamFramer) (rest : List UInt8) : StreamFramer × List UInt8 × Result Bool :=
  if f.buffered < kFrameHeaderSize then
    let amount := min (kFrameHeaderSize - f.buffered) rest.length
    let f := f.copy (rest.take amount)
    let rest := rest.drop amount
    if f.buffered < kFrameHeaderSize then (f, rest, .ok false)
    else match decodeFrameHeader (.of (Lib.slice f.storage 0 kFrameHeaderSize)) with
      | .error e => (f.fail e, rest, .error e)
      | .ok header =>
        let f := { f with expected := kFrameHeaderSize + header.payloadLength.toNat }
        if f.expected > f.size then (f.fail .bufferTooSmall, rest, .error .bufferTooSmall)
        else (f, rest, .ok true)
  else (f, rest, .ok true)

/-- The second part, which completes the frame. `false` is `continue`. -/
def takePayload (f : StreamFramer) (rest : List UInt8) : StreamFramer × List UInt8 × Bool :=
  if f.buffered < f.expected then
    let amount := min (f.expected - f.buffered) rest.length
    let f := f.copy (rest.take amount)
    (f, rest.drop amount, !(f.buffered < f.expected))
  else (f, rest, true)

/-- The third part, which hands the frame to the consumer. -/
def deliver (consumer : List FrameView → Result Unit) (f : StreamFramer)
    (delivered : List FrameView) : StreamFramer × List FrameView × Result Unit :=
  match decodeFrame (.of (Lib.slice f.storage 0 f.expected)) with
  | .error e => (f.fail e, delivered, .error e)
  | .ok frame =>
    let delivered := delivered ++ [frame]
    match consumer delivered with
    | .error e => (f.fail e, delivered, .error e)
    | .ok () => ({ f with buffered := 0, expected := 0 }, delivered, .ok ())

/-- What a round of `feed` leaves, with the number of frames it has completed. -/
structure Round where
  framer : StreamFramer
  delivered : List FrameView
  rest : List UInt8
  completed : Result Nat

/-- A round of the loop of `feed`. -/
def round (consumer : List FrameView → Result Unit) (f : StreamFramer) (delivered : List FrameView)
    (rest : List UInt8) : Round :=
  match f.takeHeader rest with
  | (f, rest, .error e) => ⟨f, delivered, rest, .error e⟩
  | (f, rest, .ok false) => ⟨f, delivered, rest, .ok 0⟩
  | (f, rest, .ok true) =>
    match f.takePayload rest with
    | (f, rest, false) => ⟨f, delivered, rest, .ok 0⟩
    | (f, rest, true) =>
      match f.deliver consumer delivered with
      | (f, delivered, .error e) => ⟨f, delivered, rest, .error e⟩
      | (f, delivered, .ok ()) => ⟨f, delivered, rest, .ok 1⟩

/-- A round takes a byte, or it empties the buffer. -/
def measure (f : StreamFramer) (rest : List UInt8) : Nat :=
  2 * rest.length + if f.buffered = 0 then 0 else 1

theorem takeHeader_length (f : StreamFramer) (rest : List UInt8) :
    (f.takeHeader rest).2.1.length =
      rest.length - if f.buffered < kFrameHeaderSize then kFrameHeaderSize - f.buffered else 0 := by
  unfold takeHeader
  split
  · dsimp only
    repeat' split
    all_goals
      rw [List.length_drop]
      omega
  · rfl

theorem takeHeader_of_le {f : StreamFramer} (rest : List UInt8)
    (h : ¬f.buffered < kFrameHeaderSize) : f.takeHeader rest = (f, rest, .ok true) := by
  rw [takeHeader, if_neg h]

theorem takePayload_length (f : StreamFramer) (rest : List UInt8) :
    (f.takePayload rest).2.1.length = rest.length - (f.expected - f.buffered) := by
  unfold takePayload
  split
  · rw [List.length_drop]
    omega
  · dsimp only
    omega

theorem takePayload_of_le {f : StreamFramer} (rest : List UInt8) (h : ¬f.buffered < f.expected) :
    f.takePayload rest = (f, rest, true) := by
  rw [takePayload, if_neg h]

theorem deliver_buffered {consumer : List FrameView → Result Unit} {f f' : StreamFramer}
    {delivered delivered' : List FrameView}
    (h : f.deliver consumer delivered = (f', delivered', .ok ())) : f'.buffered = 0 := by
  unfold deliver at h
  split at h
  · cases h
  · dsimp only at h
    split at h
    · cases h
    · cases h
      rfl

theorem measure_lt_of_length {f f' : StreamFramer} {rest rest' : List UInt8}
    (h : rest'.length < rest.length) : f'.measure rest' < f.measure rest := by
  unfold measure
  split <;> split <;> omega

theorem round_measure {consumer : List FrameView → Result Unit} {f : StreamFramer}
    {delivered : List FrameView} {rest : List UInt8} {n : Nat} (hne : rest ≠ [])
    (h : (f.round consumer delivered rest).completed = .ok n) :
    (f.round consumer delivered rest).framer.measure (f.round consumer delivered rest).rest <
      f.measure rest := by
  have hpos : 0 < rest.length := List.length_pos_iff.2 hne
  have hhl := f.takeHeader_length rest
  unfold round at h ⊢
  rcases hh : f.takeHeader rest with ⟨f₁, rest₁, e | _ | _⟩
  · rw [hh] at h
    cases h
  · rw [hh] at hhl
    dsimp only at hhl ⊢
    refine measure_lt_of_length ?_
    by_cases hb : f.buffered < kFrameHeaderSize
    · rw [if_pos hb] at hhl
      omega
    · rw [takeHeader_of_le rest hb] at hh
      cases hh
  · rw [hh] at h hhl
    dsimp only at h hhl ⊢
    have hpl := f₁.takePayload_length rest₁
    rcases hp : f₁.takePayload rest₁ with ⟨f₂, rest₂, _ | _⟩
    · rw [hp] at hpl
      dsimp only at hpl ⊢
      refine measure_lt_of_length ?_
      by_cases hb : f₁.buffered < f₁.expected
      · by_cases hr : rest₁ = []
        · by_cases hb' : f.buffered < kFrameHeaderSize
          · rw [if_pos hb'] at hhl
            omega
          · rw [takeHeader_of_le rest hb'] at hh
            cases hh
            exact absurd hr hne
        · have := List.length_pos_iff.2 hr
          omega
      · rw [takePayload_of_le rest₁ hb] at hp
        cases hp
    · rw [hp] at h hpl
      dsimp only at h hpl ⊢
      rcases hd : f₂.deliver consumer delivered with ⟨f₃, delivered₃, e | ⟨⟩⟩
      · rw [hd] at h
        cases h
      · -- the buffer is empty; a byte was taken, or the buffer was not empty
        dsimp only
        have hz := deliver_buffered hd
        by_cases hb : f.buffered < kFrameHeaderSize
        · rw [if_pos hb] at hhl
          exact measure_lt_of_length (by omega)
        · have hk : 0 < f.buffered := Nat.lt_of_lt_of_le (by decide) (Nat.le_of_not_lt hb)
          unfold measure
          rw [if_pos hz, if_neg (by omega)]
          omega

/-- The loop of `feed`: what is delivered, and the number of frames or the failure. -/
def feedLoop (consumer : List FrameView → Result Unit) (f : StreamFramer)
    (delivered : List FrameView) (rest : List UInt8) (completed : Nat) :
    StreamFramer × List FrameView × Result Nat :=
  if _hne : rest = [] then (f, delivered, .ok completed)
  else
    match _h : (f.round consumer delivered rest).completed with
    | .error e =>
      ((f.round consumer delivered rest).framer, (f.round consumer delivered rest).delivered,
        .error e)
    | .ok n =>
      feedLoop consumer (f.round consumer delivered rest).framer
        (f.round consumer delivered rest).delivered (f.round consumer delivered rest).rest
        (completed + n)
termination_by f.measure rest
decreasing_by exact round_measure _hne _h

/-- `feed`. -/
def feed (consumer : List FrameView → Result Unit) (f : StreamFramer) (delivered : List FrameView)
    (input : ByteView) : StreamFramer × List FrameView × Result Nat :=
  match f.failure with
  | some e => (f, delivered, .error e)
  | none =>
    if !validView input || !(f.size == 0 || f.data) || f.size < kFrameHeaderSize then
      (f, delivered, .error .invalidArgument)
    else f.feedLoop consumer delivered input.bytes 0

/-- `feed` of one piece after the other, up to the first failure. -/
def feedAll (consumer : List FrameView → Result Unit) (f : StreamFramer)
    (delivered : List FrameView) : List (List UInt8) → StreamFramer × List FrameView
  | [] => (f, delivered)
  | piece :: pieces =>
    match f.feed consumer delivered (.of piece) with
    | (f, delivered, .error _) => (f, delivered)
    | (f, delivered, .ok _) => f.feedAll consumer delivered pieces

end StreamFramer

/-! ## The frames of a byte string -/

/-- How far the byte string is: the frames delivered, and a failure with the bytes it was found
in. -/
structure Framing where
  delivered : List FrameView := []
  failure : Option (Error × Nat) := none

/-- The next frame of a byte string that is there as a whole: its header, which must fit the
storage, and then `decode_frame` of the frame. -/
def Framing.step (size : Nat) (consumer : List FrameView → Result Unit) (s : Framing)
    (b : List UInt8) : Option (Framing × List UInt8 × List FrameView) :=
  if s.failure.isSome || b.length < kFrameHeaderSize then none
  else match decodeFrameHeader (.of (b.take kFrameHeaderSize)) with
    | .error e =>
      some ({ s with failure := some (e, kFrameHeaderSize) }, b.drop kFrameHeaderSize, [])
    | .ok header =>
      let expected := kFrameHeaderSize + header.payloadLength.toNat
      if expected > size then
        some ({ s with failure := some (.bufferTooSmall, kFrameHeaderSize) },
          b.drop kFrameHeaderSize, [])
      else if b.length < expected then none
      else match decodeFrame (.of (b.take expected)) with
        | .error e => some ({ s with failure := some (e, expected) }, b.drop expected, [])
        | .ok frame =>
          let delivered := s.delivered ++ [frame]
          match consumer delivered with
          | .error e => some (⟨delivered, some (e, expected)⟩, b.drop expected, [frame])
          | .ok () => some (⟨delivered, none⟩, b.drop expected, [frame])

end Px4.Ipc
