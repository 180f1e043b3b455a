import Px4.It930x.Firmware
import Px4.It930x.Proof.Control
import Px4.Lib.Cutting

/-!
# Blocks of a firmware image

* `recognises`: `parse_scatter_block` finds the block at an offset.
* `validateFrom_eq`, `scatterFrom_eq`: both loops go through the same cutting.
* `loadFirmwareImageLocked_sends`: what the loader has sent when it succeeds.
* `scatter_image`: accepted images, and how they are sent.
-/

namespace Px4.It930x

open Lib (Program Cutting Recognises cut)

/-- Where an area of data goes, and how long it is. -/
structure ScatterArea where
  high : UInt8
  low : UInt8
  length : UInt8

/-- The entry of an area. -/
def ScatterArea.bytes (area : ScatterArea) : List UInt8 := [area.high, area.low, area.length]

/-- The entries of areas. -/
def entries (areas : List ScatterArea) : List UInt8 := areas.flatMap ScatterArea.bytes

/-- The size of the data of areas. -/
def dataSize (areas : List ScatterArea) : Nat := (areas.map (·.length.toNat)).sum

/-- A block: a header with the number of areas, their entries, and their data. -/
inductive IsScatterBlock : List UInt8 → Prop
  | of {first second count : UInt8} {areas : List ScatterArea} {values : List UInt8}
    (hcount : areas.length = count.toNat) (hvalues : values.length = dataSize areas)
    (hpos : 0 < dataSize areas)
    (hsize : (0x03 :: first :: second :: count :: (entries areas ++ values)).length ≤ 250) :
    IsScatterBlock (0x03 :: first :: second :: count :: (entries areas ++ values))

/-- An image: blocks, one at least. -/
def IsScatterImage (image : List UInt8) : Prop :=
  image ≠ [] ∧ ∃ blocks, Cutting IsScatterBlock blocks image

/-! ## One block -/

@[simp] theorem entries_length (areas : List ScatterArea) :
    (entries areas).length = 3 * areas.length := by
  induction areas with
  | nil => rfl
  | cons area areas ih =>
    rw [entries, List.flatMap_cons, ← entries, List.length_append, ih, List.length_cons]
    show 3 + _ = _
    omega

/-- Bytes of the size of entries are entries. -/
theorem exists_entries (count : Nat) {values : List UInt8} (h : 3 * count ≤ values.length) :
    ∃ areas rest, areas.length = count ∧ values = entries areas ++ rest := by
  induction count generalizing values with
  | zero => exact ⟨[], values, rfl, rfl⟩
  | succ count ih =>
    match values, h with
    | high :: low :: length :: values, h =>
      have hrest : 3 * count ≤ values.length := by
        simp only [List.length_cons] at h
        omega
      obtain ⟨areas, rest, hlength, rfl⟩ := ih hrest
      refine ⟨⟨high, low, length⟩ :: areas, rest, ?_, rfl⟩
      rw [List.length_cons, hlength]

theorem dataSize_le (areas : List ScatterArea) : dataSize areas ≤ 255 * areas.length := by
  induction areas with
  | nil => exact Nat.le_refl 0
  | cons area areas ih =>
    have hlength := area.length.toNat_lt
    rw [dataSize, List.map_cons, List.sum_cons, ← dataSize, List.length_cons]
    omega

/-- The loop sums the sizes of the areas that it is given. -/
theorem sizeOfSegments_eq (header : List UInt8) (before areas : List ScatterArea)
    (rest : List UInt8) (sum : Nat) (hheader : header.length = 4)
    (hsum : sum + dataSize areas ≤ sizeMax) :
    sizeOfSegments (byteAt (header ++ entries before ++ entries areas ++ rest))
      areas.length before.length
      sum = .ok (sum + dataSize areas) := by
  induction areas generalizing before sum with
  | nil => rfl
  | cons area areas ih =>
    have hbyte : byteAt (header ++ entries before ++ entries (area :: areas) ++ rest)
        (kScatterHeaderSize + before.length * kScatterSegmentSize + 2) = .ok area.length := by
      have hindex : kScatterHeaderSize + before.length * kScatterSegmentSize + 2 =
          (header ++ entries before ++ [area.high, area.low]).length := by
        simp only [List.length_append, entries_length, hheader, kScatterHeaderSize,
          kScatterSegmentSize, List.length_cons, List.length_nil]
        omega
      have h := byteAt_append (header ++ entries before ++ [area.high, area.low]) area.length
        (entries areas ++ rest)
      rw [hindex]
      simpa [entries, ScatterArea.bytes] using h
    have hsize : dataSize (area :: areas) = area.length.toNat + dataSize areas := List.sum_cons
    rw [hsize] at hsum ⊢
    have hnext := ih (before ++ [area]) (sum + area.length.toNat) (by omega)
    rw [List.length_cons, sizeOfSegments, hbyte, ok_bind, if_neg (by omega)]
    simp only [List.length_append, List.length_singleton] at hnext
    rw [← Nat.add_assoc, ← hnext]
    simp [entries]

theorem byteAt_drop (values : List UInt8) (offset : Nat) :
    (fun index => byteAt values (offset + index)) = byteAt (values.drop offset) := by
  funext index
  unfold byteAt
  rw [List.getElem?_drop]

/-- The checks of a block with entries for all its areas. -/
theorem parseScatterBlock_eq {image rest : List UInt8} {offset : Nat} {first second count : UInt8}
    {areas : List ScatterArea} (hcount : areas.length = count.toNat)
    (himage : image.drop offset = 0x03 :: first :: second :: count :: (entries areas ++ rest)) :
    parseScatterBlock (ByteView.of image) offset =
      if dataSize areas = 0 ∨ 250 < 4 + 3 * areas.length + dataSize areas ∨
          rest.length < dataSize areas then rejected
      else .ok ⟨offset, 4 + 3 * areas.length + dataSize areas⟩ := by
  have hcountle : count.toNat < 256 := count.toNat_lt
  have hdata := dataSize_le areas
  have hlength : image.length - offset = 4 + 3 * areas.length + rest.length := by
    have h := congrArg List.length himage
    simp only [List.length_drop, List.length_cons, List.length_append, entries_length] at h
    omega
  have hsegments : sizeOfSegments (byteAt (image.drop offset)) count.toNat 0 0 =
      .ok (dataSize areas) := by
    have h := sizeOfSegments_eq [0x03, first, second, count] [] areas rest 0 rfl
      (by unfold sizeMax; omega)
    rw [himage, ← hcount]
    simpa [entries] using h
  have hzero : byteAt (image.drop offset) 0 = .ok 0x03 := by
    rw [himage]
    rfl
  have hthree : byteAt (image.drop offset) 3 = .ok count := by
    rw [himage]
    rfl
  have hmetadata : kScatterHeaderSize + count.toNat * kScatterSegmentSize = 4 +
      3 * areas.length := by
    rw [hcount, kScatterHeaderSize, kScatterSegmentSize]
    omega
  unfold parseScatterBlock
  rw [ByteView.of_size, ByteView.of_bytes, ByteView.of_data, byteAt_drop]
  dsimp only
  rw [if_neg (by rw [kScatterHeaderSize]; simp; omega), hzero, ok_bind,
    if_neg (by simp), hthree, ok_bind,
    if_neg (by unfold sizeMax kScatterHeaderSize kScatterSegmentSize; omega), hmetadata,
    if_neg (by omega), hsegments, ok_bind]
  by_cases hdata0 : dataSize areas = 0
  · rw [if_pos (.inl hdata0), if_pos (.inl hdata0)]
  rw [if_neg (by unfold sizeMax; omega), kMaxCommandPayload, hlength]
  by_cases hbad : 250 < 4 + 3 * areas.length + dataSize areas ∨ rest.length < dataSize areas
  · rw [if_pos (by omega), if_pos (.inr hbad)]
  · rw [if_neg (by omega), if_neg (by omega)]
    rfl

/-- A block at the offset is found. -/
theorem parseScatterBlock_complete {image block rest : List UInt8} {offset : Nat}
    (hblock : IsScatterBlock block) (himage : image.drop offset = block ++ rest) :
    parseScatterBlock (ByteView.of image) offset = .ok ⟨offset, block.length⟩ := by
  obtain @⟨first, second, count, areas, values, hcount, hvalues, hpos, hsize⟩ := hblock
  have hlength : (0x03 :: first :: second :: count :: (entries areas ++ values)).length =
      4 + 3 * areas.length + dataSize areas := by
    simp only [List.length_cons, List.length_append, entries_length, hvalues]
    omega
  have himage' : image.drop offset =
      0x03 :: first :: second :: count :: (entries areas ++ (values ++ rest)) := by
    simpa using himage
  rw [hlength] at hsize ⊢
  rw [parseScatterBlock_eq hcount himage', if_neg]
  rw [List.length_append]
  omega

/-- Without a block at the offset, the image is rejected; no byte outside of it is read. -/
theorem parseScatterBlock_cases {image : List UInt8} {offset : Nat} (h : offset ≤ image.length) :
    (∃ block rest, IsScatterBlock block ∧ image.drop offset = block ++ rest) ∨
      parseScatterBlock (ByteView.of image) offset = rejected := by
  have hlength : (image.drop offset).length = image.length - offset := List.length_drop
  have hguard : image.length - offset < 4 ∨ 4 ≤ image.length - offset := by omega
  obtain hshort | hlong := hguard
  · exact .inr (if_pos (.inr (.inr hshort)))
  obtain ⟨kind, first, second, count, values, himage⟩ :
      ∃ kind first second count values, image.drop offset = kind :: first :: second ::
      count :: values := by
    match himage : image.drop offset, hlength with
    | kind :: first :: second :: count :: values, _ =>
      exact ⟨kind, first, second, count, values, rfl⟩
    | [], hlength | [_], hlength | [_, _], hlength | [_, _, _], hlength =>
      simp only [List.length_cons, List.length_nil] at hlength
      omega
  have hvalues : image.length - offset = 4 + values.length := by
    rw [← hlength, himage]
    simp only [List.length_cons]
    omega
  by_cases hentries : 3 * count.toNat ≤ values.length ∧ kind = 0x03
  · obtain ⟨hentries, rfl⟩ := hentries
    obtain ⟨areas, rest, hcount, rfl⟩ := exists_entries count.toNat hentries
    rw [parseScatterBlock_eq hcount himage]
    by_cases hbad : dataSize areas = 0 ∨ 250 < 4 + 3 * areas.length + dataSize areas ∨
        rest.length < dataSize areas
    · exact .inr (if_pos hbad)
    · rw [not_or, not_or] at hbad
      obtain ⟨hpos, hsize, hrest⟩ := hbad
      refine .inl ⟨0x03 :: first :: second :: count ::
        (entries areas ++ rest.take (dataSize areas)),
        rest.drop (dataSize areas), .of hcount ?_ (by omega) ?_, ?_⟩
      · rw [List.length_take]
        omega
      · simp only [List.length_cons, List.length_append, entries_length, List.length_take]
        omega
      · rw [himage]
        simp
  · right
    unfold parseScatterBlock
    rw [ByteView.of_size, ByteView.of_bytes, ByteView.of_data, byteAt_drop]
    dsimp only
    have hzero : byteAt (image.drop offset) 0 = .ok kind := by
      rw [himage]
      rfl
    have hthree : byteAt (image.drop offset) 3 = .ok count := by
      rw [himage]
      rfl
    rw [if_neg (by rw [kScatterHeaderSize]; simp; omega), hzero, ok_bind]
    by_cases hkind : kind = 0x03
    · have hcountlt := count.toNat_lt
      have hentries' : ¬3 * count.toNat ≤ values.length := fun hle => hentries ⟨hle, hkind⟩
      rw [if_neg (by simp [hkind]), hthree, ok_bind,
        if_neg (by unfold sizeMax kScatterHeaderSize kScatterSegmentSize; omega),
        if_pos (by unfold kScatterHeaderSize kScatterSegmentSize; omega)]
    · rw [if_pos hkind]

/-! ## Cuttings -/

/-- The size of the block at the start. -/
def scatterSize (values : List UInt8) : Option Nat :=
  match parseScatterBlock (ByteView.of values) 0 with
  | .ok block => some block.size
  | .error _ => none

/-- **`parse_scatter_block` finds the blocks.** -/
theorem recognises : Recognises scatterSize IsScatterBlock where
  ne_nil := by
    rintro _ ⟨⟩
    nofun
  complete := by
    intro block rest hblock
    unfold scatterSize
    rw [@parseScatterBlock_complete _ _ rest _ hblock (List.drop_zero)]
  sound := by
    intro values size hsize
    unfold scatterSize at hsize
    obtain ⟨block, rest, hblock, hvalues⟩ | hrejected :=
      parseScatterBlock_cases (Nat.zero_le values.length)
    · rw [parseScatterBlock_complete hblock hvalues] at hsize
      rw [List.drop_zero] at hvalues
      simp only [Option.some.injEq] at hsize
      subst hvalues hsize
      rw [List.take_left, List.length_append]
      exact ⟨Nat.le_add_right _ _, hblock⟩
    · rw [hrejected] at hsize
      cases hsize

/-- What `parse_scatter_block` returns depends on what is left of the image. -/
theorem parseScatterBlock_drop {image : List UInt8} {offset : Nat} (h : offset ≤ image.length) :
    parseScatterBlock (ByteView.of image) offset =
      match scatterSize (image.drop offset) with
      | some size => .ok ⟨offset, size⟩
      | none => rejected := by
  obtain ⟨block, rest, hblock, himage⟩ | hrejected := parseScatterBlock_cases h
  · rw [parseScatterBlock_complete hblock himage, himage, recognises.complete rest hblock]
  · rw [hrejected]
    cases hsize : scatterSize (image.drop offset) with
    | none => rfl
    | some size =>
      obtain ⟨-, hblock⟩ := recognises.sound hsize
      have hcomplete := parseScatterBlock_complete hblock
        (List.take_append_drop size (image.drop offset)).symm
      rw [hrejected] at hcomplete
      cases hcomplete

/-- **The validator accepts what can be cut.** -/
theorem validateFrom_eq {image : List UInt8} {fuel offset : Nat} (h : offset ≤ image.length) :
    image.length - offset < fuel → validateFrom (ByteView.of image) fuel offset =
      match cut scatterSize fuel (image.drop offset) with
      | some _ => .ok ()
      | none => rejected := by
  intro hfuel
  induction fuel generalizing offset with
  | zero => omega
  | succ fuel ih =>
    unfold validateFrom cut
    rw [ByteView.of_size]
    by_cases hend : image.length ≤ offset
    · rw [if_neg (by omega), if_pos (List.drop_eq_nil_of_le hend)]
      rfl
    rw [if_pos (by omega), if_neg (by rw [List.drop_eq_nil_iff]; exact hend),
      parseScatterBlock_drop h]
    cases hsize : scatterSize (image.drop offset) with
    | none => rfl
    | some size =>
      have hpos := recognises.size_pos hsize
      obtain ⟨hle, -⟩ := recognises.sound hsize
      rw [List.length_drop] at hle
      dsimp only
      rw [ok_bind]
      dsimp only
      rw [if_neg (by omega), ih (by omega) (by omega), List.drop_drop]
      cases cut scatterSize fuel (image.drop (offset + size)) <;> rfl

/-- **The loader sends the blocks.** -/
theorem scatterFrom_eq {image : List UInt8} {fuel offset : Nat} {blocks : List (List UInt8)}
    (h : offset ≤ image.length) (hcut : cut scatterSize fuel (image.drop offset) = some blocks) :
    scatterFrom image fuel offset =
      blocks.forM fun block => send kFirmwareScatterWrite (ByteView.of block) := by
  induction fuel generalizing offset blocks with
  | zero => cases hcut
  | succ fuel ih =>
    unfold scatterFrom
    unfold cut at hcut
    by_cases hend : image.length ≤ offset
    · rw [if_pos (List.drop_eq_nil_of_le hend), Option.some.injEq] at hcut
      subst hcut
      rw [if_neg (by omega)]
      rfl
    rw [if_neg (by rw [List.drop_eq_nil_iff]; exact hend)] at hcut
    rw [if_pos (by omega), parseScatterBlock_drop h]
    cases hsize : scatterSize (image.drop offset) with
    | none =>
      rw [hsize] at hcut
      cases hcut
    | some size =>
      rw [hsize] at hcut
      dsimp only at hcut ⊢
      rw [List.drop_drop, Option.map_eq_some_iff] at hcut
      obtain ⟨blocks, hcut, rfl⟩ := hcut
      obtain ⟨hle, -⟩ := recognises.sound hsize
      rw [List.length_drop] at hle
      have hpart : partOf image offset size = .ok (ByteView.of ((image.drop offset).take size)) :=
        if_pos (by omega)
      show (Control.lift (partOf image offset size) >>= fun payload =>
          send kFirmwareScatterWrite payload >>= fun _ =>
            scatterFrom image fuel (offset + size)) = _
      rw [hpart, ih (by omega) hcut]
      rfl

/-! ## Images -/

/-- The call that sends a block. -/
def Call.ofBlock (block : List UInt8) : Call := ⟨kFirmwareScatterWrite, ByteView.of block⟩

theorem IsScatterBlock.fits {block : List UInt8} (h : IsScatterBlock block) :
    (Call.ofBlock block).Fits := by
  refine ⟨?_, .inr nofun⟩
  obtain ⟨-, -, -, hsize⟩ := h
  exact hsize

/-- All of the transactions succeed, with an empty answer. -/
def AllAnswered : List Call → CommandState → Prop
  | [], _ => True
  | call :: calls, c => (call.transact c).1 = .ok [] ∧ AllAnswered calls (call.transact c).2

/-- As long as the transactions succeed, all blocks are sent. -/
theorem exec_blocks {blocks : List (List UInt8)} {c : CommandState}
    (h : AllAnswered (blocks.map Call.ofBlock) c) :
    (blocks.forM fun block => send kFirmwareScatterWrite (ByteView.of block)).exec c =
      (.ok (), transactAll (blocks.map Call.ofBlock) c) := by
  induction blocks generalizing c with
  | nil => rfl
  | cons block blocks ih =>
    obtain ⟨hanswer, hrest⟩ := h
    have hsend : (send kFirmwareScatterWrite (ByteView.of block)).exec c =
        (.ok (), ((Call.ofBlock block).transact c).2) := by
      have hexec : (transactLocked kFirmwareScatterWrite (ByteView.of block)).exec c =
          (.ok [], ((Call.ofBlock block).transact c).2) := Prod.ext hanswer rfl
      unfold send
      rw [Program.exec_bind, hexec]
      rfl
    show (send kFirmwareScatterWrite (ByteView.of block) >>= fun _ => _).exec c = _
    rw [Program.exec_bind, hsend]
    exact ih hrest

theorem validateScatterImage_iff {image : ByteView} {fuel : Nat} (hfuel : image.size < fuel) :
    validateScatterImage fuel image = .ok () ↔ IsScatterImage image.bytes := by
  unfold validateScatterImage
  cases hdata : image.data with
  | none =>
    rw [if_pos (.inl rfl), ByteView.bytes, hdata]
    exact iff_of_false nofun fun h => h.1 rfl
  | some values =>
    obtain ⟨data, size, hsize⟩ := image
    subst hdata
    obtain rfl := hsize values rfl
    show (if _ then _ else validateFrom (ByteView.of values) fuel 0) = _ ↔ IsScatterImage values
    by_cases hempty : values = []
    · subst hempty
      rw [if_pos (.inr rfl)]
      exact iff_of_false nofun fun h => h.1 rfl
    rw [if_neg (by simpa using hempty), validateFrom_eq (Nat.zero_le _) hfuel, List.drop_zero]
    constructor
    · intro hok
      refine ⟨hempty, ?_⟩
      cases hcut : cut scatterSize fuel values with
      | none =>
        rw [hcut] at hok
        cases hok
      | some blocks => exact ⟨blocks, (recognises.cut_iff hfuel).1 hcut⟩
    · rintro ⟨-, blocks, hcut⟩
      rw [(recognises.cut_iff hfuel).2 hcut]

/-- The loader sends the blocks of the image one after the other, as long as it gets empty answers.
-/
theorem loadFirmwareImageLocked_eq {image : List UInt8} {blocks : List (List UInt8)} {fuel : Nat}
    (hcut : Cutting IsScatterBlock blocks image) (hfuel : image.length < fuel) :
    loadFirmwareImageLocked fuel image = do
      writeRegistersLocked 0xf103 (ByteView.of [0x07])
      blocks.forM fun block => send kFirmwareScatterWrite (ByteView.of block)
      send kBoot ⟨none, 0, nofun⟩
      let version ← firmwareVersionLocked
      if version = 0 then Control.fail .protocolError
      else return ⟨false, version, false⟩ := by
  have hloop := @scatterFrom_eq image _ _ _ (Nat.zero_le _) ((recognises.cut_iff hfuel).2 hcut)
  unfold loadFirmwareImageLocked
  rw [hloop]

/-! ## The loader -/

/-- In sequence, without a stop. -/
theorem exec_bind_ok {α β : Type} {x : Control α} {f : α → Control β} {c c' : CommandState} {b : β}
    (h : (x >>= f).exec c = (.ok b, c')) : ∃ a c₁, x.exec c = (.ok a, c₁) ∧
    (f a).exec c₁ = (.ok b, c') := by
  rw [Program.exec_bind] at h
  rcases hx : x.exec c with ⟨e | a, c₁⟩
  · rw [hx] at h
    cases h
  · rw [hx] at h
    exact ⟨a, c₁, rfl, h⟩

theorem send_ok {command : UInt16} {payload : ByteView} {c c' : CommandState}
    (h : (send command payload).exec c = (.ok (), c')) :
    c' = (Call.transact ⟨command, payload⟩ c).2 := by
  unfold send at h
  obtain ⟨answer, c₁, hanswer, h⟩ := exec_bind_ok h
  rw [Call.transact, hanswer]
  split at h
  · cases h
  · cases h
    rfl

theorem blocks_ok {blocks : List (List UInt8)} {c c' : CommandState}
    (h : (blocks.forM fun block => send kFirmwareScatterWrite (ByteView.of block)).exec c =
      (.ok (), c')) :
    c' = transactAll (blocks.map Call.ofBlock) c := by
  induction blocks generalizing c with
  | nil =>
    cases h
    rfl
  | cons block blocks ih =>
    obtain ⟨_, c₁, hsend, hrest⟩ := exec_bind_ok h
    rw [ih hrest, send_ok hsend]
    rfl

/-- The call that sets the speed of the bus. -/
def Call.speed : Call := ⟨kRegWrite, ByteView.of [1, 2, 0x00, 0x00, 0xf1, 0x03, 0x07]⟩

/-- The call that starts the firmware. -/
def Call.boot : Call := ⟨kBoot, ⟨none, 0, noPayload⟩⟩

/-- The call that asks for the version of the firmware. -/
def Call.version : Call := ⟨kQueryInfo, ByteView.of [1]⟩

theorem transactAll_append (calls calls' : List Call) (c : CommandState) :
    transactAll (calls ++ calls') c = transactAll calls' (transactAll calls c) := by
  induction calls generalizing c with
  | nil => rfl
  | cons call calls ih => exact ih _

/-- **The loader.** If it succeeds, with a version of the firmware that is not zero, it has set the
speed, sent the blocks of the image, started the firmware and asked for the version, in this order
and nothing else. -/
theorem loadFirmwareImageLocked_sends {image : List UInt8} {blocks : List (List UInt8)} {fuel : Nat}
    (hcut : Cutting IsScatterBlock blocks image) (hfuel : image.length < fuel) {c c' : CommandState}
    {result : FirmwareLoadResult}
    (h : (loadFirmwareImageLocked fuel image).exec c = (.ok result, c')) :
    result.alreadyLoaded = false ∧ result.firmwareVersion ≠ 0 ∧ result.verified = false ∧
      ∃ new, c'.transport.log = c.transport.log ++ new ∧
        (requests new).map decodeRequest =
          (Call.speed :: blocks.map Call.ofBlock ++ [Call.boot, Call.version]).mapIdx fun i call =>
            call.said (c.sequence + UInt8.ofNat i) := by
  have hfits : ∀ call ∈ Call.speed :: blocks.map Call.ofBlock ++ [Call.boot, Call.version],
      call.Fits := by
    rw [List.forall_mem_append, List.forall_mem_cons, List.forall_mem_map]
    refine ⟨⟨by decide, fun block hblock => (hcut.all block hblock).fits⟩, ?_⟩
    rw [List.forall_mem_cons, List.forall_mem_singleton]
    exact ⟨by decide, by decide⟩
  rw [loadFirmwareImageLocked_eq hcut hfuel] at h
  obtain ⟨_, c₁, hspeed, h⟩ := exec_bind_ok h
  obtain ⟨_, c₂, hblocks, h⟩ := exec_bind_ok h
  obtain ⟨_, c₃, hboot, h⟩ := exec_bind_ok h
  obtain ⟨version, c₄, hversion, h⟩ := exec_bind_ok h
  have hspeed₁ : c₁ = (Call.speed.transact c).2 := send_ok hspeed
  have hboot₃ : c₃ = (Call.boot.transact c₂).2 := send_ok hboot
  have hversion₄ : c₄ = (Call.version.transact c₃).2 := by
    obtain ⟨answer, c₅, hanswer, hversion⟩ := exec_bind_ok hversion
    rw [Call.transact, Call.version, hanswer]
    split at hversion
    · cases hversion
    · cases hread : getU32Be answer with
      | error e =>
        rw [hread] at hversion
        cases hversion
      | ok value =>
        rw [hread] at hversion
        cases hversion
        rfl
  have hall : c₄ = transactAll (Call.speed :: blocks.map Call.ofBlock ++
      [Call.boot, Call.version]) c := by
    rw [transactAll_append]
    show c₄ = (Call.version.transact
      (Call.boot.transact (transactAll (blocks.map Call.ofBlock) (Call.speed.transact c).2)).2).2
    rw [← hspeed₁, ← blocks_ok hblocks, ← hboot₃, hversion₄]
  split at h
  · cases h
  · next hzero =>
    cases h
    obtain ⟨-, new, hlog, hrequests⟩ :=
      transactAll_spec (Call.speed :: blocks.map Call.ofBlock ++ [Call.boot, Call.version]) c
    rw [List.filter_eq_self.2 fun call hcall => decide_eq_true (hfits call hcall)] at hrequests
    exact ⟨rfl, hzero, rfl, new, hall ▸ hlog, hrequests⟩

/-- **Firmware images.** Exactly the images are accepted; an image is cut into blocks in one way;
each of its blocks fits a request, and if all transactions succeed, the loader sends just these, in
order. -/
theorem scatter_image (image : ByteView) (fuel : Nat) (hfuel : image.size < fuel) :
    (validateScatterImage fuel image = .ok () ↔ IsScatterImage image.bytes) ∧
    (∀ blocks blocks', Cutting IsScatterBlock blocks image.bytes →
      Cutting IsScatterBlock blocks' image.bytes → blocks = blocks') ∧
    (validateScatterImage fuel image = .ok () → ∃ blocks,
      Cutting IsScatterBlock blocks image.bytes ∧
      (∀ block ∈ blocks, (Call.ofBlock block).Fits) ∧
      ∀ c, AllAnswered (blocks.map Call.ofBlock) c → ∃ c' new,
        (scatterFrom image.bytes fuel 0).exec c = (.ok (), c') ∧
        c'.transport.log = c.transport.log ++ new ∧
        (requests new).map decodeRequest = blocks.mapIdx fun i block =>
          some (kFirmwareScatterWrite, c.sequence + UInt8.ofNat i, block)) := by
  have hlength : image.bytes.length ≤ image.size := by
    unfold ByteView.bytes
    cases hdata : image.data with
    | none => exact Nat.zero_le _
    | some values => exact Nat.le_of_eq (image.size_eq values hdata)
  refine ⟨validateScatterImage_iff hfuel, fun _ _ => recognises.unique, fun hok => ?_⟩
  obtain ⟨-, blocks, hcut⟩ := (validateScatterImage_iff hfuel).1 hok
  have hfits : ∀ block ∈ blocks, (Call.ofBlock block).Fits := fun block hblock =>
    (hcut.all block hblock).fits
  refine ⟨blocks, hcut, hfits, fun c hanswered => ?_⟩
  obtain ⟨-, new, hlog, hrequests⟩ := transactAll_spec (blocks.map Call.ofBlock) c
  refine ⟨_, new, ?_, hlog, ?_⟩
  · have hcut' := (recognises.cut_iff (Nat.lt_of_le_of_lt hlength hfuel)).2 hcut
    rw [scatterFrom_eq (Nat.zero_le image.bytes.length) hcut']
    exact exec_blocks hanswered
  · rw [hrequests, List.filter_eq_self.2 (by simpa using hfits)]
    refine List.ext_getElem (by simp) fun i _ _ => ?_
    rw [List.getElem_mapIdx, List.getElem_mapIdx, List.getElem_map]
    rfl

/-- A transport whose device answers each request with an empty payload. -/
def obliging : List Transfer → (q : Usb) → q.Answer
  | _, .bulkWrite values => .ok values.length
  | log, .bulkRead capacity =>
    match (requests log).getLast? >>= decodeRequest with
    | some (_, sequence, _) =>
      if h : (encodeResponse sequence []).length ≤ capacity then .ok ⟨encodeResponse sequence [], h⟩
      else .error .usbIo
    | none => .error .timeout

theorem scatter_image_two :
    let first : List UInt8 := [3, 0, 0, 1, 0x41, 0, 2, 0xaa, 0xbb]
    let second : List UInt8 := [3, 1, 0, 2, 0x41, 2, 0, 0x41, 2, 1, 0xcc]
    ∃ c' new, (scatterFrom (first ++ second) 21 0).exec ⟨255, ⟨[], obliging⟩⟩ = (.ok (), c') ∧
      c'.transport.log = new ∧
      (requests new).map decodeRequest =
        [some (kFirmwareScatterWrite, 255, first), some (kFirmwareScatterWrite, 0, second)] := by
  intro first second
  have himage : Cutting IsScatterBlock [first, second] (first ++ second) := by
    refine ⟨rfl, ?_⟩
    rintro block hblock
    simp only [List.mem_cons, List.not_mem_nil, or_false] at hblock
    obtain rfl | rfl := hblock
    · exact @IsScatterBlock.of 0 0 1 [⟨0x41, 0, 2⟩] [0xaa, 0xbb] rfl rfl (by decide) (by decide)
    · exact @IsScatterBlock.of 1 0 2 [⟨0x41, 2, 0⟩, ⟨0x41, 2, 1⟩] [0xcc] rfl rfl
        (by decide) (by decide)
  obtain ⟨-, hunique, hload⟩ := scatter_image (ByteView.of (first ++ second)) 21 (by decide)
  obtain ⟨blocks, hcut, -, hsent⟩ := hload (by decide +kernel)
  obtain rfl := hunique _ _ himage hcut
  obtain ⟨c', new, hexec, hlog, hrequests⟩ :=
    hsent ⟨255, ⟨[], obliging⟩⟩ ⟨by decide +kernel, by decide +kernel, trivial⟩
  refine ⟨c', new, hexec, hlog, hrequests.trans ?_⟩
  rw [List.mapIdx_cons, List.mapIdx_cons, List.mapIdx_nil]
  rfl

end Px4.It930x
