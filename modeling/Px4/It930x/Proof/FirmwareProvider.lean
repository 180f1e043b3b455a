import Px4.It930x.FirmwareProvider
import Px4.It930x.Proof.Firmware
import Px4.It930x.Proof.Sha256

/-!
# The file of a firmware image

`Holds` says which bytes a file holds; a file that breaks or has no end holds none.

* `keep_eq`: a chunk is kept, together with its part of the digest, unless the image gets too long.
* `readFrom_cases`: what the loop comes to, within five reads.
* `firmware_load`: files that are accepted, and files that break.
-/

namespace Px4.It930x

namespace FirmwareProvider

open Sha256 (Represents)

/-- From the `n`-th read on there are these bytes, and then the end of the file. -/
inductive Holds (file : File) : Nat → List UInt8 → Prop
  | rest {n : Nat} {chunk : List UInt8} {size : chunk.length < kChunkSize} :
    file n = .rest chunk size → Holds file n chunk
  | full {n : Nat} {chunk bytes : List UInt8} {size : chunk.length = kChunkSize} :
    file n = .full chunk size → Holds file (n + 1) bytes → Holds file n (chunk ++ bytes)

/-- From the `n`-th read on there are that many bytes, and then an error. -/
inductive Breaks (file : File) : Nat → Nat → Prop
  | here {n : Nat} : file n = .broken → Breaks file n 0
  | full {n count : Nat} {chunk : List UInt8} {size : chunk.length = kChunkSize} :
    file n = .full chunk size → Breaks file (n + 1) count → Breaks file n (chunk.length + count)

/-- A file holds one thing at most. -/
theorem Holds.unique {file : File} {n : Nat} {bytes bytes' : List UInt8} (h : Holds file n bytes)
    (h' : Holds file n bytes') : bytes = bytes' := by
  induction h generalizing bytes' with
  | rest heq =>
    cases h' with
    | rest heq' =>
      rw [heq] at heq'
      cases heq'
      rfl
    | full heq' _ =>
      rw [heq] at heq'
      cases heq'
  | full heq _ ih =>
    cases h' with
    | rest heq' =>
      rw [heq] at heq'
      cases heq'
    | full heq' hrest =>
      rw [heq] at heq'
      cases heq'
      rw [ih hrest]

/-- A file that breaks holds nothing. -/
theorem Holds.not_breaks {file : File} {n count : Nat} {bytes : List UInt8}
    (h : Holds file n bytes) :
    ¬Breaks file n count := by
  intro hbreaks
  induction hbreaks generalizing bytes with
  | here heq =>
    cases h with
    | rest heq' | full heq' _ =>
      rw [heq] at heq'
      cases heq'
  | full heq _ ih =>
    cases h with
    | rest heq' =>
      rw [heq] at heq'
      cases heq'
    | full heq' hrest =>
      exact ih hrest

/-! ## The loop -/

/-- The digest is that of what was kept. -/
def Taken.Fits (x : Taken) : Prop :=
  Represents x.sha256 x.data ∧ x.data.length ≤ kIt930xFirmwareSize

theorem Taken.fits_new : ({} : Taken).Fits := ⟨Represents.new, Nat.zero_le _⟩

/-- **A chunk** is kept if it fits. The check of the size relies on a chunk being smaller than the
image. -/
theorem keep_eq {x : Taken} (hx : x.Fits) {chunk : List UInt8}
    (hchunk : chunk.length ≤ kChunkSize) :
    (∃ x', keep x chunk = .ok x' ∧ x'.data = x.data ++ chunk ∧ x'.Fits) ∨
      kIt930xFirmwareSize < x.data.length + chunk.length ∧ keep x chunk = rejected := by
  have hlength := hx.2
  have hsmall : kChunkSize < kIt930xFirmwareSize := by decide
  unfold keep
  by_cases hpos : 0 < chunk.length
  · rw [if_pos hpos]
    dsimp only
    rw [if_neg (show ¬kIt930xFirmwareSize < chunk.length by omega)]
    by_cases hlong : kIt930xFirmwareSize - chunk.length < x.data.length
    · rw [if_pos hlong]
      exact .inr ⟨by omega, rfl⟩
    · left
      obtain ⟨sha256, hupdate, hrepresents⟩ := hx.1.update (ByteView.of chunk)
      refine ⟨⟨x.data ++ chunk, sha256⟩, ?_, rfl, hrepresents, ?_⟩
      · rw [if_neg hlong, hupdate]
        rfl
      · rw [List.length_append]
        omega
  · left
    obtain rfl : chunk = [] := List.eq_nil_of_length_eq_zero (by omega)
    rw [if_neg hpos]
    exact ⟨x, rfl, (List.append_nil _).symm, hx⟩

/-- What the loop comes to. -/
inductive Ends (file : File) (n : Nat) (x : Taken) : Except Stop Taken → Prop
  | kept {bytes : List UInt8} {x' : Taken} :
    Holds file n bytes → x'.data = x.data ++ bytes → x'.Fits → Ends file n x (.ok x')
  | broken {count : Nat} :
    Breaks file n count → x.data.length + count ≤ kIt930xFirmwareSize →
      Ends file n x (.error (.failure .internal))
  | long :
    (∀ bytes, Holds file n bytes → kIt930xFirmwareSize < x.data.length + bytes.length) →
      (∀ count, Breaks file n count → kIt930xFirmwareSize < x.data.length + count) →
      Ends file n x (.error (.failure .firmwareRejected))

/-- What the loop comes to if a whole chunk comes next, which is kept. -/
theorem Ends.after_full {file : File} {n : Nat} {x x' : Taken} {chunk : List UInt8}
    {size : chunk.length = kChunkSize} {outcome : Except Stop Taken}
    (hfile : file n = .full chunk size) (hdata : x'.data = x.data ++ chunk)
    (h : Ends file (n + 1) x' outcome) : Ends file n x outcome := by
  have hlength : x'.data.length = x.data.length + chunk.length := by rw [hdata, List.length_append]
  cases h with
  | kept hholds hdata' hfits =>
    refine .kept (.full hfile hholds) ?_ hfits
    rw [hdata', hdata, List.append_assoc]
  | broken hbreaks hle =>
    refine .broken (.full hfile hbreaks) ?_
    omega
  | long hholds hbreaks =>
    refine .long (fun bytes h => ?_) (fun count h => ?_)
    · cases h with
      | rest heq =>
        rw [hfile] at heq
        cases heq
      | full heq hrest =>
        rw [hfile] at heq
        cases heq
        have := hholds _ hrest
        rw [List.length_append]
        omega
    · cases h with
      | here heq =>
        rw [hfile] at heq
        cases heq
      | full heq hrest =>
        rw [hfile] at heq
        cases heq
        have := hbreaks _ hrest
        omega

/-- **The loop** ends in time, since every chunk but the last one is whole. -/
theorem readFrom_cases (file : File) {fuel n : Nat} {x : Taken} (hx : x.Fits)
    (hfuel : kIt930xFirmwareSize < x.data.length + kChunkSize * fuel) :
    Ends file n x (readFrom file fuel n x) := by
  induction fuel generalizing n x with
  | zero =>
    have := hx.2
    omega
  | succ fuel ih =>
    unfold readFrom
    cases hfile : file n with
    | full chunk size =>
      obtain ⟨x', hkeep, hdata, hx'⟩ | ⟨hlong, hkeep⟩ := keep_eq hx (Nat.le_of_eq size)
      · have hlength : x'.data.length = x.data.length + kChunkSize := by
          rw [hdata, List.length_append, size]
        have hnext := ih (n := n + 1) hx' (by rw [hlength]; rw [Nat.mul_succ] at hfuel; omega)
        simp only [hkeep, ok_bind]
        exact hnext.after_full hfile hdata
      · simp only [hkeep]
        refine .long (fun bytes h => ?_) (fun count h => ?_)
        · cases h with
          | rest heq =>
            rw [hfile] at heq
            cases heq
          | full heq hrest =>
            rw [hfile] at heq
            cases heq
            rw [List.length_append]
            omega
        · cases h with
          | here heq =>
            rw [hfile] at heq
            cases heq
          | full heq hrest =>
            rw [hfile] at heq
            cases heq
            omega
    | rest chunk size =>
      obtain ⟨x', hkeep, hdata, hx'⟩ | ⟨hlong, hkeep⟩ := keep_eq hx (Nat.le_of_lt size)
      · simp only [hkeep]
        exact .kept (.rest hfile) hdata hx'
      · simp only [hkeep]
        refine .long (fun bytes h => ?_) (fun count h => ?_)
        · rw [h.unique (.rest hfile)]
          exact hlong
        · exact absurd h (Holds.not_breaks (.rest hfile))
    | broken =>
      exact .broken (.here hfile) hx.2

/-! ## The image -/

/-- The image has the size and the digest of the firmware, and is made of blocks. -/
def IsFirmware (image : List UInt8) : Prop :=
  image.length = kIt930xFirmwareSize ∧ Lib.Sha256.digest image = kIt930xFirmwareSha256 ∧
    IsScatterImage image

/-- Enough rounds for the image: it is accepted or rejected. -/
theorem validateScatterImage_cases (image : List UInt8) :
    validateScatterImage (image.length + 1) (ByteView.of image) = .ok () ∨
      validateScatterImage (image.length + 1) (ByteView.of image) =
      .error (.failure .firmwareRejected) := by
  unfold validateScatterImage
  split
  · exact .inr rfl
  · rw [validateFrom_eq (Nat.zero_le _) (by omega)]
    split
    · exact .inl rfl
    · exact .inr rfl

/-- What `load` does with the bytes that it has kept. -/
theorem accept_cases {x : Taken} (hx : x.Fits) :
    IsFirmware x.data ∧ accept x = .ok ⟨x.data⟩ ∨
      ¬IsFirmware x.data ∧ accept x = .error (.failure .firmwareRejected) := by
  have hsize : kIt930xFirmwareSize = 2169 := rfl
  have hfinish := hx.1.finish (by have := hx.2; omega)
  have hscatter : validateScatterImage (x.data.length + 1) (ByteView.of x.data) = .ok () ↔
      IsScatterImage x.data :=
    @validateScatterImage_iff (ByteView.of x.data) _ (Nat.lt_succ_self _)
  have hvalidate := validateScatterImage_cases x.data
  unfold accept
  rw [hfinish]
  show (_ ∧ (if _ then _ else _) = _) ∨ (_ ∧ (if _ then _ else _) = _)
  by_cases hpolicy : x.data.length = kIt930xFirmwareSize ∧
    Lib.Sha256.digest x.data = kIt930xFirmwareSha256
  · have haccepted : FirmwareImage.acceptedPolicy x.data.length
        (Lib.Sha256.digest x.data) = true := by
      unfold FirmwareImage.acceptedPolicy
      rw [Bool.and_eq_true, beq_iff_eq, beq_iff_eq]
      exact hpolicy
    rw [haccepted]
    obtain hvalid | hinvalid := hvalidate
    · left
      rw [hvalid]
      exact ⟨⟨hpolicy.1, hpolicy.2, hscatter.1 hvalid⟩, rfl⟩
    · right
      refine ⟨fun h => ?_, ?_⟩
      · have hok := hscatter.2 h.2.2
        rw [hinvalid] at hok
        cases hok
      · rw [hinvalid]
        rfl
  · right
    have hrejected : FirmwareImage.acceptedPolicy x.data.length
        (Lib.Sha256.digest x.data) = false := by
      unfold FirmwareImage.acceptedPolicy
      rw [Bool.eq_false_iff]
      intro h
      rw [Bool.and_eq_true, beq_iff_eq, beq_iff_eq] at h
      exact hpolicy h
    rw [hrejected]
    exact ⟨fun h => hpolicy ⟨h.1, h.2.1⟩, rfl⟩

/-- What comes of a file that is open. -/
theorem load_cases {path : List UInt8} (hpath : ¬(path = [] ∨ 0 ∈ path)) (f : File) (fuel : Nat) :
    (∃ image, load (fuel + 5) path (some f) = .ok image ∧ Holds f 0 image.data ∧
      IsFirmware image.data) ∨
    (∃ count ≤ kIt930xFirmwareSize, load (fuel + 5) path (some f) = .error (.failure .internal) ∧
      Breaks f 0 count) ∨
    load (fuel + 5) path (some f) = .error (.failure .firmwareRejected) ∧
      (∀ bytes, Holds f 0 bytes → ¬IsFirmware bytes) ∧
      ∀ count, Breaks f 0 count → kIt930xFirmwareSize < count := by
  have hfuel : kIt930xFirmwareSize < ({} : Taken).data.length + kChunkSize * (fuel + 5) := by
    show 2169 < 0 + 512 * (fuel + 5)
    omega
  have hloop := readFrom_cases f (n := 0) Taken.fits_new hfuel
  have hnothing : ({} : Taken).data = [] := rfl
  unfold load
  rw [if_neg hpath]
  dsimp only
  generalize readFrom f (fuel + 5) 0 {} = read at hloop ⊢
  cases hloop with
  | @kept bytes x hholds hdata hfits =>
    rw [hnothing, List.nil_append] at hdata
    subst hdata
    rw [ok_bind]
    obtain ⟨hfirmware, haccept⟩ | ⟨hfirmware, haccept⟩ := accept_cases hfits
    · exact .inl ⟨⟨x.data⟩, haccept, hholds, hfirmware⟩
    · refine .inr (.inr ⟨haccept, fun bytes h => ?_, fun count h => absurd h hholds.not_breaks⟩)
      rwa [h.unique hholds]
  | @broken count hbreaks hle =>
    rw [hnothing, List.length_nil, Nat.zero_add] at hle
    exact .inr (.inl ⟨count, hle, rfl, hbreaks⟩)
  | long hholds hbreaks =>
    rw [hnothing, List.length_nil] at hholds hbreaks
    refine .inr (.inr ⟨rfl, fun bytes h hfirmware => ?_, fun count h => ?_⟩)
    · have hlong := hholds bytes h
      rw [hfirmware.1] at hlong
      omega
    · have hlong := hbreaks count h
      omega

end FirmwareProvider

open FirmwareProvider in
/-- **The firmware is loaded from exactly the files that hold it.** Every file is read to an
outcome, in five reads at most. An image is returned if and only if it is what the file holds, and
has the size, the digest and the form of the firmware. An error of the device is reported if and
only if the file breaks before it is too long. -/
theorem firmware_load (path : List UInt8) (file : Option File) (fuel : Nat) :
    load (fuel + 5) path file ≠ .error .undefined ∧
    (∀ image, load (fuel + 5) path file = .ok image ↔ ¬(path = [] ∨ 0 ∈ path) ∧
      ∃ f, file = some f ∧ Holds f 0 image.data ∧ IsFirmware image.data) ∧
    (load (fuel + 5) path file = .error (.failure .internal) ↔ ¬(path = [] ∨ 0 ∈ path) ∧
      ∃ f, file = some f ∧ ∃ count ≤ kIt930xFirmwareSize, Breaks f 0 count) := by
  by_cases hpath : path = [] ∨ 0 ∈ path
  · rw [show load (fuel + 5) path file = .error (.failure .invalidArgument) from if_pos hpath]
    simp [hpath]
  cases file with
  | none =>
    rw [show load (fuel + 5) path none = .error (.failure .notFound) from if_neg hpath]
    simp
  | some f =>
    obtain ⟨image, hload, hholds, hfirmware⟩ | ⟨count, hle, hload, hbreaks⟩ |
      ⟨hload, hholds, hbreaks⟩ :=
      load_cases hpath f fuel
    · rw [hload]
      refine ⟨by simp, fun image' => ⟨fun h => ?_, ?_⟩, by simp, ?_⟩
      · cases h
        exact ⟨hpath, f, rfl, hholds, hfirmware⟩
      · rintro ⟨-, f', hf, hholds', -⟩
        cases hf
        obtain ⟨data⟩ := image
        obtain ⟨data'⟩ := image'
        have hdata : data = data' := hholds.unique hholds'
        rw [hdata]
      · rintro ⟨-, f', hf, count, -, hbreaks⟩
        cases hf
        exact absurd hbreaks hholds.not_breaks
    · rw [hload]
      refine ⟨by simp, fun image => ⟨by simp, ?_⟩, fun _ =>
        ⟨hpath, f, rfl, count, hle, hbreaks⟩, fun _ => rfl⟩
      rintro ⟨-, f', hf, hholds, -⟩
      cases hf
      exact absurd hbreaks hholds.not_breaks
    · rw [hload]
      refine ⟨by simp, fun image => ⟨by simp, ?_⟩, by simp, ?_⟩
      · rintro ⟨-, f', hf, hholds', hfirmware⟩
        cases hf
        exact absurd hfirmware (hholds _ hholds')
      · rintro ⟨-, f', hf, count, hle, hbreaks'⟩
        cases hf
        have hlong := hbreaks _ hbreaks'
        omega

end Px4.It930x
