import Mathlib
import TapLdk.LibraryBytes
import TapLdk.LibraryExcept

/-! Frames on a byte stream: a length of four bytes, big end first, and that many bytes, up to
some maximum. What is read from any part of a stream are the first frames that were written. -/
namespace TapLdk.LibraryFrames
open LibraryBytes LibraryExcept

/-- The bytes of a frame on the stream. -/
def frame (raw : Bytes) : Bytes := beBytes 4 raw.length ++ raw

inductive FrameError where
  | tooLarge (len : ℕ)
  | incomplete
deriving DecidableEq

def writeFrame (max : ℕ) (raw : Bytes) : Except FrameError Bytes := do
  rejectIf (max < raw.length) (.tooLarge raw.length)
  pure (frame raw)

/-- The first frame of a stream, and what follows it. -/
def readFrame (max : ℕ) (stream : Bytes) : Except FrameError (Bytes × Bytes) := do
  rejectIf (stream.length < 4) .incomplete
  let len := beValue (stream.take 4)
  rejectIf (max < len) (.tooLarge len)
  rejectIf ((stream.drop 4).length < len) .incomplete
  pure ((stream.drop 4).take len, (stream.drop 4).drop len)

/-- A number of frames, one after the other. -/
def readFrames (max : ℕ) : ℕ → Bytes → Except FrameError (List Bytes × Bytes)
  | 0, stream => pure ([], stream)
  | count + 1, stream => do
    let (raw, stream) ← readFrame max stream
    let (raws, stream) ← readFrames max count stream
    pure (raw :: raws, stream)

section

variable {max : ℕ} {stream rest raw : Bytes}

theorem writeFrame_eq_ok {bytes : Bytes} :
    writeFrame max raw = .ok bytes ↔ raw.length ≤ max ∧ bytes = frame raw := by
  rw [writeFrame, check_bind_eq_ok, rejectIf_eq_ok, Nat.not_lt, pure_eq_ok, Except.ok.injEq,
    eq_comm (a := bytes)]

theorem readFrame_eq_ok (hmax : max < 256 ^ 4) : readFrame max stream = .ok (raw, rest) ↔
    raw.length ≤ max ∧ stream = frame raw ++ rest := by
  simp only [readFrame, check_bind_eq_ok, rejectIf_eq_ok, Nat.not_lt, pure_eq_ok, Except.ok.injEq,
    Prod.mk.injEq, frame, List.append_assoc]
  constructor
  · rintro ⟨hlength, hlen, hrest, rfl, rfl⟩
    have htake : ((stream.drop 4).take (beValue (stream.take 4))).length =
        beValue (stream.take 4) := by
      simpa using hrest
    have hprefix : beBytes 4 (beValue (stream.take 4)) = stream.take 4 := by
      have hfour : (stream.take 4).length = 4 := by simpa using hlength
      have hbytes := beBytes_beValue (stream.take 4)
      rwa [hfour] at hbytes
    rw [htake, hprefix, List.take_append_drop, List.take_append_drop]
    exact ⟨hlen, rfl⟩
  · rintro ⟨hlen, rfl⟩
    have hvalue : beValue (beBytes 4 raw.length) = raw.length := by
      rw [beValue_beBytes, Nat.mod_eq_of_lt (hlen.trans_lt hmax)]
    have htake : (beBytes 4 raw.length ++ (raw ++ rest)).take 4 = beBytes 4 raw.length :=
      List.take_left' (beBytes_length ..)
    have hdrop : (beBytes 4 raw.length ++ (raw ++ rest)).drop 4 = raw ++ rest :=
      List.drop_left' (beBytes_length ..)
    rw [htake, hdrop, hvalue]
    simp [hlen, beBytes_length]

/-- What is read as a number of frames is their stream, and nothing else. -/
theorem readFrames_eq_ok (hmax : max < 256 ^ 4) {count : ℕ} {raws : List Bytes} :
    readFrames max count stream = .ok (raws, rest) ↔
      raws.length = count ∧ (∀ raw ∈ raws, raw.length ≤ max) ∧
        stream = raws.flatMap frame ++ rest := by
  induction count generalizing stream rest raws with
  | zero =>
    simp only [readFrames, pure_eq_ok, Except.ok.injEq, Prod.mk.injEq, List.length_eq_zero_iff]
    constructor
    · rintro ⟨rfl, rfl⟩
      simp
    · rintro ⟨rfl, -, rfl⟩
      simp
  | succ count ih =>
    simp only [readFrames, bind_eq_ok, Prod.exists, readFrame_eq_ok hmax, ih, pure_eq_ok,
      Except.ok.injEq, Prod.mk.injEq]
    constructor
    · rintro ⟨raw, tail, ⟨hraw, rfl⟩, raws, tail', ⟨rfl, hraws, rfl⟩, rfl, rfl⟩
      exact ⟨rfl, List.forall_mem_cons.mpr ⟨hraw, hraws⟩, by simp⟩
    · rintro ⟨hlength, hraws, rfl⟩
      cases raws with
      | nil => simp at hlength
      | cons raw raws =>
        obtain ⟨hraw, hraws⟩ := List.forall_mem_cons.mp hraws
        exact ⟨raw, raws.flatMap frame ++ rest, ⟨hraw, by simp⟩, raws, rest,
          ⟨Nat.succ.inj hlength, hraws, rfl⟩, rfl, rfl⟩

/-- Two streams of frames that one stream begins with agree frame by frame. -/
theorem frames_prefix (hmax : max < 256 ^ 4) {raws raws' : List Bytes}
    (h : ∀ raw ∈ raws, raw.length ≤ max) (h' : ∀ raw ∈ raws', raw.length ≤ max)
    (hle : raws.flatMap frame ++ rest <+: raws'.flatMap frame) : raws <+: raws' := by
  obtain ⟨more, hmore⟩ := hle
  induction raws generalizing raws' with
  | nil => exact List.nil_prefix
  | cons raw raws ih =>
    obtain ⟨hraw, hraws⟩ := List.forall_mem_cons.mp h
    have hread : readFrame max ((raw :: raws).flatMap frame ++ rest ++ more) =
        .ok (raw, raws.flatMap frame ++ rest ++ more) :=
      (readFrame_eq_ok hmax).mpr ⟨hraw, by simp⟩
    rw [hmore] at hread
    cases raws' with
    | nil => simp [readFrame, rejectIf] at hread
    | cons raw' raws' =>
      obtain ⟨hraw', hraws'⟩ := List.forall_mem_cons.mp h'
      have hread' : readFrame max ((raw' :: raws').flatMap frame) =
          .ok (raw', raws'.flatMap frame) :=
        (readFrame_eq_ok hmax).mpr ⟨hraw', by simp⟩
      rw [hread', Except.ok.injEq, Prod.mk.injEq] at hread
      obtain ⟨rfl, hsame⟩ := hread
      exact List.cons_prefix_cons.mpr ⟨rfl, ih hraws hraws' hsame.symm⟩

end

end TapLdk.LibraryFrames
