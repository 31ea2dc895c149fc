import Mathlib
import TapLdk.TaprootBinding

/-! The parser of tapscript leaves: which scripts carry a commitment root, and the root they
carry. Two layouts, told apart by where the marker stands, put the root in one place. -/
namespace TapLdk.TapLeafScript
open TapLdk.LibraryExcept TapLdk.LibraryBytes TapLdk.LibrarySha256 TapLdk.Mssmt
open TapLdk.TaprootCommitment TapLdk.TaprootBinding

/-- The marker of versions 0 and 1, behind the version byte. -/
def marker : Bytes32 := sha256 (utf8 "taproot-assets")

/-- The marker of version 2, before the version byte. -/
def v2Marker : Bytes32 := sha256 (utf8 "taproot-assets:194243")

def isTaprootAssetCommitmentScript (script : Bytes) : Bool :=
  script.length = 73 ∧
    ((script.getD 0 0 = 0 ∨ script.getD 0 0 = 1) ∧ (script.drop 1).take 32 = marker.bytes ∨
      script.take 32 = v2Marker.bytes ∧ script.getD 32 0 = 2)

/-- The hash starts at byte 33 and the sum at byte 65, whatever the first byte is. -/
def parseTapLeafScriptRoot (script : Bytes) : Except TaprootCommitmentError MssmtNode :=
  if h : isTaprootAssetCommitmentScript script then
    have hlength : ((script.drop 33).take 32).length = 32 := by
      have hlen : script.length = 73 := (of_decide_eq_true h).1
      rw [List.length_take, List.length_drop]
      omega
    .ok ⟨⟨(script.drop 33).take 32, hlength⟩,
      UInt64.ofNat (beValue ((script.drop 65).take 8))⟩
  else .error .invalidTapLeafScript

/-- A script in one of the two layouts, with 40 bytes behind its head. -/
theorem layout_of_accepted {script : Bytes} (h : isTaprootAssetCommitmentScript script = true) :
    ∃ rest : Bytes, rest.length = 40 ∧
      (script = [0] ++ marker.bytes ++ rest ∨ script = [1] ++ marker.bytes ++ rest ∨
        script = v2Marker.bytes ++ [2] ++ rest) := by
  obtain ⟨hlen, hlayout⟩ := of_decide_eq_true h
  refine ⟨script.drop 33, by rw [List.length_drop, hlen], ?_⟩
  have htail (n : ℕ) : script.drop n = (script.drop n).take (33 - n) ++ script.drop (n + (33 - n)) := by
    rw [← List.drop_drop, List.take_append_drop]
  rcases hlayout with ⟨hversion, hmarker⟩ | ⟨hmarker, hversion⟩
  · have hhead : script = script.getD 0 0 :: script.drop 1 := by
      cases script with
      | nil => cases hlen
      | cons b bs => rfl
    have hscript : script = [script.getD 0 0] ++ marker.bytes ++ script.drop 33 := by
      conv_lhs => rw [hhead, htail 1, hmarker]
      rfl
    rcases hversion with hversion | hversion
    · exact .inl (by rw [hversion] at hscript; exact hscript)
    · exact .inr (.inl (by rw [hversion] at hscript; exact hscript))
  · have hbyte : (script.drop 32).take 1 = [script.getD 32 0] := by
      rw [List.getD_eq_getElem _ _ (by omega), List.drop_eq_getElem_cons (by omega)]
      rfl
    refine .inr (.inr ?_)
    conv_lhs => rw [← List.take_append_drop 32 script, hmarker, htail 32, hbyte, hversion]
    rw [List.append_assoc]

/-- The 40 bytes behind the head are those of one root. -/
theorem root_bytes {rest : Bytes} (h : rest.length = 40) :
    ∃ root : MssmtNode, rest = root.hash.bytes ++ u64Bytes root.sum := by
  have hhash : (rest.take 32).length = 32 := by rw [List.length_take, h]; rfl
  have hsum : (rest.drop 32).length = 8 := by rw [List.length_drop, h]
  have hlt : beValue (rest.drop 32) < 2 ^ 64 := by
    have hvalue := beValue_lt (rest.drop 32)
    rwa [hsum] at hvalue
  refine ⟨⟨⟨rest.take 32, hhash⟩, UInt64.ofNat (beValue (rest.drop 32))⟩, ?_⟩
  have hdigits := beBytes_beValue (rest.drop 32)
  rw [hsum] at hdigits
  simp only [u64Bytes, UInt64.toNat_ofNat', Nat.mod_eq_of_lt hlt, hdigits, List.take_append_drop]

/-- The layout of each version around the bytes of a root. -/
theorem tapLeafScriptOf_v0 (root : MssmtNode) : tapLeafScriptOf .v0 root =
    [0] ++ marker.bytes ++ (root.hash.bytes ++ u64Bytes root.sum) := by
  simp only [tapLeafScriptOf, marker, TapCommitmentVersion.asU8, List.append_assoc]

theorem tapLeafScriptOf_v1 (root : MssmtNode) : tapLeafScriptOf .v1 root =
    [1] ++ marker.bytes ++ (root.hash.bytes ++ u64Bytes root.sum) := by
  simp only [tapLeafScriptOf, marker, TapCommitmentVersion.asU8, List.append_assoc]

theorem tapLeafScriptOf_v2 (root : MssmtNode) : tapLeafScriptOf .v2 root =
    v2Marker.bytes ++ [2] ++ (root.hash.bytes ++ u64Bytes root.sum) := by
  simp only [tapLeafScriptOf, v2Marker, TapCommitmentVersion.asU8, List.append_assoc]

theorem marker_behind_byte (version : UInt8) (m : Bytes32) (rest : Bytes) :
    (([version] ++ m.bytes ++ rest).drop 1).take 32 = m.bytes := by
  rw [List.append_assoc, List.singleton_append, List.drop_one, List.tail_cons,
    List.take_left' m.length_eq]

theorem marker_before_byte (version : UInt8) (m : Bytes32) (rest : Bytes) :
    (m.bytes ++ [version] ++ rest).take 32 = m.bytes ∧
      (m.bytes ++ [version] ++ rest).getD 32 0 = version := by
  rw [List.append_assoc]
  refine ⟨List.take_left' m.length_eq, ?_⟩
  rw [List.getD_append_right _ _ _ _ m.length_eq.le, m.length_eq]
  rfl

/-- The accepted scripts are the ones that are built for some root. -/
theorem accepted_iff {script : Bytes} : isTaprootAssetCommitmentScript script = true ↔
    ∃ version root, script = tapLeafScriptOf version root := by
  constructor
  · intro h
    obtain ⟨rest, hrest, hlayout⟩ := layout_of_accepted h
    obtain ⟨root, rfl⟩ := root_bytes hrest
    rcases hlayout with hscript | hscript | hscript
    · exact ⟨.v0, root, hscript.trans (tapLeafScriptOf_v0 root).symm⟩
    · exact ⟨.v1, root, hscript.trans (tapLeafScriptOf_v1 root).symm⟩
    · exact ⟨.v2, root, hscript.trans (tapLeafScriptOf_v2 root).symm⟩
  · rintro ⟨version, root, rfl⟩
    refine decide_eq_true ⟨tapLeafScriptOf_length version root, ?_⟩
    cases version with
    | v0 =>
      rw [tapLeafScriptOf_v0]
      exact .inl ⟨.inl rfl, marker_behind_byte _ _ _⟩
    | v1 =>
      rw [tapLeafScriptOf_v1]
      exact .inl ⟨.inr rfl, marker_behind_byte _ _ _⟩
    | v2 =>
      rw [tapLeafScriptOf_v2]
      exact .inr (marker_before_byte _ _ _)

/-- What the parser takes off a script is what the builder put there. -/
theorem parse_tapLeafScriptOf (version : TapCommitmentVersion) (root : MssmtNode) :
    parseTapLeafScriptRoot (tapLeafScriptOf version root) = .ok root := by
  have haccepted := accepted_iff.mpr ⟨version, root, rfl⟩
  have hhash : ((tapLeafScriptOf version root).drop 33).take 32 = root.hash.bytes := by
    rw [drop_tapLeafScriptOf]
    exact List.take_left' root.hash.length_eq
  have hsum : (tapLeafScriptOf version root).drop 65 = u64Bytes root.sum := by
    rw [show 65 = 33 + 32 from rfl, ← List.drop_drop, drop_tapLeafScriptOf]
    exact List.drop_left' root.hash.length_eq
  have htake : (u64Bytes root.sum).take 8 = u64Bytes root.sum :=
    List.take_of_length_le (u64Bytes_length _).le
  simp only [parseTapLeafScriptRoot, haccepted, dif_pos, hhash, hsum, htake, beValue_u64Bytes,
    UInt64.ofNat_toNat]

theorem parse_eq_ok {script : Bytes} {root : MssmtNode}
    (h : parseTapLeafScriptRoot script = .ok root) :
    ∃ version, script = tapLeafScriptOf version root := by
  have haccepted : isTaprootAssetCommitmentScript script = true := by
    by_contra hrejected
    rw [parseTapLeafScriptRoot, dif_neg hrejected] at h
    cases h
  obtain ⟨version, root', rfl⟩ := accepted_iff.mp haccepted
  rw [parse_tapLeafScriptOf] at h
  cases h
  exact ⟨version, rfl⟩

/-- The builder's scripts are exactly the ones the parser accepts, each with its own root. -/
theorem tapLeafScript_codec :
    (∀ version root, parseTapLeafScriptRoot (tapLeafScriptOf version root) = .ok root) ∧
    (∀ script root, parseTapLeafScriptRoot script = .ok root →
      ∃ version, script = tapLeafScriptOf version root) ∧
    ∀ version version' root root', root ≠ root' →
      tapLeafScriptOf version root ≠ tapLeafScriptOf version' root' :=
  ⟨parse_tapLeafScriptOf, fun _ _ h => parse_eq_ok h,
    fun _ _ _ _ hne h => hne (tapLeafScriptOf_root h)⟩

/-- Twenty-one units under some digest. -/
def sampleRoot : MssmtNode := ⟨.replicate 32 171, 21⟩

/-- The root in the layout of version 2, and another sum under its digest in that of version 0. -/
theorem tapLeafScript_codec_sample :
    parseTapLeafScriptRoot (tapLeafScriptOf .v2 sampleRoot) = .ok sampleRoot ∧
      tapLeafScriptOf .v0 sampleRoot ≠ tapLeafScriptOf .v2 { sampleRoot with sum := 22 } ∧
      ∃ version, tapLeafScriptOf .v2 sampleRoot = tapLeafScriptOf version sampleRoot := by
  have hparse := tapLeafScript_codec.1 .v2 sampleRoot
  have hne : sampleRoot ≠ { sampleRoot with sum := 22 } := by decide
  exact ⟨hparse, tapLeafScript_codec.2.2 _ _ _ _ hne, tapLeafScript_codec.2.1 _ _ hparse⟩

end TapLdk.TapLeafScript
