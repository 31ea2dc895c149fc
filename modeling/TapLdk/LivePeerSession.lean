import Mathlib
import TapLdk.LivePeerWire

/-! The live payment session over its runs: the exchanges that the server and the client accept,
what the client knows of the server when it reports, and that every run without faults completes. -/
namespace TapLdk.LivePeerSession
open TapLdk.LibraryExcept TapLdk.LibraryBytes TapLdk.LibrarySha256 TapLdk.LibrarySessions
open TapLdk.Mssmt TapLdk.Asset TapLdk.RfqInvoice TapLdk.AssetPayment
open TapLdk.AssetChannelNegotiation TapLdk.PeerMessage TapLdk.LivePeer TapLdk.LivePeerReassembly
open TapLdk.LivePeerWire

variable {fromSlice : FromSlice} {fork : NegotiationFork} {α : Type}

/-- A frame that is read as a message. -/
def IsFrame (fromSlice : FromSlice) (raw : Bytes) (m : LivePeerWireMessage) : Prop :=
  raw.length ≤ maxFrameLen ∧ fromSlice raw = some m

theorem frames_concat {ins : List Bytes} {ms : List LivePeerWireMessage}
    {m : LivePeerWireMessage} : List.Forall₂ (IsFrame fromSlice) ins (ms ++ [m]) ↔
      ∃ rest raw, ins = rest ++ [raw] ∧ List.Forall₂ (IsFrame fromSlice) rest ms ∧
        IsFrame fromSlice raw m := by
  constructor
  · intro h
    have htake := List.forall₂_take_append ins ms [m] h
    have hdrop := List.forall₂_drop_append ins ms [m] h
    obtain ⟨raw, tail, hframe, hnil, hraw⟩ := List.forall₂_cons_right_iff.mp hdrop
    rw [List.forall₂_nil_right_iff.mp hnil] at hraw
    exact ⟨_, raw, by rw [← hraw, List.take_append_drop], htake, hframe⟩
  · rintro ⟨rest, raw, rfl, hrest, hframe⟩
    exact List.rel_append hrest (.cons hframe .nil)

theorem finishes_readFrame {f : LivePeerWireMessage → Peer α} {ins outs : List Bytes} {a : α} :
    Finishes (readFrame fromSlice >>= f) ins outs a ↔ ∃ raw m rest, ins = raw :: rest ∧
      IsFrame fromSlice raw m ∧ Finishes (f m) rest outs a := by
  simp only [readFrame, Program.receive_bind, finishes_receive, finishes_done_bind, IsFrame,
    check_bind_eq_ok, rejectIf_eq_ok, Nat.not_lt, okOr_eq_ok]
  constructor
  · rintro ⟨raw, rest, rfl, m, hframe, h⟩
    exact ⟨raw, m, rest, rfl, hframe, h⟩
  · rintro ⟨raw, m, rest, rfl, hframe, h⟩
    exact ⟨raw, rest, rfl, m, hframe, h⟩

theorem writeFrame_bind {m : LivePeerWireMessage} (h : (wireBytes m).length ≤ maxFrameLen)
    (f : Unit → Peer α) : writeFrame m >>= f = .send (wireBytes m) (f ()) := by
  rw [writeFrame, rejectIf, if_neg (Nat.not_lt.mpr h)]
  rfl

theorem finishes_writeFrame {m : LivePeerWireMessage} {f : Unit → Peer α} {ins outs : List Bytes}
    {a : α} : Finishes (writeFrame m >>= f) ins outs a ↔ (wireBytes m).length ≤ maxFrameLen ∧
      ∃ rest, outs = wireBytes m :: rest ∧ Finishes (f ()) ins rest a := by
  by_cases h : (wireBytes m).length ≤ maxFrameLen
  · rw [writeFrame_bind h, finishes_send]
    simp [h]
  · rw [writeFrame, rejectIf, if_pos (Nat.not_le.mp h)]
    simp [h]

theorem finishes_write {m : LivePeerWireMessage} {ins outs : List Bytes} {u : Unit} :
    Finishes (writeFrame m) ins outs u ↔
      (wireBytes m).length ≤ maxFrameLen ∧ ins = [] ∧ outs = [wireBytes m] := by
  rw [← bind_pure (writeFrame m), finishes_writeFrame]
  simp [and_comm]

/-- A message of the session with the payload it is sent in. -/
abbrev Sent := AssetPeerMessage × Bytes

def customMessage (sent : Sent) : LivePeerWireMessage := .customMessage (messageType sent.1) sent.2

def customMessageAck (sent : Sent) : LivePeerWireMessage :=
  .customMessageAck (messageType sent.1) (messageKind sent.1) (sha256 sent.2)

/-- Payloads that decode to their messages. -/
def Decodes (sent : List Sent) : Prop := ∀ s ∈ sent, decode s.2 = .ok s.1

theorem finishes_answerMessage {expected : AssetPeerMessage} {sequence : ℕ}
    {progress progress' : SessionProgress} {m : LivePeerWireMessage} {ins outs : List Bytes} :
    Finishes (answerMessage expected sequence progress m) ins outs progress' ↔
      ∃ payload, m = customMessage (expected, payload) ∧ decode payload = .ok expected ∧
        ins = [] ∧ outs = [wireBytes (customMessageAck (expected, payload))] ∧
        takeMessage progress expected = .ok progress' := by
  cases m with
  | customMessage type payload =>
    simp only [answerMessage, finishes_done_bind, finishes_writeFrame, mapError_eq_ok,
      rejectIf_eq_ok, ne_eq, not_not, exists_const, finishes_pure, takeMessage, bind_eq_ok,
      pure_eq_ok, Except.ok.injEq, customMessage, customMessageAck,
      LivePeerWireMessage.customMessage.injEq]
    constructor
    · rintro ⟨_, hdecode, rfl, rfl, p, hp, -, rest, rfl, rfl, rfl, rfl⟩
      exact ⟨payload, ⟨rfl, rfl⟩, hdecode, rfl, rfl, p, hp, rfl⟩
    · rintro ⟨_, ⟨rfl, rfl⟩, hdecode, rfl, rfl, p, hp, rfl⟩
      exact ⟨expected, hdecode, rfl, rfl, p, hp, fits_customMessageAck .., [], rfl, rfl, rfl, rfl⟩
  | hello | helloAck | customMessageAck | sessionComplete | sessionCompleteAck =>
    simp [answerMessage, customMessage]

/-- The server goes through its loop on the expected messages, each answered, and no others. -/
theorem finishes_answerMessages {expected : List AssetPeerMessage} {sequence : ℕ}
    {progress progress' : SessionProgress} {ins outs : List Bytes} :
    Finishes (answerMessages fromSlice expected sequence progress) ins outs progress' ↔
      ∃ sent : List Sent, sent.map (·.1) = expected ∧ Decodes sent ∧
        List.Forall₂ (IsFrame fromSlice) ins (sent.map customMessage) ∧
        outs = sent.map (wireBytes ∘ customMessageAck) ∧
        expected.foldlM takeMessage progress = .ok progress' := by
  induction expected generalizing sequence progress ins outs with
  | nil =>
    simp only [answerMessages, finishes_pure, List.map_eq_nil_iff, List.foldlM_nil, pure_eq_ok,
      Except.ok.injEq]
    constructor
    · rintro ⟨rfl, rfl, rfl⟩
      exact ⟨[], rfl, by simp [Decodes], .nil, rfl, rfl⟩
    · rintro ⟨_, rfl, -, hins, rfl, rfl⟩
      cases hins
      exact ⟨rfl, rfl, rfl⟩
  | cons m expected ih =>
    rw [answerMessages, bind_assoc, finishes_readFrame]
    simp only [finishes_bind, finishes_answerMessage, ih, List.foldlM_cons, bind_eq_ok]
    constructor
    · rintro ⟨raw, _, _, rfl, hframe, p, _, _, _, _, rfl, rfl, ⟨payload, rfl, hdecode, rfl, rfl,
        hp⟩, sent, rfl, hsent, hins, rfl, hfold⟩
      refine ⟨(m, payload) :: sent, rfl, List.forall_mem_cons.mpr ⟨hdecode, hsent⟩,
        .cons hframe hins, rfl, p, hp, hfold⟩
    · rintro ⟨sent, hmap, hdecodes, hins, rfl, p, hp, hfold⟩
      cases sent with
      | nil => cases hmap
      | cons s sent =>
        obtain ⟨rfl, rfl⟩ := List.cons.inj hmap
        obtain ⟨hdecode, hsent⟩ := List.forall_mem_cons.mp hdecodes
        cases hins with
        | cons hframe hins =>
          exact ⟨_, _, _, rfl, hframe, p, [], _, [_], _, rfl, rfl,
            ⟨s.2, rfl, hdecode, rfl, rfl, hp⟩, sent, rfl, hsent, hins, rfl, hfold⟩

/-- A greeting that the server answers. -/
def Welcome (fork : NegotiationFork) (assetId : Bytes32) (peerName : String)
    (theirs : AssetChannelFeatureSet) : Prop :=
  ¬ isBlank peerName ∧ assetId ≠ FixedBytes.zero 32 ∧ theirs.supportsAssetChannels ∧
    ForkAgrees fork assetId (.require fork) theirs

/-- The answer to a greeting. -/
def helloAck (fork : NegotiationFork) (assetId : Bytes32) (theirs : AssetChannelFeatureSet) :
    LivePeerWireMessage :=
  .helloAck true (AssetChannelFeatureSet.require fork).featureBits theirs.featureBits
    (.singleAsset assetId fork.supportedProtocolVersion)

theorem featureSetFromBits_version (featureBits : List UInt16) :
    (featureSetFromBits fork featureBits).protocolVersion = fork.supportedProtocolVersion := by
  unfold featureSetFromBits
  split_ifs <;> rfl

theorem finishes_answerHello {assetId : Bytes32} {m : LivePeerWireMessage} {ins outs : List Bytes}
    {r : List UInt16 × NegotiatedChannelType} :
    Finishes (answerHello fork assetId m) ins outs r ↔ ∃ peerName featureBits,
      m = .hello peerName featureBits fork.supportedProtocolVersion assetId ∧
      Welcome fork assetId peerName (featureSetFromBits fork featureBits) ∧ ins = [] ∧
      outs = [wireBytes (helloAck fork assetId (featureSetFromBits fork featureBits))] ∧
      r = ((featureSetFromBits fork featureBits).featureBits,
        .singleAsset assetId fork.supportedProtocolVersion) := by
  cases m with
  | hello peerName featureBits version remoteAssetId =>
    simp only [answerHello, finishes_done_bind, rejectIf_eq_ok, ne_eq, not_not, exists_const,
      mapError_eq_ok, negotiateChannel_singleAsset, finishes_writeFrame, finishes_pure, Welcome,
      featureSetFromBits_version, true_and, LivePeerWireMessage.hello.injEq, helloAck]
    constructor
    · rintro ⟨hname, rfl, rfl, _, ⟨-, hzero, -, hsupport, hagree, rfl⟩, -, _, rfl, rfl, rfl, rfl⟩
      exact ⟨peerName, featureBits, ⟨rfl, rfl, rfl, rfl⟩, ⟨hname, hzero, hsupport, hagree⟩, rfl,
        rfl, rfl⟩
    · rintro ⟨_, _, ⟨rfl, rfl, rfl, rfl⟩, ⟨hname, hzero, hsupport, hagree⟩, rfl, rfl, rfl⟩
      have hfits := fits_helloAck true (.require fork) (featureSetFromBits fork featureBits)
        remoteAssetId fork.supportedProtocolVersion
      refine ⟨hname, rfl, rfl, _, ⟨rfl, hzero, rfl, hsupport, hagree, rfl⟩, ?_, [], ?_, rfl, rfl,
        rfl⟩
      · exact hfits
      · rfl
  | helloAck | customMessage | customMessageAck | sessionComplete | sessionCompleteAck =>
    simp [answerHello]

theorem requireAssetMessageAllowed_singleAsset (assetId : Bytes32) (version : UInt16) :
    requireAssetMessageAllowed (.singleAsset assetId version) = .ok () := rfl

/-- What the server has read and answered before the completion. -/
structure Served (fromSlice : FromSlice) (fork : NegotiationFork) (assetId : Bytes32)
    (amount : UInt64) (ins outs : List Bytes) (peerName : String) (featureBits : List UInt16)
    (id : Bytes32) (sent : List Sent) : Prop where
  welcome : Welcome fork assetId peerName (featureSetFromBits fork featureBits)
  messages : sampleAssetPaymentSessionMessages assetId amount = .ok (sent.map (·.1))
  paymentId : sessionPaymentId assetId amount (sent.map (·.1)) = .ok id
  decodes : Decodes sent
  received : List.Forall₂ (IsFrame fromSlice) ins
    (.hello peerName featureBits fork.supportedProtocolVersion assetId :: sent.map customMessage)
  answered : outs = (helloAck fork assetId (featureSetFromBits fork featureBits) ::
    sent.map customMessageAck).map wireBytes

theorem finishes_serveMessages {assetId : Bytes32} {amount : UInt64} {ins outs : List Bytes}
    {remoteFeatureBits : List UInt16} {id : Bytes32} {count : ℕ} {progress : SessionProgress} :
    Finishes (serveMessages fromSlice fork assetId amount) ins outs
        (remoteFeatureBits, id, count, progress) ↔
      ∃ peerName featureBits sent,
        Served fromSlice fork assetId amount ins outs peerName featureBits id sent ∧
        remoteFeatureBits = (featureSetFromBits fork featureBits).featureBits ∧
        count = sent.length ∧ (sent.map (·.1)).foldlM takeMessage {} = .ok progress := by
  rw [serveMessages, bind_assoc, finishes_readFrame]
  simp only [finishes_bind (p := answerHello _ _ _), finishes_answerHello, finishes_done_bind,
    mapError_eq_ok, finishes_bind (p := answerMessages _ _ _ _), finishes_answerMessages,
    finishes_pure, Prod.mk.injEq]
  constructor
  · rintro ⟨raw, _, _, rfl, hframe, _, _, _, _, _, rfl, rfl, ⟨peerName, featureBits, rfl, hwelcome,
      rfl, rfl, rfl⟩, -, -, _, hmessages, _, hid, _, _, _, _, _, rfl, rfl,
      ⟨sent, rfl, hdecodes, hins, rfl, hfold⟩, ⟨rfl, rfl, rfl, rfl⟩, rfl, rfl⟩
    refine ⟨peerName, featureBits, sent, ⟨hwelcome, hmessages, hid, hdecodes, ?_, ?_⟩, rfl,
      List.length_map .., hfold⟩
    · rw [List.nil_append, List.append_nil]
      exact .cons hframe hins
    · simp
  · rintro ⟨peerName, featureBits, sent, ⟨hwelcome, hmessages, hid, hdecodes, hframes, rfl⟩, rfl,
      rfl, hfold⟩
    cases hframes with
    | cons hframe hins =>
      refine ⟨_, _, _, rfl, hframe, _, [], _, [_], _, rfl, rfl,
        ⟨peerName, featureBits, rfl, hwelcome, rfl, rfl, rfl⟩, (),
        requireAssetMessageAllowed_singleAsset .., _, hmessages, _, hid, _, _, [], _, [], ?_, ?_,
        ⟨sent, rfl, hdecodes, hins, rfl, hfold⟩, ⟨rfl, rfl, ?_, rfl⟩, rfl, rfl⟩
      · simp
      · simp
      · simp

/-- The answer to the completion of a session. -/
def completionAck (id : Bytes32) (count : ℕ) (progress : SessionProgress) : LivePeerWireMessage :=
  .sessionCompleteAck
    (0 < progress.inputProofReassembledLen && 0 < progress.outputProofReassembledLen) id count
    progress.inputProofReassembledLen progress.outputProofReassembledLen

theorem finishes_answerCompletion {id : Bytes32} {count : ℕ} {progress : SessionProgress}
    {m : LivePeerWireMessage} {ins outs : List Bytes} {u : Unit} :
    Finishes (answerCompletion id count progress m) ins outs u ↔ m = .sessionComplete id count ∧
      (wireBytes (completionAck id count progress)).length ≤ maxFrameLen ∧ ins = [] ∧
      outs = [wireBytes (completionAck id count progress)] := by
  cases m with
  | sessionComplete paymentId messageCount =>
    simp only [answerCompletion, finishes_done_bind, rejectIf_eq_ok, ne_eq, not_not, exists_const,
      finishes_write, LivePeerWireMessage.sessionComplete.injEq, completionAck]
    constructor
    · rintro ⟨rfl, rfl, h⟩
      exact ⟨⟨rfl, rfl⟩, h⟩
    · rintro ⟨⟨rfl, rfl⟩, h⟩
      exact ⟨rfl, rfl, h⟩
  | hello | helloAck | customMessage | customMessageAck | sessionCompleteAck =>
    simp [answerCompletion]

/-- The server knows the proofs of a session by their lengths. -/
theorem progress_session {assetId : Bytes32} {amount : UInt64} {messages : List AssetPeerMessage}
    {progress : SessionProgress}
    (hmessages : sampleAssetPaymentSessionMessages assetId amount = .ok messages)
    (hfold : messages.foldlM takeMessage {} = .ok progress) :
    progress.inputProofReassembledLen = (inputProof assetId amount).length ∧
      progress.outputProofReassembledLen = (outputProof assetId amount).length ∧
      progress.orderedMessageKinds = messages.map messageKind := by
  obtain ⟨btcMsat, -, rfl⟩ := sampleMessages_eq_ok.mp hmessages
  obtain ⟨progress', hfold', h⟩ := takeMessages_session assetId amount btcMsat
  rw [hfold, Except.ok.injEq] at hfold'
  exact hfold' ▸ h

/-- The answer to the completion of a session for an asset and an amount. -/
def sessionAck (assetId : Bytes32) (amount : UInt64) (id : Bytes32) (count : ℕ) :
    LivePeerWireMessage :=
  .sessionCompleteAck true id count (inputProof assetId amount).length
    (outputProof assetId amount).length

theorem completionAck_eq {assetId : Bytes32} {amount : UInt64} (id : Bytes32) (count : ℕ)
    {messages : List AssetPeerMessage} {progress : SessionProgress}
    (hmessages : sampleAssetPaymentSessionMessages assetId amount = .ok messages)
    (hfold : messages.foldlM takeMessage {} = .ok progress) :
    completionAck id count progress = sessionAck assetId amount id count := by
  obtain ⟨hinput, houtput, -⟩ := progress_session hmessages hfold
  have hinputPos := List.length_pos_of_ne_nil (inputProof_ne_nil assetId amount)
  have houtputPos := List.length_pos_of_ne_nil (outputProof_ne_nil assetId amount)
  rw [completionAck, hinput, houtput, sessionAck, decide_eq_true hinputPos,
    decide_eq_true houtputPos, Bool.true_and]

theorem counts_sessionAck {assetId : Bytes32} {amount : UInt64} (id : Bytes32)
    {messages : List AssetPeerMessage}
    (hmessages : sampleAssetPaymentSessionMessages assetId amount = .ok messages) :
    Counts (sessionAck assetId amount id messages.length) := by
  obtain ⟨btcMsat, -, rfl⟩ := sampleMessages_eq_ok.mp hmessages
  have hinput := inputProof_length assetId amount
  have houtput := outputProof_length assetId amount
  exact ⟨sessionMessages_count .., by omega, by omega⟩

/-- What the server reports of a session. -/
def serverReport (assetId : Bytes32) (amount : UInt64) (theirs : AssetChannelFeatureSet)
    (messages : List AssetPeerMessage) : LiveAssetPaymentSessionServerReport :=
  ⟨theirs.featureBits, true, messages.map messageKind, (inputProof assetId amount).length,
    (outputProof assetId amount).length⟩

/-- The server after the messages. -/
def complete (fromSlice : FromSlice) (served : List UInt16 × Bytes32 × ℕ × SessionProgress) :
    Peer LiveAssetPaymentSessionServerReport := do
  readFrame fromSlice >>= answerCompletion served.2.1 served.2.2.1 served.2.2.2
  pure ⟨served.1, true, served.2.2.2.orderedMessageKinds, served.2.2.2.inputProofReassembledLen,
    served.2.2.2.outputProofReassembledLen⟩

theorem server_eq (assetId : Bytes32) (amount : UInt64) :
    runLiveAssetPaymentSessionServer fromSlice fork assetId amount =
      serveMessages fromSlice fork assetId amount >>= complete fromSlice := rfl

theorem finishes_complete {remoteFeatureBits : List UInt16} {id : Bytes32} {count : ℕ}
    {progress : SessionProgress} {ins outs : List Bytes}
    {report : LiveAssetPaymentSessionServerReport} :
    Finishes (complete fromSlice (remoteFeatureBits, id, count, progress)) ins outs report ↔
      ∃ raw, ins = [raw] ∧ IsFrame fromSlice raw (.sessionComplete id count) ∧
        (wireBytes (completionAck id count progress)).length ≤ maxFrameLen ∧
        outs = [wireBytes (completionAck id count progress)] ∧
        report = ⟨remoteFeatureBits, true, progress.orderedMessageKinds,
          progress.inputProofReassembledLen, progress.outputProofReassembledLen⟩ := by
  rw [complete, bind_assoc, finishes_readFrame]
  simp only [finishes_bind, finishes_answerCompletion, finishes_pure]
  constructor
  · rintro ⟨raw, _, _, rfl, hframe, _, _, _, _, _, rfl, rfl, ⟨rfl, hfits, rfl, rfl⟩, rfl, rfl, rfl⟩
    exact ⟨raw, rfl, hframe, hfits, rfl, rfl⟩
  · rintro ⟨raw, rfl, hframe, hfits, rfl, rfl⟩
    exact ⟨raw, _, [], rfl, hframe, (), [], [], [_], [], rfl, rfl, ⟨rfl, hfits, rfl, rfl⟩, rfl, rfl,
      rfl⟩

/-- The server completes a session exactly on a greeting, its messages one by one, and their
completion, and reports it. -/
theorem finishes_server {assetId : Bytes32} {amount : UInt64} {ins outs : List Bytes}
    {report : LiveAssetPaymentSessionServerReport} :
    Finishes (runLiveAssetPaymentSessionServer fromSlice fork assetId amount) ins outs report ↔
      ∃ insServed outsServed peerName featureBits id sent raw,
        Served fromSlice fork assetId amount insServed outsServed peerName featureBits id sent ∧
        ins = insServed ++ [raw] ∧ IsFrame fromSlice raw (.sessionComplete id sent.length) ∧
        outs = outsServed ++ [wireBytes (sessionAck assetId amount id sent.length)] ∧
        report = serverReport assetId amount (featureSetFromBits fork featureBits)
          (sent.map (·.1)) := by
  rw [server_eq, finishes_bind]
  constructor
  · rintro ⟨⟨bits, id, count, progress⟩, ins₁, _, outs₁, _, rfl, rfl, hserve, hcomplete⟩
    obtain ⟨peerName, featureBits, sent, hserved, rfl, rfl, hfold⟩ :=
      finishes_serveMessages.mp hserve
    obtain ⟨raw, rfl, hframe, -, rfl, rfl⟩ := finishes_complete.mp hcomplete
    obtain ⟨hinput, houtput, hkinds⟩ := progress_session hserved.messages hfold
    refine ⟨ins₁, outs₁, peerName, featureBits, id, sent, raw, hserved, rfl, hframe, ?_, ?_⟩
    · rw [completionAck_eq _ _ hserved.messages hfold]
    · rw [hinput, houtput, hkinds, serverReport]
  · rintro ⟨ins₁, outs₁, peerName, featureBits, id, sent, raw, hserved, rfl, hframe, rfl, rfl⟩
    obtain ⟨btcMsat, -, hsession⟩ := sampleMessages_eq_ok.mp hserved.messages
    obtain ⟨progress, hfold, hinput, houtput, hkinds⟩ := takeMessages_session assetId amount btcMsat
    rw [← hsession] at hfold hkinds
    have hcounts := counts_sessionAck id hserved.messages
    rw [List.length_map] at hcounts
    refine ⟨(_, id, sent.length, progress), ins₁, [raw], outs₁, _, rfl, rfl,
      finishes_serveMessages.mpr ⟨peerName, featureBits, sent, hserved, rfl, rfl, hfold⟩,
      finishes_complete.mpr ⟨raw, rfl, hframe, ?_, ?_, ?_⟩⟩
    · rw [completionAck_eq _ _ hserved.messages hfold]
      exact fits_sessionCompleteAck _ _ hcounts
    · rw [completionAck_eq _ _ hserved.messages hfold]
    · rw [hinput, houtput, hkinds, serverReport]

/-- A message that the client has sent, and the kind that the server says it is of. -/
abbrev Acked := Sent × String

def messageAck (acked : Acked) : LivePeerWireMessage :=
  .customMessageAck (messageType acked.1.1) acked.2 (sha256 acked.1.2)

def messageReport (acked : Acked) (sequence : ℕ) : LivePeerMessageReport :=
  ⟨sequence, messageType acked.1.1, acked.2, acked.1.2.length, sha256 acked.1.2, true⟩

def messageReports (acked : List Acked) (sequence : ℕ) : List LivePeerMessageReport :=
  (acked.zipIdx sequence).map fun a => messageReport a.1 a.2

/-- Messages in their own encodings. -/
def Encodes (sent : List Sent) : Prop := ∀ s ∈ sent, encode s.1 = .ok s.2

theorem finishes_takeMessageAck {s : Sent} {sequence : ℕ} {m : LivePeerWireMessage}
    {ins outs : List Bytes} {report : LivePeerMessageReport} :
    Finishes (takeMessageAck sequence (messageType s.1) s.2 m) ins outs report ↔
      ∃ kind, m = messageAck (s, kind) ∧ report = messageReport (s, kind) sequence ∧
        ins = [] ∧ outs = [] := by
  cases m with
  | customMessageAck type kind digest =>
    simp only [takeMessageAck, finishes_done_bind, rejectIf_eq_ok, not_not, exists_const,
      finishes_pure, messageAck, messageReport, LivePeerWireMessage.customMessageAck.injEq]
    constructor
    · rintro ⟨⟨rfl, rfl⟩, rfl, h⟩
      exact ⟨kind, ⟨rfl, rfl, rfl⟩, rfl, h⟩
    · rintro ⟨_, ⟨rfl, rfl, rfl⟩, rfl, h⟩
      exact ⟨⟨rfl, rfl⟩, rfl, h⟩
  | hello | helloAck | customMessage | sessionComplete | sessionCompleteAck =>
    simp [takeMessageAck, messageAck]

/-- The client sends its messages one by one, each acknowledged before the next. -/
theorem finishes_sendMessages {messages : List AssetPeerMessage} (hshort : ∀ m ∈ messages, Short m)
    {sequence : ℕ} {reports reports' : List LivePeerMessageReport} {ins outs : List Bytes} :
    Finishes (sendMessages fromSlice messages sequence reports) ins outs reports' ↔
      ∃ acked : List Acked, acked.map (·.1.1) = messages ∧ Encodes (acked.map (·.1)) ∧
        List.Forall₂ (IsFrame fromSlice) ins (acked.map messageAck) ∧
        outs = acked.map (wireBytes ∘ customMessage ∘ Prod.fst) ∧
        reports' = reports ++ messageReports acked sequence := by
  induction messages generalizing sequence reports ins outs with
  | nil =>
    simp only [sendMessages, finishes_pure, List.map_eq_nil_iff]
    constructor
    · rintro ⟨rfl, rfl, rfl⟩
      exact ⟨[], rfl, by simp [Encodes], .nil, rfl, by simp [messageReports]⟩
    · rintro ⟨_, rfl, -, hins, rfl, rfl⟩
      cases hins
      exact ⟨by simp [messageReports], rfl, rfl⟩
  | cons m messages ih =>
    obtain ⟨hm, hmessages⟩ := List.forall_mem_cons.mp hshort
    obtain ⟨payload, hencode, -, hlength⟩ := encode_short hm
    have hfits : (wireBytes (.customMessage (messageType m) payload)).length ≤ maxFrameLen :=
      fits_customMessage _ hlength
    have hcons (acked : List Acked) (kind : String) (sequence : ℕ) :
        messageReports (((m, payload), kind) :: acked) sequence =
          messageReport ((m, payload), kind) sequence :: messageReports acked (sequence + 1) := by
      rw [messageReports, List.zipIdx_cons, List.map_cons, messageReports]
    rw [sendMessages, hencode, Except.mapError, Program.done_ok_bind, finishes_writeFrame]
    simp only [bind_assoc, finishes_readFrame]
    simp only [finishes_bind, finishes_takeMessageAck (s := (m, payload)), ih hmessages]
    constructor
    · rintro ⟨-, _, rfl, raw, _, _, rfl, hframe, _, _, _, _, _, rfl, rfl,
        ⟨kind, rfl, rfl, rfl, rfl⟩, acked, rfl, hencodes, hins, rfl, rfl⟩
      refine ⟨((m, payload), kind) :: acked, rfl, List.forall_mem_cons.mpr ⟨hencode, hencodes⟩,
        .cons hframe hins, rfl, ?_⟩
      rw [hcons, List.append_assoc, List.singleton_append]
    · rintro ⟨acked, hmap, hencodes, hins, rfl, rfl⟩
      rcases acked with - | ⟨⟨⟨m', payload'⟩, kind⟩, acked⟩
      · cases hmap
      · obtain ⟨rfl, rfl⟩ := List.cons.inj hmap
        obtain ⟨hencode', hrest⟩ := List.forall_mem_cons.mp hencodes
        obtain rfl : payload = payload' := Except.ok.inj (hencode.symm.trans hencode')
        cases hins with
        | cons hframe hins =>
          refine ⟨hfits, _, rfl, _, _, _, rfl, hframe, _, [], _, [], _, rfl, rfl,
            ⟨kind, rfl, rfl, rfl, rfl⟩, acked, rfl, hrest, hins, rfl, ?_⟩
          rw [hcons, List.append_assoc, List.singleton_append]

theorem finishes_takeHelloAck {m : LivePeerWireMessage} {ins outs : List Bytes}
    {r : List UInt16 × List UInt16 × NegotiatedChannelType} :
    Finishes (takeHelloAck m) ins outs r ↔
      m = .helloAck true r.1 r.2.1 r.2.2 ∧ ins = [] ∧ outs = [] := by
  cases m with
  | helloAck accepted ours theirs channelType =>
    simp only [takeHelloAck, finishes_done_bind, rejectIf_eq_ok, not_not, exists_const,
      finishes_pure, LivePeerWireMessage.helloAck.injEq]
    constructor
    · rintro ⟨rfl, rfl, h⟩
      exact ⟨⟨rfl, rfl, rfl, rfl⟩, h⟩
    · rintro ⟨⟨rfl, rfl, rfl, rfl⟩, h⟩
      exact ⟨rfl, rfl, h⟩
  | hello | customMessage | customMessageAck | sessionComplete | sessionCompleteAck =>
    simp [takeHelloAck]

theorem finishes_takeCompletionAck {id : Bytes32} {count : ℕ} {m : LivePeerWireMessage}
    {ins outs : List Bytes} {r : ℕ × ℕ} : Finishes (takeCompletionAck id count m) ins outs r ↔
      m = .sessionCompleteAck true id count r.1 r.2 ∧ ins = [] ∧ outs = [] := by
  cases m with
  | sessionCompleteAck accepted paymentId messageCount inputLen outputLen =>
    simp only [takeCompletionAck, finishes_done_bind, rejectIf_eq_ok, not_not, exists_const,
      finishes_pure, LivePeerWireMessage.sessionCompleteAck.injEq]
    constructor
    · rintro ⟨⟨rfl, rfl, rfl⟩, rfl, h⟩
      exact ⟨⟨rfl, rfl, rfl, rfl, rfl⟩, h⟩
    · rintro ⟨⟨rfl, rfl, rfl, rfl, rfl⟩, h⟩
      exact ⟨⟨rfl, rfl, rfl⟩, rfl, h⟩
  | hello | helloAck | customMessage | customMessageAck | sessionComplete =>
    simp [takeCompletionAck]

/-- The client after its messages have been priced. -/
def sendSession (fromSlice : FromSlice) (messages : List AssetPeerMessage) (id : Bytes32)
    (greeted : List UInt16 × List UInt16 × NegotiatedChannelType) : Peer ClientSession := do
  let messageReports ← sendMessages fromSlice messages 0 []
  writeFrame (.sessionComplete id messages.length)
  let (inputLen, outputLen) ← readFrame fromSlice >>= takeCompletionAck id messages.length
  pure ⟨greeted.1, greeted.2.1, greeted.2.2, messageReports, inputLen, outputLen, id⟩

theorem finishes_sendSession {messages : List AssetPeerMessage} (hshort : ∀ m ∈ messages, Short m)
    (hcount : messages.length < 2 ^ 64) {id : Bytes32}
    {greeted : List UInt16 × List UInt16 × NegotiatedChannelType} {ins outs : List Bytes}
    {session : ClientSession} :
    Finishes (sendSession fromSlice messages id greeted) ins outs session ↔
      ∃ (acked : List Acked) (inputLen outputLen : ℕ), acked.map (·.1.1) = messages ∧
        Encodes (acked.map (·.1)) ∧
        List.Forall₂ (IsFrame fromSlice) ins (acked.map messageAck ++
          [.sessionCompleteAck true id acked.length inputLen outputLen]) ∧
        outs = (acked.map (customMessage ∘ Prod.fst) ++
          [LivePeerWireMessage.sessionComplete id acked.length]).map wireBytes ∧
        session = ⟨greeted.1, greeted.2.1, greeted.2.2, messageReports acked 0, inputLen, outputLen,
          id⟩ := by
  rw [sendSession, finishes_bind]
  simp only [finishes_writeFrame, bind_assoc, finishes_readFrame]
  simp only [finishes_bind, finishes_takeCompletionAck, finishes_pure,
    finishes_sendMessages hshort, List.nil_append]
  constructor
  · rintro ⟨_, ins₁, _, outs₁, _, rfl, rfl, ⟨acked, rfl, hencodes, hins, rfl, rfl⟩, -, _, rfl, raw,
      _, _, rfl, hframe, ⟨inputLen, outputLen⟩, _, _, _, _, rfl, rfl, ⟨rfl, rfl, rfl⟩, rfl, rfl, rfl⟩
    rw [List.length_map] at hframe
    exact ⟨acked, inputLen, outputLen, rfl, hencodes, frames_concat.mpr ⟨_, raw, rfl, hins, hframe⟩,
      by simp, rfl⟩
  · rintro ⟨acked, inputLen, outputLen, rfl, hencodes, hins, rfl, rfl⟩
    obtain ⟨ins₁, raw, rfl, hins, hframe⟩ := frames_concat.mp hins
    refine ⟨_, ins₁, _, _, _, rfl, ?_, ⟨acked, rfl, hencodes, hins, rfl, rfl⟩,
      fits_sessionComplete id hcount, [], rfl, raw, _, [], rfl, ?_, (inputLen, outputLen), [], [],
      [], [], rfl, rfl, ⟨rfl, rfl, rfl⟩, rfl, rfl, rfl⟩
    · simp
    · rwa [List.length_map]

/-- What the client sends over a session. -/
def clientMessages (fork : NegotiationFork) (assetId id : Bytes32) (sent : List Sent) :
    List LivePeerWireMessage :=
  .hello "tap-ldk-payment-client" (AssetChannelFeatureSet.advertiseOptional fork).featureBits
      fork.supportedProtocolVersion assetId ::
    (sent.map customMessage ++ [.sessionComplete id sent.length])

/-- A finished exchange of the client. -/
structure Exchanged (fromSlice : FromSlice) (fork : NegotiationFork) (assetId : Bytes32)
    (amount : UInt64) (ins outs : List Bytes) (acked : List Acked) (session : ClientSession) :
    Prop where
  assetId_ne : assetId ≠ FixedBytes.zero 32
  amount_ne : amount ≠ 0
  messages : sampleAssetPaymentSessionMessages assetId amount = .ok (acked.map (·.1.1))
  paymentId : sessionPaymentId assetId amount (acked.map (·.1.1)) = .ok session.sessionPaymentId
  encodes : Encodes (acked.map (·.1))
  received : List.Forall₂ (IsFrame fromSlice) ins
    (.helloAck true session.localFeatureBits session.remoteFeatureBits
        session.negotiatedChannelType :: (acked.map messageAck ++
      [.sessionCompleteAck true session.sessionPaymentId acked.length
        session.inputProofReassembledLen session.outputProofReassembledLen]))
  sent : outs = (clientMessages fork assetId session.sessionPaymentId (acked.map (·.1))).map
    wireBytes
  reports : session.messageReports = messageReports acked 0

/-- The client completes a session exactly on the acknowledgements of its greeting, of its
messages one by one, and of their completion. -/
theorem finishes_client {assetId : Bytes32} {amount : UInt64} {ins outs : List Bytes}
    {session : ClientSession} :
    Finishes (runLiveAssetPaymentSessionClient fromSlice fork assetId amount) ins outs session ↔
      ∃ acked, Exchanged fromSlice fork assetId amount ins outs acked session := by
  have hbody (greeted : List UInt16 × List UInt16 × NegotiatedChannelType)
      (messages : List AssetPeerMessage) (id : Bytes32) : (do
        let messageReports ← sendMessages fromSlice messages 0 []
        writeFrame (.sessionComplete id messages.length)
        let lens ← readFrame fromSlice >>= takeCompletionAck id messages.length
        pure (⟨greeted.1, greeted.2.1, greeted.2.2, messageReports, lens.1, lens.2, id⟩ :
          ClientSession)) = sendSession fromSlice messages id greeted := rfl
  rw [runLiveAssetPaymentSessionClient]
  simp only [hbody, finishes_done_bind, rejectIf_eq_ok, exists_const, finishes_writeFrame]
  simp only [bind_assoc, finishes_readFrame]
  simp only [finishes_bind (p := takeHelloAck _), finishes_takeHelloAck, finishes_done_bind]
  constructor
  · rintro ⟨hasset, hamount, -, _, rfl, raw, _, _, rfl, hframe, greeted, _, _, _, _, rfl, rfl,
      ⟨rfl, rfl, rfl⟩, messages, hmessages, id, hid, hsession⟩
    obtain ⟨btcMsat, -, hpriced⟩ := sampleMessages_eq_ok.mp hmessages
    have hshort : ∀ m ∈ messages, Short m := hpriced ▸ sessionMessages_short
    have hcount : messages.length < 2 ^ 64 := hpriced ▸ sessionMessages_count ..
    obtain ⟨acked, inputLen, outputLen, rfl, hencodes, hins, rfl, rfl⟩ :=
      (finishes_sendSession hshort hcount).mp hsession
    refine ⟨acked, hasset, hamount, hmessages, hid, hencodes, .cons hframe hins, ?_, rfl⟩
    simp [clientMessages]
  · rintro ⟨acked, hasset, hamount, hmessages, hid, hencodes, hins, rfl, hreports⟩
    obtain ⟨btcMsat, -, hpriced⟩ := sampleMessages_eq_ok.mp hmessages
    have hshort : ∀ m ∈ acked.map (·.1.1), Short m := hpriced ▸ sessionMessages_short
    have hcount : (acked.map (·.1.1)).length < 2 ^ 64 := hpriced ▸ sessionMessages_count ..
    cases hins with
    | cons hframe hins =>
      refine ⟨hasset, hamount, fits_hello .., _, rfl, _, _, _, rfl, hframe,
        (session.localFeatureBits, session.remoteFeatureBits, session.negotiatedChannelType), [], _,
        [], _, rfl, rfl, ⟨rfl, rfl, rfl⟩, _, hmessages, _, hid,
        (finishes_sendSession hshort hcount).mpr ⟨acked, _, _, rfl, hencodes, hins, ?_, ?_⟩⟩
      · simp
      · cases session
        congr

end TapLdk.LivePeerSession
