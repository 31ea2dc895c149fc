import Mathlib
import TapLdk.LivePeerAgreement

/-! Completion of the live payment session: without faults every run of the two peers ends, and it
ends with both reports exactly when the session can be priced and the library agrees to the
channel. -/
namespace TapLdk.LivePeerCompletion
open TapLdk.LibraryExcept TapLdk.LibraryBytes TapLdk.LibrarySha256 TapLdk.LibrarySessions
open TapLdk.Mssmt TapLdk.Asset TapLdk.RfqInvoice TapLdk.AssetPayment
open TapLdk.AssetChannelNegotiation TapLdk.PeerMessage TapLdk.LivePeer TapLdk.LivePeerReassembly
open TapLdk.LivePeerWire TapLdk.LivePeerSession TapLdk.LivePeerAgreement

variable {fromSlice : FromSlice} {fork : NegotiationFork} {α β : Type}

/-- What a frame is read as. -/
def parsed (fromSlice : FromSlice) (raw : Bytes) : Except LivePeerError LivePeerWireMessage := do
  rejectIf (maxFrameLen < raw.length) (.frameTooLarge raw.length)
  okOr (fromSlice raw) .json

theorem readFrame_bind (f : LivePeerWireMessage → Peer α) :
    readFrame fromSlice >>= f = .receive fun raw => .done (parsed fromSlice raw) >>= f := rfl

section

variable {m : LivePeerWireMessage} (hlossless : Lossless fromSlice) (hcounts : Counts m)
  (hfits : (wireBytes m).length ≤ maxFrameLen)

include hlossless hcounts hfits

theorem parsed_wire : parsed fromSlice (wireBytes m) = .ok m := by
  rw [parsed, rejectIf, if_neg (Nat.not_lt.mpr hfits), hlossless m hcounts]
  rfl

theorem runs_toServer (f : Unit → Peer α) (g : LivePeerWireMessage → Peer β) :
    Net.Runs ⟨writeFrame m >>= f, readFrame fromSlice >>= g, [], []⟩ ⟨f (), g m, [], []⟩ := by
  rw [writeFrame_bind hfits, readFrame_bind]
  have hruns := Net.runs_toRight (m := wireBytes m) (p := f ())
    (q := fun raw => .done (parsed fromSlice raw) >>= g)
  rwa [parsed_wire hlossless hcounts hfits, Program.done_ok_bind] at hruns

theorem runs_toClient (f : LivePeerWireMessage → Peer α) (g : Unit → Peer β) :
    Net.Runs ⟨readFrame fromSlice >>= f, writeFrame m >>= g, [], []⟩ ⟨f m, g (), [], []⟩ := by
  rw [writeFrame_bind hfits, readFrame_bind]
  have hruns := Net.runs_toLeft (m := wireBytes m) (q := g ())
    (p := fun raw => .done (parsed fromSlice raw) >>= f)
  rwa [parsed_wire hlossless hcounts hfits, Program.done_ok_bind] at hruns

end

theorem answerMessage_eq {s : Sent} {sequence : ℕ} {progress progress' : SessionProgress}
    (hdecode : decode s.2 = .ok s.1) (htake : takeMessage progress s.1 = .ok progress') :
    answerMessage s.1 sequence progress (customMessage s) =
      writeFrame (customMessageAck s) >>= fun _ => pure progress' := by
  obtain ⟨p, hp, htaken⟩ := bind_eq_ok.mp htake
  rw [customMessage, answerMessage, Program.done_bind_of_ok (mapError_eq_ok.mpr hdecode),
    Program.done_bind_of_ok (a := ()) (rejectIf_eq_ok.mpr fun h => h rfl),
    Program.done_bind_of_ok (a := ()) (rejectIf_eq_ok.mpr fun h => h rfl),
    Program.done_bind_of_ok hp, Except.ok.inj htaken, customMessageAck]

theorem takeMessageAck_eq (s : Sent) (sequence : ℕ) :
    takeMessageAck sequence (messageType s.1) s.2 (customMessageAck s) =
      pure (messageReport (s, messageKind s.1) sequence) := by
  rw [customMessageAck, takeMessageAck,
    Program.done_bind_of_ok (a := ()) (rejectIf_eq_ok.mpr fun h => h ⟨rfl, rfl⟩), messageReport]

/-- The messages with the kinds that the server acknowledges. -/
def answered (sent : List Sent) : List Acked := sent.map fun s => (s, messageKind s.1)

theorem messageReports_cons (s : Sent) (sent : List Sent) (sequence : ℕ) :
    messageReports (answered (s :: sent)) sequence =
      messageReport (s, messageKind s.1) sequence ::
        messageReports (answered sent) (sequence + 1) := by
  rw [answered, List.map_cons, messageReports, List.zipIdx_cons, List.map_cons, messageReports,
    answered]

/-- The two loops in step: each message is sent, answered and acknowledged. -/
theorem runs_messages (hlossless : Lossless fromSlice) {sent : List Sent} (hencodes : Encodes sent)
    (hshort : ∀ s ∈ sent, Short s.1) {sequence : ℕ} {reports : List LivePeerMessageReport}
    {progress progress' : SessionProgress}
    (hfold : (sent.map (·.1)).foldlM takeMessage progress = .ok progress')
    (f : List LivePeerMessageReport → Peer α) (g : SessionProgress → Peer β) :
    Net.Runs ⟨sendMessages fromSlice (sent.map (·.1)) sequence reports >>= f,
        answerMessages fromSlice (sent.map (·.1)) sequence progress >>= g, [], []⟩
      ⟨f (reports ++ messageReports (answered sent) sequence), g progress', [], []⟩ := by
  induction sent generalizing sequence reports progress with
  | nil =>
    obtain rfl := Except.ok.inj hfold
    simpa [sendMessages, answerMessages, answered, messageReports] using .refl
  | cons s sent ih =>
    obtain ⟨hs, hsents⟩ := List.forall_mem_cons.mp hencodes
    obtain ⟨hfits, hshorts⟩ := List.forall_mem_cons.mp hshort
    obtain ⟨payload, hencode, hdecode, hlength⟩ := encode_short hfits
    obtain rfl := Except.ok.inj (hs.symm.trans hencode)
    rw [List.map_cons, List.foldlM_cons] at hfold
    obtain ⟨progress₁, htake, hfold⟩ := bind_eq_ok.mp hfold
    rw [List.map_cons, sendMessages, answerMessages,
      Program.done_bind_of_ok (mapError_eq_ok.mpr hs)]
    simp only [bind_assoc]
    refine (runs_toServer hlossless (m := customMessage s) trivial (fits_customMessage _ hlength)
      _ _).trans ?_
    rw [answerMessage_eq hdecode htake, bind_assoc]
    refine (runs_toClient hlossless (m := customMessageAck s) trivial (fits_customMessageAck ..)
      _ _).trans ?_
    rw [takeMessageAck_eq, pure_bind, pure_bind]
    rw [messageReports_cons, List.append_cons _ _ (messageReports _ _)]
    exact ih hsents hshorts hfold

theorem answerHello_eq {assetId : Bytes32} {peerName : String} {featureBits : List UInt16}
    (h : Welcome fork assetId peerName (featureSetFromBits fork featureBits)) :
    answerHello fork assetId (.hello peerName featureBits fork.supportedProtocolVersion assetId) =
      writeFrame (helloAck fork assetId (featureSetFromBits fork featureBits)) >>= fun _ =>
        pure ((featureSetFromBits fork featureBits).featureBits,
          .singleAsset assetId fork.supportedProtocolVersion) := by
  obtain ⟨hname, hzero, hsupport, hagree⟩ := h
  have hnegotiate := negotiateChannel_singleAsset.mpr ⟨rfl, featureSetFromBits_version featureBits,
    hzero, rfl, hsupport, hagree, rfl⟩
  rw [answerHello, Program.done_bind_of_ok (a := ()) (rejectIf_eq_ok.mpr hname),
    Program.done_bind_of_ok (a := ()) (rejectIf_eq_ok.mpr fun h => h rfl),
    Program.done_bind_of_ok (a := ()) (rejectIf_eq_ok.mpr fun h => h rfl),
    Program.done_bind_of_ok (mapError_eq_ok.mpr hnegotiate), helloAck]

theorem fits_answer (assetId : Bytes32) (theirs : AssetChannelFeatureSet) :
    (wireBytes (helloAck fork assetId theirs)).length ≤ maxFrameLen := by
  rw [helloAck]
  exact fits_helloAck ..

theorem takeHelloAck_eq (assetId : Bytes32) (theirs : AssetChannelFeatureSet) :
    takeHelloAck (helloAck fork assetId theirs) = pure
      ((AssetChannelFeatureSet.require fork).featureBits, theirs.featureBits,
        .singleAsset assetId fork.supportedProtocolVersion) := by
  rw [helloAck, takeHelloAck, Program.done_bind_of_ok (a := ()) (rejectIf_eq_ok.mpr fun h => h rfl)]

theorem answerCompletion_eq (id : Bytes32) (count : ℕ) (progress : SessionProgress) :
    answerCompletion id count progress (.sessionComplete id count) =
      writeFrame (completionAck id count progress) := by
  rw [answerCompletion, Program.done_bind_of_ok (a := ()) (rejectIf_eq_ok.mpr fun h => h rfl),
    Program.done_bind_of_ok (a := ()) (rejectIf_eq_ok.mpr fun h => h rfl), completionAck]

theorem takeCompletionAck_eq (assetId id : Bytes32) (amount : UInt64) (count : ℕ) :
    takeCompletionAck id count (sessionAck assetId amount id count) =
      pure ((inputProof assetId amount).length, (outputProof assetId amount).length) := by
  rw [sessionAck, takeCompletionAck,
    Program.done_bind_of_ok (a := ()) (rejectIf_eq_ok.mpr fun h => h ⟨rfl, rfl, rfl⟩)]

/-- Messages that fit have their encodings. -/
theorem exists_encodes {messages : List AssetPeerMessage} (h : ∀ m ∈ messages, Short m) :
    ∃ sent : List Sent, sent.map (·.1) = messages ∧ Encodes sent := by
  induction messages with
  | nil => exact ⟨[], rfl, by simp [Encodes]⟩
  | cons m messages ih =>
    obtain ⟨hm, hmessages⟩ := List.forall_mem_cons.mp h
    obtain ⟨payload, hencode, -⟩ := encode_short hm
    obtain ⟨sent, rfl, hsent⟩ := ih hmessages
    exact ⟨(m, payload) :: sent, rfl, List.forall_mem_cons.mpr ⟨hencode, hsent⟩⟩

theorem exists_paymentId (assetId : Bytes32) (amount : UInt64) {sent : List Sent}
    (h : Encodes sent) : ∃ id, sessionPaymentId assetId amount (sent.map (·.1)) = .ok id := by
  have hbytes : (sent.map (·.1)).mapM sessionMessageBytes =
      .ok (sent.map fun s => u64Bytes (messageType s.1) ++ s.2) := by
    rw [mapM_eq_ok, List.forall₂_map_left_iff, List.forall₂_map_right_iff, List.forall₂_same]
    intro s hs
    rw [sessionMessageBytes, mapError_eq_ok.mpr (h s hs), ok_bind, pure_eq_ok]
  rw [sessionPaymentId, hbytes, ok_bind]
  exact ⟨_, rfl⟩

/-- Both peers can run a session for an asset and an amount. -/
def CanComplete (fork : NegotiationFork) (assetId : Bytes32) (amount : UInt64) : Prop :=
  assetId ≠ FixedBytes.zero 32 ∧ amount ≠ 0 ∧ amount.toNat * 10 < 2 ^ 64 ∧
    ForkAgrees fork assetId (.require fork) (.advertiseOptional fork)

theorem welcome_client {assetId : Bytes32} {amount : UInt64} (h : CanComplete fork assetId amount) :
    Welcome fork assetId "tap-ldk-payment-client"
      (featureSetFromBits fork (AssetChannelFeatureSet.advertiseOptional fork).featureBits) := by
  rw [advertised_featureSet]
  exact ⟨by decide, h.1, rfl, h.2.2.2⟩

/-- A net from which both programs can finish, with nothing left in the queues. -/
def BothFinish (s : Net Bytes LivePeerError α β) : Prop :=
  ∃ a b, Net.Runs s ⟨.done (.ok a), .done (.ok b), [], []⟩

theorem BothFinish.head {s t : Net Bytes LivePeerError α β} (h : Net.Runs s t)
    (ht : BothFinish t) : BothFinish s := by
  obtain ⟨a, b, hruns⟩ := ht
  exact ⟨a, b, h.trans hruns⟩

/-- In one order of the steps both peers complete. -/
theorem runs_session (hlossless : Lossless fromSlice) {assetId : Bytes32} {amount : UInt64}
    (h : CanComplete fork assetId amount) :
    BothFinish (sessionNet fromSlice fork assetId amount assetId amount) := by
  have hwelcome := welcome_client h
  obtain ⟨hasset, hamount, hprice, -⟩ := h
  have hpriced : checkedMul amount 10 = some (amount * 10) := if_pos hprice
  obtain ⟨sent, hsent, hencodes⟩ := exists_encodes
    (sessionMessages_short : ∀ m ∈ sessionMessages assetId amount (amount * 10), Short m)
  have hmessages : sampleAssetPaymentSessionMessages assetId amount = .ok (sent.map (·.1)) :=
    sampleMessages_eq_ok.mpr ⟨_, hpriced, hsent⟩
  have hshort : ∀ s ∈ sent, Short s.1 := fun s hs =>
    sessionMessages_short s.1 (hsent ▸ List.mem_map_of_mem hs)
  have hcount : (sent.map (·.1)).length < 2 ^ 64 := hsent ▸ sessionMessages_count ..
  obtain ⟨id, hid⟩ := exists_paymentId assetId amount hencodes
  obtain ⟨progress, hfold, -⟩ := takeMessages_session assetId amount (amount * 10)
  rw [← hsent] at hfold
  have hack := completionAck_eq id (sent.map (·.1)).length hmessages hfold
  have hcounts := counts_sessionAck id hmessages
  rw [sessionNet, Net.start, runLiveAssetPaymentSessionClient, runLiveAssetPaymentSessionServer,
    serveMessages, Program.done_bind_of_ok (a := ()) (rejectIf_eq_ok.mpr hasset),
    Program.done_bind_of_ok (a := ()) (rejectIf_eq_ok.mpr hamount)]
  simp only [bind_assoc]
  refine .head (runs_toServer hlossless ?_ (fits_hello ..) _ _) ?_
  · exact trivial
  rw [answerHello_eq hwelcome, bind_assoc]
  refine .head (runs_toClient hlossless ?_ (fits_answer ..) _ _) ?_
  · exact trivial
  rw [takeHelloAck_eq, pure_bind, pure_bind, Program.done_bind_of_ok hmessages,
    Program.done_bind_of_ok hid,
    Program.done_bind_of_ok (mapError_eq_ok.mpr (requireAssetMessageAllowed_singleAsset ..)),
    Program.done_bind_of_ok hmessages, Program.done_bind_of_ok hid]
  refine .head (runs_messages hlossless hencodes hshort hfold _ _) ?_
  rw [pure_bind]
  refine .head (runs_toServer hlossless ?_ (fits_sessionComplete id hcount) _ _) ?_
  · exact hcount
  rw [answerCompletion_eq, hack]
  refine .head (runs_toClient hlossless hcounts (fits_sessionCompleteAck _ _ hcounts) _ _) ?_
  rw [takeCompletionAck_eq, pure_bind]
  exact ⟨_, _, .refl⟩

/-- Over every run, whatever asset and amount the two peers have, whoever moves next and whoever
gives up. When the client has completed, the server has, both hold the same, and nothing is left
on the way. When the server has completed, all that the client has sent are the messages of one
session for the same asset and amount, and the server reports these. -/
theorem session_agreement (hlossless : Lossless fromSlice) {assetId assetId' : Bytes32}
    {amount amount' : UInt64} {outs : List Bytes}
    {s : Net Bytes LivePeerError ClientSession LiveAssetPaymentSessionServerReport}
    (hruns : (sessionNet fromSlice fork assetId amount assetId' amount').RunsWriting outs s) :
    (∀ session, s.left = .done (.ok session) → ∃ report, s.right = .done (.ok report) ∧
      assetId' = assetId ∧ amount' = amount ∧ s.toRight = [] ∧ s.toLeft = [] ∧
      Agree fork assetId amount session report) ∧
    ∀ report, s.right = .done (.ok report) → assetId' = assetId ∧ amount' = amount ∧
      ∃ id sent, SentSession fork assetId amount outs report id sent :=
  ⟨fun _ hclient => client_agreement hlossless hruns hclient,
    fun _ hserver => server_agreement hlossless hruns hserver⟩

/-- A library that agrees to channels of its own version between two sides that support them. -/
def sampleFork : NegotiationFork where
  ChannelDescriptor := Bytes32
  ChannelTypeFeatures := Unit
  supportedProtocolVersion := 1
  newChannelDescriptor assetId version := do
    rejectIf (assetId = FixedBytes.zero 32) .malformedAssetId
    rejectIf (version ≠ 1) .unsupportedProtocolVersion
    pure assetId
  negotiateSingleAssetChannel ours theirs _ := do
    rejectIf (ours.simpleTaprootStaging = none) .missingLocalSimpleTaprootSupport
    rejectIf (theirs.simpleTaprootStaging = none) .missingRemoteSimpleTaprootSupport
    rejectIf (ours.taprootAssetChannel = none) .missingLocalSupport
    rejectIf (theirs.taprootAssetChannel = none) .missingRemoteSupport
  validateSingleAssetChannelOpen _ _ _ _ := pure ()

theorem sampleFork_completes : CanComplete sampleFork (repeated32 8) 125 :=
  ⟨by decide, by decide, by decide, repeated32 8, (), rfl, rfl, rfl⟩

theorem session_agreement_sample : ∃ fromSlice session report outs id sent,
    (sessionNet fromSlice sampleFork (repeated32 8) 125 (repeated32 8) 125).RunsWriting outs
      ⟨.done (.ok session), .done (.ok report), [], []⟩ ∧
    Agree sampleFork (repeated32 8) 125 session report ∧
    SentSession sampleFork (repeated32 8) 125 outs report id sent := by
  obtain ⟨fromSlice, hlossless⟩ := exists_lossless
  obtain ⟨session, report, hruns⟩ := runs_session hlossless sampleFork_completes
  obtain ⟨outs, hwriting⟩ := Net.exists_runsWriting (Net.runs_orCuts hruns)
  obtain ⟨hclient, hserver⟩ := session_agreement hlossless hwriting
  obtain ⟨report', hright, -, -, -, -, hagree⟩ := hclient session rfl
  obtain rfl := Except.ok.inj (Program.done.inj hright)
  obtain ⟨-, -, id, sent, hsent⟩ := hserver report rfl
  exact ⟨fromSlice, session, report, outs, id, sent, hwriting, hagree, hsent⟩

/-- A client that has completed had the conditions of the session. -/
theorem canComplete_of_completed (hlossless : Lossless fromSlice) {assetId : Bytes32}
    {amount : UInt64} {s : Net Bytes LivePeerError ClientSession LiveAssetPaymentSessionServerReport}
    (hruns : (sessionNet fromSlice fork assetId amount assetId amount).RunsOrCuts s)
    {session : ClientSession} (hclient : s.left = .done (.ok session)) :
    CanComplete fork assetId amount := by
  obtain ⟨outs, hwriting⟩ := Net.exists_runsWriting hruns
  obtain ⟨report, -, -, -, -, -, hagree⟩ := client_agreement hlossless hwriting hclient
  obtain ⟨insL, -, -, p, -, hp, -, hleft, -⟩ := Net.history_runs hwriting
  rw [hclient] at hleft
  obtain rfl := Net.at_ok hleft
  obtain ⟨acked, hexchanged⟩ := finishes_client.mp hp
  obtain ⟨btcMsat, hpriced, -⟩ := sampleMessages_eq_ok.mp hexchanged.messages
  have hprice : amount.toNat * 10 < 2 ^ 64 := by
    by_contra hlarge
    have hnone : checkedMul amount 10 = none := if_neg hlarge
    rw [hnone] at hpriced
    cases hpriced
  exact ⟨hexchanged.assetId_ne, hexchanged.amount_ne, hprice, hagree.forkAgrees⟩

/-- Without faults, for one asset and one amount: no run goes on for ever, and the runs end with
both reports, which agree, exactly when the two peers can complete the session. -/
theorem session_completes_iff (hlossless : Lossless fromSlice) (assetId : Bytes32)
    (amount : UInt64) : ((∀ t, (sessionNet fromSlice fork assetId amount assetId amount).Runs t →
      Net.Still t → ∃ session report, t = ⟨.done (.ok session), .done (.ok report), [], []⟩ ∧
        Agree fork assetId amount session report) ↔ CanComplete fork assetId amount) ∧
    Acc (fun u t => Net.Step t u) (sessionNet fromSlice fork assetId amount assetId amount) := by
  refine ⟨⟨fun h => ?_, fun h t ht hstill => ?_⟩, Net.step_wellFounded.apply _⟩
  · obtain ⟨t, hruns, hstill⟩ := Net.exists_still
      (sessionNet fromSlice fork assetId amount assetId amount)
    obtain ⟨session, report, rfl, -⟩ := h t hruns hstill
    exact canComplete_of_completed hlossless (Net.runs_orCuts hruns) rfl
  · obtain ⟨session, report, hfinal⟩ := runs_session hlossless h
    obtain rfl := Net.eq_of_still hfinal ht hstill
    obtain ⟨outs, hwriting⟩ := Net.exists_runsWriting (Net.runs_orCuts ht)
    obtain ⟨report', hright, -, -, -, -, hagree⟩ := client_agreement hlossless hwriting rfl
    obtain rfl := Except.ok.inj (Program.done.inj hright)
    exact ⟨session, report, rfl, hagree⟩

theorem session_completes_sample : ∃ fromSlice, Lossless fromSlice ∧
    ∀ t, (sessionNet fromSlice sampleFork (repeated32 8) 125 (repeated32 8) 125).Runs t →
      Net.Still t → ∃ session report, t = ⟨.done (.ok session), .done (.ok report), [], []⟩ := by
  obtain ⟨fromSlice, hlossless⟩ := exists_lossless
  refine ⟨fromSlice, hlossless, fun t ht hstill => ?_⟩
  obtain ⟨session, report, heq, -⟩ := (session_completes_iff hlossless (repeated32 8) 125).1.mpr
    sampleFork_completes t ht hstill
  exact ⟨session, report, heq⟩

end TapLdk.LivePeerCompletion
