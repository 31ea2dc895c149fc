import Mathlib
import TapLdk.LivePeerSession

/-! Agreement in the live payment session: over every run, whatever order the two peers move in and
wherever one of them gives up, a client that reports a session has the server on its side, and
without faults both report it. -/
namespace TapLdk.LivePeerAgreement
open TapLdk.LibraryExcept TapLdk.LibraryBytes TapLdk.LibrarySha256 TapLdk.LibrarySessions
open TapLdk.Mssmt TapLdk.Asset TapLdk.RfqInvoice TapLdk.AssetPayment
open TapLdk.AssetChannelNegotiation TapLdk.PeerMessage TapLdk.LivePeer TapLdk.LivePeerReassembly
open TapLdk.LivePeerWire TapLdk.LivePeerSession

variable {fromSlice : FromSlice} {fork : NegotiationFork}

/-- The frames of messages of some kind. -/
def FrameOf (P : LivePeerWireMessage → Prop) (raw : Bytes) : Prop :=
  ∃ m, raw = wireBytes m ∧ Counts m ∧ P m

theorem sends_readFrame {P : Bytes → Prop} : (readFrame fromSlice).Sends P :=
  .receive fun _ => .done _

theorem sends_writeFrame {P : LivePeerWireMessage → Prop} {m : LivePeerWireMessage}
    (hcounts : Counts m) (h : P m) : (writeFrame m).Sends (FrameOf P) :=
  .bind (.done _) fun _ => .send ⟨m, rfl, hcounts, h⟩ (.done _)

/-- The answers of the server before the completion. -/
def Answer : LivePeerWireMessage → Prop
  | .helloAck .. | .customMessageAck .. => True
  | _ => False

theorem sends_answerHello (assetId : Bytes32) (m : LivePeerWireMessage) :
    (answerHello fork assetId m).Sends (FrameOf Answer) := by
  cases m with
  | hello peerName featureBits version remoteAssetId =>
    rw [answerHello]
    refine .bind (.done _) fun _ => .bind (.done _) fun _ => .bind (.done _) fun _ =>
      .bind (.done _) fun outcome => .bind ?_ fun _ => .done _
    exact sends_writeFrame trivial trivial
  | helloAck | customMessage | customMessageAck | sessionComplete | sessionCompleteAck =>
    exact .done _

theorem sends_answerMessage (expected : AssetPeerMessage) (sequence : ℕ)
    (progress : SessionProgress) (m : LivePeerWireMessage) :
    (answerMessage expected sequence progress m).Sends (FrameOf Answer) := by
  cases m with
  | customMessage type payload =>
    rw [answerMessage]
    refine .bind (.done _) fun decoded => .bind (.done _) fun _ => .bind (.done _) fun _ =>
      .bind (.done _) fun _ => .bind ?_ fun _ => .done _
    exact sends_writeFrame trivial trivial
  | hello | helloAck | customMessageAck | sessionComplete | sessionCompleteAck => exact .done _

theorem sends_answerMessages (expected : List AssetPeerMessage) (sequence : ℕ)
    (progress : SessionProgress) :
    (answerMessages fromSlice expected sequence progress).Sends (FrameOf Answer) := by
  induction expected generalizing sequence progress with
  | nil => exact .done _
  | cons m expected ih =>
    rw [answerMessages]
    exact .bind (.bind sends_readFrame (sends_answerMessage m sequence progress)) fun p => ih _ p

theorem sends_serveMessages (assetId : Bytes32) (amount : UInt64) :
    (serveMessages fromSlice fork assetId amount).Sends (FrameOf Answer) := by
  rw [serveMessages]
  refine .bind (.bind sends_readFrame (sends_answerHello assetId)) fun _ => .bind (.done _) fun _ =>
    .bind (.done _) fun _ => .bind (.done _) fun _ => .bind ?_ fun _ => .done _
  exact sends_answerMessages ..

/-- A program that is done, with a value, once it has sent anything. -/
def EndsBySending {α : Type} (p : Peer α) : Prop :=
  ∀ ins outs q, Trip p ins outs q → outs ≠ [] → ∃ a, q = .done (.ok a)

section

variable {α β : Type}

theorem endsBySending_done (r : Except LivePeerError α) : EndsBySending (.done r : Peer α) := by
  intro ins outs q h houts
  exact absurd (Trip.of_done h).2.1 houts

theorem endsBySending_check {r : Except LivePeerError α} {f : α → Peer β}
    (h : ∀ a, EndsBySending (f a)) : EndsBySending (.done r >>= f) := by
  cases r with
  | error e => exact endsBySending_done _
  | ok a => exact h a

theorem endsBySending_receive {p : Bytes → Peer α} (h : ∀ m, EndsBySending (p m)) :
    EndsBySending (.receive p) := by
  intro ins outs q htrip houts
  cases htrip with
  | refl => exact absurd rfl houts
  | receive htrip => exact h _ _ _ _ htrip houts

theorem endsBySending_send (m : Bytes) (a : α) : EndsBySending (.send m (.done (.ok a))) := by
  intro ins outs q htrip houts
  cases htrip with
  | refl => exact absurd rfl houts
  | send htrip => exact ⟨a, (Trip.of_done htrip).2.2⟩

theorem endsBySending_map {p : Peer α} (h : EndsBySending p) (b : β) :
    EndsBySending (p >>= fun _ => pure b) := by
  intro ins outs q htrip houts
  rcases Trip.of_bind htrip with ⟨p', hp, rfl⟩ | ⟨a, ins₁, ins₂, outs₁, outs₂, -, -, -, hf⟩
  · obtain ⟨a, rfl⟩ := h _ _ _ hp houts
    exact ⟨b, rfl⟩
  · exact ⟨b, (Trip.of_done hf).2.2⟩

end

theorem endsBySending_answerCompletion (id : Bytes32) (count : ℕ) (progress : SessionProgress)
    (m : LivePeerWireMessage) : EndsBySending (answerCompletion id count progress m) := by
  cases m with
  | sessionComplete paymentId messageCount =>
    rw [answerCompletion]
    refine endsBySending_check fun _ => endsBySending_check fun _ => ?_
    rw [writeFrame]
    exact endsBySending_check fun _ => endsBySending_send _ _
  | hello | helloAck | customMessage | customMessageAck | sessionCompleteAck =>
    exact endsBySending_done _

/-- Once it has answered a completion, the server has completed. -/
theorem endsBySending_complete (served : List UInt16 × Bytes32 × ℕ × SessionProgress) :
    EndsBySending (complete fromSlice served) := by
  rw [complete]
  refine endsBySending_map ?_ _
  rw [readFrame, Program.receive_bind]
  refine endsBySending_receive fun raw => endsBySending_check fun m => ?_
  exact endsBySending_answerCompletion _ _ _ m

/-- What is read of a stream of messages are the first of them. -/
theorem read_prefix (hlossless : Lossless fromSlice) {ins rest : List Bytes}
    {read written : List LivePeerWireMessage} (hread : List.Forall₂ (IsFrame fromSlice) ins read)
    (hwritten : ∀ m ∈ written, Counts m) (h : written.map wireBytes = ins ++ rest) :
    read <+: written := by
  induction hread generalizing written with
  | nil => exact List.nil_prefix
  | cons hframe _ ih =>
    cases written with
    | nil => cases h
    | cons m written =>
      obtain ⟨hm, hrest⟩ := List.forall_mem_cons.mp hwritten
      rw [List.map_cons, List.cons_append, List.cons.injEq] at h
      obtain ⟨rfl, h⟩ := h
      obtain rfl := Option.some.inj (hframe.2.symm.trans (hlossless m hm))
      exact List.cons_prefix_cons.mpr ⟨rfl, ih hrest h⟩

/-- A server that has sent an acknowledgement of the completion has completed. -/
theorem server_completed (hlossless : Lossless fromSlice) {assetId id : Bytes32} {amount : UInt64}
    {ins outs : List Bytes} {q : Peer LiveAssetPaymentSessionServerReport}
    (h : Trip (runLiveAssetPaymentSessionServer fromSlice fork assetId amount) ins outs q)
    {raw : Bytes} (hraw : raw ∈ outs) {accepted : Bool} {count inputLen outputLen : ℕ}
    (hframe : fromSlice raw = some (.sessionCompleteAck accepted id count inputLen outputLen)) :
    ∃ report, q = .done (.ok report) := by
  have hbefore {ins outs : List Bytes} {p : Peer (List UInt16 × Bytes32 × ℕ × SessionProgress)}
      (hp : Trip (serveMessages fromSlice fork assetId amount) ins outs p) : raw ∉ outs := by
    intro hmem
    obtain ⟨m, rfl, hcounts, hanswer⟩ := hp.sends (sends_serveMessages assetId amount) raw hmem
    rw [hlossless m hcounts, Option.some.injEq] at hframe
    rw [hframe] at hanswer
    exact hanswer
  rw [server_eq] at h
  rcases Trip.of_bind h with ⟨p, hp, -⟩ | ⟨served, ins₁, ins₂, outs₁, outs₂, rfl, rfl, hp, hq⟩
  · exact absurd hraw (hbefore hp)
  · have hlast : raw ∈ outs₂ := (List.mem_append.mp hraw).resolve_left (hbefore hp)
    exact endsBySending_complete served _ _ _ hq (List.ne_nil_of_mem hlast)

theorem customMessage_inj {s s' : Sent} (hs : encode s.1 = .ok s.2) (hshort : Short s.1)
    (hs' : decode s'.2 = .ok s'.1) (h : customMessage s' = customMessage s) : s' = s := by
  obtain ⟨payload, hencode, hdecode, -⟩ := encode_short hshort
  obtain rfl := Except.ok.inj (hs.symm.trans hencode)
  have hpayload : s'.2 = s.2 := (LivePeerWireMessage.customMessage.inj h).2
  rw [hpayload, hdecode, Except.ok.injEq] at hs'
  exact Prod.ext hs'.symm hpayload

/-- Lists of messages that end in completions, the first of which is a part of the second, are
the same. -/
theorem sent_eq {sent sent' : List Sent} {id id' : Bytes32} {count count' : ℕ}
    (hsent : Encodes sent) (hshort : ∀ s ∈ sent, Short s.1) (hsent' : Decodes sent')
    (h : sent'.map customMessage ++ [.sessionComplete id' count'] <+:
      sent.map customMessage ++ [.sessionComplete id count]) :
    sent' = sent ∧ id' = id ∧ count' = count := by
  induction sent' generalizing sent with
  | nil =>
    cases sent with
    | nil => simpa using h
    | cons s sent => simp [customMessage] at h
  | cons s' sent' ih =>
    obtain ⟨hs', hsents'⟩ := List.forall_mem_cons.mp hsent'
    cases sent with
    | nil => simp [customMessage] at h
    | cons s sent =>
      obtain ⟨hs, hsents⟩ := List.forall_mem_cons.mp hsent
      obtain ⟨hfits, hshorts⟩ := List.forall_mem_cons.mp hshort
      obtain ⟨hhead, hrest⟩ := List.cons_prefix_cons.mp h
      obtain rfl := customMessage_inj hs hfits hs' hhead
      obtain ⟨rfl, hend⟩ := ih hsents hshorts hsents' hrest
      exact ⟨rfl, hend⟩

/-- The messages of a session tell its asset and its amount. -/
theorem amount_eq {assetId : Bytes32} {amount amount' : UInt64} {messages : List AssetPeerMessage}
    (h : sampleAssetPaymentSessionMessages assetId amount = .ok messages)
    (h' : sampleAssetPaymentSessionMessages assetId amount' = .ok messages) : amount = amount' := by
  obtain ⟨btcMsat, -, rfl⟩ := sampleMessages_eq_ok.mp h
  obtain ⟨btcMsat', -, heq⟩ := sampleMessages_eq_ok.mp h'
  have hlast := congrArg List.getLast? heq
  simp only [sessionMessages, List.getLast?_append, List.getLast?_cons_cons,
    List.getLast?_singleton, Option.some_or, Option.some.injEq,
    AssetPeerMessage.assetHtlcBlob.injEq] at hlast
  exact hlast.2.1

theorem counts_clientMessages {assetId id : Bytes32} {sent : List Sent}
    (h : sent.length < 2 ^ 64) : ∀ m ∈ clientMessages fork assetId id sent, Counts m := by
  intro m hm
  rcases List.mem_cons.mp hm with rfl | hm
  · exact trivial
  · rcases List.mem_append.mp hm with hm | hm
    · obtain ⟨s, -, rfl⟩ := List.mem_map.mp hm
      exact trivial
    · rw [List.mem_singleton.mp hm]
      exact h

/-- What the server answers over a session. -/
def serverMessages (fork : NegotiationFork) (assetId : Bytes32) (amount : UInt64)
    (theirs : AssetChannelFeatureSet) (id : Bytes32) (sent : List Sent) :
    List LivePeerWireMessage :=
  helloAck fork assetId theirs ::
    (sent.map customMessageAck ++ [sessionAck assetId amount id sent.length])

theorem counts_serverMessages {assetId id : Bytes32} {amount : UInt64}
    {theirs : AssetChannelFeatureSet} {sent : List Sent}
    (h : sampleAssetPaymentSessionMessages assetId amount = .ok (sent.map (·.1))) :
    ∀ m ∈ serverMessages fork assetId amount theirs id sent, Counts m := by
  have hack := counts_sessionAck id h
  rw [List.length_map] at hack
  intro m hm
  rcases List.mem_cons.mp hm with rfl | hm
  · exact trivial
  · rcases List.mem_append.mp hm with hm | hm
    · obtain ⟨s, -, rfl⟩ := List.mem_map.mp hm
      exact trivial
    · rw [List.mem_singleton.mp hm]
      exact hack

theorem advertised_featureSet :
    featureSetFromBits fork (AssetChannelFeatureSet.advertiseOptional fork).featureBits =
      .advertiseOptional fork := by
  have hbits : (AssetChannelFeatureSet.advertiseOptional fork).featureBits =
      [simpleTaprootStagingOptionalFeatureBit, assetChannelOptionalFeatureBit] := rfl
  rw [hbits, featureSetFromBits, if_neg (by decide), if_pos (by decide)]

/-- What the client reports of a session is what the server does. -/
structure Agree (fork : NegotiationFork) (assetId : Bytes32) (amount : UInt64)
    (session : ClientSession) (report : LiveAssetPaymentSessionServerReport) : Prop where
  forkAgrees : ForkAgrees fork assetId (.require fork) (.advertiseOptional fork)
  localFeatureBits : session.localFeatureBits = (AssetChannelFeatureSet.require fork).featureBits
  remoteFeatureBits : session.remoteFeatureBits = report.remoteFeatureBits
  channelType :
    session.negotiatedChannelType = .singleAsset assetId fork.supportedProtocolVersion
  messageKinds : session.messageReports.map (·.decodedKind) = report.orderedMessageKinds
  inputProof : session.inputProofReassembledLen = (inputProof assetId amount).length ∧
    report.inputProofReassembledLen = (inputProof assetId amount).length
  outputProof : session.outputProofReassembledLen = (outputProof assetId amount).length ∧
    report.outputProofReassembledLen = (outputProof assetId amount).length
  paymentId : ∃ messages, sampleAssetPaymentSessionMessages assetId amount = .ok messages ∧
    sessionPaymentId assetId amount messages = .ok session.sessionPaymentId ∧
    session.messageReports.length = messages.length
  joined : joinServer (.ok report) session = .ok session

theorem agree_of_answered {assetId : Bytes32} {amount : UInt64} {ins outs : List Bytes}
    {acked : List Acked} {session : ClientSession} {theirs : AssetChannelFeatureSet}
    (hexchanged : Exchanged fromSlice fork assetId amount ins outs acked session)
    (hanswer : .helloAck true session.localFeatureBits session.remoteFeatureBits
        session.negotiatedChannelType :: (acked.map messageAck ++
      [.sessionCompleteAck true session.sessionPaymentId acked.length
        session.inputProofReassembledLen session.outputProofReassembledLen]) =
      serverMessages fork assetId amount theirs session.sessionPaymentId (acked.map (·.1)))
    (hagrees : ForkAgrees fork assetId (.require fork) (.advertiseOptional fork)) :
    Agree fork assetId amount session (serverReport assetId amount theirs (acked.map (·.1.1))) := by
  simp only [serverMessages, helloAck, sessionAck, List.cons.injEq,
    LivePeerWireMessage.helloAck.injEq, true_and] at hanswer
  obtain ⟨⟨hlocal, hremote, hchannel⟩, htail⟩ := hanswer
  obtain ⟨hacks, hend⟩ := List.append_inj htail (by simp)
  obtain ⟨-, -, -, hinput, houtput⟩ :=
    LivePeerWireMessage.sessionCompleteAck.inj (List.cons.inj hend).1
  have hkinds : acked.map (·.2) = acked.map fun a => messageKind a.1.1 := by
    rw [List.map_map] at hacks
    refine List.map_congr_left fun a ha => ?_
    exact (LivePeerWireMessage.customMessageAck.inj (List.map_inj_left.mp hacks a ha)).2.1
  have hdecoded : session.messageReports.map (·.decodedKind) = acked.map (·.2) := by
    calc session.messageReports.map (·.decodedKind)
        = (acked.zipIdx 0).map fun a => a.1.2 := by
          rw [hexchanged.reports, messageReports, List.map_map]
          rfl
      _ = ((acked.zipIdx 0).map Prod.fst).map (·.2) := by rw [List.map_map]; rfl
      _ = acked.map (·.2) := by rw [List.zipIdx_map_fst]
  refine ⟨hagrees, hlocal, hremote, hchannel, ?_, ⟨hinput, rfl⟩, ⟨houtput, rfl⟩, ?_, rfl⟩
  · rw [hdecoded, hkinds, serverReport, List.map_map]
    rfl
  · refine ⟨_, hexchanged.messages, hexchanged.paymentId, ?_⟩
    rw [hexchanged.reports, messageReports, List.length_map, List.length_zipIdx, List.length_map]

/-- A client and a server, each with an asset and an amount. -/
def sessionNet (fromSlice : FromSlice) (fork : NegotiationFork) (assetId : Bytes32)
    (amount : UInt64) (assetId' : Bytes32) (amount' : UInt64) :
    Net Bytes LivePeerError ClientSession LiveAssetPaymentSessionServerReport :=
  .start (runLiveAssetPaymentSessionClient fromSlice fork assetId amount)
    (runLiveAssetPaymentSessionServer fromSlice fork assetId' amount')

/-- Over every run, whatever asset and amount the two peers have, whoever moves and whoever gives
up: when the client has completed, the server has, for the same asset and amount, and both report
the same. -/
theorem client_agreement (hlossless : Lossless fromSlice) {assetId assetId' : Bytes32}
    {amount amount' : UInt64} {outsL : List Bytes}
    {s : Net Bytes LivePeerError ClientSession LiveAssetPaymentSessionServerReport}
    (hruns : (sessionNet fromSlice fork assetId amount assetId' amount').RunsWriting outsL s)
    {session : ClientSession} (hclient : s.left = .done (.ok session)) :
    ∃ report, s.right = .done (.ok report) ∧ assetId' = assetId ∧ amount' = amount ∧
      s.toRight = [] ∧ s.toLeft = [] ∧ Agree fork assetId amount session report := by
  obtain ⟨insL, insR, outsR, p', q', hp, hq, hleft, hright, houtsL, houtsR⟩ :=
    Net.history_runs hruns
  rw [hclient] at hleft
  obtain rfl := Net.at_ok hleft
  obtain ⟨acked, hexchanged⟩ := finishes_client.mp hp
  obtain ⟨btcMsat, -, hpriced⟩ := sampleMessages_eq_ok.mp hexchanged.messages
  have hshort : ∀ m ∈ acked.map (·.1.1), Short m := hpriced ▸ sessionMessages_short
  have hcount : (acked.map (·.1.1)).length < 2 ^ 64 := hpriced ▸ sessionMessages_count ..
  rw [List.length_map] at hcount
  -- the client has read an acknowledgement of the completion, so that the server has completed
  have hreceived := hexchanged.received
  rw [← List.cons_append] at hreceived
  obtain ⟨rest, raw, rfl, -, hack⟩ := frames_concat.mp hreceived
  obtain ⟨report, rfl⟩ := server_completed hlossless hq
    (houtsR ▸ List.mem_append_left _ (List.mem_concat_self ..)) hack.2
  obtain ⟨insS, outsS, peerName, featureBits, id, sent, rawC, hserved, rfl, hcompletion, rfl, rfl⟩ :=
    finishes_server.mp hq
  -- what each of them has read is what the other has written
  have hread := read_prefix hlossless
    (frames_concat.mpr ⟨insS, rawC, rfl, hserved.received, hcompletion⟩)
    (counts_clientMessages (by simpa using hcount)) (hexchanged.sent ▸ houtsL)
  have hwritten : (serverMessages fork assetId' amount' (featureSetFromBits fork featureBits) id
      sent).map wireBytes = rest ++ [raw] ++ s.toLeft := by
    rw [← houtsR, hserved.answered]
    simp [serverMessages]
  have hanswer := read_prefix hlossless hexchanged.received (counts_serverMessages hserved.messages)
    hwritten
  obtain ⟨hhello, hrest⟩ := List.cons_prefix_cons.mp hread
  obtain ⟨rfl, rfl, -, rfl⟩ := LivePeerWireMessage.hello.inj hhello
  obtain ⟨rfl, rfl, -⟩ := sent_eq hexchanged.encodes (by simpa using hshort) hserved.decodes hrest
  have hmessages := hserved.messages
  rw [List.map_map] at hmessages
  obtain rfl := amount_eq hmessages hexchanged.messages
  have hsame := hanswer.eq_of_length (by simp [serverMessages])
  refine ⟨_, Net.at_done hright, rfl, rfl, ?_, ?_, ?_⟩
  · have hlength := hserved.received.length_eq
    have hsent := congrArg List.length (hexchanged.sent ▸ houtsL)
    simp [clientMessages] at hlength hsent
    exact List.length_eq_zero_iff.mp (by omega)
  · have hlength := hexchanged.received.length_eq
    have hsent := congrArg List.length hwritten
    simp [serverMessages] at hlength hsent
    exact List.length_eq_zero_iff.mp (by omega)
  · rw [List.map_map]
    have hagrees := hserved.welcome.2.2.2
    rw [advertised_featureSet] at hagrees
    exact agree_of_answered hexchanged hsame hagrees

/-- The client up to the completion. -/
def sendAll (fromSlice : FromSlice) (fork : NegotiationFork) (assetId : Bytes32)
    (amount : UInt64) : Peer ((List UInt16 × List UInt16 × NegotiatedChannelType) ×
      List AssetPeerMessage × Bytes32 × List LivePeerMessageReport) := do
  .done (rejectIf (assetId = FixedBytes.zero 32) .missingAssetId)
  .done (rejectIf (amount = 0)
    (.protocol "live asset payment session requires a non-zero asset amount"))
  writeFrame (.hello "tap-ldk-payment-client"
    (AssetChannelFeatureSet.advertiseOptional fork).featureBits fork.supportedProtocolVersion
    assetId)
  let greeted ← readFrame fromSlice >>= takeHelloAck
  let messages ← .done (sampleAssetPaymentSessionMessages assetId amount)
  let id ← .done (sessionPaymentId assetId amount messages)
  let reports ← sendMessages fromSlice messages 0 []
  pure (greeted, messages, id, reports)

/-- The client from the completion on. -/
def sendCompletion (fromSlice : FromSlice)
    (sent : (List UInt16 × List UInt16 × NegotiatedChannelType) × List AssetPeerMessage × Bytes32 ×
      List LivePeerMessageReport) : Peer ClientSession := do
  writeFrame (.sessionComplete sent.2.2.1 sent.2.1.length)
  let (inputLen, outputLen) ← readFrame fromSlice >>=
    takeCompletionAck sent.2.2.1 sent.2.1.length
  pure ⟨sent.1.1, sent.1.2.1, sent.1.2.2, sent.2.2.2, inputLen, outputLen, sent.2.2.1⟩

theorem client_eq (assetId : Bytes32) (amount : UInt64) :
    runLiveAssetPaymentSessionClient fromSlice fork assetId amount =
      sendAll fromSlice fork assetId amount >>= sendCompletion fromSlice := by
  simp only [runLiveAssetPaymentSessionClient, sendAll, sendCompletion, bind_assoc, pure_bind]

/-- The messages of the client before the completion. -/
def Request : LivePeerWireMessage → Prop
  | .hello .. | .customMessage .. => True
  | _ => False

theorem sends_sendMessages (messages : List AssetPeerMessage) (sequence : ℕ)
    (reports : List LivePeerMessageReport) :
    (sendMessages fromSlice messages sequence reports).Sends (FrameOf Request) := by
  induction messages generalizing sequence reports with
  | nil => exact .done _
  | cons m messages ih =>
    rw [sendMessages]
    refine .bind (.done _) fun payload => .bind (sends_writeFrame trivial trivial) fun _ =>
      .bind (.bind sends_readFrame fun ack => ?_) fun report => ih _ _
    cases ack with
    | customMessageAck type kind digest => exact .bind (.done _) fun _ => .done _
    | hello | helloAck | customMessage | sessionComplete | sessionCompleteAck => exact .done _

theorem sends_sendAll (assetId : Bytes32) (amount : UInt64) :
    (sendAll fromSlice fork assetId amount).Sends (FrameOf Request) := by
  rw [sendAll]
  refine .bind (.done _) fun _ => .bind (.done _) fun _ => .bind ?_ fun _ =>
    .bind (.bind sends_readFrame fun ack => ?_) fun _ => .bind (.done _) fun _ =>
    .bind (.done _) fun _ => .bind (sends_sendMessages ..) fun _ => .done _
  · exact sends_writeFrame trivial trivial
  · cases ack with
    | helloAck accepted ours theirs channelType => exact .bind (.done _) fun _ => .done _
    | hello | customMessage | customMessageAck | sessionComplete | sessionCompleteAck =>
      exact .done _

theorem sent_of_sendAll {assetId id : Bytes32} {amount : UInt64} {ins outs : List Bytes}
    {greeted : List UInt16 × List UInt16 × NegotiatedChannelType}
    {messages : List AssetPeerMessage} {reports : List LivePeerMessageReport}
    (h : Finishes (sendAll fromSlice fork assetId amount) ins outs
      (greeted, messages, id, reports)) :
    ∃ sent : List Sent, sampleAssetPaymentSessionMessages assetId amount = .ok messages ∧
      sessionPaymentId assetId amount messages = .ok id ∧ sent.map (·.1) = messages ∧
      Encodes sent ∧
      outs ++ [wireBytes (.sessionComplete id sent.length)] =
        (clientMessages fork assetId id sent).map wireBytes := by
  rw [sendAll] at h
  simp only [finishes_done_bind, finishes_writeFrame] at h
  simp only [bind_assoc, finishes_readFrame] at h
  simp only [finishes_bind (p := takeHelloAck _), finishes_takeHelloAck, finishes_done_bind,
    finishes_bind (p := sendMessages _ _ _ _), finishes_pure, Prod.mk.injEq] at h
  obtain ⟨-, -, -, -, -, _, rfl, -, -, -, -, -, _, _, _, _, _, -, rfl, ⟨-, -, rfl⟩, messages',
    hmessages, id', hid, _, _, _, _, _, -, rfl, hsend, ⟨-, rfl, rfl, -⟩, -, rfl⟩ := h
  obtain ⟨btcMsat, -, hpriced⟩ := sampleMessages_eq_ok.mp hmessages
  have hshort : ∀ m ∈ messages', Short m := hpriced ▸ sessionMessages_short
  obtain ⟨acked, rfl, hencodes, -, rfl, -⟩ := (finishes_sendMessages hshort).mp hsend
  refine ⟨acked.map (·.1), hmessages, hid, List.map_map .., hencodes, ?_⟩
  simp [clientMessages]

theorem sent_of_sendCompletion {sent : (List UInt16 × List UInt16 × NegotiatedChannelType) ×
      List AssetPeerMessage × Bytes32 × List LivePeerMessageReport} {ins outs : List Bytes}
    {q : Peer ClientSession} (h : Trip (sendCompletion fromSlice sent) ins outs q)
    (houts : outs ≠ []) : outs = [wireBytes (.sessionComplete sent.2.2.1 sent.2.1.length)] := by
  rw [sendCompletion] at h
  by_cases hfits : (wireBytes (.sessionComplete sent.2.2.1 sent.2.1.length)).length ≤ maxFrameLen
  · rw [writeFrame_bind hfits] at h
    obtain ⟨rest, rfl, hback⟩ := (Trip.of_send h).resolve_left houts
    have hnothing := hback.sends (P := fun _ => False) (by
      refine .bind (.bind sends_readFrame fun ack => ?_) fun _ => .done _
      cases ack with
      | sessionCompleteAck => exact .bind (.done _) fun _ => .done _
      | hello | helloAck | customMessage | customMessageAck | sessionComplete => exact .done _)
    rw [List.eq_nil_iff_forall_not_mem.mpr hnothing]
  · rw [writeFrame, rejectIf, if_pos (Nat.not_le.mp hfits)] at h
    exact absurd (Trip.of_done h).2.1 houts

/-- All that a client has sent is one session, and the report is that of its messages. -/
structure SentSession (fork : NegotiationFork) (assetId : Bytes32) (amount : UInt64)
    (outs : List Bytes) (report : LiveAssetPaymentSessionServerReport) (id : Bytes32)
    (sent : List Sent) : Prop where
  messages : sampleAssetPaymentSessionMessages assetId amount = .ok (sent.map (·.1))
  paymentId : sessionPaymentId assetId amount (sent.map (·.1)) = .ok id
  encodes : Encodes sent
  written : outs = (clientMessages fork assetId id sent).map wireBytes
  report : report = serverReport assetId amount (.advertiseOptional fork) (sent.map (·.1))

/-- Over every run: when the server has completed, the client has sent it one session, for the same
asset and amount, and nothing else. -/
theorem server_agreement (hlossless : Lossless fromSlice) {assetId assetId' : Bytes32}
    {amount amount' : UInt64} {outsL : List Bytes}
    {s : Net Bytes LivePeerError ClientSession LiveAssetPaymentSessionServerReport}
    (hruns : (sessionNet fromSlice fork assetId amount assetId' amount').RunsWriting outsL s)
    {report : LiveAssetPaymentSessionServerReport} (hserver : s.right = .done (.ok report)) :
    assetId' = assetId ∧ amount' = amount ∧
      ∃ id sent, SentSession fork assetId amount outsL report id sent := by
  obtain ⟨insL, insR, outsR, p', q', hp, hq, hleft, hright, houtsL, houtsR⟩ :=
    Net.history_runs hruns
  rw [hserver] at hright
  obtain rfl := Net.at_ok hright
  obtain ⟨insS, outsS, peerName, featureBits, id, sent, rawC, hserved, rfl, hcompletion, -, rfl⟩ :=
    finishes_server.mp hq
  have hraw : rawC ∈ outsL := by
    rw [houtsL]
    simp
  have hbefore {ins outs : List Bytes} {p : Peer _}
      (hp : Trip (sendAll fromSlice fork assetId amount) ins outs p) : rawC ∉ outs := by
    intro hmem
    obtain ⟨m, rfl, hcounts, hrequest⟩ := hp.sends (sends_sendAll assetId amount) rawC hmem
    have hframe := hcompletion.2
    rw [hlossless m hcounts, Option.some.injEq] at hframe
    rw [hframe] at hrequest
    exact hrequest
  rw [client_eq] at hp
  rcases Trip.of_bind hp with ⟨p, hfront, -⟩ | ⟨⟨greeted, messages, id', reports⟩, ins₁, ins₂,
    outs₁, outs₂, rfl, rfl, hfront, hback⟩
  · exact absurd hraw (hbefore hfront)
  have hlast : rawC ∈ outs₂ := (List.mem_append.mp hraw).resolve_left (hbefore hfront)
  obtain rfl := sent_of_sendCompletion hback (List.ne_nil_of_mem hlast)
  obtain ⟨sent', hmessages, hid, rfl, hencodes, hsent⟩ := sent_of_sendAll hfront
  obtain ⟨btcMsat, -, hpriced⟩ := sampleMessages_eq_ok.mp hmessages
  have hshort : ∀ s ∈ sent', Short s.1 := fun s hs =>
    sessionMessages_short s.1 (hpriced ▸ List.mem_map_of_mem hs)
  have hcount : (sent'.map (·.1)).length < 2 ^ 64 := hpriced ▸ sessionMessages_count ..
  rw [List.length_map] at hcount
  rw [List.length_map, hsent] at houtsL
  have hread := read_prefix hlossless
    (frames_concat.mpr ⟨insS, rawC, rfl, hserved.received, hcompletion⟩)
    (counts_clientMessages hcount) houtsL
  obtain ⟨hhello, hrest⟩ := List.cons_prefix_cons.mp hread
  obtain ⟨rfl, rfl, -, rfl⟩ := LivePeerWireMessage.hello.inj hhello
  obtain ⟨rfl, rfl, -⟩ := sent_eq hencodes hshort hserved.decodes hrest
  obtain rfl := amount_eq hserved.messages hmessages
  refine ⟨rfl, rfl, _, _, hmessages, hid, hencodes, ?_, by rw [advertised_featureSet]⟩
  rw [List.length_map]
  exact hsent

end TapLdk.LivePeerAgreement
