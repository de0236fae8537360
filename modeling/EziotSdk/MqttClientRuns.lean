import EziotSdk.MqttClient

/-!
# Runs of the MQTT client

What a run delivers and acknowledges, in terms of the packets that the server
has sent.
-/

namespace EziotSdk

open ErrorState

variable {Handler : Type}

/-! ## Acknowledgements -/

theorem sendLoop_whole {writes : List WriteOutcome} {packet : Bytes}
    (hwhole : (sendLoop writes packet).2.1 = true) :
    (sendLoop writes packet).1 = packet ∧
      (sendLoop writes packet).2.2 = .succ := by
  induction writes generalizing packet with
  | nil => cases hwhole
  | cons outcome writes ih =>
      cases outcome with
      | failed error => cases hwhole
      | wrote count expired =>
          rw [sendLoop] at hwhole ⊢
          split_ifs at hwhole ⊢ with hzero hend hexpired
          · exact ⟨rfl, rfl⟩
          · simp only at hwhole ⊢
            rw [(ih hwhole).1, List.take_append_drop]
            exact ⟨rfl, (ih hwhole).2⟩

/-- The packet of `MQTTSerialize_ack`. -/
def ackPacket (packettype : MqttMsgType) (packetid : ℕ) : Bytes :=
  MqttHeader.byte ⟨packettype.code, 0, if packettype = .pubrel then 1 else 0,
    0⟩ :: mqttPacketEncode 2 ++ writeInt packetid

theorem serializeAck_ok {bufSize : ℕ} (hroom : 4 ≤ bufSize)
    (packettype : MqttMsgType) (packetid : ℕ) :
    serializeAck bufSize packettype 0 packetid =
      .ok (ackPacket packettype packetid) :=
  writePacket_ok_iff.mpr ⟨hroom, rfl⟩

/-- The packet of `MQTTSerialize_pingreq`. -/
def pingreqPacket : Bytes :=
  MqttHeader.byte ⟨MqttMsgType.pingreq.code, 0, 0, 0⟩ :: mqttPacketEncode 0

/-- What the call writes goes out whole. -/
structure CycleInput.Through (input : CycleInput) : Prop where
  acks : ∀ packettype packetid,
    (sendLoop input.writes (ackPacket packettype packetid)).2.1 = true
  pings : (sendLoop input.pingWrites pingreqPacket).2.1 = true

/-- The packets that answer the server: all but pings. -/
def MqttClient.answers (client : MqttClient Handler) :
    List (MqttMsgType × Bytes) :=
  client.written.filter (·.1 ≠ .pingreq)

/-- A step that does no more than answer so. -/
structure MqttClient.Answered (client other : MqttClient Handler)
    (packets : List (MqttMsgType × Bytes)) : Prop where
  bufSize : other.bufSize = client.bufSize
  readbufSize : other.readbufSize = client.readbufSize
  messageHandlers : other.messageHandlers = client.messageHandlers
  socket : other.net.socket = client.net.socket
  delivered : other.delivered = client.delivered
  answers : other.answers = client.answers ++ packets
  well : ¬ client.net.Broken → ¬ other.net.Broken

namespace MqttClient.Answered

theorem refl (client : MqttClient Handler) : client.Answered client [] where
  bufSize := rfl
  readbufSize := rfl
  messageHandlers := rfl
  socket := rfl
  delivered := rfl
  answers := (List.append_nil _).symm
  well := id

theorem trans {first second third : MqttClient Handler}
    {packets more : List (MqttMsgType × Bytes)}
    (hfirst : first.Answered second packets)
    (hsecond : second.Answered third more) :
    first.Answered third (packets ++ more) where
  bufSize := hsecond.bufSize.trans hfirst.bufSize
  readbufSize := hsecond.readbufSize.trans hfirst.readbufSize
  messageHandlers := hsecond.messageHandlers.trans hfirst.messageHandlers
  socket := hsecond.socket.trans hfirst.socket
  delivered := hsecond.delivered.trans hfirst.delivered
  answers := by rw [hsecond.answers, hfirst.answers, List.append_assoc]
  well := hsecond.well ∘ hfirst.well

end MqttClient.Answered

theorem not_broken_succ (socket : Socket) :
    ¬ MqttNet.Broken ⟨socket, .succ⟩ := by
  simp [MqttNet.Broken]

theorem sendAck_answers {input : CycleInput} (hthrough : input.Through)
    {client : MqttClient Handler} (hroom : 4 ≤ client.bufSize)
    {packettype : MqttMsgType} (htype : packettype ≠ .pingreq)
    (packetid : ℕ) :
    (sendAck input packettype packetid client).1 = true ∧
      client.Answered (sendAck input packettype packetid client).2
        [(packettype, ackPacket packettype packetid)] := by
  have hwhole := hthrough.acks packettype packetid
  obtain ⟨hsent, hsucc⟩ := sendLoop_whole hwhole
  rw [sendAck, serializeAck_ok hroom]
  refine ⟨hwhole, rfl, rfl, rfl, rfl, rfl, ?_, ?_⟩
  · simp only [sendPacket]
    rw [hsent, MqttClient.answers, MqttClient.answers, List.filter_append]
    simp [htype]
  · simp only [sendPacket, hsucc]
    exact fun _ => not_broken_succ _

theorem sendPacket_pingreq_answers {writes : List WriteOutcome}
    {packet : Bytes} (hwhole : (sendLoop writes packet).2.1 = true)
    (client : MqttClient Handler) :
    client.Answered (sendPacket writes .pingreq packet client).2 [] where
  bufSize := rfl
  readbufSize := rfl
  messageHandlers := rfl
  socket := rfl
  delivered := rfl
  answers := by
    rw [sendPacket, MqttClient.answers, MqttClient.answers,
      List.filter_append]
    simp
  well := by
    simp only [sendPacket, (sendLoop_whole hwhole).2]
    exact fun _ => not_broken_succ _

theorem keepalive_answers {input : CycleInput} (hthrough : input.Through)
    (client : MqttClient Handler) :
    client.Answered (keepalive input client) [] := by
  unfold keepalive
  split_ifs
  · exact .refl client
  · cases hpacket : serializePingreq client.bufSize with
    | error error => exact .refl client
    | ok packet =>
        have hping : packet = pingreqPacket := by
          rw [serializePingreq, serializeZero, writePacket_ok_iff] at hpacket
          exact hpacket.2.symm
        have hsent :=
          sendPacket_pingreq_answers (hping ▸ hthrough.pings) client
        simp only
        split_ifs
        · exact hsent.trans ⟨rfl, rfl, rfl, rfl, rfl,
            (List.append_nil _).symm, id⟩
        · exact hsent

theorem cycleEnd_answers {input : CycleInput} (hthrough : input.Through)
    (packetType : ℕ) (answered : Bool × MqttClient Handler) :
    answered.2.Answered (cycleEnd input packetType answered).2 [] := by
  unfold cycleEnd
  split_ifs
  · exact keepalive_answers hthrough answered.2
  · exact .refl answered.2

theorem deserializeAck_received {byte : UInt8} {body : Bytes}
    (hbody : body.length < 2 ^ 28) (hlong : 2 ≤ body.length) (rest : Bytes) :
    deserializeAck (received byte body rest) =
      some (1, ⟨(MqttHeader.ofByte byte).type, (MqttHeader.ofByte byte).dup,
        some (intAt body)⟩) := by
  have hdecoded := decodeBuf_encode hbody (body ++ rest) (0 - 1)
    (AckOut.mk (MqttHeader.ofByte byte).type (MqttHeader.ofByte byte).dup none)
  have hread := readInt_of_long
    (show 2 ≤ (body ++ rest).length by rw [List.length_append]; omega)
    body.length
    (AckOut.mk (MqttHeader.ofByte byte).type (MqttHeader.ofByte byte).dup none)
  have hleft : ¬ (body.length : ℤ) < 2 := by omega
  rw [intAt_append hlong] at hread
  rw [deserializeAck, MqttStep.run, readAck, received,
    bind_of_ok (readChar_cons _ _ _ _)]
  rw [modifyOut_step, bind_of_ok hdecoded, get_step,
    reject_bind_of_passed hleft, bind_of_ok hread]
  rfl

/-! ## Contents -/

/-- What a callback finds in a publication. -/
structure PublishContent where
  dup : ℕ
  qos : ℕ
  retained : ℕ
  packetid : ℕ
  topic : Bytes
  payload : Bytes
  deriving DecidableEq, Repr

def PublishOut.content (out : PublishOut) : PublishContent where
  dup := out.dup
  qos := out.qos
  retained := out.retained
  packetid := out.packetid
  topic := out.topicName.text
  payload := (out.payload.getD []).take out.payloadlen.toNat

namespace MqttFrame

/-- What a packet says as a publication. -/
def content (frame : MqttFrame) : PublishContent :=
  let header := MqttHeader.ofByte frame.header
  { dup := header.dup
    qos := header.qos
    retained := header.retain
    packetid := if header.qos = 0 then 0 else intAt (afterString frame.body)
    topic := (frame.body.drop 2).take (intAt frame.body)
    payload := if header.qos = 0 then afterString frame.body
      else (afterString frame.body).drop 2 }

theorem packet_append (frame : MqttFrame) (stale : Bytes) :
    frame.packet ++ stale = received frame.header frame.body stale := by
  simp only [packet, head, received, List.append_assoc, List.cons_append]

/-- A publication holds its fields, and a first answer its packet id. -/
structure Sane (frame : MqttFrame) : Prop where
  publish : (MqttHeader.ofByte frame.header).type =
    MqttMsgType.publish.code → PublishWhole frame.header frame.body
  pubrec : (MqttHeader.ofByte frame.header).type =
    MqttMsgType.pubrec.code → 2 ≤ frame.body.length

/-- What `cycle` returns for a packet: only a quality that there is not makes
it fail. -/
def result (frame : MqttFrame) : ℤ :=
  let header := MqttHeader.ofByte frame.header
  if header.type = MqttMsgType.publish.code ∧ header.qos = 3 then mqttFailure
  else header.type

/-- The acknowledgement that a packet asks for. -/
def answer (frame : MqttFrame) : List (MqttMsgType × Bytes) :=
  let header := MqttHeader.ofByte frame.header
  if header.type = MqttMsgType.publish.code then
    if header.qos = 1 then
      [(.puback, ackPacket .puback frame.content.packetid)]
    else if header.qos = 2 then
      [(.pubrec, ackPacket .pubrec frame.content.packetid)]
    else []
  else if header.type = MqttMsgType.pubrec.code then
    [(.pubrel, ackPacket .pubrel (intAt frame.body))]
  else []

/-- The callbacks that a packet reaches: those of the slots whose filter is
the topic or matches it. -/
def deliveries (handlers : List (Bytes × Option Handler))
    (frame : MqttFrame) : List (Handler × PublishContent) :=
  if (MqttHeader.ofByte frame.header).type = MqttMsgType.publish.code then
    (handlers.filter fun handler =>
      decide (frame.content.topic = handler.1) ||
        topicLoop handler.1 frame.content.topic).flatMap
      fun handler => handler.2.toList.map (·, frame.content)
  else []

end MqttFrame

/-- A packet that holds its fields is read as what it says. -/
theorem deserializePublish_whole {frame : MqttFrame}
    (htype : (MqttHeader.ofByte frame.header).type =
      MqttMsgType.publish.code)
    (hwhole : PublishWhole frame.header frame.body) (rest : Bytes) :
    ∃ out, deserializePublish (received frame.header frame.body rest) =
        some (1, out) ∧
      out.content = frame.content ∧ out.topicName.data.isSome ∧
      out.topicName.text.length = out.topicName.len := by
  obtain ⟨hfits, hids⟩ := hwhole
  have htext := text_of_fits hfits rest
  have hlength := length_text_of_fits hfits rest
  have hafter := length_afterString frame.body
  have hinside := hfits.2
  by_cases hqos : (MqttHeader.ofByte frame.header).qos = 0
  · have hout := deserializePublish_of_plain htype frame.fits hfits hqos rest
    refine ⟨_, hout, ?_, rfl, hlength⟩
    have hcount : ((frame.body.length : ℤ) -
        (2 + intAt frame.body : ℕ)).toNat =
          (afterString frame.body).length := by
      omega
    simp only [PublishOut.content, PublishOut.plain, MqttFrame.content, htext,
      hcount, Option.getD_some, List.take_left', if_pos hqos]
  · have hlong : 2 ≤ (afterString frame.body).length :=
      hids.resolve_left hqos
    have hout := @deserializePublish_of_long _ _ htype frame.fits hfits
      (Nat.pos_of_ne_zero hqos) rest (by rw [List.length_append]; omega)
    refine ⟨_, hout, ?_, rfl, hlength⟩
    have hcount : ((frame.body.length : ℤ) -
        (2 + intAt frame.body : ℕ) - 2).toNat =
          ((afterString frame.body).drop 2).length := by
      rw [List.length_drop]
      omega
    simp only [PublishOut.content, PublishOut.numbered, MqttFrame.content,
      htext, hcount, Option.getD_some, intAt_append hlong,
      List.drop_append_of_le_length hlong, List.take_left', if_neg hqos]

/-! ## Delivery -/

theorem handlerTakes_of_held {topicName : MqttLenString}
    (hdata : topicName.data.isSome)
    (hheld : topicName.text.length = topicName.len) (topicFilter : Bytes) :
    handlerTakes topicFilter topicName =
      some (decide (topicName.text = topicFilter) ||
        topicLoop topicFilter topicName.text) := by
  have hmatched : isTopicMatched topicFilter topicName =
      topicLoop topicFilter topicName.text := by
    rw [isTopicMatched, hdata, Bool.true_and]
  obtain ⟨data, hsome⟩ := Option.isSome_iff_exists.mp hdata
  have hequals : packetEquals topicName topicFilter =
      some (decide (topicName.text = topicFilter)) := by
    unfold packetEquals
    by_cases hlen : topicName.len = topicFilter.length
    · rw [if_neg (not_not.mpr hlen)]
      by_cases hzero : topicName.len = 0
      · have htext : topicName.text = [] :=
          List.eq_nil_of_length_eq_zero (hheld.trans hzero)
        have hfilter : topicFilter = [] :=
          List.eq_nil_of_length_eq_zero (hlen.symm.trans hzero)
        rw [if_pos hzero, htext, hfilter]
        rfl
      · rw [if_neg hzero, hsome]
        rfl
    · have hne : topicName.text ≠ topicFilter := by
        intro heq
        exact hlen (hheld.symm.trans (congrArg List.length heq))
      rw [if_pos hlen, decide_eq_false hne]
  rw [handlerTakes, hequals, hmatched]
  rfl

def callsOf (message : PublishOut) (handlers : List (Bytes × Option Handler)) :
    List (Handler × PublishOut) :=
  (handlers.filter fun handler =>
    decide (message.topicName.text = handler.1) ||
      topicLoop handler.1 message.topicName.text).flatMap
    fun handler => handler.2.toList.map (·, message)

theorem deliverMessage_of_held {message : PublishOut}
    (hdata : message.topicName.data.isSome)
    (hheld : message.topicName.text.length = message.topicName.len)
    (handlers : List (Bytes × Option Handler)) :
    deliverMessage message handlers = some (callsOf message handlers) := by
  induction handlers with
  | nil => rfl
  | cons handler handlers ih =>
      rw [deliverMessage, handlerTakes_of_held hdata hheld, ih, callsOf,
        callsOf, List.filter_cons]
      simp only [Option.bind_eq_bind, Option.bind_some, Option.pure_def]
      split_ifs
      · rfl
      · rfl

/-! ## One packet -/

/-- What the client has done with these packets, from one state to
another. -/
structure MqttClient.Took (client other : MqttClient Handler)
    (frames : List MqttFrame) : Prop where
  bufSize : other.bufSize = client.bufSize
  readbufSize : other.readbufSize = client.readbufSize
  messageHandlers : other.messageHandlers = client.messageHandlers
  delivered : other.delivered.map (fun call => (call.1, call.2.content)) =
    client.delivered.map (fun call => (call.1, call.2.content)) ++
      frames.flatMap (MqttFrame.deliveries client.messageHandlers)
  answers : other.answers = client.answers ++
    frames.flatMap MqttFrame.answer

namespace MqttClient

theorem Answered.took_nil {client other : MqttClient Handler} {net : MqttNet}
    (hanswered : ({ client with net := net } :
      MqttClient Handler).Answered other []) : client.Took other [] where
  bufSize := hanswered.bufSize
  readbufSize := hanswered.readbufSize
  messageHandlers := hanswered.messageHandlers
  delivered := by
    rw [hanswered.delivered, List.flatMap_nil, List.append_nil]
  answers := hanswered.answers

theorem Answered.took {client other : MqttClient Handler} {net : MqttNet}
    {calls : List (Handler × PublishOut)} {frame : MqttFrame}
    (hanswered : ({ client with
      net := net, delivered := client.delivered ++ calls } :
        MqttClient Handler).Answered other frame.answer)
    (hcalls : calls.map (fun call => (call.1, call.2.content)) =
      frame.deliveries client.messageHandlers) :
    client.Took other [frame] where
  bufSize := hanswered.bufSize
  readbufSize := hanswered.readbufSize
  messageHandlers := hanswered.messageHandlers
  delivered := by
    rw [hanswered.delivered, List.map_append, hcalls, List.flatMap_singleton]
  answers := by
    rw [hanswered.answers, List.flatMap_singleton]
    rfl

/-- The packet reaches no callback. -/
theorem Answered.took_quiet {client other : MqttClient Handler}
    {net : MqttNet} {frame : MqttFrame}
    (hanswered : ({ client with net := net } :
      MqttClient Handler).Answered other frame.answer)
    (hcalls : frame.deliveries client.messageHandlers = []) :
    client.Took other [frame] where
  bufSize := hanswered.bufSize
  readbufSize := hanswered.readbufSize
  messageHandlers := hanswered.messageHandlers
  delivered := by
    rw [hanswered.delivered, List.flatMap_singleton, hcalls, List.append_nil]
  answers := by
    rw [hanswered.answers, List.flatMap_singleton]
    rfl

theorem Took.trans {first second third : MqttClient Handler}
    {frames more : List MqttFrame} (hfirst : first.Took second frames)
    (hsecond : second.Took third more) :
    first.Took third (frames ++ more) where
  bufSize := hsecond.bufSize.trans hfirst.bufSize
  readbufSize := hsecond.readbufSize.trans hfirst.readbufSize
  messageHandlers := hsecond.messageHandlers.trans hfirst.messageHandlers
  delivered := by
    rw [hsecond.delivered, hfirst.delivered, hfirst.messageHandlers,
      List.flatMap_append, List.append_assoc]
  answers := by
    rw [hsecond.answers, hfirst.answers, List.flatMap_append,
      List.append_assoc]

end MqttClient

/-- A call that has got so far with the network returns so, and has done so
much with these packets. -/
structure MqttClient.Steps (client : MqttClient Handler) (net : MqttNet)
    (frames : List MqttFrame) (rc : ℤ) (outcome : ℤ × MqttClient Handler) :
    Prop where
  took : client.Took outcome.2 frames
  socket : outcome.2.net.socket = net.socket
  well : ¬ net.Broken → ¬ outcome.2.net.Broken
  rc : outcome.1 = rc

theorem cycleEnd_rc (input : CycleInput) (packetType : ℕ)
    (answered : Bool × MqttClient Handler) :
    (cycleEnd input packetType answered).1 =
      if answered.1 then (packetType : ℤ) else mqttFailure := by
  unfold cycleEnd
  split_ifs
  · rfl
  · rfl

theorem answerPublish_answers {input : CycleInput} (hthrough : input.Through)
    {client : MqttClient Handler} (hroom : 4 ≤ client.bufSize)
    {frame : MqttFrame}
    (htype : (MqttHeader.ofByte frame.header).type =
      MqttMsgType.publish.code) {message : PublishOut}
    (hcontent : message.content = frame.content) :
    client.Answered (answerPublish input message client).2 frame.answer := by
  have hqos : message.qos = (MqttHeader.ofByte frame.header).qos :=
    congrArg PublishContent.qos hcontent
  have hid : message.packetid = frame.content.packetid :=
    congrArg PublishContent.packetid hcontent
  rw [answerPublish, MqttFrame.answer, if_pos htype, hqos, hid]
  split_ifs with hzero hone htwo
  · omega
  · omega
  · exact .refl client
  · exact (sendAck_answers hthrough hroom (by decide) _).2
  · exact (sendAck_answers hthrough hroom (by decide) _).2
  · exact .refl client

theorem answerPublish_succeeds {input : CycleInput}
    (hthrough : input.Through) {client : MqttClient Handler}
    (hroom : 4 ≤ client.bufSize) (message : PublishOut) :
    (answerPublish input message client).1 = decide (message.qos ≤ 2) := by
  rw [answerPublish]
  split_ifs with hzero hone htwo
  · simp [hzero]
  · rw [hone]
    exact (sendAck_answers hthrough hroom (by decide) _).1
  · rw [htwo]
    exact (sendAck_answers hthrough hroom (by decide) _).1
  · rw [decide_eq_false (by omega)]

theorem deliveries_of_content {message : PublishOut} {frame : MqttFrame}
    (htype : (MqttHeader.ofByte frame.header).type =
      MqttMsgType.publish.code)
    (hcontent : message.content = frame.content)
    (handlers : List (Bytes × Option Handler)) :
    (callsOf message handlers).map (fun call => (call.1, call.2.content)) =
      frame.deliveries handlers := by
  have htopic : message.topicName.text = frame.content.topic :=
    congrArg PublishContent.topic hcontent
  rw [callsOf, MqttFrame.deliveries, if_pos htype, htopic, List.map_flatMap]
  simp only [List.map_map, Function.comp_def, hcontent]

theorem cyclePublish_takes {input : CycleInput} (hthrough : input.Through)
    {client : MqttClient Handler} (hroom : 4 ≤ client.bufSize)
    {frame : MqttFrame}
    (htype : (MqttHeader.ofByte frame.header).type =
      MqttMsgType.publish.code)
    (hwhole : PublishWhole frame.header frame.body) (net : MqttNet)
    (rest : Bytes) :
    ∃ outcome, cyclePublish input (received frame.header frame.body rest)
        { client with net := net } = some outcome ∧
      client.Steps net [frame] frame.result outcome := by
  obtain ⟨out, hread, hcontent, hdata, hheld⟩ :=
    deserializePublish_whole htype hwhole rest
  have hcalls := deliveries_of_content htype hcontent client.messageHandlers
  have hanswered := (@answerPublish_answers _ _ hthrough
    { client with
      net := net
      delivered := client.delivered ++ callsOf out client.messageHandlers }
    hroom _ htype _ hcontent).trans
      (cycleEnd_answers hthrough MqttMsgType.publish.code _)
  rw [List.append_nil] at hanswered
  rw [cyclePublish, hread]
  simp only [Option.bind_eq_bind, Option.bind_some, Option.pure_def,
    deliverMessage_of_held hdata hheld]
  refine ⟨_, rfl, hanswered.took hcalls, hanswered.socket, hanswered.well, ?_⟩
  have hqos : out.qos = (MqttHeader.ofByte frame.header).qos :=
    congrArg PublishContent.qos hcontent
  have hthree : (MqttHeader.ofByte frame.header).qos < 4 :=
    Nat.mod_lt _ (by norm_num)
  rw [cycleEnd_rc, answerPublish_succeeds hthrough (by exact hroom), hqos,
    MqttFrame.result]
  split_ifs with hsmall hlast hlast
  · simp only [decide_eq_true_eq] at hsmall
    omega
  · rw [htype]
  · rfl
  · simp only [decide_eq_true_eq] at hsmall
    exact absurd ⟨htype, by omega⟩ hlast

theorem MqttFrame.result_of_other {frame : MqttFrame}
    (hother : (MqttHeader.ofByte frame.header).type ≠
      MqttMsgType.publish.code) :
    frame.result = (MqttHeader.ofByte frame.header).type :=
  if_neg fun hpublish => hother hpublish.1

theorem cyclePubrec_takes {input : CycleInput} (hthrough : input.Through)
    {client : MqttClient Handler} (hroom : 4 ≤ client.bufSize)
    {frame : MqttFrame}
    (htype : (MqttHeader.ofByte frame.header).type = MqttMsgType.pubrec.code)
    (hlong : 2 ≤ frame.body.length) (net : MqttNet) (rest : Bytes) :
    ∃ outcome, cyclePubrec input (received frame.header frame.body rest)
        { client with net := net } = some outcome ∧
      client.Steps net [frame] frame.result outcome := by
  have hother : ¬ (MqttHeader.ofByte frame.header).type =
      MqttMsgType.publish.code := by
    rw [htype]
    decide
  have hanswer : frame.answer =
      [(.pubrel, ackPacket .pubrel (intAt frame.body))] := by
    rw [MqttFrame.answer, if_neg hother, if_pos htype]
  have hcalls : frame.deliveries client.messageHandlers = [] := by
    rw [MqttFrame.deliveries, if_neg hother]
  obtain ⟨hsent, hack⟩ := @sendAck_answers _ _ hthrough
    { client with net := net } hroom .pubrel (by decide) (intAt frame.body)
  have hanswered := hack.trans
    (cycleEnd_answers hthrough MqttMsgType.pubrec.code _)
  rw [List.append_nil, ← hanswer] at hanswered
  rw [cyclePubrec, deserializeAck_received frame.fits hlong]
  simp only [Option.bind_eq_bind, Option.bind_some, Option.pure_def]
  refine ⟨_, rfl, hanswered.took_quiet hcalls, hanswered.socket,
    hanswered.well, ?_⟩
  rw [cycleEnd_rc, hsent, if_pos rfl, MqttFrame.result_of_other hother, htype]

theorem cycle_of_broken (input : CycleInput) {client : MqttClient Handler}
    {packet : Option Bytes} {net : MqttNet}
    (hread : readPacket client.readbufSize client.net = (packet, net))
    (hbroken : net.Broken) :
    ∃ outcome, cycle input client = some outcome ∧
      client.Took outcome.2 [] ∧ outcome.2.net.Broken := by
  rw [cycle, hread]
  cases packet with
  | none =>
      simp only
      rw [if_pos hbroken]
      exact ⟨_, rfl, (MqttClient.Answered.refl _).took_nil, hbroken⟩
  | some packet =>
      simp only
      rw [if_pos hbroken]
      exact ⟨_, rfl, (MqttClient.Answered.refl _).took_nil, hbroken⟩

theorem cycle_of_none {input : CycleInput} (hthrough : input.Through)
    {client : MqttClient Handler} {net : MqttNet}
    (hread : readPacket client.readbufSize client.net = (none, net)) :
    ∃ outcome, cycle input client = some outcome ∧
      client.Steps net [] 65535 outcome := by
  rw [cycle, hread]
  simp only
  split_ifs
  · exact ⟨_, rfl, (MqttClient.Answered.refl _).took_nil, rfl, id, rfl⟩
  · have hanswered :=
      cycleEnd_answers hthrough 65535 (true, { client with net := net })
    exact ⟨_, rfl, hanswered.took_nil, hanswered.socket, hanswered.well,
      cycleEnd_rc _ _ _⟩

theorem cycle_of_packet {input : CycleInput} (hthrough : input.Through)
    {client : MqttClient Handler} (hroom : 4 ≤ client.bufSize)
    {frame : MqttFrame} (hsane : frame.Sane) {net : MqttNet}
    (hread : readPacket client.readbufSize client.net =
      (some frame.packet, net)) (hwell : ¬ net.Broken) :
    ∃ outcome, cycle input client = some outcome ∧
      client.Steps net [frame] frame.result outcome := by
  have hbuf := frame.packet_append input.stale
  have hhead : frame.packet.headD 0 = frame.header := rfl
  rw [cycle, hread]
  simp only
  rw [if_neg hwell, hbuf, hhead]
  split_ifs with hpublish hpubrec hping
  · exact cyclePublish_takes hthrough hroom hpublish (hsane.publish hpublish)
      net input.stale
  · exact cyclePubrec_takes hthrough hroom hpubrec (hsane.pubrec hpubrec)
      net input.stale
  · have hanswer : frame.answer = [] := by
      rw [MqttFrame.answer, if_neg hpublish, if_neg hpubrec]
    have hcalls : frame.deliveries client.messageHandlers = [] := by
      rw [MqttFrame.deliveries, if_neg hpublish]
    have hcleared : ({ client with net := net } :
        MqttClient Handler).Answered
          { client with net := net, pingOutstanding := false } [] :=
      ⟨rfl, rfl, rfl, rfl, rfl, (List.append_nil _).symm, id⟩
    have hanswered := hcleared.trans (cycleEnd_answers hthrough
      (MqttHeader.ofByte frame.header).type (true, _))
    rw [List.append_nil, ← hanswer] at hanswered
    exact ⟨_, rfl, hanswered.took_quiet hcalls, hanswered.socket,
      hanswered.well,
      (cycleEnd_rc _ _ _).trans (MqttFrame.result_of_other hpublish).symm⟩
  · have hanswer : frame.answer = [] := by
      rw [MqttFrame.answer, if_neg hpublish, if_neg hpubrec]
    have hcalls : frame.deliveries client.messageHandlers = [] := by
      rw [MqttFrame.deliveries, if_neg hpublish]
    have hanswered := cycleEnd_answers hthrough
      (MqttHeader.ofByte frame.header).type (true, { client with net := net })
    rw [← hanswer] at hanswered
    exact ⟨_, rfl, hanswered.took_quiet hcalls, hanswered.socket,
      hanswered.well,
      (cycleEnd_rc _ _ _).trans (MqttFrame.result_of_other hpublish).symm⟩

/-! ## Runs -/

/-- A call takes nothing or the next packet, and leaves the packets behind
it. -/
theorem cycle_of_streams {input : CycleInput} (hthrough : input.Through)
    {client : MqttClient Handler} (hroom : 4 ≤ client.bufSize)
    {frames : List MqttFrame} (hsane : ∀ frame ∈ frames, frame.Sane)
    (hstreams : Streams frames (wire client.net.socket)) :
    ∃ outcome handled more, cycle input client = some outcome ∧
      frames = handled ++ more ∧ client.Took outcome.2 handled ∧
      (¬ outcome.2.net.Broken →
        Streams more (wire outcome.2.net.socket)) := by
  have hstep := readPacket_of_streams hstreams client.readbufSize
  generalize hread : readPacket client.readbufSize client.net = read at hstep
  obtain ⟨packet, net⟩ := read
  by_cases hbroken : net.Broken
  · obtain ⟨outcome, hcycle, htook, hgone⟩ :=
      cycle_of_broken input hread hbroken
    exact ⟨outcome, [], frames, hcycle, rfl, htook,
      fun hwell => absurd hgone hwell⟩
  · rcases hstep with habsurd | ⟨hnone, hrest⟩ |
      ⟨frame, more, rfl, hsome, hrest⟩
    · exact absurd habsurd hbroken
    · simp only at hnone
      obtain ⟨outcome, hcycle, hsteps⟩ :=
        cycle_of_none hthrough (hnone ▸ hread)
      exact ⟨outcome, [], frames, hcycle, rfl, hsteps.took,
        fun _ => hsteps.socket ▸ hrest⟩
    · simp only at hsome
      obtain ⟨outcome, hcycle, hsteps⟩ :=
        cycle_of_packet hthrough hroom (hsane frame List.mem_cons_self)
          (hsome ▸ hread) hbroken
      exact ⟨outcome, [frame], more, hcycle, rfl, hsteps.took,
        fun _ => hsteps.socket ▸ hrest⟩

theorem runCycles_of_streams {inputs : List CycleInput}
    (hthrough : ∀ input ∈ inputs, input.Through)
    {client : MqttClient Handler} (hroom : 4 ≤ client.bufSize)
    {frames : List MqttFrame} (hsane : ∀ frame ∈ frames, frame.Sane)
    (hstreams : Streams frames (wire client.net.socket)) :
    ∃ next handled, runCycles inputs client = some next ∧
      handled <+: frames ∧ client.Took next handled := by
  induction inputs generalizing client frames with
  | nil =>
      exact ⟨client, [], rfl, List.nil_prefix,
        (MqttClient.Answered.refl client).took_nil⟩
  | cons input inputs ih =>
      obtain ⟨outcome, handled, more, hcycle, rfl, htook, hmore⟩ :=
        cycle_of_streams (hthrough input List.mem_cons_self) hroom hsane
          hstreams
      rw [runCycles, hcycle]
      simp only [Option.bind_eq_bind, Option.bind_some, Option.pure_def]
      by_cases hbroken : outcome.2.net.Broken
      · rw [if_pos hbroken]
        exact ⟨outcome.2, handled, rfl, List.prefix_append _ _, htook⟩
      · rw [if_neg hbroken]
        obtain ⟨next, later, hrun, hprefix, hlater⟩ := ih
          (fun other hother => hthrough other (List.mem_cons_of_mem _ hother))
          (htook.bufSize ▸ hroom)
          (fun frame hframe => hsane frame (List.mem_append_right _ hframe))
          (hmore hbroken)
        exact ⟨next, handled ++ later, hrun,
          (List.prefix_append_right_inj _).mpr hprefix, htook.trans hlater⟩

theorem runCycles_of_delivers {inputs : List CycleInput}
    (hthrough : ∀ input ∈ inputs, input.Through)
    {client : MqttClient Handler} (hroom : 4 ≤ client.bufSize)
    {frames : List MqttFrame} (hsane : ∀ frame ∈ frames, frame.Sane)
    (hdelivers : Delivers inputs.length frames (wire client.net.socket))
    (hfit : ∀ frame ∈ frames,
      frame.packet.length ≤ client.readbufSize) :
    ∃ next, runCycles inputs client = some next ∧
      client.Took next frames := by
  induction inputs generalizing client frames with
  | nil =>
      generalize wire client.net.socket = events at hdelivers
      cases hdelivers
      exact ⟨client, rfl, (MqttClient.Answered.refl client).took_nil⟩
  | cons input inputs ih =>
      have hnow := hthrough input List.mem_cons_self
      have hinputs : ∀ other ∈ inputs, other.Through :=
        fun other hother => hthrough other (List.mem_cons_of_mem _ hother)
      rw [runCycles]
      generalize hevents : wire client.net.socket = events at hdelivers
      cases hdelivers with
      | paused hrest =>
          obtain ⟨socket, hread, hleft⟩ :=
            readPacket_of_failed hevents client.readbufSize
          obtain ⟨outcome, hcycle, hsteps⟩ := cycle_of_none hnow hread
          obtain ⟨next, hrun, hlater⟩ := @ih hinputs outcome.2
            (hsteps.took.bufSize ▸ hroom) frames hsane
            (by rw [hsteps.socket, hleft]; exact hrest)
            (hsteps.took.readbufSize ▸ hfit)
          rw [hcycle]
          simp only [Option.bind_eq_bind, Option.bind_some, Option.pure_def]
          rw [if_neg (hsteps.well (by simp [MqttNet.Broken]))]
          exact ⟨next, hrun, hsteps.took.trans hlater⟩
      | @sent calls frame more rest hrest =>
          obtain ⟨socket, hread, hleft⟩ := readPacket_of_packet hevents
            (hfit frame List.mem_cons_self)
          obtain ⟨outcome, hcycle, hsteps⟩ :=
            cycle_of_packet hnow hroom (hsane frame List.mem_cons_self) hread
              (not_broken_succ socket)
          obtain ⟨next, hrun, hlater⟩ := @ih hinputs outcome.2
            (hsteps.took.bufSize ▸ hroom) more
            (fun other hother => hsane other (List.mem_cons_of_mem _ hother))
            (by rw [hsteps.socket, hleft]; exact hrest)
            (fun other hother => hsteps.took.readbufSize ▸
              hfit other (List.mem_cons_of_mem _ hother))
          rw [hcycle]
          simp only [Option.bind_eq_bind, Option.bind_some, Option.pure_def]
          rw [if_neg (hsteps.well (not_broken_succ socket))]
          exact ⟨next, hrun, hsteps.took.trans hlater⟩

/-- The client hands each publication to the callbacks of the filters that
its topic is or matches, once and in the order in which the server has sent
them, and answers each packet as its type and quality ask: never more than
the packets from the first on, and all of them once they have arrived and fit
the read buffer. -/
theorem runCycles_took {inputs : List CycleInput}
    (hthrough : ∀ input ∈ inputs, input.Through)
    {client : MqttClient Handler} (hroom : 4 ≤ client.bufSize)
    {frames : List MqttFrame} (hsane : ∀ frame ∈ frames, frame.Sane) :
    (Streams frames (wire client.net.socket) →
        ∃ next handled, runCycles inputs client = some next ∧
          handled <+: frames ∧ client.Took next handled) ∧
      (Delivers inputs.length frames (wire client.net.socket) →
        (∀ frame ∈ frames, frame.packet.length ≤ client.readbufSize) →
          ∃ next, runCycles inputs client = some next ∧
            client.Took next frames) :=
  ⟨runCycles_of_streams hthrough hroom hsane,
    runCycles_of_delivers hthrough hroom hsane⟩

/-- "hi" on the topic "a/b", with quality one. -/
def greetingFrame : MqttFrame :=
  ⟨0x32, [0, 3, 97, 47, 98, 0, 5, 104, 105], by decide⟩

/-- A client that subscribes to "a/+", with the greeting on its way in two
pieces. -/
def greetedClient : MqttClient ℕ where
  net := ⟨[.data 0x32 [9, 0, 3, 97], .data 47 [98, 0, 5, 104, 105]], .succ⟩
  bufSize := 16
  readbufSize := 16
  messageHandlers := [([97, 47, 43], some 1), ([], none)]
  keepAliveInterval := 0
  pingOutstanding := false
  delivered := []
  written := []

theorem runCycles_took_greeting :
    ∃ next, runCycles [⟨[], [.wrote 4 false], false, [.wrote 2 false]⟩]
        greetedClient = some next ∧
      next.delivered.map (fun call => (call.1, call.2.content)) =
        [(1, ⟨0, 1, 0, 5, [97, 47, 98], [104, 105]⟩)] ∧
      next.answers = [(.puback, [0x40, 2, 0, 5])] := by
  have hthrough : CycleInput.Through
      ⟨[], [.wrote 4 false], false, [.wrote 2 false]⟩ :=
    ⟨fun _ _ => rfl, by decide⟩
  have hwhole : PublishWhole greetingFrame.header greetingFrame.body := by
    decide
  have hsane : greetingFrame.Sane := ⟨fun _ => hwhole, fun _ => by decide⟩
  have hdelivers : Delivers 1 [greetingFrame]
      (singles greetingFrame.packet ++ []) := .sent .done
  obtain ⟨next, hrun, htook⟩ := (@runCycles_took ℕ
    [⟨[], [.wrote 4 false], false, [.wrote 2 false]⟩]
    (List.forall_mem_singleton.mpr hthrough) greetedClient (by decide)
    [greetingFrame] (List.forall_mem_singleton.mpr hsane)).2 hdelivers
    (List.forall_mem_singleton.mpr (by decide))
  have hdelivered : next.delivered.map
      (fun call => (call.1, call.2.content)) =
        [(1, ⟨0, 1, 0, 5, [97, 47, 98], [104, 105]⟩)] := by
    rw [htook.delivered]
    decide
  have hanswers : next.answers = [(.puback, [0x40, 2, 0, 5])] := by
    rw [htook.answers]
    decide
  exact ⟨next, hrun, hdelivered, hanswers⟩

end EziotSdk
