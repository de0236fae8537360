import EziotSdk.MqttClientRuns

/-!
# Where the MQTT client leaves its buffer

The deserializers return the number of bytes of the length field where they
give up, and `cycle` takes one for success.  A short packet that does not hold
its fields is then handled all the same: its topic is a null pointer, and a
packet id was never read.
-/

namespace EziotSdk

open ErrorState

variable {Handler : Type}

/-! ## What is in the read buffer -/

theorem length_halNetTcpRead {size : ℕ} {socket left : Socket} {bytes : Bytes}
    (hread : halNetTcpRead size socket = (.ok bytes, left)) :
    bytes.length = size := by
  induction socket generalizing size bytes left with
  | nil => cases hread
  | cons event rest ih =>
      cases event with
      | failed error => cases hread
      | data first more =>
          rw [halNetTcpRead] at hread
          split_ifs at hread with hzero hle
          · cases hread
          · cases hread
            rw [List.length_take, List.length_cons]
            omega
          · simp only at hread
            cases hrest : halNetTcpRead (size - (more.length + 1)) rest with
            | mk outcome socket =>
                rw [hrest] at hread
                cases outcome with
                | error error => cases hread
                | ok tail =>
                    have hlength := ih hrest
                    cases hread
                    rw [List.length_append, List.length_cons]
                    omega

theorem length_mqttNetRead {size : ℕ} {net next : MqttNet} {bytes : Bytes}
    (hread : mqttNetRead size net = (some bytes, next)) :
    bytes.length = size := by
  unfold mqttNetRead at hread
  cases houtcome : halNetTcpRead size net.socket with
  | mk outcome socket =>
      rw [houtcome] at hread
      cases outcome with
      | error error => cases hread
      | ok read =>
          cases hread
          exact length_halNetTcpRead houtcome

/-- Four bytes hold no more. -/
theorem decodePacket_le (rounds multiplier value : ℕ) (net : MqttNet) :
    (decodePacket rounds multiplier value net).1 + multiplier ≤
      value + multiplier * 128 ^ rounds := by
  induction rounds generalizing multiplier value net with
  | zero =>
      rw [decodePacket, Nat.pow_zero, Nat.mul_one]
  | succ rounds ih =>
      have hpow : multiplier ≤ multiplier * 128 ^ (rounds + 1) :=
        Nat.le_mul_of_pos_right _ (Nat.pow_pos (by norm_num))
      have hpow' : multiplier * 128 ≤ multiplier * 128 ^ (rounds + 1) := by
        rw [Nat.pow_succ', ← Nat.mul_assoc]
        exact Nat.le_mul_of_pos_right _ (Nat.pow_pos (by norm_num))
      rw [decodePacket]
      cases hread : mqttNetRead 1 net with
      | mk bytes next =>
          cases bytes with
          | none =>
              simp only
              omega
          | some bytes =>
              have hdigit : (bytes.headD 0).toNat % 128 * multiplier ≤
                  127 * multiplier :=
                Nat.mul_le_mul_right _ (by omega)
              simp only
              split_ifs
              · simp only
                omega
              · have hrest := ih (multiplier * 128)
                  (value + (bytes.headD 0).toNat % 128 * multiplier) next
                rw [Nat.mul_assoc, ← pow_succ'] at hrest
                omega

/-- What is handled is a packet: even where its length field was not read to
the end, its length is that of its body. -/
theorem readPacket_frame {readbufSize : ℕ} {net next : MqttNet}
    {packet : Bytes}
    (hread : readPacket readbufSize net = (some packet, next)) :
    ∃ frame : MqttFrame, packet = frame.packet := by
  unfold readPacket at hread
  cases hheader : mqttNetRead 1 net with
  | mk header first =>
      rw [hheader] at hread
      cases header with
      | none => cases hread
      | some header =>
          obtain ⟨byte, rfl⟩ : ∃ byte, header = [byte] :=
            List.length_eq_one_iff.mp (length_mqttNetRead hheader)
          have hbound := decodePacket_le 4 1 0 first
          simp only at hread
          generalize decodePacket 4 1 0 first = decoded at hread hbound
          obtain ⟨remLen, second⟩ := decoded
          simp only at hread hbound
          by_cases hlarge :
              readbufSize < remLen + ([byte] ++ mqttPacketEncode remLen).length
          · rw [if_pos hlarge] at hread
            cases hread
          rw [if_neg hlarge] at hread
          by_cases hzero : remLen = 0
          · rw [if_pos hzero, hzero] at hread
            cases hread
            exact ⟨⟨byte, [], by norm_num⟩, (List.append_nil _).symm⟩
          · rw [if_neg hzero] at hread
            cases hbody : mqttNetRead remLen second with
            | mk body third =>
                rw [hbody] at hread
                cases body with
                | none => cases hread
                | some body =>
                    have hlength := length_mqttNetRead hbody
                    cases hread
                    subst hlength
                    exact ⟨⟨byte, body, by omega⟩, rfl⟩

/-! ## Delivery -/

theorem handlerTakes_eq_none_iff (topicFilter : Bytes)
    (topicName : MqttLenString) :
    handlerTakes topicFilter topicName = none ↔
      topicName.data = none ∧ topicName.len ≠ 0 ∧
        topicFilter.length = topicName.len := by
  have hequals : handlerTakes topicFilter topicName = none ↔
      packetEquals topicName topicFilter = none := by
    rw [handlerTakes]
    cases packetEquals topicName topicFilter <;> simp
  rw [hequals, packetEquals]
  split_ifs with hlen hzero
  · simp [Ne.symm hlen]
  · simp [hzero]
  · rw [not_not] at hlen
    simp [hzero, ← hlen]

/-- Only a topic that does not fit is compared through a null pointer, and
only with a filter of the length that it claims. -/
theorem deliverMessage_eq_none_iff (message : PublishOut)
    (handlers : List (Bytes × Option Handler)) :
    deliverMessage message handlers = none ↔
      message.topicName.data = none ∧ message.topicName.len ≠ 0 ∧
        ∃ handler ∈ handlers,
          handler.1.length = message.topicName.len := by
  induction handlers with
  | nil =>
      rw [deliverMessage]
      simp
  | cons handler handlers ih =>
      have hstep : deliverMessage message (handler :: handlers) = none ↔
          handlerTakes handler.1 message.topicName = none ∨
            deliverMessage message handlers = none := by
        rw [deliverMessage]
        cases handlerTakes handler.1 message.topicName with
        | none => simp
        | some taken => cases deliverMessage message handlers <;> simp
      rw [hstep, ih, handlerTakes_eq_none_iff]
      simp only [List.mem_cons, exists_eq_or_imp]
      tauto

/-! ## Packets -/

namespace MqttFrame

/-- A publication whose packet id lies behind the buffer, or that claims a
topic as long as one of the filters without holding it, or a first answer
without its packet id. -/
def Faults (handlers : List (Bytes × Option Handler)) (stale : Bytes)
    (frame : MqttFrame) : Prop :=
  let header := MqttHeader.ofByte frame.header
  header.type = MqttMsgType.publish.code ∧
      (StringFits frame.body ∧ header.qos ≠ 0 ∧
          (afterString frame.body ++ stale).length < 2 ∨
        ¬ StringFits frame.body ∧ 2 ≤ frame.body.length ∧
          frame.body.length < 128 ∧
          ∃ handler ∈ handlers, handler.1.length = intAt frame.body) ∨
    header.type = MqttMsgType.pubrec.code ∧ frame.body.length < 2

end MqttFrame

theorem length_encode_eq_one_iff (length : ℕ) :
    (mqttPacketEncode length).length = 1 ↔ length < 128 := by
  have hle := @length_mqttPacketEncode_le_iff length 0 (by omega)
  have hpos := length_mqttPacketEncode_pos length
  rw [Nat.zero_add, pow_one] at hle
  omega

/-- After a success, only the delivery may go wrong. -/
theorem cyclePublish_of_read {buf : Bytes} {rc : ℤ} {message : PublishOut}
    (hread : deserializePublish buf = some (rc, message)) (input : CycleInput)
    (client : MqttClient Handler) :
    cyclePublish input buf client = none ↔
      rc = 1 ∧ deliverMessage message client.messageHandlers = none := by
  rw [cyclePublish, hread]
  simp only [Option.bind_eq_bind, Option.bind_some, Option.pure_def]
  split_ifs with hrc
  · simp [hrc]
  · rw [not_not] at hrc
    cases deliverMessage message client.messageHandlers <;> simp [hrc]

theorem cyclePublish_of_held {buf : Bytes} {message : PublishOut}
    (hread : deserializePublish buf = some (1, message))
    (hdata : message.topicName.data ≠ none) (input : CycleInput)
    (client : MqttClient Handler) :
    cyclePublish input buf client ≠ none := by
  rw [ne_eq, cyclePublish_of_read hread, deliverMessage_eq_none_iff]
  exact fun hnone => hdata hnone.2.1

theorem cyclePublish_of_cut (input : CycleInput)
    (client : MqttClient Handler) {frame : MqttFrame}
    (htype : (MqttHeader.ofByte frame.header).type =
      MqttMsgType.publish.code) (hfits : ¬ StringFits frame.body)
    (stale : Bytes) :
    cyclePublish input (received frame.header frame.body stale) client =
        none ↔
      2 ≤ frame.body.length ∧ frame.body.length < 128 ∧
        ∃ handler ∈ client.messageHandlers,
          handler.1.length = intAt frame.body := by
  rw [cyclePublish_of_read
      (deserializePublish_of_not_fits htype frame.fits hfits stale),
    deliverMessage_eq_none_iff, Nat.cast_eq_one, length_encode_eq_one_iff,
    PublishOut.cut]
  split_ifs with hlong
  · have hclaimed : intAt frame.body ≠ 0 := by
      intro hzero
      exact hfits ⟨hlong, by omega⟩
    simp only [hlong, hclaimed, true_and, ne_eq, not_false_eq_true]
  · simp [hlong, PublishOut.headed, PublishOut.init]

theorem cyclePublish_eq_none_iff (input : CycleInput)
    (client : MqttClient Handler) {frame : MqttFrame}
    (htype : (MqttHeader.ofByte frame.header).type =
      MqttMsgType.publish.code) (stale : Bytes) :
    cyclePublish input (received frame.header frame.body stale) client =
        none ↔
      StringFits frame.body ∧ (MqttHeader.ofByte frame.header).qos ≠ 0 ∧
          (afterString frame.body ++ stale).length < 2 ∨
        ¬ StringFits frame.body ∧ 2 ≤ frame.body.length ∧
          frame.body.length < 128 ∧
          ∃ handler ∈ client.messageHandlers,
            handler.1.length = intAt frame.body := by
  by_cases hfits : StringFits frame.body
  · by_cases hqos : (MqttHeader.ofByte frame.header).qos = 0
    · have hread :=
        deserializePublish_of_plain htype frame.fits hfits hqos stale
      have hheld := cyclePublish_of_held hread (Option.some_ne_none _) input
        client
      simp [hheld, hfits, hqos]
    · have hpos : (MqttHeader.ofByte frame.header).qos > 0 := by omega
      by_cases hshort : (afterString frame.body ++ stale).length < 2
      · have hread :=
          deserializePublish_of_short htype frame.fits hfits hpos hshort
        rw [cyclePublish, hread]
        simp only [hfits, hqos, hshort, ne_eq, not_false_eq_true, true_and,
          not_true_eq_false, false_and, or_false, iff_true]
        rfl
      · have hread := deserializePublish_of_long htype frame.fits hfits hpos
          (Nat.le_of_not_lt hshort)
        have hheld := cyclePublish_of_held hread (Option.some_ne_none _)
          input client
        simp only [hheld, hfits, hshort, and_false, not_true_eq_false,
          false_and, or_self]
  · rw [cyclePublish_of_cut input client htype hfits]
    simp [hfits]

theorem deserializeAck_of_short {byte : UInt8} {body : Bytes}
    (hshort : body.length < 2) (rest : Bytes) :
    deserializeAck (received byte body rest) =
      some (1, ⟨(MqttHeader.ofByte byte).type, (MqttHeader.ofByte byte).dup,
        none⟩) := by
  have hdecoded := decodeBuf_encode (show body.length < 2 ^ 28 by omega)
    (body ++ rest) (0 - 1)
    (AckOut.mk (MqttHeader.ofByte byte).type (MqttHeader.ofByte byte).dup none)
  have hleft : (body.length : ℤ) < 2 := by omega
  have hcode : (mqttPacketEncode body.length).length = 1 :=
    (length_encode_eq_one_iff _).mpr (by omega)
  rw [deserializeAck, MqttStep.run, readAck, received,
    bind_of_ok (readChar_cons _ _ _ _), modifyOut_step, bind_of_ok hdecoded,
    get_step, reject_bind_of_failed hleft, hcode]
  rfl

theorem cyclePubrec_eq_none_iff (input : CycleInput)
    (client : MqttClient Handler) (frame : MqttFrame) (stale : Bytes) :
    cyclePubrec input (received frame.header frame.body stale) client =
      none ↔ frame.body.length < 2 := by
  rw [cyclePubrec]
  by_cases hshort : frame.body.length < 2
  · rw [deserializeAck_of_short hshort]
    simp [hshort]
  · rw [deserializeAck_received frame.fits (Nat.le_of_not_lt hshort)]
    simp [hshort]

/-! ## The cycle -/

theorem cycle_eq_none_of_packet (input : CycleInput)
    {client : MqttClient Handler} {frame : MqttFrame} {net : MqttNet}
    (hread : readPacket client.readbufSize client.net =
      (some frame.packet, net)) (hwell : ¬ net.Broken) :
    cycle input client = none ↔
      frame.Faults client.messageHandlers input.stale := by
  have hbuf := frame.packet_append input.stale
  have hhead : frame.packet.headD 0 = frame.header := rfl
  have hcodes : MqttMsgType.publish.code ≠ MqttMsgType.pubrec.code := by
    decide
  rw [cycle, hread, MqttFrame.Faults]
  simp only
  rw [if_neg hwell, hbuf, hhead]
  split_ifs with hpublish hpubrec hping
  · rw [cyclePublish_eq_none_iff _ _ hpublish]
    simp only [hpublish, true_and, hcodes, false_and, or_false]
  · rw [cyclePubrec_eq_none_iff]
    simp only [hpubrec, true_and, Ne.symm hcodes, false_and, false_or]
  · simp [hpublish, hpubrec]
  · simp [hpublish, hpubrec]

/-- A call leaves the read buffer, follows a null pointer or uses a variable
that was never set exactly on the packets named above.  Bytes that earlier
packets have left inside the buffer are read as any others. -/
theorem cycle_undefined_iff (input : CycleInput)
    (client : MqttClient Handler) :
    cycle input client = none ↔
      ∃ frame net, readPacket client.readbufSize client.net =
          (some (MqttFrame.packet frame), net) ∧ ¬ net.Broken ∧
        frame.Faults client.messageHandlers input.stale := by
  constructor
  · intro hnone
    cases hread : readPacket client.readbufSize client.net with
    | mk packet net =>
        have hwell : ¬ net.Broken := by
          intro hbroken
          obtain ⟨outcome, hcycle, -⟩ :=
            cycle_of_broken input hread hbroken
          rw [hcycle] at hnone
          cases hnone
        cases packet with
        | none =>
            rw [cycle, hread] at hnone
            simp only at hnone
            rw [if_neg hwell] at hnone
            cases hnone
        | some packet =>
            obtain ⟨frame, rfl⟩ := readPacket_frame hread
            exact ⟨frame, net, rfl, hwell,
              (cycle_eq_none_of_packet input hread hwell).mp hnone⟩
  · rintro ⟨frame, net, hread, hwell, hfaults⟩
    exact (cycle_eq_none_of_packet input hread hwell).mpr hfaults

/-- Two bytes that claim a topic as long as "a/+". -/
example :
    cycle ⟨[], [], false, []⟩
      { greetedClient with net := ⟨[.data 0x30 [2, 0, 3]], .succ⟩ } = none :=
  rfl

end EziotSdk
