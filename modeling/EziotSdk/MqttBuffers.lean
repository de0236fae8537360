import EziotSdk.MqttPackets

/-!
# Buffers of the MQTT serializers

Each serializer checks its buffer once, against its own count of the bytes.
The count is an estimate that is right below `2 ^ 28`, the largest length that
the protocol knows; two serializers of the server's side count too little, and
a connect packet of an unknown version is counted without its first fields.
-/

namespace EziotSdk

/-! ## Lengths -/

theorem length_lengthBytes_le_iff {count places length : ℕ}
    (hplaces : places < count) :
    (lengthBytes (count + 1) length).length ≤ places + 1 ↔
      length < 128 ^ (places + 1) := by
  induction places generalizing count length with
  | zero =>
      cases count with
      | zero => omega
      | succ count =>
          rw [lengthBytes]
          by_cases hmore : length / 128 > 0
          · rw [if_pos hmore, lengthBytes]
            split <;> simp <;> omega
          · rw [if_neg hmore]
            simp
            omega
  | succ places ih =>
      cases count with
      | zero => omega
      | succ count =>
          rw [lengthBytes]
          by_cases hmore : length / 128 > 0
          · have hrest := @ih count (length / 128) (by omega)
            rw [if_pos hmore, List.length_cons, Nat.add_le_add_iff_right,
              hrest, Nat.div_lt_iff_lt_mul (by omega), ← Nat.pow_succ]
          · have hsmall : length < 128 ^ (places + 1 + 1) := by
              calc length < 128 := by omega
                _ = 128 ^ 1 := by norm_num
                _ ≤ 128 ^ (places + 1 + 1) :=
                    Nat.pow_le_pow_right (by omega) (by omega)
            rw [if_neg hmore]
            simp [hsmall]

theorem length_mqttPacketEncode_le_iff {length places : ℕ}
    (hplaces : places < 4) :
    (mqttPacketEncode length).length ≤ places + 1 ↔
      length < 128 ^ (places + 1) :=
  length_lengthBytes_le_iff hplaces

/-- The seven bits of a byte and the bytes behind it, as a decoder adds
them. -/
theorem addSeven_eq (length multiplier value : ℕ) :
    value + length % 128 * multiplier + length / 128 * (multiplier * 128) =
      value + length * multiplier := by
  have hsplit := Nat.mod_add_div length 128
  calc value + length % 128 * multiplier + length / 128 * (multiplier * 128)
      = value + (length % 128 + 128 * (length / 128)) * multiplier := by ring
    _ = value + length * multiplier := by rw [hsplit]

theorem length_mqttPacketEncode_pos (length : ℕ) :
    0 < (mqttPacketEncode length).length := by
  unfold mqttPacketEncode lengthBytes
  split <;> simp

theorem length_mqttPacketEncode_le (length : ℕ) :
    (mqttPacketEncode length).length ≤ 5 :=
  length_lengthBytes_le 5 length

/-- The estimate covers the packet as long as four bytes hold the length. -/
theorem estimate_covers_iff (remLen : ℕ) :
    1 + (mqttPacketEncode remLen).length + remLen ≤ mqttPacketLen remLen ↔
      remLen < 2 ^ 28 := by
  have hone := @length_mqttPacketEncode_le_iff remLen 0 (by omega)
  have htwo := @length_mqttPacketEncode_le_iff remLen 1 (by omega)
  have hthree := @length_mqttPacketEncode_le_iff remLen 2 (by omega)
  have hfour := @length_mqttPacketEncode_le_iff remLen 3 (by omega)
  have hmost := length_mqttPacketEncode_le remLen
  norm_num at hone htwo hthree hfour ⊢
  unfold mqttPacketLen
  split_ifs <;> omega

/-! ## Strings -/

namespace MqttString

/-- Only one of the two forms is in use, and the pointer of the second leads
to as many bytes as it says. -/
structure Consistent (string : MqttString) : Prop where
  single : string.cstring = none ∨ string.lenstring.len = 0
  held : string.lenstring.len ≤ (string.lenstring.data.getD []).length

theorem consistent_ofCString (text : Bytes) : (ofCString text).Consistent where
  single := Or.inr rfl
  held := Nat.zero_le _

end MqttString

theorem length_writeInt (anInt : ℕ) : (writeInt anInt).length = 2 := rfl

/-- What `MQTTstrlen` counts is what is written behind the length. -/
theorem length_writeMqttString {string : MqttString}
    (hconsistent : string.Consistent) :
    (writeMqttString string).length = string.strlen + 2 := by
  have hheld := hconsistent.held
  unfold writeMqttString MqttString.strlen
  by_cases hlen : string.lenstring.len > 0
  · rcases hconsistent.single with hnone | hzero
    · rw [if_pos hlen, hnone, List.length_append, length_writeInt,
        MqttLenString.text, List.length_take]
      simp only
      omega
    · omega
  · rw [if_neg hlen]
    cases string.cstring with
    | some text =>
        simp only [writeCString, List.length_append, length_writeInt]
        omega
    | none =>
        simp only [length_writeInt]
        omega

theorem length_writeSupplied {string : MqttString}
    (hconsistent : string.Consistent) :
    (writeSupplied string).length = suppliedLength string := by
  unfold writeSupplied suppliedLength
  split
  · exact length_writeMqttString hconsistent
  · rfl

/-! ## Requests -/

/-- A call of a serializer. -/
inductive MqttRequest where
  | connect (options : MqttConnectData)
  | connack (connackRc : UInt8) (sessionPresent : ℕ)
  | publish (message : MqttPublish)
  | ack (packettype : MqttMsgType) (dup packetid : ℕ)
  | subscribe (dup packetid : ℕ) (filters : List MqttFilter)
  | suback (packetid : ℕ) (grantedQoSs : List ℕ)
  | unsubscribe (dup packetid : ℕ) (topicFilters : List MqttString)
  | zero (packettype : MqttMsgType)
  deriving DecidableEq, Repr

namespace MqttRequest

def serialize (buflen : ℕ) : MqttRequest → Except ℤ Bytes
  | connect options => serializeConnect buflen options
  | connack connackRc sessionPresent =>
      serializeConnack buflen connackRc sessionPresent
  | publish message => serializePublish buflen message
  | ack packettype dup packetid => serializeAck buflen packettype dup packetid
  | subscribe dup packetid filters =>
      serializeSubscribe buflen dup packetid filters
  | suback packetid grantedQoSs => serializeSuback buflen packetid grantedQoSs
  | unsubscribe dup packetid topicFilters =>
      serializeUnsubscribe buflen dup packetid topicFilters
  | zero packettype => serializeZero buflen packettype

def strings : MqttRequest → List MqttString
  | connect options =>
      options.clientID :: options.username :: options.password ::
        options.will.toList.flatMap fun will => [will.topicName, will.message]
  | publish message => [message.topicName]
  | subscribe _ _ filters => filters.map MqttFilter.topicFilter
  | unsubscribe _ _ topicFilters => topicFilters
  | connack _ _ | ack _ _ _ | suback _ _ | zero _ => []

/-- A packet of a header byte, the length of its body and the body, inside the
buffer. -/
def Framed (buflen : ℕ) (packet : Bytes) : Prop :=
  packet.length ≤ buflen ∧ ∃ header body,
    packet = header :: mqttPacketEncode body.length ++ body

/-- The serializer keeps to its buffer and announces what it writes, whatever
the size of the buffer. -/
def Sound (request : MqttRequest) : Prop :=
  ∀ buflen packet, request.serialize buflen = .ok packet →
    Framed buflen packet

/-- The bytes are counted right. -/
def Counted : MqttRequest → Prop
  | connect options =>
      (options.mqttVersion = 3 ∨ options.mqttVersion = 4) ∧
        serializeConnectLength options < 2 ^ 28
  | publish message =>
      serializePublishLength message.qos message.topicName
        message.payload.length < 2 ^ 28
  | subscribe _ _ filters => serializeSubscribeLength filters < 2 ^ 28
  | unsubscribe _ _ topicFilters =>
      serializeUnsubscribeLength topicFilters < 2 ^ 28
  | ack _ _ _ | zero _ => True
  | connack _ _ | suback _ _ => False

end MqttRequest

theorem writePacket_ok_iff {buflen needed remLen : ℕ} {header : MqttHeader}
    {body packet : Bytes} :
    writePacket buflen needed header remLen body = .ok packet ↔
      needed ≤ buflen ∧
        header.byte :: mqttPacketEncode remLen ++ body = packet := by
  unfold writePacket
  split
  · simp
    omega
  · simp
    omega

theorem length_packet (byte : UInt8) (remLen : ℕ) (body : Bytes) :
    (byte :: mqttPacketEncode remLen ++ body).length =
      1 + (mqttPacketEncode remLen).length + body.length := by
  simp
  omega

/-- A serializer that counts its body keeps to every buffer exactly if its
check asks for no less than it writes. -/
theorem framed_iff_of_counted {needed remLen : ℕ} {header : MqttHeader}
    {body : Bytes} (hbody : body.length = remLen) :
    (∀ buflen packet,
        writePacket buflen needed header remLen body = .ok packet →
          MqttRequest.Framed buflen packet) ↔
      1 + (mqttPacketEncode remLen).length + remLen ≤ needed := by
  constructor
  · intro hsound
    have hframed := hsound needed _ (writePacket_ok_iff.mpr ⟨le_rfl, rfl⟩)
    have hlength := hframed.1
    rw [length_packet, hbody] at hlength
    exact hlength
  · intro hneeded buflen packet hpacket
    obtain ⟨hbuflen, rfl⟩ := writePacket_ok_iff.mp hpacket
    refine ⟨?_, header.byte, body, by rw [hbody]⟩
    rw [length_packet, hbody]
    omega

theorem length_subscribeBody {packetid : ℕ} {filters : List MqttFilter}
    (hconsistent : ∀ filter ∈ filters, filter.topicFilter.Consistent) :
    (writeInt packetid ++ filters.flatMap writeFilter).length =
      serializeSubscribeLength filters := by
  rw [List.length_append, length_writeInt, serializeSubscribeLength,
    Nat.add_left_cancel_iff]
  induction filters with
  | nil => rfl
  | cons filter rest ih =>
      have hrest := ih fun other hother =>
        hconsistent other (List.mem_cons_of_mem _ hother)
      have hhead := length_writeMqttString
        (hconsistent filter List.mem_cons_self)
      rw [List.flatMap_cons, List.length_append, hrest, List.map_cons,
        List.sum_cons, writeFilter, List.length_append, hhead]
      simp only [List.length_singleton]
      omega

theorem length_unsubscribeBody {packetid : ℕ} {topicFilters : List MqttString}
    (hconsistent : ∀ topicFilter ∈ topicFilters, topicFilter.Consistent) :
    (writeInt packetid ++ topicFilters.flatMap writeMqttString).length =
      serializeUnsubscribeLength topicFilters := by
  rw [List.length_append, length_writeInt, serializeUnsubscribeLength,
    Nat.add_left_cancel_iff]
  induction topicFilters with
  | nil => rfl
  | cons topicFilter rest ih =>
      have hrest := ih fun other hother =>
        hconsistent other (List.mem_cons_of_mem _ hother)
      have hhead := length_writeMqttString
        (hconsistent topicFilter List.mem_cons_self)
      rw [List.flatMap_cons, List.length_append, hrest, List.map_cons,
        List.sum_cons, hhead]
      omega

theorem length_publishBody {message : MqttPublish}
    (hconsistent : message.topicName.Consistent) :
    (publishBody message).length =
      serializePublishLength message.qos message.topicName
        message.payload.length := by
  rw [publishBody, List.length_append, List.length_append,
    length_writeMqttString hconsistent, serializePublishLength]
  split
  · rw [length_writeInt]
    omega
  · rw [List.length_nil]
    omega

theorem length_writeProtocol (mqttVersion : ℕ) :
    (writeProtocol mqttVersion).length = if mqttVersion = 4 then 7 else 9 := by
  unfold writeProtocol
  split <;> rfl

theorem length_connectBody {options : MqttConnectData}
    (hconsistent : ∀ string ∈ (MqttRequest.connect options).strings,
      string.Consistent) :
    (connectBody options).length =
      serializeConnectLength options +
        if options.mqttVersion = 3 ∨ options.mqttVersion = 4 then 0
        else 12 := by
  have hclient := length_writeMqttString
    (hconsistent options.clientID (by simp [MqttRequest.strings]))
  have husername := length_writeSupplied
    (hconsistent options.username (by simp [MqttRequest.strings]))
  have hpassword := length_writeSupplied
    (hconsistent options.password (by simp [MqttRequest.strings]))
  simp only [connectBody, List.length_append, length_writeProtocol,
    List.length_singleton, length_writeInt, hclient, husername, hpassword,
    serializeConnectLength]
  cases hwill : options.will with
  | none =>
      simp only [writeWill, List.length_nil]
      split_ifs <;> omega
  | some will =>
      have htopic := length_writeMqttString
        (hconsistent will.topicName (by simp [MqttRequest.strings, hwill]))
      have hmessage := length_writeMqttString
        (hconsistent will.message (by simp [MqttRequest.strings, hwill]))
      simp only [writeWill, List.length_append, htopic, hmessage]
      split_ifs <;> omega

theorem mqttPacketLen_le (remLen : ℕ) : mqttPacketLen remLen ≤ remLen + 5 := by
  unfold mqttPacketLen
  split_ifs <;> omega

/-- A serializer stays inside its buffer and announces the bytes it writes
exactly if it counts them right: not for a connect packet of a version other
than 3 and 4, not for a body from `2 ^ 28` bytes on, and for no answer of the
server's side. -/
theorem sound_iff_counted {request : MqttRequest}
    (hconsistent : ∀ string ∈ request.strings, string.Consistent) :
    request.Sound ↔ request.Counted := by
  cases request with
  | connect options =>
      have hbody := length_connectBody hconsistent
      by_cases hversion : options.mqttVersion = 3 ∨ options.mqttVersion = 4
      · rw [if_pos hversion, Nat.add_zero] at hbody
        exact (framed_iff_of_counted hbody).trans
          ((estimate_covers_iff _).trans (by
            simp only [MqttRequest.Counted, hversion, true_and]))
      · rw [if_neg hversion] at hbody
        constructor
        · intro hsound
          have hframed := hsound _ _ (writePacket_ok_iff.mpr ⟨le_rfl, rfl⟩)
          have hlength := hframed.1
          have hestimate := mqttPacketLen_le (serializeConnectLength options)
          rw [length_packet, hbody] at hlength
          omega
        · intro hcounted
          exact absurd hcounted.1 hversion
  | connack connackRc sessionPresent =>
      have hunsafe := @framed_iff_of_counted 2 2
        ⟨MqttMsgType.connack.code, 0, 0, 0⟩
        [UInt8.ofNat (sessionPresent % 2 * 128), connackRc] rfl
      refine hunsafe.trans ?_
      simp only [MqttRequest.Counted, iff_false]
      decide
  | publish message =>
      exact (framed_iff_of_counted (length_publishBody
        (hconsistent _ (List.mem_singleton_self _)))).trans
        (estimate_covers_iff _)
  | ack packettype dup packetid =>
      have hsafe := @framed_iff_of_counted 4 2
        ⟨packettype.code, dup, if packettype = .pubrel then 1 else 0, 0⟩
        (writeInt packetid) rfl
      refine hsafe.trans ?_
      simp only [MqttRequest.Counted, iff_true]
      decide
  | subscribe dup packetid filters =>
      exact (framed_iff_of_counted (length_subscribeBody fun filter hfilter =>
        hconsistent _ (List.mem_map_of_mem hfilter))).trans
        (estimate_covers_iff _)
  | suback packetid grantedQoSs =>
      refine (framed_iff_of_counted (by
        simp [length_writeInt])).trans ?_
      simp only [MqttRequest.Counted, iff_false]
      omega
  | unsubscribe dup packetid topicFilters =>
      exact (framed_iff_of_counted (length_unsubscribeBody hconsistent)).trans
        (estimate_covers_iff _)
  | zero packettype =>
      have hsafe := @framed_iff_of_counted 2 0 ⟨packettype.code, 0, 0, 0⟩ []
        rfl
      refine hsafe.trans ?_
      simp only [MqttRequest.Counted, iff_true]
      decide

/-- A connect packet of version 5, without a client's name. -/
theorem sound_iff_counted_unknown :
    ¬ (MqttRequest.connect ⟨5, .ofCString [], 60, 1, none,
        .ofCString [], .ofCString []⟩).Sound := by
  have hconsistent : ∀ string ∈ (MqttRequest.connect ⟨5, .ofCString [], 60, 1,
      none, .ofCString [], .ofCString []⟩).strings, string.Consistent := by
    intro string hstring
    have hempty : string = .ofCString [] := by
      simpa [MqttRequest.strings] using hstring
    rw [hempty]
    exact MqttString.consistent_ofCString []
  intro hsound
  have hcounted := (sound_iff_counted hconsistent).mp hsound
  exact absurd hcounted.1 (by decide)

end EziotSdk
