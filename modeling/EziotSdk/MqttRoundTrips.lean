import EziotSdk.MqttReading

/-!
# What the deserializers make of a packet

The read buffer holds a packet whose length field counts its body, and
whatever was left of earlier packets behind it.
-/

namespace EziotSdk

open ErrorState

variable {Out : Type}

/-! ## Steps of the pointer -/

theorem get_step {Value : Type} (next : MqttReading Out → MqttStep Out Value)
    (reading : MqttReading Out) :
    (get >>= next) reading = next reading reading :=
  rfl

theorem modifyOut_step {Value : Type} (change : Out → Out)
    (next : Unit → MqttStep Out Value) (reading : MqttReading Out) :
    (modifyOut change >>= next) reading =
      next () { reading with out := change reading.out } :=
  rfl

theorem readChar_cons (byte : UInt8) (rest : Bytes) (left : ℤ) (out : Out) :
    readChar ⟨byte :: rest, left, out⟩ = .ok byte ⟨rest, left - 1, out⟩ :=
  rfl

theorem readInt_cons (high low : UInt8) (rest : Bytes) (left : ℤ)
    (out : Out) :
    readInt ⟨high :: low :: rest, left, out⟩ =
      .ok (256 * high.toNat + low.toNat) ⟨rest, left - 2, out⟩ := by
  have hleft : left - 2 = left - 1 - 1 := by omega
  rw [hleft]
  rfl

theorem readInt_of_short {data : Bytes} (hshort : data.length < 2)
    (left : ℤ) (out : Out) :
    ∃ reached, readInt ⟨data, left, out⟩ = .error .outOfBounds reached := by
  cases data with
  | nil => exact ⟨_, rfl⟩
  | cons byte rest =>
      cases rest with
      | nil => exact ⟨_, rfl⟩
      | cons second rest =>
          simp only [List.length_cons] at hshort
          omega

/-- The number that two bytes spell. -/
def intAt (data : Bytes) : ℕ :=
  256 * (data.headD 0).toNat + ((data.drop 1).headD 0).toNat

theorem readInt_of_long {data : Bytes} (hlong : 2 ≤ data.length) (left : ℤ)
    (out : Out) :
    readInt ⟨data, left, out⟩ =
      .ok (intAt data) ⟨data.drop 2, left - 2, out⟩ := by
  cases data with
  | nil => simp at hlong
  | cons high rest =>
      cases rest with
      | nil => simp at hlong
      | cons low rest => exact readInt_cons high low rest left out

theorem intAt_writeInt (anInt : ℕ) (rest : Bytes) :
    intAt (writeInt anInt ++ rest) = anInt % 65536 := by
  simp only [intAt, writeInt, List.cons_append, List.nil_append,
    List.headD_cons, List.drop_one, List.tail_cons, UInt8.toNat_ofNat']
  omega

theorem decodeRounds_lengthBytes (rounds : ℕ) {length : ℕ}
    (hfits : length < 128 ^ (rounds + 1)) (multiplier value : ℕ)
    (rest : Bytes) (left : ℤ) (out : Out) :
    ∃ reached, decodeRounds (rounds + 1) multiplier value
        ⟨lengthBytes (rounds + 2) length ++ rest, left, out⟩ =
      .ok ((lengthBytes (rounds + 2) length).length,
        value + length * multiplier) ⟨rest, reached, out⟩ := by
  obtain ⟨hlow, hhigh⟩ := toNat_lengthByte length
  induction rounds generalizing length multiplier value left with
  | zero =>
      have hlast : ¬ length / 128 > 0 := by omega
      have hvalue : length % 128 % 128 = length := by omega
      rw [lengthBytes, if_neg hlast, decodeRounds, List.cons_append,
        bind_of_ok (readChar_cons _ _ _ _)]
      simp only [hlow]
      rw [if_pos (Nat.mod_lt _ (by omega)), hvalue]
      exact ⟨_, rfl⟩
  | succ rounds ih =>
      rw [lengthBytes, decodeRounds]
      by_cases hmore : length / 128 > 0
      · have hrest : length / 128 < 128 ^ (rounds + 1) := by
          rw [Nat.div_lt_iff_lt_mul (by omega), ← Nat.pow_succ]
          exact hfits
        obtain ⟨reached, hdecoded⟩ := ih hrest (multiplier * 128)
          (value + length % 128 * multiplier) (left - 1)
          (toNat_lengthByte _).1 (toNat_lengthByte _).2
        have hbyte : (length % 128 + 128) % 128 = length % 128 := by omega
        rw [if_pos hmore, List.cons_append,
          bind_of_ok (readChar_cons _ _ _ _)]
        simp only [hhigh]
        rw [if_neg (by omega), hbyte, bind_of_ok hdecoded,
          addSeven_eq]
        exact ⟨reached, rfl⟩
      · have hvalue : length % 128 % 128 = length := by omega
        rw [if_neg hmore, List.cons_append,
          bind_of_ok (readChar_cons _ _ _ _)]
        simp only [hlow]
        rw [if_pos (Nat.mod_lt _ (by omega)), hvalue]
        exact ⟨_, rfl⟩

theorem decodeBuf_encode {length : ℕ} (hfits : length < 2 ^ 28)
    (rest : Bytes) (left : ℤ) (out : Out) :
    decodeBuf ⟨mqttPacketEncode length ++ rest, left, out⟩ =
      .ok (mqttPacketEncode length).length ⟨rest, length, out⟩ := by
  obtain ⟨reached, hdecoded⟩ := decodeRounds_lengthBytes 3
    (by norm_num at hfits ⊢; exact hfits) 1 0 rest left out
  rw [decodeBuf, mqttPacketEncode, bind_of_ok hdecoded]
  simp only [Nat.zero_add, Nat.mul_one]
  rfl

/-! ## Strings -/

/-- The string at the start of a body ends inside the body. -/
def StringFits (body : Bytes) : Prop :=
  2 ≤ body.length ∧ 2 + intAt body ≤ body.length

instance (body : Bytes) : Decidable (StringFits body) :=
  inferInstanceAs (Decidable (_ ∧ _))

/-- What follows the string. -/
def afterString (body : Bytes) : Bytes := body.drop (2 + intAt body)

theorem intAt_append {body : Bytes} (hlong : 2 ≤ body.length) (rest : Bytes) :
    intAt (body ++ rest) = intAt body := by
  cases body with
  | nil => simp at hlong
  | cons high tail =>
      cases tail with
      | nil => simp at hlong
      | cons low tail => rfl

theorem readMqttLenString_of_fits {body : Bytes} (hfits : StringFits body)
    (store : MqttLenString → Out → Out) (rest : Bytes) (out : Out) :
    readMqttLenString store ⟨body ++ rest, body.length, out⟩ =
      .ok true ⟨afterString body ++ rest,
        body.length - (2 + intAt body : ℕ),
        store ⟨intAt body, some (body.drop 2 ++ rest)⟩ out⟩ := by
  obtain ⟨hlong, hinside⟩ := hfits
  have hread := readInt_of_long
    (show 2 ≤ (body ++ rest).length by rw [List.length_append]; omega)
    body.length out
  rw [intAt_append hlong, List.drop_append_of_le_length hlong] at hread
  have hleft : (body.length : ℤ) > 1 := by omega
  have hlen : (intAt body : ℤ) ≤ body.length - 2 := by omega
  have hheld : ¬ (body.drop 2 ++ rest).length < intAt body := by
    rw [List.length_append, List.length_drop]
    omega
  have hdrop : (body.drop 2 ++ rest).drop (intAt body) =
      afterString body ++ rest := by
    rw [afterString,
      List.drop_append_of_le_length (by rw [List.length_drop]; omega),
      List.drop_drop]
  have hnumber : (body.length : ℤ) - 2 - intAt body =
      body.length - (2 + intAt body : ℕ) := by
    push_cast
    ring
  rw [readMqttLenString, get_step, if_pos hleft, bind_of_ok hread, get_step,
    if_pos hlen, reject_bind_of_passed hheld, ← hdrop, ← hnumber]
  rfl

theorem readMqttLenString_of_not_fits {body : Bytes}
    (hfits : ¬ StringFits body) (store : MqttLenString → Out → Out)
    (rest : Bytes) (out : Out) :
    ∃ curdata left, readMqttLenString store
        ⟨body ++ rest, body.length, out⟩ =
      .ok false ⟨curdata, left,
        if 2 ≤ body.length then store ⟨intAt body, none⟩ out else out⟩ := by
  rw [readMqttLenString, get_step]
  by_cases hlong : 2 ≤ body.length
  · have hread := readInt_of_long
      (show 2 ≤ (body ++ rest).length by rw [List.length_append]; omega)
      body.length out
    rw [intAt_append hlong] at hread
    have hlen : ¬ (intAt body : ℤ) ≤ body.length - 2 := by
      intro hle
      exact hfits ⟨hlong, by omega⟩
    have hleft : (body.length : ℤ) > 1 := by omega
    rw [if_pos hleft, bind_of_ok hread, get_step, if_neg hlen, if_pos hlong]
    exact ⟨_, _, rfl⟩
  · have hleft : ¬ (body.length : ℤ) > 1 := by omega
    rw [if_neg hleft, if_neg hlong]
    exact ⟨_, _, rfl⟩

/-! ## Publications -/

/-- The read buffer with a packet in front. -/
def received (byte : UInt8) (body rest : Bytes) : Bytes :=
  byte :: (mqttPacketEncode body.length ++ (body ++ rest))

/-- The variables after the header byte. -/
def PublishOut.headed (byte : UInt8) : PublishOut :=
  let header := MqttHeader.ofByte byte
  { PublishOut.init with
    dup := header.dup, qos := header.qos, retained := header.retain }

/-- The variables after a publication that has no packet id. -/
def PublishOut.plain (byte : UInt8) (body rest : Bytes) : PublishOut where
  dup := (MqttHeader.ofByte byte).dup
  qos := (MqttHeader.ofByte byte).qos
  retained := (MqttHeader.ofByte byte).retain
  packetid := 0
  topicName := ⟨intAt body, some (body.drop 2 ++ rest)⟩
  payload := some (afterString body ++ rest)
  payloadlen := body.length - (2 + intAt body : ℕ)

/-- The variables after a publication with a packet id, which may have been
read from behind the packet. -/
def PublishOut.numbered (byte : UInt8) (body rest : Bytes) : PublishOut where
  dup := (MqttHeader.ofByte byte).dup
  qos := (MqttHeader.ofByte byte).qos
  retained := (MqttHeader.ofByte byte).retain
  packetid := intAt (afterString body ++ rest)
  topicName := ⟨intAt body, some (body.drop 2 ++ rest)⟩
  payload := some ((afterString body ++ rest).drop 2)
  payloadlen := body.length - (2 + intAt body : ℕ) - 2

/-- The variables when the topic does not fit: its length may have been
read. -/
def PublishOut.cut (byte : UInt8) (body : Bytes) : PublishOut :=
  if 2 ≤ body.length then
    { PublishOut.headed byte with topicName := ⟨intAt body, none⟩ }
  else .headed byte

section Publish

variable {byte : UInt8} {body : Bytes}

theorem readPublish_received
    (htype : (MqttHeader.ofByte byte).type = MqttMsgType.publish.code)
    (hbody : body.length < 2 ^ 28) (rest : Bytes) :
    readPublish ⟨received byte body rest, 0, .init⟩ = (do
      let found ← readMqttLenString fun string out =>
        { out with topicName := string }
      reject (found = false)
        (.returned (mqttPacketEncode body.length).length)
      if (MqttHeader.ofByte byte).qos > 0 then do
        let packetid ← readInt
        modifyOut fun out => { out with packetid := packetid }
      let reading ← get
      modifyOut fun out =>
        { out with
          payload := some reading.curdata
          payloadlen := reading.left } : MqttStep PublishOut Unit)
      ⟨body ++ rest, body.length, .headed byte⟩ := by
  have hdecoded := decodeBuf_encode hbody (body ++ rest) (0 - 1)
    (PublishOut.headed byte)
  rw [readPublish, received, bind_of_ok (readChar_cons _ _ _ _)]
  simp only
  rw [reject_bind_of_passed (not_not.mpr htype), modifyOut_step]
  exact bind_of_ok hdecoded

theorem deserializePublish_of_not_fits
    (htype : (MqttHeader.ofByte byte).type = MqttMsgType.publish.code)
    (hbody : body.length < 2 ^ 28) (hfits : ¬ StringFits body)
    (rest : Bytes) :
    deserializePublish (received byte body rest) =
      some (((mqttPacketEncode body.length).length : ℤ),
        .cut byte body) := by
  obtain ⟨curdata, left, hread⟩ := readMqttLenString_of_not_fits hfits
    (fun string out => { out with topicName := string }) rest
    (PublishOut.headed byte)
  rw [deserializePublish, MqttStep.run, readPublish_received htype hbody,
    bind_of_ok hread, reject_bind_of_failed rfl]
  rfl

theorem deserializePublish_of_plain
    (htype : (MqttHeader.ofByte byte).type = MqttMsgType.publish.code)
    (hbody : body.length < 2 ^ 28) (hfits : StringFits body)
    (hqos : (MqttHeader.ofByte byte).qos = 0) (rest : Bytes) :
    deserializePublish (received byte body rest) =
      some (1, .plain byte body rest) := by
  have hread := readMqttLenString_of_fits hfits
    (fun string (out : PublishOut) => { out with topicName := string }) rest
    (PublishOut.headed byte)
  have hplain : ¬ (MqttHeader.ofByte byte).qos > 0 := by omega
  rw [deserializePublish, MqttStep.run, readPublish_received htype hbody,
    bind_of_ok hread, reject_bind_of_passed (by decide), if_neg hplain]
  rfl

theorem deserializePublish_of_long
    (htype : (MqttHeader.ofByte byte).type = MqttMsgType.publish.code)
    (hbody : body.length < 2 ^ 28) (hfits : StringFits body)
    (hqos : (MqttHeader.ofByte byte).qos > 0) {rest : Bytes}
    (hlong : 2 ≤ (afterString body ++ rest).length) :
    deserializePublish (received byte body rest) =
      some (1, .numbered byte body rest) := by
  have hread := readMqttLenString_of_fits hfits
    (fun string (out : PublishOut) => { out with topicName := string }) rest
    (PublishOut.headed byte)
  have hid := readInt_of_long hlong (body.length - (2 + intAt body : ℕ))
    { PublishOut.headed byte with
      topicName := ⟨intAt body, some (body.drop 2 ++ rest)⟩ }
  rw [deserializePublish, MqttStep.run, readPublish_received htype hbody,
    bind_of_ok hread, reject_bind_of_passed (by decide), if_pos hqos,
    bind_of_ok hid]
  rfl

theorem deserializePublish_of_short
    (htype : (MqttHeader.ofByte byte).type = MqttMsgType.publish.code)
    (hbody : body.length < 2 ^ 28) (hfits : StringFits body)
    (hqos : (MqttHeader.ofByte byte).qos > 0) {rest : Bytes}
    (hshort : (afterString body ++ rest).length < 2) :
    deserializePublish (received byte body rest) = none := by
  have hread := readMqttLenString_of_fits hfits
    (fun string (out : PublishOut) => { out with topicName := string }) rest
    (PublishOut.headed byte)
  obtain ⟨reached, hid⟩ := readInt_of_short hshort
    (body.length - (2 + intAt body : ℕ))
    { PublishOut.headed byte with
      topicName := ⟨intAt body, some (body.drop 2 ++ rest)⟩ }
  rw [deserializePublish, MqttStep.run, readPublish_received htype hbody,
    bind_of_ok hread, reject_bind_of_passed (by decide), if_pos hqos,
    bind_of_error hid]

theorem writeInt_intAt {data : Bytes} (hlong : 2 ≤ data.length) :
    writeInt (intAt data) = data.take 2 := by
  cases data with
  | nil => simp at hlong
  | cons high rest =>
      cases rest with
      | nil => simp at hlong
      | cons low rest =>
          have hhigh := high.toNat_lt
          have hlow := low.toNat_lt
          have hdiv : (256 * high.toNat + low.toNat) / 256 = high.toNat := by
            omega
          have hmod : (256 * high.toNat + low.toNat) % 256 = low.toNat := by
            omega
          simp only [intAt, writeInt, List.headD_cons, List.drop_one,
            List.tail_cons, hdiv, hmod, UInt8.ofNat_toNat]
          rfl

/-- The fields are what the body spells: the topic and the payload lie in
it. -/
structure PublishOut.Spells (out : PublishOut) (body : Bytes) : Prop where
  held : out.topicName.text.length = out.topicName.len
  ends : 0 ≤ out.payloadlen
  body_eq : writeInt out.topicName.len ++ out.topicName.text ++
    (if out.qos > 0 then writeInt out.packetid else []) ++
    (out.payload.getD []).take out.payloadlen.toNat = body

theorem PublishOut.Spells.fits {out : PublishOut}
    (hspells : out.Spells body) : StringFits body := by
  have hlen := congrArg List.length hspells.body_eq
  have hint : intAt body ≤ out.topicName.len := by
    rw [← hspells.body_eq, List.append_assoc, List.append_assoc,
      intAt_writeInt]
    exact Nat.mod_le _ _
  simp only [List.length_append, length_writeInt, hspells.held] at hlen
  exact ⟨by omega, by omega⟩

theorem text_of_fits (hfits : StringFits body) (rest : Bytes) :
    MqttLenString.text ⟨intAt body, some (body.drop 2 ++ rest)⟩ =
      (body.drop 2).take (intAt body) := by
  have hinside := hfits.2
  have hheld : intAt body ≤ (body.drop 2).length := by
    rw [List.length_drop]
    omega
  exact List.take_append_of_le_length hheld

theorem string_append_afterString (hfits : StringFits body) :
    writeInt (intAt body) ++ (body.drop 2).take (intAt body) ++
      afterString body = body := by
  rw [writeInt_intAt hfits.1, afterString, List.append_assoc,
    ← List.drop_drop, List.take_append_drop, List.take_append_drop]

theorem length_afterString (body : Bytes) :
    (afterString body).length = body.length - (2 + intAt body) :=
  List.length_drop

theorem length_text_of_fits (hfits : StringFits body) (rest : Bytes) :
    (MqttLenString.text ⟨intAt body, some (body.drop 2 ++ rest)⟩).length =
      intAt body := by
  rw [text_of_fits hfits, List.length_take, List.length_drop, Nat.min_eq_left]
  have hinside := hfits.2
  omega

theorem spells_of_plain (hfits : StringFits body)
    (hqos : (MqttHeader.ofByte byte).qos = 0) (rest : Bytes) :
    (PublishOut.plain byte body rest).Spells body where
  held := length_text_of_fits hfits rest
  ends := by
    have hinside := hfits.2
    change (0 : ℤ) ≤ body.length - (2 + intAt body : ℕ)
    omega
  body_eq := by
    have hplain : ¬ (PublishOut.plain byte body rest).qos > 0 := by
      rw [PublishOut.plain, hqos]
      exact Nat.lt_irrefl 0
    have hcount : ((body.length : ℤ) - (2 + intAt body : ℕ)).toNat =
        (afterString body).length := by
      rw [length_afterString]
      omega
    rw [if_neg hplain, List.append_nil]
    simp only [PublishOut.plain, Option.getD_some, hcount, List.take_left',
      text_of_fits hfits]
    exact string_append_afterString hfits

theorem spells_of_long (hfits : StringFits body)
    (hqos : (MqttHeader.ofByte byte).qos > 0) (rest : Bytes)
    (hlong : 2 ≤ (afterString body).length) :
    (PublishOut.numbered byte body rest).Spells body where
  held := length_text_of_fits hfits rest
  ends := by
    rw [length_afterString] at hlong
    change (0 : ℤ) ≤ body.length - (2 + intAt body : ℕ) - 2
    omega
  body_eq := by
    have hasked : (PublishOut.numbered byte body rest).qos > 0 := hqos
    have hcount : ((body.length : ℤ) - (2 + intAt body : ℕ) - 2).toNat =
        ((afterString body).drop 2).length := by
      rw [List.length_drop, length_afterString]
      rw [length_afterString] at hlong
      omega
    rw [if_pos hasked]
    simp only [PublishOut.numbered, Option.getD_some, hcount,
      text_of_fits hfits, intAt_append hlong, writeInt_intAt hlong,
      List.drop_append_of_le_length hlong, List.take_left']
    rw [List.append_assoc _ (List.take 2 _), List.take_append_drop]
    exact string_append_afterString hfits

/-- The packet holds what its header says. -/
def PublishWhole (byte : UInt8) (body : Bytes) : Prop :=
  StringFits body ∧
    ((MqttHeader.ofByte byte).qos = 0 ∨ 2 ≤ (afterString body).length)

instance (byte : UInt8) (body : Bytes) : Decidable (PublishWhole byte body) :=
  inferInstanceAs (Decidable (StringFits body ∧ _))

/-- The code of success stands for fields that lie in the packet exactly if
the packet is whole, or too long for its length field to take one byte, or so
close to the end of the buffer that the packet id is read from beyond it. -/
theorem publish_code_sound_iff
    (htype : (MqttHeader.ofByte byte).type = MqttMsgType.publish.code)
    (hbody : body.length < 2 ^ 28) (rest : Bytes) :
    (∀ out, deserializePublish (received byte body rest) = some (1, out) →
        out.Spells body) ↔
      PublishWhole byte body ∨ (¬ StringFits body ∧ 128 ≤ body.length) ∨
        (StringFits body ∧ (afterString body ++ rest).length < 2) := by
  have hcode := @length_mqttPacketEncode_le_iff body.length 0 (by omega)
  have hpos := length_mqttPacketEncode_pos body.length
  by_cases hfits : StringFits body
  · by_cases hqos : (MqttHeader.ofByte byte).qos = 0
    · have hout := deserializePublish_of_plain htype hbody hfits hqos rest
      refine iff_of_true ?_ (Or.inl ⟨hfits, Or.inl hqos⟩)
      intro out haccepted
      rw [hout, Option.some.injEq, Prod.mk.injEq] at haccepted
      rw [← haccepted.2]
      exact spells_of_plain hfits hqos rest
    · have hasked : (MqttHeader.ofByte byte).qos > 0 := Nat.pos_of_ne_zero hqos
      by_cases hlong : 2 ≤ (afterString body ++ rest).length
      · have hout := deserializePublish_of_long htype hbody hfits hasked hlong
        by_cases hinside : 2 ≤ (afterString body).length
        · refine iff_of_true ?_ (Or.inl ⟨hfits, Or.inr hinside⟩)
          intro out haccepted
          rw [hout, Option.some.injEq, Prod.mk.injEq] at haccepted
          rw [← haccepted.2]
          exact spells_of_long hfits hasked rest hinside
        · refine iff_of_false ?_ ?_
          · intro hsound
            have hends : (0 : ℤ) ≤ body.length - (2 + intAt body : ℕ) - 2 :=
              (hsound _ hout).ends
            rw [length_afterString] at hinside
            omega
          · rintro (⟨-, hplain | hends⟩ | ⟨hnot, -⟩ | ⟨-, hshort⟩)
            · exact hqos hplain
            · exact hinside hends
            · exact hnot hfits
            · omega
      · have hout := deserializePublish_of_short htype hbody hfits hasked
          (Nat.lt_of_not_le hlong)
        refine iff_of_true ?_
          (Or.inr (Or.inr ⟨hfits, Nat.lt_of_not_le hlong⟩))
        intro out haccepted
        rw [hout] at haccepted
        cases haccepted
  · have hout := deserializePublish_of_not_fits htype hbody hfits rest
    by_cases hshort : body.length < 128
    · have hone : (mqttPacketEncode body.length).length = 1 := by
        have hle := hcode.mpr (by omega)
        omega
      refine iff_of_false ?_ ?_
      · intro hsound
        rw [hone] at hout
        exact hfits (hsound _ hout).fits
      · rintro (hwhole | ⟨-, hlong⟩ | ⟨hthere, -⟩)
        · exact hfits hwhole.1
        · omega
        · exact hfits hthere
    · refine iff_of_true ?_ (Or.inr (Or.inl ⟨hfits, by omega⟩))
      intro out haccepted
      rw [hout, Option.some.injEq, Prod.mk.injEq] at haccepted
      have hone := haccepted.1
      have hle : (mqttPacketEncode body.length).length ≤ 0 + 1 := by
        omega
      have hsmall := hcode.mp hle
      omega

end Publish

/-- A publication whose topic claims more bytes than there are. -/
theorem publish_code_sound_iff_cut :
    ¬ ∀ out, deserializePublish (received 0x30 [0, 5] []) = some (1, out) →
      out.Spells [0, 5] := by
  rw [publish_code_sound_iff (by decide) (by decide)]
  decide +kernel

/-! ## Publications of the client -/

/-- The bytes that `writeMQTTString` takes. -/
def MqttString.text (string : MqttString) : Bytes :=
  if string.lenstring.len > 0 then string.lenstring.text
  else string.cstring.getD []

theorem writeMqttString_eq {string : MqttString}
    (hconsistent : string.Consistent) :
    writeMqttString string =
      writeInt string.text.length ++ string.text := by
  unfold writeMqttString MqttString.text
  split
  · have hlength : string.lenstring.text.length = string.lenstring.len := by
      rw [MqttLenString.text, List.length_take,
        Nat.min_eq_left hconsistent.held]
    rw [hlength]
  · cases string.cstring with
    | some text => rfl
    | none => rfl

/-- The fields of a publication. -/
structure PublishOut.Carries (out : PublishOut) (message : MqttPublish) :
    Prop where
  dup : out.dup = message.dup
  qos : out.qos = message.qos
  retained : out.retained = message.retained
  packetid : message.qos > 0 → out.packetid = message.packetid
  topicLen : out.topicName.len = message.topicName.text.length
  topicName : out.topicName.text = message.topicName.text
  payloadlen : out.payloadlen = message.payload.length
  payload : (out.payload.getD []).take message.payload.length =
    message.payload

/-- What is sent arrives, whatever lies behind it in the read buffer. -/
def MqttPublish.RoundTrips (message : MqttPublish) : Prop :=
  ∀ buflen packet rest, serializePublish buflen message = .ok packet →
    ∃ out, deserializePublish (packet ++ rest) = some (1, out) ∧
      out.Carries message

section Sent

variable {message : MqttPublish}

/-- The header byte of a publication. -/
def MqttPublish.headerByte (message : MqttPublish) : UInt8 :=
  MqttHeader.byte ⟨MqttMsgType.publish.code, message.dup, message.qos,
    message.retained⟩

theorem MqttPublish.ofByte_headerByte (message : MqttPublish) :
    MqttHeader.ofByte message.headerByte =
      ⟨MqttMsgType.publish.code, message.dup % 2, message.qos % 4,
        message.retained % 2⟩ :=
  MqttHeader.ofByte_byte _

theorem serializePublish_append
    (hconsistent : message.topicName.Consistent) {buflen : ℕ}
    {packet : Bytes} (hpacket : serializePublish buflen message = .ok packet)
    (rest : Bytes) :
    packet ++ rest =
      received message.headerByte (publishBody message) rest := by
  obtain ⟨-, rfl⟩ := writePacket_ok_iff.mp hpacket
  rw [received, length_publishBody hconsistent, List.cons_append,
    List.cons_append, List.append_assoc]
  rfl

theorem publishBody_eq (hconsistent : message.topicName.Consistent) :
    publishBody message =
      writeInt message.topicName.text.length ++ (message.topicName.text ++
        ((if message.qos > 0 then writeInt message.packetid else []) ++
          message.payload)) := by
  rw [publishBody, writeMqttString_eq hconsistent]
  simp only [List.append_assoc]

theorem intAt_publishBody (hconsistent : message.topicName.Consistent) :
    intAt (publishBody message) =
      message.topicName.text.length % 65536 := by
  rw [publishBody_eq hconsistent, intAt_writeInt]

theorem stringFits_publishBody (hconsistent : message.topicName.Consistent) :
    StringFits (publishBody message) := by
  have hint := intAt_publishBody hconsistent
  have hlength := congrArg List.length (publishBody_eq hconsistent)
  rw [List.length_append, List.length_append, length_writeInt] at hlength
  constructor
  · omega
  · omega

theorem afterString_publishBody (hconsistent : message.topicName.Consistent)
    (htopic : message.topicName.text.length < 65536) :
    afterString (publishBody message) =
      (if message.qos > 0 then writeInt message.packetid else []) ++
        message.payload := by
  have hint := intAt_publishBody hconsistent
  rw [Nat.mod_eq_of_lt htopic] at hint
  rw [afterString, hint, publishBody_eq hconsistent, ← List.append_assoc]
  exact List.drop_left' (by rw [List.length_append, length_writeInt])

theorem topic_publishBody (hconsistent : message.topicName.Consistent)
    (htopic : message.topicName.text.length < 65536) (rest : Bytes) :
    MqttLenString.text ⟨intAt (publishBody message),
        some ((publishBody message).drop 2 ++ rest)⟩ =
      message.topicName.text := by
  have hint := intAt_publishBody hconsistent
  rw [Nat.mod_eq_of_lt htopic] at hint
  rw [text_of_fits (stringFits_publishBody hconsistent), hint,
    publishBody_eq hconsistent, List.drop_left' (length_writeInt _)]
  exact List.take_left

theorem carries_publish (hconsistent : message.topicName.Consistent)
    (hbody : (publishBody message).length < 2 ^ 28)
    (hid : message.packetid < 65536) (hdup : message.dup < 2)
    (hretained : message.retained < 2) (hqos : message.qos < 4)
    (htopic : message.topicName.text.length < 65536) (rest : Bytes) :
    ∃ out, deserializePublish (received message.headerByte
        (publishBody message) rest) = some (1, out) ∧
      out.Carries message := by
  have hheader := message.ofByte_headerByte
  rw [Nat.mod_eq_of_lt hdup, Nat.mod_eq_of_lt hqos,
    Nat.mod_eq_of_lt hretained] at hheader
  have htype : (MqttHeader.ofByte message.headerByte).type =
      MqttMsgType.publish.code := by rw [hheader]
  have hasked : (MqttHeader.ofByte message.headerByte).qos = message.qos := by
    rw [hheader]
  have hfits := stringFits_publishBody hconsistent
  have hint := intAt_publishBody hconsistent
  rw [Nat.mod_eq_of_lt htopic] at hint
  have hafter := afterString_publishBody hconsistent htopic
  have hlength := length_afterString (publishBody message)
  by_cases hplain : message.qos = 0
  · rw [if_neg (by omega), List.nil_append] at hafter
    refine ⟨_, deserializePublish_of_plain htype hbody hfits
      (hasked.trans hplain) rest, ?_⟩
    exact {
      dup := congrArg MqttHeader.dup hheader
      qos := hasked
      retained := congrArg MqttHeader.retain hheader
      packetid := fun hpos => absurd hpos (by omega)
      topicLen := hint
      topicName := topic_publishBody hconsistent htopic rest
      payloadlen := by
        change ((publishBody message).length : ℤ) -
          (2 + intAt (publishBody message) : ℕ) = _
        have hinside := hfits.2
        rw [hafter] at hlength
        omega
      payload := by
        change List.take _ (afterString (publishBody message) ++ rest) = _
        rw [hafter]
        exact List.take_left }
  · have hpos : message.qos > 0 := Nat.pos_of_ne_zero hplain
    rw [if_pos hpos] at hafter
    have hnumbered := deserializePublish_of_long htype hbody hfits
      (by omega) (show 2 ≤ (afterString (publishBody message) ++ rest).length by
        rw [hafter, List.length_append, List.length_append, length_writeInt]
        omega)
    refine ⟨_, hnumbered, ?_⟩
    exact {
      dup := congrArg MqttHeader.dup hheader
      qos := hasked
      retained := congrArg MqttHeader.retain hheader
      packetid := fun _ => by
        change intAt (afterString (publishBody message) ++ rest) = _
        rw [hafter, List.append_assoc, intAt_writeInt, Nat.mod_eq_of_lt hid]
      topicLen := hint
      topicName := topic_publishBody hconsistent htopic rest
      payloadlen := by
        change ((publishBody message).length : ℤ) -
          (2 + intAt (publishBody message) : ℕ) - 2 = _
        have hinside := hfits.2
        rw [hafter, List.length_append, length_writeInt] at hlength
        omega
      payload := by
        change List.take _
          ((afterString (publishBody message) ++ rest).drop 2) = _
        rw [hafter, List.append_assoc, List.drop_left' (length_writeInt _)]
        exact List.take_left }

/-- What the header and the length bytes of a publication can hold. -/
def MqttPublish.Fits (message : MqttPublish) : Prop :=
  message.dup < 2 ∧ message.qos < 4 ∧ message.retained < 2 ∧
    message.topicName.text.length < 65536

/-- The header and the topic's length of an accepted packet whose topic
fits. -/
theorem headed_of_accepted {byte : UInt8} {body rest : Bytes}
    {out : PublishOut}
    (htype : (MqttHeader.ofByte byte).type = MqttMsgType.publish.code)
    (hbody : body.length < 2 ^ 28) (hfits : StringFits body)
    (haccepted : deserializePublish (received byte body rest) =
      some (1, out)) :
    out.dup = (MqttHeader.ofByte byte).dup ∧
      out.qos = (MqttHeader.ofByte byte).qos ∧
      out.retained = (MqttHeader.ofByte byte).retain ∧
      out.topicName.len = intAt body := by
  by_cases hplain : (MqttHeader.ofByte byte).qos = 0
  · rw [deserializePublish_of_plain htype hbody hfits hplain,
      Option.some.injEq, Prod.mk.injEq] at haccepted
    rw [← haccepted.2]
    exact ⟨rfl, rfl, rfl, rfl⟩
  · have hasked := Nat.pos_of_ne_zero hplain
    by_cases hlong : 2 ≤ (afterString body ++ rest).length
    · rw [deserializePublish_of_long htype hbody hfits hasked hlong,
        Option.some.injEq, Prod.mk.injEq] at haccepted
      rw [← haccepted.2]
      exact ⟨rfl, rfl, rfl, rfl⟩
    · rw [deserializePublish_of_short htype hbody hfits hasked
        (Nat.lt_of_not_le hlong)] at haccepted
      cases haccepted

/-- A publication that the protocol can count arrives as it was sent exactly
if its flags and its topic fit their fields. -/
theorem publish_roundTrips_iff
    (hconsistent : message.topicName.Consistent)
    (hcounted : (MqttRequest.publish message).Counted)
    (hid : message.packetid < 65536) :
    message.RoundTrips ↔ message.Fits := by
  have hbody : (publishBody message).length < 2 ^ 28 := by
    rw [length_publishBody hconsistent]
    exact hcounted
  constructor
  · intro htrips
    have hpacket : serializePublish (mqttPacketLen (serializePublishLength
        message.qos message.topicName message.payload.length)) message = _ :=
      writePacket_ok_iff.mpr ⟨le_rfl, rfl⟩
    obtain ⟨out, haccepted, hcarries⟩ := htrips _ _ [] hpacket
    rw [serializePublish_append hconsistent hpacket] at haccepted
    have hheader := message.ofByte_headerByte
    obtain ⟨hdup, hqos, hretained, hlen⟩ := headed_of_accepted
      (by rw [hheader]) hbody (stringFits_publishBody hconsistent) haccepted
    rw [hheader, hcarries.dup] at hdup
    rw [hheader, hcarries.qos] at hqos
    rw [hheader, hcarries.retained] at hretained
    simp only at hdup hqos hretained
    rw [intAt_publishBody hconsistent, hcarries.topicLen] at hlen
    exact ⟨by omega, by omega, by omega, by omega⟩
  · rintro ⟨hdup, hqos, hretained, htopic⟩ buflen packet rest hpacket
    rw [serializePublish_append hconsistent hpacket]
    exact carries_publish hconsistent hbody hid hdup hretained hqos htopic rest

end Sent

/-- A retained publication with a packet id. -/
theorem publish_roundTrips_iff_retained :
    (MqttPublish.mk 0 1 1 515 (.ofCString [47, 65]) [1, 2, 3]).RoundTrips ↔
      (MqttPublish.mk 0 1 1 515 (.ofCString [47, 65]) [1, 2, 3]).Fits :=
  @publish_roundTrips_iff ⟨0, 1, 1, 515, .ofCString [47, 65], [1, 2, 3]⟩
    (MqttString.consistent_ofCString _)
    (show serializePublishLength 1 (.ofCString [47, 65]) 3 < 2 ^ 28 by decide)
    (by decide)

end EziotSdk
