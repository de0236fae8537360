import EziotSdk.MqttReading

/-!
# The byte stream below the MQTT client

`hal_net_tcp_read` collects the bytes of a read from whatever pieces the
socket delivers, and loses them when a poll fails before it has them all.
`readPacket` reads a packet by one read for its header, one for each byte of
its length and one for its body.
-/

namespace EziotSdk

/-! ## Sockets -/

/-- The members of `net_tcp_err_t` that a read on an open socket returns; the
internal errors of the kernel of the same names have the same values. -/
inductive NetTcpErr where
  | succ
  | socketErr
  | socketTimeout
  | socketClosed
  deriving DecidableEq, Repr

/-- What a poll finds: a piece of the stream, or a reason to give up. -/
inductive SocketEvent where
  | data (first : UInt8) (more : Bytes)
  | failed (error : NetTcpErr)
  deriving DecidableEq, Repr

abbrev Socket := List SocketEvent

/-- What `recv` has left of a piece. -/
def leftOver : Bytes → Socket → Socket
  | [], rest => rest
  | first :: more, rest => .data first more :: rest

/-- `hal_net_tcp_read`.  Nothing arrives any more when the events have run
out. -/
def halNetTcpRead : ℕ → Socket → Except NetTcpErr Bytes × Socket
  | _, [] => (.error .socketTimeout, [])
  | _, .failed error :: rest => (.error error, rest)
  | size, .data first more :: rest =>
      if size = 0 then (.error .socketClosed, .data first more :: rest)
      else if size ≤ more.length + 1 then
        (.ok ((first :: more).take size),
          leftOver ((first :: more).drop size) rest)
      else
        let (outcome, left) := halNetTcpRead (size - (more.length + 1)) rest
        (outcome.map ((first :: more) ++ ·), left)

/-- The pieces byte by byte. -/
def singles (bytes : Bytes) : Socket := bytes.map (.data · [])

def SocketEvent.wire : SocketEvent → Socket
  | .data first more => singles (first :: more)
  | .failed error => [.failed error]

def wire (socket : Socket) : Socket := socket.flatMap SocketEvent.wire

theorem wire_leftOver (bytes : Bytes) (rest : Socket) :
    wire (leftOver bytes rest) = singles bytes ++ wire rest := by
  cases bytes with
  | nil => rfl
  | cons first more =>
      rw [leftOver, wire, List.flatMap_cons]
      rfl

theorem halNetTcpRead_singles {bytes : Bytes} {size : ℕ} (hsize : 0 < size)
    (rest : Socket) :
    halNetTcpRead size (singles bytes ++ rest) =
      if size ≤ bytes.length then
        (.ok (bytes.take size), singles (bytes.drop size) ++ rest)
      else
        ((halNetTcpRead (size - bytes.length) rest).1.map (bytes ++ ·),
          (halNetTcpRead (size - bytes.length) rest).2) := by
  induction bytes generalizing size with
  | nil =>
      rw [if_neg (by simp; omega)]
      simp only [singles, List.map_nil, List.nil_append, List.length_nil,
        Nat.sub_zero]
      cases halNetTcpRead size rest with
      | mk outcome left => cases outcome <;> rfl
  | cons first more ih =>
      have hne : size ≠ 0 := by omega
      rw [singles, List.map_cons, List.cons_append, halNetTcpRead,
        if_neg hne]
      by_cases hone : size = 1
      · subst hone
        simp [leftOver, singles]
      · have hmore := @ih (size - 1) (by omega)
        rw [singles] at hmore
        rw [if_neg (by simp; omega)]
        simp only [List.length_nil, Nat.zero_add, hmore, List.length_cons]
        obtain ⟨below, rfl⟩ : ∃ below, size = below + 1 :=
          ⟨size - 1, by omega⟩
        by_cases hle : below ≤ more.length
        · simp [hle, Except.map]
        · simp only [Nat.add_sub_cancel, hle, if_false,
            Nat.add_le_add_iff_right, Nat.add_sub_add_right]
          cases halNetTcpRead (below - more.length) rest with
          | mk outcome left => cases outcome <;> simp [Except.map]

/-- A read does not depend on how the stream comes in pieces. -/
theorem halNetTcpRead_wire {size : ℕ} (hsize : 0 < size) (socket : Socket) :
    (halNetTcpRead size (wire socket)).1 = (halNetTcpRead size socket).1 ∧
      (halNetTcpRead size (wire socket)).2 =
        wire (halNetTcpRead size socket).2 := by
  induction socket generalizing size with
  | nil =>
      rw [wire, List.flatMap_nil, halNetTcpRead]
      exact ⟨rfl, rfl⟩
  | cons event rest ih =>
      cases event with
      | failed error =>
          rw [wire, List.flatMap_cons, SocketEvent.wire, List.cons_append,
            halNetTcpRead, halNetTcpRead]
          exact ⟨rfl, rfl⟩
      | data first more =>
          have hne : size ≠ 0 := by omega
          have hwire : wire (.data first more :: rest) =
              singles (first :: more) ++ wire rest := by
            rw [wire, List.flatMap_cons]
            rfl
          rw [hwire, halNetTcpRead_singles hsize, halNetTcpRead, if_neg hne,
            List.length_cons]
          by_cases hle : size ≤ more.length + 1
          · rw [if_pos hle, if_pos hle]
            exact ⟨rfl, (wire_leftOver _ _).symm⟩
          · have hrest := @ih (size - (more.length + 1)) (by omega)
            rw [if_neg hle, if_neg hle]
            simp only [hrest.1, hrest.2]
            exact ⟨trivial, trivial⟩

/-! ## Packets -/

/-- The socket, and the error that `MQTTNetGetLastError` returns. -/
structure MqttNet where
  socket : Socket
  lastError : NetTcpErr
  deriving DecidableEq, Repr

/-- The errors after which `cycle` does nothing and `das_yield` reconnects. -/
def MqttNet.Broken (net : MqttNet) : Prop :=
  net.lastError = .socketErr ∨ net.lastError = .socketClosed

instance (net : MqttNet) : Decidable net.Broken :=
  inferInstanceAs (Decidable (_ ∨ _))

def mqttNetRead (size : ℕ) (net : MqttNet) : Option Bytes × MqttNet :=
  match halNetTcpRead size net.socket with
  | (.ok bytes, socket) => (some bytes, ⟨socket, .succ⟩)
  | (.error error, socket) => (none, ⟨socket, error⟩)

/-- The loop of `decodePacket`, whose callers look only at the value: a failed
read ends it like the last byte does. -/
def decodePacket : ℕ → ℕ → ℕ → MqttNet → ℕ × MqttNet
  | 0, _, value, net => (value, net)
  | rounds + 1, multiplier, value, net =>
      match mqttNetRead 1 net with
      | (none, net) => (value, net)
      | (some bytes, net) =>
          let i := bytes.headD 0
          let value := value + i.toNat % 128 * multiplier
          if i.toNat < 128 then (value, net)
          else decodePacket rounds (multiplier * 128) value net

/-- The packet that is in the read buffer when `readPacket` returns its type;
nothing when it fails. -/
def readPacket (readbufSize : ℕ) (net : MqttNet) : Option Bytes × MqttNet :=
  match mqttNetRead 1 net with
  | (none, net) => (none, net)
  | (some header, net) =>
      let (remLen, net) := decodePacket 4 1 0 net
      let packet := header ++ mqttPacketEncode remLen
      if readbufSize < remLen + packet.length then
        (none, { net with lastError := .socketErr })
      else if remLen = 0 then (some packet, net)
      else
        match mqttNetRead remLen net with
        | (none, net) => (none, { net with lastError := .socketErr })
        | (some body, net) => (some (packet ++ body), net)

/-- The packets that `cycle` handles in so many calls, up to the first after
which the connection is given up. -/
def handledPackets (readbufSize : ℕ) : ℕ → MqttNet → List Bytes
  | 0, _ => []
  | calls + 1, net =>
      let (packet, net) := readPacket readbufSize net
      if net.Broken then []
      else packet.toList ++ handledPackets readbufSize calls net

/-! ## Reads -/

theorem mqttNetRead_of_bytes {bytes : Bytes} {net : MqttNet} {rest : Socket}
    (hne : bytes ≠ []) (hwire : wire net.socket = singles bytes ++ rest) :
    ∃ socket, mqttNetRead bytes.length net = (some bytes, ⟨socket, .succ⟩) ∧
      wire socket = rest := by
  have hpos : 0 < bytes.length := List.length_pos_of_ne_nil hne
  obtain ⟨hread, hleft⟩ := halNetTcpRead_wire hpos net.socket
  rw [hwire, halNetTcpRead_singles hpos, if_pos le_rfl, List.take_length,
    List.drop_length] at hread hleft
  unfold mqttNetRead
  generalize halNetTcpRead bytes.length net.socket = outcome at hread hleft
  obtain ⟨result, socket⟩ := outcome
  simp only at hread hleft
  subst hread
  exact ⟨socket, rfl, hleft.symm⟩

theorem mqttNetRead_of_failed {bytes : Bytes} {net : MqttNet} {rest : Socket}
    {error : NetTcpErr} {size : ℕ} (hcut : bytes.length < size)
    (hwire : wire net.socket = singles bytes ++ .failed error :: rest) :
    ∃ socket, mqttNetRead size net = (none, ⟨socket, error⟩) ∧
      wire socket = rest := by
  have hpos : 0 < size := by omega
  obtain ⟨hread, hleft⟩ := halNetTcpRead_wire hpos net.socket
  rw [hwire, halNetTcpRead_singles hpos, if_neg (by omega)] at hread hleft
  obtain ⟨below, hbelow⟩ : ∃ below, size - bytes.length = below + 1 :=
    ⟨size - bytes.length - 1, by omega⟩
  rw [hbelow, halNetTcpRead] at hread hleft
  unfold mqttNetRead
  generalize halNetTcpRead size net.socket = outcome at hread hleft
  obtain ⟨result, socket⟩ := outcome
  simp only [Except.map] at hread hleft
  subst hread
  exact ⟨socket, rfl, hleft.symm⟩

theorem mqttNetRead_of_silence {net : MqttNet} {size : ℕ} (hsize : 0 < size)
    (hwire : wire net.socket = []) :
    ∃ socket, mqttNetRead size net = (none, ⟨socket, .socketTimeout⟩) ∧
      wire socket = [] := by
  obtain ⟨hread, hleft⟩ := halNetTcpRead_wire hsize net.socket
  rw [hwire, halNetTcpRead] at hread hleft
  unfold mqttNetRead
  generalize halNetTcpRead size net.socket = outcome at hread hleft
  obtain ⟨result, socket⟩ := outcome
  simp only at hread hleft
  subst hread
  exact ⟨socket, rfl, hleft.symm⟩

theorem mqttNetRead_of_byte {byte : UInt8} {net : MqttNet} {rest : Socket}
    (hwire : wire net.socket = singles [byte] ++ rest) :
    ∃ socket, mqttNetRead 1 net = (some [byte], ⟨socket, .succ⟩) ∧
      wire socket = rest :=
  mqttNetRead_of_bytes (List.cons_ne_nil _ _) hwire

theorem singles_append (bytes more : Bytes) :
    singles (bytes ++ more) = singles bytes ++ singles more :=
  List.map_append

/-- A length field that arrives whole is read as the length. -/
theorem decodePacket_lengthBytes (rounds : ℕ) {length : ℕ}
    (hfits : length < 128 ^ (rounds + 1)) (multiplier value : ℕ)
    {net : MqttNet} {rest : Socket}
    (hwire : wire net.socket =
      singles (lengthBytes (rounds + 2) length) ++ rest) :
    ∃ socket, decodePacket (rounds + 1) multiplier value net =
        (value + length * multiplier, ⟨socket, .succ⟩) ∧
      wire socket = rest := by
  obtain ⟨hlow, hhigh⟩ := toNat_lengthByte length
  induction rounds generalizing length multiplier value net with
  | zero =>
      have hlast : ¬ length / 128 > 0 := by omega
      have hvalue : length % 128 % 128 = length := by omega
      rw [lengthBytes, if_neg hlast] at hwire
      obtain ⟨socket, hread, hleft⟩ := mqttNetRead_of_byte hwire
      refine ⟨socket, ?_, hleft⟩
      simp only [decodePacket, hread, List.headD_cons, hlow, hvalue]
      rw [if_pos (by omega)]
  | succ rounds ih =>
      rw [lengthBytes] at hwire
      by_cases hmore : length / 128 > 0
      · have hrest : length / 128 < 128 ^ (rounds + 1) := by
          rw [Nat.div_lt_iff_lt_mul (by omega), ← Nat.pow_succ]
          exact hfits
        rw [if_pos hmore, ← List.singleton_append, singles_append,
          List.append_assoc] at hwire
        obtain ⟨first, hread, hleft⟩ := mqttNetRead_of_byte hwire
        obtain ⟨socket, hdecoded, hend⟩ := @ih (length / 128) hrest
          (multiplier * 128) (value + length % 128 * multiplier)
          ⟨first, .succ⟩ hleft (toNat_lengthByte _).1 (toNat_lengthByte _).2
        have hbyte : (length % 128 + 128) % 128 = length % 128 := by omega
        refine ⟨socket, ?_, hend⟩
        rw [decodePacket, hread]
        simp only [List.headD_cons, hhigh, hbyte]
        rw [if_neg (by omega), hdecoded, addSeven_eq]
      · have hvalue : length % 128 % 128 = length := by omega
        rw [if_neg hmore] at hwire
        obtain ⟨socket, hread, hleft⟩ := mqttNetRead_of_byte hwire
        refine ⟨socket, ?_, hleft⟩
        rw [decodePacket, hread]
        simp only [List.headD_cons, hlow, hvalue]
        rw [if_pos (by omega)]

/-! ## The stream of a server -/

/-- A header byte, and a body whose length four bytes hold. -/
structure MqttFrame where
  header : UInt8
  body : Bytes
  fits : body.length < 2 ^ 28

namespace MqttFrame

def head (frame : MqttFrame) : Bytes :=
  frame.header :: mqttPacketEncode frame.body.length

def packet (frame : MqttFrame) : Bytes := frame.head ++ frame.body

end MqttFrame

/-- What the socket delivers, byte by byte, of the packets that the server
sends.  The stream may pause between packets; where a read gives up inside of
a body or for another reason, anything may follow.  Nothing interrupts the
bytes up to the end of a length field. -/
inductive Streams : List MqttFrame → Socket → Prop where
  | silent (frames : List MqttFrame) : Streams frames []
  | paused {frames : List MqttFrame} {rest : Socket} :
      Streams frames rest → Streams frames (.failed .socketTimeout :: rest)
  | stopped (frames : List MqttFrame) {error : NetTcpErr} (rest : Socket) :
      error = .socketErr ∨ error = .socketClosed →
        Streams frames (.failed error :: rest)
  | cut {frame : MqttFrame} (frames : List MqttFrame) {arrived : Bytes}
      (error : NetTcpErr) (rest : Socket) :
      arrived.length < frame.body.length → arrived <+: frame.body →
        Streams (frame :: frames)
          (singles (frame.head ++ arrived) ++ .failed error :: rest)
  | sent {frame : MqttFrame} {frames : List MqttFrame} {rest : Socket} :
      Streams frames rest →
        Streams (frame :: frames) (singles frame.packet ++ rest)

/-! ## One packet -/

/-- `readPacket` from the end of the length field on. -/
def readBody (readbufSize : ℕ) (header : Bytes) (remLen : ℕ) (net : MqttNet) :
    Option Bytes × MqttNet :=
  let packet := header ++ mqttPacketEncode remLen
  if readbufSize < remLen + packet.length then
    (none, { net with lastError := .socketErr })
  else if remLen = 0 then (some packet, net)
  else
    match mqttNetRead remLen net with
    | (none, net) => (none, { net with lastError := .socketErr })
    | (some body, net) => (some (packet ++ body), net)

theorem readPacket_of_head {frame : MqttFrame} {net : MqttNet}
    {rest : Socket} (hwire : wire net.socket = singles frame.head ++ rest)
    (readbufSize : ℕ) :
    ∃ socket, readPacket readbufSize net =
        readBody readbufSize [frame.header] frame.body.length
          ⟨socket, .succ⟩ ∧
      wire socket = rest := by
  have hbody := frame.fits
  rw [MqttFrame.head, ← List.singleton_append, singles_append,
    List.append_assoc] at hwire
  obtain ⟨first, hread, hfield⟩ := mqttNetRead_of_byte hwire
  obtain ⟨socket, hdecoded, hrest⟩ := @decodePacket_lengthBytes 3
    frame.body.length (by norm_num at hbody ⊢; exact hbody) 1 0
    ⟨first, .succ⟩ rest hfield
  refine ⟨socket, ?_, hrest⟩
  rw [readPacket, hread]
  simp only [hdecoded, Nat.zero_add, Nat.mul_one]
  rfl

theorem readPacket_of_packet {frame : MqttFrame} {net : MqttNet}
    {rest : Socket} (hwire : wire net.socket = singles frame.packet ++ rest)
    {readbufSize : ℕ} (hlarge : frame.packet.length ≤ readbufSize) :
    ∃ socket, readPacket readbufSize net =
        (some frame.packet, ⟨socket, .succ⟩) ∧ wire socket = rest := by
  rw [MqttFrame.packet, singles_append, List.append_assoc] at hwire
  obtain ⟨socket, hread, hbody⟩ := readPacket_of_head hwire readbufSize
  have hroom : ¬ readbufSize < frame.body.length +
      ([frame.header] ++ mqttPacketEncode frame.body.length).length := by
    simp only [MqttFrame.packet, MqttFrame.head, List.length_append,
      List.length_cons] at hlarge
    simp only [List.length_append, List.length_singleton]
    omega
  rw [hread, readBody]
  simp only
  rw [if_neg hroom]
  by_cases hempty : frame.body = []
  · refine ⟨socket, ?_, by rw [hbody, hempty]; rfl⟩
    rw [if_pos (by rw [hempty]; rfl), MqttFrame.packet, MqttFrame.head, hempty]
    rfl
  · obtain ⟨left, hwhole, hend⟩ := @mqttNetRead_of_bytes frame.body
      ⟨socket, .succ⟩ rest hempty hbody
    have hlen : ¬ frame.body.length = 0 := by
      rwa [List.length_eq_zero_iff]
    refine ⟨left, ?_, hend⟩
    rw [if_neg hlen, hwhole]
    rfl

theorem readPacket_of_large {frame : MqttFrame} {net : MqttNet}
    {rest : Socket} (hwire : wire net.socket = singles frame.head ++ rest)
    {readbufSize : ℕ} (hlarge : readbufSize < frame.packet.length) :
    (readPacket readbufSize net).2.Broken := by
  obtain ⟨socket, hread, -⟩ := readPacket_of_head hwire readbufSize
  have hroom : readbufSize < frame.body.length +
      ([frame.header] ++ mqttPacketEncode frame.body.length).length := by
    simp only [MqttFrame.packet, MqttFrame.head, List.length_append,
      List.length_cons] at hlarge
    simp only [List.length_append, List.length_singleton]
    omega
  rw [hread, readBody]
  simp only
  rw [if_pos hroom]
  exact Or.inl rfl

theorem readPacket_of_cut {frame : MqttFrame} {net : MqttNet}
    {arrived : Bytes} {error : NetTcpErr} {rest : Socket}
    (hwire : wire net.socket =
      singles (frame.head ++ arrived) ++ .failed error :: rest)
    (hshort : arrived.length < frame.body.length) (readbufSize : ℕ) :
    (readPacket readbufSize net).2.Broken := by
  rw [singles_append, List.append_assoc] at hwire
  obtain ⟨socket, hread, hbody⟩ := readPacket_of_head hwire readbufSize
  obtain ⟨left, hfailed, -⟩ := @mqttNetRead_of_failed arrived
    ⟨socket, .succ⟩ rest error frame.body.length hshort hbody
  rw [hread, readBody]
  simp only
  split_ifs with hlarge hempty
  · exact Or.inl rfl
  · omega
  · rw [hfailed]
    exact Or.inl rfl

theorem readPacket_of_failed {net : MqttNet} {error : NetTcpErr}
    {rest : Socket} (hwire : wire net.socket = .failed error :: rest)
    (readbufSize : ℕ) :
    ∃ socket, readPacket readbufSize net = (none, ⟨socket, error⟩) ∧
      wire socket = rest := by
  obtain ⟨socket, hread, hleft⟩ :=
    @mqttNetRead_of_failed [] net _ _ 1 Nat.one_pos hwire
  exact ⟨socket, by rw [readPacket, hread], hleft⟩

/-- A pause right behind the header byte goes unnoticed: an empty packet is
handled, and the length field is read as the next header. -/
theorem readPacket_of_split {header : UInt8} {net : MqttNet} {rest : Socket}
    (hwire : wire net.socket =
      singles [header] ++ .failed .socketTimeout :: rest)
    {readbufSize : ℕ} (hroom : 2 ≤ readbufSize) :
    ∃ socket, readPacket readbufSize net =
        (some [header, 0], ⟨socket, .socketTimeout⟩) ∧
      wire socket = rest := by
  obtain ⟨first, hread, hpause⟩ := mqttNetRead_of_byte hwire
  obtain ⟨socket, hfailed, hleft⟩ :=
    @mqttNetRead_of_failed [] ⟨first, .succ⟩ _ _ 1 Nat.one_pos hpause
  refine ⟨socket, ?_, hleft⟩
  rw [readPacket, hread]
  simp only [decodePacket, hfailed]
  rw [if_neg (by simp [mqttPacketEncode, lengthBytes]; omega)]
  rfl

/-- A call that does not get the next packet either has taken nothing but a
pause, or gives the connection up. -/
theorem readPacket_of_streams {frames : List MqttFrame} {net : MqttNet}
    (hstreams : Streams frames (wire net.socket)) (readbufSize : ℕ) :
    (readPacket readbufSize net).2.Broken ∨
      ((readPacket readbufSize net).1 = none ∧
        Streams frames (wire (readPacket readbufSize net).2.socket)) ∨
      ∃ frame more, frames = frame :: more ∧
        (readPacket readbufSize net).1 = some frame.packet ∧
        Streams more (wire (readPacket readbufSize net).2.socket) := by
  generalize hevents : wire net.socket = events at hstreams
  cases hstreams with
  | silent frames =>
      obtain ⟨socket, hread, hleft⟩ :=
        mqttNetRead_of_silence Nat.one_pos hevents
      right
      left
      rw [readPacket, hread]
      simp only
      rw [hleft]
      exact ⟨trivial, .silent frames⟩
  | paused hrest =>
      obtain ⟨socket, hread, hleft⟩ := readPacket_of_failed hevents readbufSize
      right
      left
      rw [hread]
      exact ⟨rfl, by rw [hleft]; exact hrest⟩
  | stopped frames rest herror =>
      obtain ⟨socket, hread, -⟩ := readPacket_of_failed hevents readbufSize
      left
      rw [hread]
      exact herror
  | cut frames error rest hshort hprefix =>
      exact Or.inl (readPacket_of_cut hevents hshort readbufSize)
  | @sent frame frames rest hrest =>
      by_cases hlarge : frame.packet.length ≤ readbufSize
      · obtain ⟨socket, hread, hleft⟩ := readPacket_of_packet hevents hlarge
        right
        right
        rw [hread]
        exact ⟨frame, frames, rfl, rfl, by rw [hleft]; exact hrest⟩
      · rw [MqttFrame.packet, singles_append, List.append_assoc] at hevents
        exact Or.inl (readPacket_of_large hevents (Nat.lt_of_not_le hlarge))

/-! ## Runs -/

/-- What `cycle` handles is what the server has sent, packet for packet and
in order, from the first on, as long as no read gives up between a header byte
and the end of its length field. -/
theorem handledPackets_prefix {frames : List MqttFrame} {net : MqttNet}
    (hstreams : Streams frames (wire net.socket)) (readbufSize calls : ℕ) :
    handledPackets readbufSize calls net <+:
      frames.map MqttFrame.packet := by
  induction calls generalizing frames net with
  | zero => exact List.nil_prefix
  | succ calls ih =>
      have hstep := readPacket_of_streams hstreams readbufSize
      rw [handledPackets]
      simp only
      by_cases hbroken : (readPacket readbufSize net).2.Broken
      · rw [if_pos hbroken]
        exact List.nil_prefix
      · rw [if_neg hbroken]
        rcases hstep with habsurd | ⟨hnone, hrest⟩ |
          ⟨frame, more, rfl, hsome, hrest⟩
        · exact absurd habsurd hbroken
        · rw [hnone]
          exact ih hrest
        · rw [hsome, List.map_cons, Option.toList_some,
            List.singleton_append, List.prefix_cons_inj]
          exact ih hrest

/-- The server's packets arrive, with pauses between them, in so many
calls. -/
inductive Delivers : ℕ → List MqttFrame → Socket → Prop where
  | done : Delivers 0 [] []
  | paused {calls : ℕ} {frames : List MqttFrame} {rest : Socket} :
      Delivers calls frames rest →
        Delivers (calls + 1) frames (.failed .socketTimeout :: rest)
  | sent {calls : ℕ} {frame : MqttFrame} {frames : List MqttFrame}
      {rest : Socket} :
      Delivers calls frames rest →
        Delivers (calls + 1) (frame :: frames) (singles frame.packet ++ rest)

theorem handledPackets_of_delivers {calls readbufSize : ℕ}
    {frames : List MqttFrame} {net : MqttNet}
    (hdelivers : Delivers calls frames (wire net.socket))
    (hroom : ∀ frame ∈ frames, frame.packet.length ≤ readbufSize) :
    handledPackets readbufSize calls net = frames.map MqttFrame.packet := by
  generalize hevents : wire net.socket = events at hdelivers
  induction hdelivers generalizing net with
  | done => rfl
  | paused hrest ih =>
      obtain ⟨socket, hread, hleft⟩ := readPacket_of_failed hevents readbufSize
      rw [handledPackets, hread]
      simp only
      rw [if_neg (by simp [MqttNet.Broken]), Option.toList_none,
        List.nil_append]
      exact ih hroom hleft
  | @sent calls frame frames rest hrest ih =>
      obtain ⟨socket, hread, hleft⟩ := readPacket_of_packet hevents
        (hroom frame List.mem_cons_self)
      rw [handledPackets, hread]
      simp only
      rw [if_neg (by simp [MqttNet.Broken]), Option.toList_some,
        List.singleton_append, List.map_cons, List.cons_inj_right]
      exact ih (fun other hother => hroom other (List.mem_cons_of_mem _ hother))
        hleft

/-- However the stream comes in pieces, the packets that `cycle` handles are
those that the server has sent, packet for packet and in order: never others,
as long as no read gives up between a header byte and the end of its length
field, and all of them once they have arrived and fit the read buffer. -/
theorem handledPackets_exact (readbufSize calls : ℕ)
    (frames : List MqttFrame) (net : MqttNet) :
    (Streams frames (wire net.socket) →
        handledPackets readbufSize calls net <+:
          frames.map MqttFrame.packet) ∧
      (Delivers calls frames (wire net.socket) →
        (∀ frame ∈ frames, frame.packet.length ≤ readbufSize) →
          handledPackets readbufSize calls net =
            frames.map MqttFrame.packet) :=
  ⟨fun hstreams => handledPackets_prefix hstreams readbufSize calls,
    handledPackets_of_delivers⟩

/-- An answer to a ping. -/
def pingrespFrame : MqttFrame := ⟨0xD0, [], by decide⟩

/-- Two answers after a pause, the second in two pieces. -/
theorem handledPackets_exact_pieces :
    handledPackets 16 3
        ⟨[.failed .socketTimeout, .data 0xD0 [0, 0xD0], .data 0 []], .succ⟩ =
      [[0xD0, 0], [0xD0, 0]] :=
  have hlast : Delivers 1 [pingrespFrame] (singles [0xD0, 0]) := .sent .done
  have hboth : Delivers 2 [pingrespFrame, pingrespFrame]
      (singles [0xD0, 0] ++ singles [0xD0, 0]) := .sent hlast
  (handledPackets_exact 16 3 [pingrespFrame, pingrespFrame]
    ⟨[.failed .socketTimeout, .data 0xD0 [0, 0xD0], .data 0 []], .succ⟩).2
    (.paused hboth) (by decide)

end EziotSdk
