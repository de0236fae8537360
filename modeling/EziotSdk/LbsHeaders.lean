import EziotSdk.LbsProtocol

/-!
# The header of an LBS packet

The two encoders write a length as bytes of seven bits each, four at most.
The decoder reads such bytes until one has its high bit clear; it counts them
and never looks at the count, so the peer alone decides how many it reads, and
from the sixth on their weight is lost in 32 bits.
-/

namespace EziotSdk

open ErrorState

variable {Context : Type}

/-! ## The decoder -/

/-- `wait_assign_response` up to the comparison with the receive buffer: the
command and the length are in the caller's variables from here on. -/
def decodeHeader : LbsStep Context (ℕ × ℕ) := do
  let byte1 ← netWorkReadByte
  let session ← get
  let remainLen ←
    readRemainLen (session.network.incoming.length + 1) 1 0
  pure (byte1.toNat / 16, remainLen)

theorem waitAssignResponse_eq :
    (waitAssignResponse : LbsStep Context (ℕ × ℕ)) = (do
      let (cmd, remainLen) ← decodeHeader
      reject (ezdevSdkRecvBufMax < remainLen) (.code .memLack)
      let data ← netWorkRead remainLen
      modifyAffair fun affair => affair.receive data
      pure (cmd, remainLen)) := by
  simp only [waitAssignResponse, decodeHeader, bind_assoc, pure_bind]

/-- The number that a length field stands for. -/
def lengthValue : Bytes → ℕ
  | [] => 0
  | byte :: rest => byte.toNat % 128 + 128 * lengthValue rest

/-- The bytes that reads of one byte each deliver before one of them
fails. -/
def arriving : List MkernelInternalError → Bytes → Bytes
  | [], incoming => incoming
  | _ :: _, [] => []
  | outcome :: outcomes, byte :: incoming =>
      if outcome = .succ then byte :: arriving outcomes incoming else []

def LbsNetwork.arriving (network : LbsNetwork) : Bytes :=
  EziotSdk.arriving network.outcomes network.incoming

/-! ## What the encoders write -/

theorem toNat_lengthByte (payloadLen : ℕ) :
    (UInt8.ofNat (payloadLen % 128)).toNat = payloadLen % 128 ∧
      (UInt8.ofNat (payloadLen % 128 + 0x80)).toNat =
        payloadLen % 128 + 0x80 := by
  rw [UInt8.toNat_ofNat', UInt8.toNat_ofNat']
  omega

/-- Four bytes hold every length below `2 ^ 28`; one byte less is room for
seven bits less. -/
theorem lengthField_lengthBytes
    {count payloadLen : ℕ} (hfits : payloadLen < 128 ^ (count + 1)) :
    LengthFieldEnds (lengthBytes (count + 1) payloadLen) ∧
      lengthValue (lengthBytes (count + 1) payloadLen) = payloadLen := by
  obtain ⟨hlow, hhigh⟩ := toNat_lengthByte payloadLen
  induction count generalizing payloadLen with
  | zero =>
      have hlast : ¬ payloadLen / 128 > 0 := by omega
      rw [lengthBytes, if_neg hlast]
      constructor
      · rw [LengthFieldEnds, hlow, if_pos (Nat.mod_lt _ (by omega))]
      · rw [lengthValue, lengthValue, hlow]
        omega
  | succ count ih =>
      rw [lengthBytes]
      by_cases hmore : payloadLen / 128 > 0
      · rw [if_pos hmore]
        have hrest : payloadLen / 128 < 128 ^ (count + 1) := by
          rw [Nat.div_lt_iff_lt_mul (by omega), ← Nat.pow_succ]
          exact hfits
        obtain ⟨hends, hvalue⟩ := ih hrest
          (toNat_lengthByte _).1 (toNat_lengthByte _).2
        constructor
        · rw [LengthFieldEnds, hhigh, if_neg (by omega)]
          exact hends
        · rw [lengthValue, hvalue, hhigh]
          omega
      · rw [if_neg hmore]
        constructor
        · rw [LengthFieldEnds, hlow, if_pos (Nat.mod_lt _ (by omega))]
        · rw [lengthValue, lengthValue, hlow]
          omega

theorem length_lengthBytes_le (count payloadLen : ℕ) :
    (lengthBytes count payloadLen).length ≤ count := by
  induction count generalizing payloadLen with
  | zero => exact Nat.le_refl 0
  | succ count ih =>
      rw [lengthBytes]
      split
      · exact Nat.succ_le_succ (ih _)
      · exact Nat.succ_le_succ (Nat.zero_le count)

theorem toNat_head {low cmd : ℕ} (hlow : low < 16) (hcmd : cmd < 16) :
    (UInt8.ofNat (cmd % 16 * 16 + low)).toNat / 16 = cmd := by
  rw [UInt8.toNat_ofNat']
  omega

/-! ## What the decoder computes -/

/-- The weights and the sum of the loop are those of the value, in 32
bits. -/
theorem remainLenOf_eq (power remainLen : ℕ) (field : Bytes) :
    remainLenOf (128 ^ power % 2 ^ 32) (remainLen % 2 ^ 32) field =
      (remainLen + 128 ^ power * lengthValue field) % 2 ^ 32 := by
  induction field generalizing power remainLen with
  | nil => rfl
  | cons byte field ih =>
      have hmult : 128 ^ power % 2 ^ 32 * 128 % 2 ^ 32 =
          128 ^ (power + 1) % 2 ^ 32 := by
        rw [Nat.mod_mul_mod, ← Nat.pow_succ]
      have hsum : (remainLen % 2 ^ 32 +
          byte.toNat % 128 * (128 ^ power % 2 ^ 32)) % 2 ^ 32 =
            (remainLen + byte.toNat % 128 * 128 ^ power) % 2 ^ 32 := by
        rw [Nat.mod_add_mod, Nat.add_mod, Nat.mul_mod_mod, ← Nat.add_mod]
      rw [remainLenOf, hmult, hsum, ih, lengthValue]
      congr 1
      rw [Nat.pow_succ]
      ring

theorem lengthValue_lt (field : Bytes) :
    lengthValue field < 128 ^ field.length := by
  induction field with
  | nil => decide
  | cons byte field ih =>
      have hdigit := Nat.mod_lt byte.toNat (show 0 < 128 by omega)
      rw [lengthValue, List.length_cons, Nat.pow_succ]
      omega

theorem remainLenOf_of_short {field : Bytes} (hshort : field.length ≤ 4) :
    remainLenOf 1 0 field = lengthValue field := by
  have hvalue : remainLenOf 1 0 field =
      (0 + 128 ^ 0 * lengthValue field) % 2 ^ 32 :=
    remainLenOf_eq 0 0 field
  have hlt := lengthValue_lt field
  have hpower : 128 ^ field.length ≤ 128 ^ 4 :=
    Nat.pow_le_pow_right (by omega) hshort
  rw [hvalue, Nat.pow_zero, Nat.zero_add, Nat.one_mul, Nat.mod_eq_of_lt]
  omega

/-! ## Length fields -/

theorem LengthFieldEnds.exists_last
    {field : Bytes} (hends : LengthFieldEnds field) :
    ∃ byte ∈ field, byte.toNat < 0x80 := by
  induction field with
  | nil => exact hends.elim
  | cons byte field ih =>
      by_cases hlast : byte.toNat < 0x80
      · exact ⟨byte, List.mem_cons_self, hlast⟩
      · rw [LengthFieldEnds, if_neg hlast] at hends
        obtain ⟨last, hmem, hlow⟩ := ih hends
        exact ⟨last, List.mem_cons_of_mem _ hmem, hlow⟩

/-- Of the bytes of a field only the last has its high bit clear. -/
theorem LengthFieldEnds.length_le_of_mem
    {field : Bytes} {count : ℕ} (hends : LengthFieldEnds field)
    (hlow : ∃ byte ∈ field.take count, byte.toNat < 0x80) :
    field.length ≤ count := by
  induction field generalizing count with
  | nil => exact hends.elim
  | cons byte field ih =>
      obtain ⟨low, hmem, hlow⟩ := hlow
      cases count with
      | zero => cases hmem
      | succ count =>
          rw [List.take_succ_cons, List.mem_cons] at hmem
          by_cases hlast : byte.toNat < 0x80
          · rw [LengthFieldEnds, if_pos hlast] at hends
            rw [hends]
            exact Nat.succ_le_succ (Nat.zero_le count)
          · rw [LengthFieldEnds, if_neg hlast] at hends
            have hrest : low ∈ field.take count := by
              rcases hmem with rfl | hrest
              · exact (hlast hlow).elim
              · exact hrest
            exact Nat.succ_le_succ (ih hends ⟨low, hrest, hlow⟩)

/-- Bytes start with a field, or none of them ends one. -/
theorem exists_field_or (data : Bytes) :
    (∃ field rest, data = field ++ rest ∧ LengthFieldEnds field) ∨
      ∀ byte ∈ data, ¬ byte.toNat < 0x80 := by
  induction data with
  | nil =>
      right
      intro byte hbyte
      cases hbyte
  | cons byte data ih =>
      by_cases hlast : byte.toNat < 0x80
      · left
        exact ⟨[byte], data, rfl, by simp [LengthFieldEnds, hlast]⟩
      · rcases ih with ⟨field, rest, rfl, hends⟩ | hnone
        · left
          refine ⟨byte :: field, rest, rfl, ?_⟩
          rw [LengthFieldEnds, if_neg hlast]
          exact hends
        · right
          intro other hother
          rcases List.mem_cons.mp hother with rfl | hother
          · exact hlast
          · exact hnone other hother

/-! ## Reading a header -/

theorem netWorkReadByte_of_arriving
    {session : LbsSession Context} {byte : UInt8} {rest : Bytes}
    (harriving : session.network.arriving = byte :: rest) :
    ∃ reached, netWorkReadByte session = .ok byte reached ∧
      reached.network.arriving = rest := by
  obtain ⟨kernel, keyValues, affair, ctxClient,
    ⟨outcomes, realIp, incoming, sent⟩⟩ := session
  cases outcomes with
  | nil =>
      change incoming = byte :: rest at harriving
      rw [harriving]
      exact ⟨_, rfl, rfl⟩
  | cons outcome outcomes =>
      cases incoming with
      | nil => cases harriving
      | cons first incoming =>
          change (if outcome = .succ then
            first :: arriving outcomes incoming else []) = _ at harriving
          by_cases hsucc : outcome = .succ
          · rw [if_pos hsucc, List.cons.injEq] at harriving
            obtain ⟨rfl, hrest⟩ := harriving
            rw [hsucc]
            exact ⟨_, rfl, hrest⟩
          · rw [if_neg hsucc] at harriving
            cases harriving

theorem netWorkReadByte_of_nothing
    {session : LbsSession Context} (hnothing : session.network.arriving = []) :
    ∃ error reached, netWorkReadByte session = .error error reached ∧
      reached.network.incoming = session.network.incoming := by
  obtain ⟨kernel, keyValues, affair, ctxClient,
    ⟨outcomes, realIp, incoming, sent⟩⟩ := session
  cases outcomes with
  | nil =>
      change incoming = [] at hnothing
      rw [hnothing]
      exact ⟨_, _, rfl, rfl⟩
  | cons outcome outcomes =>
      by_cases hsucc : outcome = .succ
      · cases incoming with
        | nil =>
            rw [hsucc]
            exact ⟨_, _, rfl, rfl⟩
        | cons first incoming =>
            change (if outcome = .succ then
              first :: arriving outcomes incoming else []) = _ at hnothing
            rw [if_pos hsucc] at hnothing
            cases hnothing
      · cases outcome with
        | succ => exact (hsucc rfl).elim
        | _ => exact ⟨_, _, rfl, rfl⟩

/-- A field that arrives is read to its end and no further. -/
theorem readRemainLen_of_field
    {session : LbsSession Context} {fuel : ℕ} {field rest : Bytes}
    (remainMult remainLen : ℕ) (hfuel : field.length ≤ fuel)
    (hends : LengthFieldEnds field)
    (harriving : session.network.arriving = field ++ rest) :
    ∃ reached, readRemainLen fuel remainMult remainLen session =
        .ok (remainLenOf remainMult remainLen field) reached ∧
      session.network.incoming = field ++ reached.network.incoming ∧
      reached.network.arriving = rest := by
  induction field generalizing session fuel remainMult remainLen with
  | nil => exact hends.elim
  | cons byte field ih =>
      cases fuel with
      | zero => cases hfuel
      | succ fuel =>
          obtain ⟨middle, hbyte, hmiddle⟩ :=
            netWorkReadByte_of_arriving harriving
          have hread := (reads_of_netWorkReadByte hbyte).incoming
          by_cases hlast : byte.toNat < 0x80
          · rw [LengthFieldEnds, if_pos hlast] at hends
            rw [hends] at hmiddle ⊢
            refine ⟨middle, ?_, hread, hmiddle⟩
            rw [readRemainLen, bind_ok_iff]
            refine ⟨byte, middle, hbyte, ?_⟩
            rw [if_pos hlast]
            rfl
          · rw [LengthFieldEnds, if_neg hlast] at hends
            obtain ⟨reached, hrest, hincoming, hreached⟩ :=
              ih (remainMult * 128 % 2 ^ 32)
                ((remainLen + byte.toNat % 128 * remainMult) % 2 ^ 32)
                (Nat.le_of_succ_le_succ hfuel) hends hmiddle
            refine ⟨reached, ?_, ?_, hreached⟩
            · rw [readRemainLen, bind_ok_iff]
              refine ⟨byte, middle, hbyte, ?_⟩
              rw [if_neg hlast]
              exact hrest
            · rw [hread, hincoming]
              rfl

/-- Where no field ends the loop reads all that arrives and fails. -/
theorem readRemainLen_of_endless
    {session : LbsSession Context} {fuel : ℕ} (remainMult remainLen : ℕ)
    (hfuel : session.network.arriving.length < fuel)
    (hendless : ∀ byte ∈ session.network.arriving, ¬ byte.toNat < 0x80) :
    ∃ error reached, readRemainLen fuel remainMult remainLen session =
        .error error reached ∧
      session.network.incoming =
        session.network.arriving ++ reached.network.incoming := by
  induction fuel generalizing session remainMult remainLen with
  | zero => cases hfuel
  | succ fuel ih =>
      cases harriving : session.network.arriving with
      | nil =>
          obtain ⟨error, reached, hbyte, hreached⟩ :=
            netWorkReadByte_of_nothing harriving
          refine ⟨error, reached, ?_, hreached.symm⟩
          rw [readRemainLen, bind_error_iff]
          left
          exact hbyte
      | cons byte rest =>
          obtain ⟨middle, hbyte, hmiddle⟩ :=
            netWorkReadByte_of_arriving harriving
          have hread := (reads_of_netWorkReadByte hbyte).incoming
          rw [harriving, List.length_cons] at hfuel
          rw [harriving, List.forall_mem_cons] at hendless
          rw [← hmiddle] at hfuel hendless
          obtain ⟨error, reached, hrest, hreached⟩ :=
            ih (remainMult * 128 % 2 ^ 32)
              ((remainLen + byte.toNat % 128 * remainMult) % 2 ^ 32)
              (Nat.lt_of_succ_lt_succ hfuel) hendless.2
          refine ⟨error, reached, ?_, ?_⟩
          · rw [readRemainLen, bind_error_iff]
            right
            refine ⟨byte, middle, hbyte, ?_⟩
            rw [if_neg hendless.1]
            exact hrest
          · rw [hread, hreached, hmiddle]
            rfl

theorem length_arriving_le (network : LbsNetwork) :
    network.arriving.length ≤ network.incoming.length := by
  obtain ⟨outcomes, realIp, incoming, sent⟩ := network
  change (arriving outcomes incoming).length ≤ incoming.length
  induction outcomes generalizing incoming with
  | nil => exact Nat.le_refl _
  | cons outcome outcomes ih =>
      cases incoming with
      | nil => exact Nat.le_refl _
      | cons byte incoming =>
          rw [arriving]
          split
          · exact Nat.succ_le_succ (ih incoming)
          · exact Nat.zero_le _

/-- A header whose field arrives. -/
theorem decodeHeader_of_field
    {session : LbsSession Context} {head : UInt8} {field rest : Bytes}
    (hends : LengthFieldEnds field)
    (harriving : session.network.arriving = head :: (field ++ rest)) :
    ∃ reached, decodeHeader session =
        .ok (head.toNat / 16, remainLenOf 1 0 field) reached ∧
      session.network.incoming =
        head :: (field ++ reached.network.incoming) ∧
      reached.network.arriving = rest := by
  obtain ⟨middle, hhead, hmiddle⟩ := netWorkReadByte_of_arriving harriving
  have hle : field.length ≤ middle.network.incoming.length + 1 := by
    have harrives := length_arriving_le middle.network
    rw [hmiddle, List.length_append] at harrives
    omega
  obtain ⟨reached, hfield, hincoming, hreached⟩ :=
    readRemainLen_of_field 1 0 hle hends hmiddle
  refine ⟨reached, ?_, ?_, hreached⟩
  · simp only [decodeHeader, bind_ok_iff, get_ok_iff, pure_ok_iff]
    exact ⟨head, middle, hhead, middle, middle, ⟨rfl, rfl⟩, _, reached,
      hfield, rfl, rfl⟩
  · rw [(reads_of_netWorkReadByte hhead).incoming, hincoming]
    rfl

/-- A header that breaks off before its field has ended. -/
theorem decodeHeader_of_endless
    {session : LbsSession Context}
    (hendless : ∀ byte ∈ session.network.arriving.tail,
      ¬ byte.toNat < 0x80) :
    ∃ error reached, decodeHeader session = .error error reached ∧
      session.network.incoming =
        session.network.arriving ++ reached.network.incoming := by
  cases harriving : session.network.arriving with
  | nil =>
      obtain ⟨error, reached, hhead, hreached⟩ :=
        netWorkReadByte_of_nothing harriving
      refine ⟨error, reached, ?_, hreached.symm⟩
      rw [decodeHeader, bind_error_iff]
      left
      exact hhead
  | cons head rest =>
      obtain ⟨middle, hhead, hmiddle⟩ :=
        netWorkReadByte_of_arriving harriving
      rw [harriving, List.tail_cons, ← hmiddle] at hendless
      have hfuel := Nat.lt_succ_of_le (length_arriving_le middle.network)
      obtain ⟨error, reached, hfield, hreached⟩ :=
        readRemainLen_of_endless 1 0 hfuel hendless
      refine ⟨error, reached, ?_, ?_⟩
      · simp only [decodeHeader, bind_error_iff, get_ok_iff]
        exact .inr ⟨head, middle, hhead, .inr ⟨middle, middle, ⟨rfl, rfl⟩,
          .inl hfield⟩⟩
      · rw [(reads_of_netWorkReadByte hhead).incoming, hreached, hmiddle]
        rfl

/-! ## The codec -/

/-- The state that a function of the transport leaves, however it ends. -/
def leaves {Value : Type} (action : LbsStep Context Value)
    (session : LbsSession Context) : LbsSession Context :=
  match action session with
  | .ok _ reached => reached
  | .error _ reached => reached

theorem leaves_of_ok
    {Value : Type} {action : LbsStep Context Value}
    {session reached : LbsSession Context} {value : Value}
    (hok : action session = .ok value reached) :
    leaves action session = reached := by
  rw [leaves, hok]

theorem leaves_of_error
    {Value : Type} {action : LbsStep Context Value}
    {session reached : LbsSession Context} {error : Abort}
    (herror : action session = .error error reached) :
    leaves action session = reached := by
  rw [leaves, herror]

/-- What `serialize` writes is read back as its command and the length of the
payload. -/
def HeaderRoundTrips (serialize : ℕ → LbsStep Context Unit) : Prop :=
  ∀ cmd < 16, ∀ sender receiver : LbsSession Context, ∀ rest,
    sender.affair.globalOutPacket.headBuf = [] →
    sender.affair.globalOutPacket.payloadBuf.length < 2 ^ 28 →
    (∀ outcome ∈ receiver.network.outcomes, outcome = .succ) →
    receiver.network.incoming =
      (leaves (serialize cmd) sender).affair.globalOutPacket.headBuf ++
        rest →
    ∃ reached, decodeHeader receiver =
        .ok (cmd, sender.affair.globalOutPacket.payloadBuf.length) reached ∧
      reached.network.incoming = rest

/-- At most four bytes follow the head, and a length that is accepted is what
they stand for. -/
structure DecodesHeader (session : LbsSession Context) : Prop where
  short : session.network.incoming.length ≤
    (leaves decodeHeader session).network.incoming.length + 5
  exact : ∀ {cmd remainLen reached},
    decodeHeader session = .ok (cmd, remainLen) reached →
      ∃ head field,
        session.network.incoming =
          head :: (field ++ reached.network.incoming) ∧
        remainLen = lengthValue field

/-- One of the four bytes after the head ends the length, or no fifth byte
arrives. -/
def HeaderStops (network : LbsNetwork) : Prop :=
  (∃ byte ∈ network.arriving.tail.take 4, byte.toNat < 0x80) ∨
    network.arriving.length ≤ 5

theorem arriving_of_succ
    {network : LbsNetwork}
    (hsucc : ∀ outcome ∈ network.outcomes, outcome = .succ) :
    network.arriving = network.incoming := by
  obtain ⟨outcomes, realIp, incoming, sent⟩ := network
  change arriving outcomes incoming = incoming
  induction outcomes generalizing incoming with
  | nil => rfl
  | cons outcome outcomes ih =>
      rw [List.forall_mem_cons] at hsucc
      cases incoming with
      | nil => rfl
      | cons byte incoming =>
          rw [arriving, if_pos hsucc.1, ih _ hsucc.2]

theorem headerStops_of_short
    {session : LbsSession Context}
    (hshort : session.network.incoming.length ≤
      (leaves decodeHeader session).network.incoming.length + 5) :
    HeaderStops session.network := by
  rcases exists_field_or session.network.arriving.tail with
    ⟨field, rest, hfield, hends⟩ | hendless
  · left
    cases harriving : session.network.arriving with
    | nil =>
        rw [harriving, List.tail_nil, List.nil_eq_append_iff] at hfield
        rw [hfield.1] at hends
        exact hends.elim
    | cons head tail =>
        rw [harriving, List.tail_cons] at hfield
        rw [hfield] at harriving ⊢
        obtain ⟨reached, hdecode, hread, -⟩ :=
          decodeHeader_of_field hends harriving
        rw [leaves_of_ok hdecode, hread, List.length_cons,
          List.length_append] at hshort
        have hfour : field.length ≤ 4 := by omega
        obtain ⟨byte, hmem, hlow⟩ := hends.exists_last
        refine ⟨byte, ?_, hlow⟩
        rw [List.tail_cons, List.take_append, List.take_of_length_le hfour]
        exact List.mem_append_left _ hmem
  · right
    obtain ⟨error, reached, hdecode, hread⟩ :=
      decodeHeader_of_endless hendless
    rw [leaves_of_error hdecode, hread, List.length_append] at hshort
    omega

theorem decodesHeader_of_headerStops
    {session : LbsSession Context} (hstops : HeaderStops session.network) :
    DecodesHeader session := by
  rcases exists_field_or session.network.arriving.tail with
    ⟨field, rest, hfield, hends⟩ | hendless
  · cases harriving : session.network.arriving with
    | nil =>
        rw [harriving, List.tail_nil, List.nil_eq_append_iff] at hfield
        rw [hfield.1] at hends
        exact hends.elim
    | cons head tail =>
        rw [harriving, List.tail_cons] at hfield
        rw [hfield] at harriving
        obtain ⟨reached, hdecode, hread, -⟩ :=
          decodeHeader_of_field hends harriving
        have hfour : field.length ≤ 4 := by
          rw [HeaderStops, harriving, List.tail_cons, List.length_cons,
            List.length_append] at hstops
          rcases hstops with hlow | hshort
          · by_contra hlong
            have htake : (field ++ rest).take 4 = field.take 4 :=
              List.take_append_of_le_length (by omega)
            rw [htake] at hlow
            exact hlong (hends.length_le_of_mem hlow)
          · omega
        constructor
        · rw [leaves_of_ok hdecode, hread, List.length_cons,
            List.length_append]
          omega
        · intro cmd remainLen other hother
          rw [hdecode] at hother
          cases hother
          exact ⟨head, field, hread, remainLenOf_of_short hfour⟩
  · obtain ⟨error, reached, hdecode, hread⟩ :=
      decodeHeader_of_endless hendless
    have hfive : session.network.arriving.length ≤ 5 := by
      rcases hstops with ⟨byte, hmem, hlow⟩ | hshort
      · exact (hendless byte (List.mem_of_mem_take hmem) hlow).elim
      · exact hshort
    constructor
    · rw [leaves_of_error hdecode, hread, List.length_append]
      omega
    · intro cmd remainLen other hother
      rw [hdecode] at hother
      cases hother

theorem headerRoundTrips_serializeHead {low : ℕ} (hlow : low < 16) :
    HeaderRoundTrips (serializeHead low : ℕ → LbsStep Context Unit) := by
  intro cmd hcmd sender receiver rest hempty hlength hsucc hincoming
  obtain ⟨hends, hvalue⟩ :=
    @lengthField_lengthBytes 3
      sender.affair.globalOutPacket.payloadBuf.length hlength
  have hwritten :
      (leaves (serializeHead low cmd) sender).affair.globalOutPacket.headBuf =
        UInt8.ofNat (cmd % 16 * 16 + low) ::
          lengthBytes 4 sender.affair.globalOutPacket.payloadBuf.length := by
    change sender.affair.globalOutPacket.headBuf ++ _ = _
    rw [hempty, List.nil_append]
  rw [hwritten] at hincoming
  have harriving := (arriving_of_succ hsucc).trans hincoming
  obtain ⟨reached, hdecode, hread, -⟩ :=
    decodeHeader_of_field hends harriving
  have hfour := length_lengthBytes_le 4
    sender.affair.globalOutPacket.payloadBuf.length
  rw [toNat_head hlow hcmd, remainLenOf_of_short hfour, hvalue] at hdecode
  rw [hincoming, List.cons_append, List.cons.injEq,
    List.append_cancel_left_eq] at hread
  exact ⟨reached, hdecode, hread.2.symm⟩

/-- The decoder is the inverse of both encoders, and decodes what the peer
sends exactly when the length ends in four bytes. -/
theorem lbsHeader_roundTrips_and_decodes_iff :
    HeaderRoundTrips (headerSerialize : ℕ → LbsStep Context Unit) ∧
      HeaderRoundTrips (headerSerializeOld : ℕ → LbsStep Context Unit) ∧
      ∀ session : LbsSession Context,
        DecodesHeader session ↔ HeaderStops session.network := by
  have hnew : HeaderRoundTrips (serializeHead 2 : ℕ → LbsStep Context Unit) :=
    headerRoundTrips_serializeHead (by omega)
  have hold : HeaderRoundTrips (serializeHead 0 : ℕ → LbsStep Context Unit) :=
    headerRoundTrips_serializeHead (by omega)
  refine ⟨hnew, hold, fun session => ⟨fun hdecodes => ?_, fun hstops => ?_⟩⟩
  · exact headerStops_of_short hdecodes.short
  · exact decodesHeader_of_headerStops hstops

/-- A server that sends `incoming` over a network that never fails. -/
def sendingSession (incoming : Bytes) : LbsSession Unit where
  kernel := ⟨⟨0, 0, [], []⟩, [], [], [], [], DasInfo.zero⟩
  keyValues _ := []
  affair := {
    random1 := 0
    random2 := 0
    devAccessMode := 0
    devAuthMode := 0
    devSubserial := []
    masterKey := []
    devId := []
    sessionKey := []
    shareKey := []
    globalOutPacket := ⟨[], []⟩
    globalInPacket := ⟨[], 0⟩ }
  ctxClient := ()
  network := ⟨[], [], incoming, []⟩

/-- Five length bytes: they stand for `2 ^ 32`, and the length is taken to be
zero. -/
theorem decodeHeader_wraps :
    ∃ reached,
      decodeHeader (sendingSession [0x20, 0x80, 0x80, 0x80, 0x80, 0x10]) =
          .ok (2, 0) reached ∧
        reached.network.incoming = [] ∧
        lengthValue [0x80, 0x80, 0x80, 0x80, 0x10] = 2 ^ 32 ∧
        ¬ DecodesHeader
          (sendingSession [0x20, 0x80, 0x80, 0x80, 0x80, 0x10]) := by
  refine ⟨_, rfl, rfl, rfl, ?_⟩
  intro hdecodes
  have hshort := hdecodes.short
  revert hshort
  decide

end EziotSdk
