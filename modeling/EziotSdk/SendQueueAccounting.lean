import EziotSdk.SendQueue
import EziotSdk.StepSystem

/-!
# What becomes of an accepted message

An accepted message is in its queue, in the hands of the kernel thread, or
acknowledged, and exactly one of the three.  The accounting invariant states
this as a permutation of the accepted messages, together with the publish
budget of each message.  Every step keeps it, except a push back to the head
that finds the queue full or gets no element: that message is in none of the
three places afterwards.
-/

namespace EziotSdk

namespace Channel

variable {Msg Context : Type}

def queuedAddresses (channel : Channel Msg Context) : List ℕ :=
  channel.queue.items.map PubmsgExchange.address

def ackedAddresses (channel : Channel Msg Context) : List ℕ :=
  channel.acked.map AckEvent.address

/-- The observed property: each accepted message is queued and not
acknowledged, or acknowledged by a single event and not queued, and it was
handed to the publish function at most `ezdev_sdk_max_publish_count` times. -/
structure Settled (channel : Channel Msg Context) : Prop where
  oneOf : ∀ address ∈ channel.accepted,
    (address ∈ channel.queuedAddresses ∧
      channel.ackedAddresses.count address = 0) ∨
    (address ∉ channel.queuedAddresses ∧
      channel.ackedAddresses.count address = 1)
  handed_le : ∀ address ∈ channel.accepted,
    channel.handed.count address ≤ ezdevSdkMaxPublishCount

end Channel

namespace Carried

variable {Msg : Type}

def exchange : Carried Msg → PubmsgExchange Msg
  | .popped exchange => exchange
  | .published exchange _ => exchange

/-- What the budget of the message in hand may already have been charged. -/
def spent : Carried Msg → ℕ
  | .popped _ => 0
  | .published _ _ => 1

end Carried

section Accounting

variable {Msg Context : Type}

/-- The addresses in the hands of the kernel thread. -/
def carriedAddresses (carried : Option (Carried Msg)) : List ℕ :=
  carried.toList.map fun inHand => inHand.exchange.address

/-- The invariant of one channel while the kernel thread carries the given
message, with all addresses below the next one the allocator gives. -/
structure Channel.Accounted
    (channel : Channel Msg Context) (carried : Option (Carried Msg))
    (nextAddress : ℕ) : Prop where
  places : (channel.queuedAddresses ++ carriedAddresses carried ++
    channel.ackedAddresses).Perm channel.accepted
  accepted_nodup : channel.accepted.Nodup
  accepted_lt : ∀ address ∈ channel.accepted, address < nextAddress
  handed_accepted : ∀ address ∈ channel.handed, address ∈ channel.accepted
  handed_le : ∀ address,
    channel.handed.count address ≤ ezdevSdkMaxPublishCount
  queued_budget : ∀ exchange ∈ channel.queue.items,
    1 ≤ exchange.maxSendCount ∧
      channel.handed.count exchange.address + exchange.maxSendCount ≤
        ezdevSdkMaxPublishCount
  carried_budget : ∀ inHand, carried = some inHand →
    1 ≤ inHand.exchange.maxSendCount ∧
      channel.handed.count inHand.exchange.address +
          inHand.exchange.maxSendCount ≤
        ezdevSdkMaxPublishCount + inHand.spent

namespace Channel.Accounted

variable {channel : Channel Msg Context} {carried : Option (Carried Msg)}
  {nextAddress : ℕ}

theorem places_nodup
    (hinv : channel.Accounted carried nextAddress) :
    (channel.queuedAddresses ++ carriedAddresses carried ++
      channel.ackedAddresses).Nodup :=
  hinv.places.nodup_iff.mpr hinv.accepted_nodup

theorem carried_mem_accepted
    {inHand : Carried Msg}
    (hinv : channel.Accounted (some inHand) nextAddress) :
    inHand.exchange.address ∈ channel.accepted :=
  hinv.places.subset (by simp [carriedAddresses])

theorem mono
    (hinv : channel.Accounted carried nextAddress)
    {later : ℕ} (hle : nextAddress ≤ later) :
    channel.Accounted carried later :=
  { hinv with
    accepted_lt := fun address hmem =>
      lt_of_lt_of_le (hinv.accepted_lt address hmem) hle }

theorem init (maxsize : Fin (2 ^ 16)) (nextAddress : ℕ) :
    (Channel.init maxsize : Channel Msg Context).Accounted none
      nextAddress := by
  constructor <;>
    simp [Channel.init, Channel.queuedAddresses, Channel.ackedAddresses,
      carriedAddresses]

/-- A channel whose message nobody carries has the observed property. -/
theorem settled
    (hinv : channel.Accounted none nextAddress) : channel.Settled := by
  have hplaces := hinv.places
  have hnodup := hinv.places_nodup
  simp only [carriedAddresses, Option.toList_none, List.map_nil,
    List.append_nil] at hplaces hnodup
  rw [List.nodup_append] at hnodup
  obtain ⟨-, hackedNodup, hdisjoint⟩ := hnodup
  constructor
  · intro address hmem
    rw [← hplaces.mem_iff, List.mem_append] at hmem
    rcases hmem with hqueued | hacked
    · left
      refine ⟨hqueued, List.count_eq_zero.mpr ?_⟩
      intro hacked
      exact hdisjoint address hqueued address hacked rfl
    · right
      refine ⟨?_, List.count_eq_one_of_mem hackedNodup hacked⟩
      intro hqueued
      exact hdisjoint address hqueued address hacked rfl
  · intro address hmem
    exact hinv.handed_le address

/-- An accepted call adds its message at the tail. -/
theorem accepted
    (hinv : channel.Accounted carried nextAddress)
    {queue : KernelQueue (PubmsgExchange Msg)} {exchange : PubmsgExchange Msg}
    (hitems : queue.items = channel.queue.items ++ [exchange])
    (haddress : exchange.address = nextAddress)
    (hcount : exchange.maxSendCount = ezdevSdkMaxPublishCount) :
    ({ channel with
        queue := queue
        accepted := channel.accepted ++ [nextAddress] } :
      Channel Msg Context).Accounted carried (nextAddress + 1) := by
  have hfresh : nextAddress ∉ channel.accepted := by
    intro hmem
    exact lt_irrefl _ (hinv.accepted_lt _ hmem)
  have hnotHanded : nextAddress ∉ channel.handed := by
    intro hmem
    exact hfresh (hinv.handed_accepted _ hmem)
  constructor
  · have hperm := hinv.places.append_right [nextAddress]
    refine List.Perm.trans ?_ hperm
    simp only [Channel.queuedAddresses, Channel.ackedAddresses, hitems,
      List.map_append, List.map_cons, List.map_nil, haddress,
      List.append_assoc]
    refine List.Perm.append_left _ ?_
    exact List.perm_append_comm.trans (by simp [List.append_assoc])
  · exact List.Nodup.append hinv.accepted_nodup (by simp) (by simpa using hfresh)
  · intro address hmem
    rcases List.mem_append.mp hmem with hold | hnew
    · exact Nat.lt_succ_of_lt (hinv.accepted_lt _ hold)
    · rw [List.mem_singleton.mp hnew]
      exact Nat.lt_succ_self _
  · intro address hmem
    exact List.mem_append_left _ (hinv.handed_accepted _ hmem)
  · exact hinv.handed_le
  · intro other hmem
    simp only [hitems, List.mem_append, List.mem_singleton] at hmem
    rcases hmem with hold | rfl
    · exact hinv.queued_budget other hold
    · have hzero : channel.handed.count other.address = 0 :=
        List.count_eq_zero.mpr (haddress ▸ hnotHanded)
      simp only [hzero, hcount, Nat.zero_add, le_refl, and_true]
      decide
  · exact hinv.carried_budget

/-- A pop moves the head of the queue into the kernel thread's hands. -/
theorem popped
    (hinv : channel.Accounted none nextAddress)
    {queue : KernelQueue (PubmsgExchange Msg)} {exchange : PubmsgExchange Msg}
    (hpop : channel.queue.pop = .ok (exchange, queue)) :
    ({ channel with queue := queue } : Channel Msg Context).Accounted
      (some (.popped exchange)) nextAddress := by
  have hitems := KernelQueue.items_of_pop hpop
  constructor
  · refine List.Perm.trans ?_ hinv.places
    simp only [Channel.queuedAddresses, Channel.ackedAddresses,
      carriedAddresses, hitems, Option.toList_some, Option.toList_none,
      List.map_cons, List.map_nil, List.append_nil, Carried.exchange]
    exact List.Perm.append_right _ List.perm_append_comm
  · exact hinv.accepted_nodup
  · exact hinv.accepted_lt
  · exact hinv.handed_accepted
  · exact hinv.handed_le
  · intro other hmem
    exact hinv.queued_budget other (by simp [hitems, hmem])
  · rintro inHand ⟨⟩
    simpa [Carried.exchange, Carried.spent] using
      hinv.queued_budget exchange (by simp [hitems])

/-- A publish charges the budget of the message in hand once. -/
theorem published
    {exchange : PubmsgExchange Msg}
    (hinv : channel.Accounted (some (.popped exchange)) nextAddress)
    (sdkError : MkernelInternalError) :
    (channel.hand exchange).Accounted
      (some (.published exchange sdkError)) nextAddress := by
  obtain ⟨hpositive, hbudget⟩ := hinv.carried_budget _ rfl
  simp only [Carried.exchange, Carried.spent] at hpositive hbudget
  have hnotQueued : ∀ other ∈ channel.queue.items,
      other.address ≠ exchange.address := by
    intro other hmem heq
    have hnodup := hinv.places_nodup
    rw [List.append_assoc, List.nodup_append] at hnodup
    exact hnodup.2.2 other.address
      (List.mem_map_of_mem hmem) exchange.address
      (by simp [carriedAddresses, Carried.exchange]) heq
  constructor
  · exact hinv.places
  · exact hinv.accepted_nodup
  · exact hinv.accepted_lt
  · intro address hmem
    simp only [Channel.hand, List.mem_append, List.mem_singleton] at hmem ⊢
    rcases hmem with hold | rfl
    · exact hinv.handed_accepted _ hold
    · exact hinv.carried_mem_accepted
  · intro address
    have hle := hinv.handed_le address
    simp only [Channel.hand, List.count_append, List.count_singleton]
    by_cases heq : exchange.address = address
    · subst heq
      simp only [beq_self_eq_true, if_true]
      omega
    · simpa [heq] using hle
  · intro other hmem
    have hne := hnotQueued other hmem
    simpa [Channel.hand, List.count_append, Ne.symm hne] using
      hinv.queued_budget other hmem
  · rintro inHand ⟨⟩
    simp only [Channel.hand, Carried.exchange, Carried.spent,
      List.count_append, List.count_singleton_self]
    exact ⟨hpositive, by omega⟩

/-- A message that risk control blocks goes on without a publish. -/
theorem blocked
    {exchange : PubmsgExchange Msg}
    (hinv : channel.Accounted (some (.popped exchange)) nextAddress)
    (sdkError : MkernelInternalError) :
    channel.Accounted (some (.published exchange sdkError)) nextAddress := by
  obtain ⟨hpositive, hbudget⟩ := hinv.carried_budget _ rfl
  simp only [Carried.exchange, Carried.spent] at hpositive hbudget
  refine { hinv with places := hinv.places, carried_budget := ?_ }
  rintro inHand ⟨⟩
  simp only [Carried.exchange, Carried.spent]
  exact ⟨hpositive, by omega⟩

/-- A push back that succeeds returns the message to the head of its queue
with one publish less in its budget. -/
theorem requeued
    {exchange : PubmsgExchange Msg} {sdkError : MkernelInternalError}
    (hinv : channel.Accounted (some (.published exchange sdkError))
      nextAddress)
    (hcount : 1 < exchange.maxSendCount)
    {queue : KernelQueue (PubmsgExchange Msg)}
    (hitems : queue.items =
      { exchange with maxSendCount := exchange.maxSendCount - 1 } ::
        channel.queue.items) :
    ({ channel with queue := queue } : Channel Msg Context).Accounted none
      nextAddress := by
  obtain ⟨-, hbudget⟩ := hinv.carried_budget _ rfl
  simp only [Carried.exchange, Carried.spent] at hbudget
  constructor
  · refine List.Perm.trans ?_ hinv.places
    simp only [Channel.queuedAddresses, Channel.ackedAddresses,
      carriedAddresses, hitems, Option.toList_some, Option.toList_none,
      List.map_cons, List.map_nil, List.append_nil, Carried.exchange]
    have hswap :
        ([exchange.address] ++ channel.queuedAddresses).Perm
          (channel.queuedAddresses ++ [exchange.address]) :=
      List.perm_append_comm
    exact List.Perm.append_right _ hswap
  · exact hinv.accepted_nodup
  · exact hinv.accepted_lt
  · exact hinv.handed_accepted
  · exact hinv.handed_le
  · intro other hmem
    simp only [hitems, List.mem_cons] at hmem
    rcases hmem with rfl | hold
    · exact ⟨by simp only; omega, by simp only; omega⟩
    · exact hinv.queued_budget other hold
  · intro inHand hnone
    cases hnone

/-- The acknowledgement takes the message out of the kernel thread's
hands. -/
theorem acknowledged
    {exchange : PubmsgExchange Msg} {sdkError : MkernelInternalError}
    (hinv : channel.Accounted (some (.published exchange sdkError))
      nextAddress)
    (event : AckEvent Context) (hevent : event.address = exchange.address) :
    ({ channel with acked := channel.acked ++ [event] } :
      Channel Msg Context).Accounted none nextAddress := by
  refine { hinv with places := ?_, carried_budget := ?_ }
  · refine List.Perm.trans ?_ hinv.places
    simp only [Channel.queuedAddresses, Channel.ackedAddresses,
      carriedAddresses, hevent, Option.toList_some, Option.toList_none,
      List.map_append, List.map_cons, List.map_nil, List.append_nil,
      List.append_assoc, Carried.exchange]
    exact List.Perm.append_left _ List.perm_append_comm
  · intro inHand hnone
    cases hnone

/-- A message the kernel thread lets go without either is neither queued nor
acknowledged. -/
theorem not_settled_of_dropped
    {inHand : Carried Msg}
    (hinv : channel.Accounted (some inHand) nextAddress) :
    ¬ channel.Settled := by
  intro hsettled
  have hnodup := hinv.places_nodup
  simp only [carriedAddresses, Option.toList_some, List.map_cons,
    List.map_nil] at hnodup
  rw [List.append_assoc, List.nodup_append] at hnodup
  obtain ⟨-, hrest, hdisjoint⟩ := hnodup
  rw [List.singleton_append, List.nodup_cons] at hrest
  rcases hsettled.oneOf _ hinv.carried_mem_accepted with
    ⟨hqueued, -⟩ | ⟨-, hacked⟩
  · exact hdisjoint _ hqueued _ (by simp) rfl
  · rw [List.count_eq_zero.mpr hrest.1] at hacked
    omega

end Channel.Accounted

end Accounting

end EziotSdk
