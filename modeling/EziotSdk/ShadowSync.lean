import EziotSdk.NodePlaces
import EziotSdk.ShadowPayloads
import EziotSdk.StepSystem

/-!
# Queries for the desired state

`shadow_proc_sync` asks the platform for each channel that needs it, again
when no reply arrives in time, and gives up after `MAXIMUM_RETRY_TIMES`.  A
registration, a break and a reset each open an episode of a channel.  The
counter of queries is cleared by the first two only, and it counts a query
that could not be sent like any other.
-/

namespace EziotSdk

def maximumRetryTimes : ℕ := 3

/-! ## One channel -/

/-- What a pass does with a channel. -/
inductive SyncVisit where
  | skipped
  | waiting
  | gaveUp
  | failed
  | queried
  deriving DecidableEq, Repr

namespace NodeIndex

def procSync (sent : Bool) (index : NodeIndex) : SyncVisit × NodeIndex :=
  if index.needSync = false then (.skipped, index)
  else if index.timer = .running then (.waiting, index)
  else
    let index := { index with
      timer := .none, retryCount := index.retryCount + 1 }
    if maximumRetryTimes < index.retryCount then
      (.gaveUp, { index with retryCount := 0, needSync := false })
    else if sent then (.queried, { index with timer := .running })
    else (.failed, index)

def expire (index : NodeIndex) : NodeIndex :=
  if index.timer = .running then { index with timer := .expired } else index

end NodeIndex

/-! ## The tree -/

/-- The positions of a channel's device, its type and itself. -/
abbrev IndexPlace := ℕ × ℕ × ℕ

def indexAt (place : IndexPlace) (devs : List NodeDev) : Option NodeIndex :=
  devs[place.1]?.bind fun dev =>
    dev.typeLst[place.2.1]?.bind fun set => set.indexLst[place.2.2]?

/-- The innermost loop; a query that cannot be sent ends it. -/
def visitIndexes (sent : ℕ → Bool) :
    List NodeIndex → List (SyncVisit × NodeIndex)
  | [] => []
  | index :: rest =>
      let visit := index.procSync (sent 0)
      visit :: if visit.1 = .failed then rest.map fun other => (.skipped, other)
        else visitIndexes (fun place => sent (place + 1)) rest

def NodeIndexSet.procSync (sent : ℕ → Bool) (set : NodeIndexSet) :
    NodeIndexSet :=
  { set with indexLst := (visitIndexes sent set.indexLst).map Prod.snd }

def shadowProcSync (sent : IndexPlace → Bool) (devs : List NodeDev) :
    List NodeDev :=
  devs.mapIdx fun i dev =>
    { dev with
      typeLst := dev.typeLst.mapIdx fun j set =>
        set.procSync fun k => sent (i, j, k) }

/-- What a pass does with the channel at a place. -/
def visitAt (sent : IndexPlace → Bool) (devs : List NodeDev)
    (place : IndexPlace) : SyncVisit :=
  ((devs[place.1]?.bind fun dev =>
    dev.typeLst[place.2.1]?.bind fun set =>
      (visitIndexes (fun k => sent (place.1, place.2.1, k))
        set.indexLst)[place.2.2]?).map Prod.fst).getD .skipped

/-- The value of `shadow_proc_sync`: queries that are waited for hide one
that could not be sent. -/
def shadowProcSyncResult (sent : IndexPlace → Bool) (devs : List NodeDev) :
    ℤ :=
  let visits := (devs.mapIdx fun i dev =>
    (dev.typeLst.mapIdx fun j set =>
      (visitIndexes (fun k => sent (i, j, k)) set.indexLst).map
        Prod.fst).flatten).flatten
  if .queried ∈ visits ∨ .waiting ∈ visits then 1
  else if .failed ∈ visits then -1
  else 0

def expireTimers (expired : IndexPlace → Bool) (devs : List NodeDev) :
    List NodeDev :=
  devs.mapIdx fun i dev =>
    { dev with
      typeLst := dev.typeLst.mapIdx fun j set =>
        { set with
          indexLst := set.indexLst.mapIdx fun k index =>
            if expired (i, j, k) then index.expire else index } }

/-! ## Runs -/

/-- What has happened to a channel since its episode was opened: the counter
it was opened with, the queries that were sent and those that could not be,
and for each time the channel was given up the queries sent until then. -/
structure SyncEpisode where
  carried : ℕ
  queried : ℕ
  failed : ℕ
  givenUp : List ℕ
  deriving DecidableEq, Repr

namespace SyncEpisode

def start : SyncEpisode := ⟨0, 0, 0, []⟩

def opened (carried : ℕ) (episode : SyncEpisode) : SyncEpisode :=
  { episode with carried := carried, queried := 0, failed := 0 }

def visited (episode : SyncEpisode) : SyncVisit → SyncEpisode
  | .queried => { episode with queried := episode.queried + 1 }
  | .failed => { episode with failed := episode.failed + 1 }
  | .gaveUp => { episode with givenUp := episode.queried :: episode.givenUp }
  | _ => episode

end SyncEpisode

/-- The fields of a channel that its synchronisation uses. -/
structure SyncFields where
  needSync : Bool
  timer : ShadowTimer
  retryCount : ℕ
  deriving DecidableEq, Repr

def NodeIndex.syncFields (index : NodeIndex) : SyncFields :=
  ⟨index.needSync, index.timer, index.retryCount⟩

def syncFields (devs : List NodeDev) : List (List (List SyncFields)) :=
  devs.map fun dev => dev.typeLst.map fun set =>
    set.indexLst.map NodeIndex.syncFields

structure SyncState where
  devs : List NodeDev
  episodes : IndexPlace → SyncEpisode

inductive SyncEvent where
  | register (res : ShadowRes) (domainId : CString)
      (props : List ShadowBusiness)
  /-- The functions of the module that change keys only. -/
  | changeKeys (devs : List NodeDev)
  | reset
  | toSync
  | reply (res : ShadowRes)
  | expire (expired : IndexPlace → Bool)
  | pass (sent : IndexPlace → Bool)

namespace SyncState

def init : SyncState := ⟨[], fun _ => SyncEpisode.start⟩

/-- Opens an episode of every channel. -/
def openAll (carried : NodeIndex → ℕ) (state : SyncState)
    (place : IndexPlace) : SyncEpisode :=
  match indexAt place state.devs with
  | none => state.episodes place
  | some index => (state.episodes place).opened (carried index)

def step (devSubserial : CString) (state : SyncState) :
    SyncEvent → Option SyncState
  | .register res domainId props =>
      some { state with
        devs := (shadowCoreModuleAddv3 devSubserial res domainId props
          state.devs).2 }
  | .changeKeys devs =>
      if syncFields devs = syncFields state.devs then
        some { state with devs := devs }
      else none
  | .reset =>
      some ⟨shadowStatusReset state.devs, state.openAll NodeIndex.retryCount⟩
  | .toSync =>
      some ⟨shadowStatus2sync state.devs, state.openAll fun _ => 0⟩
  | .reply res =>
      some { state with devs := shadowStatusSyncDisable res state.devs }
  | .expire expired =>
      some { state with devs := expireTimers expired state.devs }
  | .pass sent =>
      some ⟨shadowProcSync sent state.devs, fun place =>
        (state.episodes place).visited (visitAt sent state.devs place)⟩

/-- No episode has more queries than its budget, and every channel that was
given up had used it all. -/
def BudgetsKept (state : SyncState) : Prop :=
  ∀ place, (state.episodes place).queried ≤ maximumRetryTimes ∧
    ∀ queries ∈ (state.episodes place).givenUp, queries = maximumRetryTimes

/-- A pass gives up no channel whose episode was opened with a counter that
was not clear, or had a query that could not be sent. -/
def BudgetsUnspent (state : SyncState) : SyncEvent → Prop
  | .pass sent => ∀ place, visitAt sent state.devs place = .gaveUp →
      (state.episodes place).carried = 0 ∧ (state.episodes place).failed = 0
  | _ => True

end SyncState

/-! ## What an event does at a place -/

def syncAt (place : IndexPlace) (devs : List NodeDev) : Option SyncFields :=
  (indexAt place devs).map NodeIndex.syncFields

/-- The fields of a channel that has just been registered. -/
def SyncFields.fresh : SyncFields := ⟨true, .none, 0⟩

def NodeIndexSet.syncAt (place : ℕ) (set : NodeIndexSet) :
    Option SyncFields :=
  set.indexLst[place]?.bind fun index => some index.syncFields

def NodeDev.syncAt (place : ℕ × ℕ) (dev : NodeDev) : Option SyncFields :=
  dev.typeLst[place.1]?.bind (NodeIndexSet.syncAt place.2)

theorem syncAt_eq_bind (place : IndexPlace) (devs : List NodeDev) :
    syncAt place devs = devs[place.1]?.bind (NodeDev.syncAt place.2) := by
  unfold syncAt indexAt
  rw [Option.map_bind]
  congr 1
  funext dev
  rw [Function.comp_apply, Option.map_bind]
  congr 1
  funext set
  exact Option.map_eq_bind ..

theorem syncFields_addDomain (domainId : CString)
    (props : List ShadowBusiness) (index : NodeIndex) :
    (index.addDomain domainId props).syncFields = index.syncFields := by
  unfold NodeIndex.addDomain
  split_ifs <;> rfl

/-- A registration leaves a channel, or adds a fresh one. -/
def GrowsFresh (old new : Option SyncFields) : Prop :=
  new = old ∨ old = none ∧ new = some SyncFields.fresh

theorem growsFresh_syncAt_register (devSubserial : CString)
    (res : ShadowRes) (domainId : CString) (props : List ShadowBusiness)
    (devs : List NodeDev) (place : IndexPlace) :
    GrowsFresh (syncAt place devs)
      (syncAt place (shadowCoreModuleAddv3 devSubserial res domainId props
        devs).2) := by
  have hrefl (fields : Option SyncFields) : GrowsFresh fields fields :=
    Or.inl rfl
  have hset (place : ℕ) (set : NodeIndexSet) : GrowsFresh
      (set.syncAt place)
      ((set.addIndex res.localIndex domainId props).syncAt place) := by
    apply NodeLists.seen_findOrAdd hrefl
    · intro index
      rw [syncFields_addDomain]
      exact hrefl _
    · rw [syncFields_addDomain]
      exact Or.inr ⟨rfl, rfl⟩
  have hdev (place : ℕ × ℕ) (dev : NodeDev) : GrowsFresh (dev.syncAt place)
      ((dev.addIndexSet res.resType.1 res.localIndex domainId props).syncAt
        place) := by
    apply NodeLists.seen_findOrAdd hrefl
    · exact hset place.2
    · exact hset place.2 (NodeIndexSet.create res.resType.1)
  rw [syncAt_eq_bind, syncAt_eq_bind]
  apply NodeLists.seen_findOrAdd hrefl
  · exact hdev place.2
  · exact hdev place.2 (NodeDev.create _)

/-- A reply leaves a channel, or ends its synchronisation. -/
def Disables (old new : Option SyncFields) : Prop :=
  new = old ∨ ∃ fields, old = some fields ∧ new = some ⟨false, .none, 0⟩

theorem disables_syncAt_reply (res : ShadowRes) (devs : List NodeDev)
    (place : IndexPlace) :
    Disables (syncAt place devs)
      (syncAt place (shadowStatusSyncDisable res devs)) := by
  have hrefl (fields : Option SyncFields) : Disables fields fields :=
    Or.inl rfl
  have hset (place : ℕ) (set : NodeIndexSet) : Disables (set.syncAt place)
      ((set.changeIndex res NodeIndex.syncDisabled).syncAt place) := by
    apply NodeLists.seen_updateFirst hrefl
    intro index
    exact Or.inr ⟨index.syncFields, rfl, rfl⟩
  have hdev (place : ℕ × ℕ) (dev : NodeDev) : Disables (dev.syncAt place)
      ((dev.changeIndex res NodeIndex.syncDisabled).syncAt place) := by
    apply NodeLists.seen_updateFirst hrefl
    exact hset place.2
  rw [syncAt_eq_bind, syncAt_eq_bind]
  apply NodeLists.seen_updateFirst hrefl
  exact hdev place.2

theorem indexAt_mapIndexes (change : NodeIndex → NodeIndex)
    (devs : List NodeDev) (place : IndexPlace) :
    indexAt place (mapIndexes change devs) =
      (indexAt place devs).map change := by
  simp only [indexAt, mapIndexes, List.getElem?_map, Option.bind_map,
    Option.map_bind]
  congr 1
  funext dev
  simp only [Function.comp_apply, NodeDev.mapIndexes, List.getElem?_map,
    Option.bind_map, Option.map_bind]
  congr 1
  funext set
  simp [NodeIndexSet.mapIndexes]

theorem indexAt_expireTimers (expired : IndexPlace → Bool)
    (devs : List NodeDev) (place : IndexPlace) :
    indexAt place (expireTimers expired devs) =
      (indexAt place devs).map fun index =>
        if expired place then index.expire else index := by
  simp only [indexAt, expireTimers, List.getElem?_mapIdx, Option.bind_map,
    Option.map_bind]
  congr 1
  funext dev
  simp only [Function.comp_apply, List.getElem?_mapIdx, Option.bind_map,
    Option.map_bind]

/-- A pass that reaches a channel, and one that does not. -/
def Visited (index : NodeIndex) (visit : SyncVisit × NodeIndex) : Prop :=
  visit = (.skipped, index) ∨ ∃ sent, visit = index.procSync sent

theorem visitIndexes_getElem? (sent : ℕ → Bool) (indexes : List NodeIndex)
    (place : ℕ) :
    match indexes[place]? with
    | none => (visitIndexes sent indexes)[place]? = none
    | some index => ∃ visit,
        (visitIndexes sent indexes)[place]? = some visit ∧
          Visited index visit := by
  induction indexes generalizing sent place with
  | nil => rfl
  | cons first rest ih =>
      unfold visitIndexes
      cases place with
      | zero => exact ⟨_, rfl, Or.inr ⟨sent 0, rfl⟩⟩
      | succ place =>
          simp only [List.getElem?_cons_succ]
          split_ifs with hfailed
          · rw [List.getElem?_map]
            cases rest[place]? with
            | none => rfl
            | some index => exact ⟨_, rfl, Or.inl rfl⟩
          · exact ih (fun place => sent (place + 1)) place

theorem indexAt_shadowProcSync (sent : IndexPlace → Bool)
    (devs : List NodeDev) (place : IndexPlace) :
    match indexAt place devs with
    | none => visitAt sent devs place = .skipped ∧
        indexAt place (shadowProcSync sent devs) = none
    | some index => ∃ visit, Visited index visit ∧
        visitAt sent devs place = visit.1 ∧
        indexAt place (shadowProcSync sent devs) = some visit.2 := by
  unfold visitAt indexAt shadowProcSync
  rw [List.getElem?_mapIdx]
  cases hdev : devs[place.1]? with
  | none => exact ⟨rfl, rfl⟩
  | some dev =>
      simp only [Option.bind_some, Option.map_some, List.getElem?_mapIdx]
      cases hset : dev.typeLst[place.2.1]? with
      | none => exact ⟨rfl, rfl⟩
      | some set =>
          have hvisits := visitIndexes_getElem?
            (fun k => sent (place.1, place.2.1, k)) set.indexLst place.2.2
          simp only [Option.bind_some, Option.map_some,
            NodeIndexSet.procSync, List.getElem?_map]
          cases hindex : set.indexLst[place.2.2]? with
          | none =>
              rw [hindex] at hvisits
              rw [hvisits]
              exact ⟨rfl, rfl⟩
          | some index =>
              rw [hindex] at hvisits
              obtain ⟨visit, hvisit, hvisited⟩ := hvisits
              rw [hvisit]
              exact ⟨visit, hvisited, rfl, rfl⟩

theorem syncAt_of_syncFields {devs other : List NodeDev}
    (hsame : syncFields other = syncFields devs) (place : IndexPlace) :
    syncAt place other = syncAt place devs := by
  have hview (devs : List NodeDev) : syncAt place devs =
      (syncFields devs)[place.1]?.bind fun sets =>
        sets[place.2.1]?.bind fun indexes => indexes[place.2.2]? := by
    simp only [syncAt, indexAt, syncFields, List.getElem?_map,
      Option.bind_map, Option.map_bind]
    congr 1
    funext dev
    simp only [Function.comp_apply, List.getElem?_map, Option.bind_map,
      Option.map_bind]
  rw [hview, hview, hsame]

/-! ## The budget of an episode -/

/-- While a channel needs its state, the counter is what its episode was
opened with and has used; otherwise it is clear. -/
structure SyncTracked (fields : SyncFields) (episode : SyncEpisode) : Prop where
  bounded : fields.retryCount ≤ maximumRetryTimes
  counted : fields.needSync = true → fields.retryCount =
    episode.carried + episode.queried + episode.failed
  cleared : fields.needSync = false → fields.retryCount = 0

def SyncKept (fields : Option SyncFields) (episode : SyncEpisode) : Prop :=
  match fields with
  | none => episode = SyncEpisode.start
  | some fields => SyncTracked fields episode

structure SyncEpisode.WithinBudget (episode : SyncEpisode) : Prop where
  queried : episode.queried ≤ maximumRetryTimes
  givenUp : ∀ queries ∈ episode.givenUp, queries = maximumRetryTimes

theorem SyncEpisode.withinBudget_start : start.WithinBudget :=
  ⟨Nat.zero_le _, nofun⟩

section

variable {index : NodeIndex} {episode : SyncEpisode}
  {visit : SyncVisit × NodeIndex}

/-- The three ends of a visit that does something. -/
theorem NodeIndex.procSync_cases (sent : Bool) (index : NodeIndex) :
    index.procSync sent = (.skipped, index) ∨
      index.procSync sent = (.waiting, index) ∨
      index.needSync = true ∧
        ((maximumRetryTimes ≤ index.retryCount ∧
            index.procSync sent = (.gaveUp, { index with
              timer := .none, retryCount := 0, needSync := false })) ∨
          index.retryCount < maximumRetryTimes ∧
            (index.procSync sent = (.queried, { index with
              timer := .running, retryCount := index.retryCount + 1 }) ∨
            index.procSync sent = (.failed, { index with
              timer := .none, retryCount := index.retryCount + 1 }))) := by
  unfold procSync
  by_cases hneed : index.needSync = false
  · rw [if_pos hneed]
    exact Or.inl rfl
  rw [if_neg hneed]
  by_cases hwait : index.timer = .running
  · rw [if_pos hwait]
    exact Or.inr (Or.inl rfl)
  rw [if_neg hwait]
  right
  right
  refine ⟨Bool.eq_true_of_not_eq_false hneed, ?_⟩
  by_cases hspent : maximumRetryTimes < index.retryCount + 1
  · left
    exact ⟨Nat.le_of_lt_succ hspent, if_pos hspent⟩
  · right
    refine ⟨Nat.lt_of_succ_le (Nat.le_of_not_lt hspent), ?_⟩
    cases sent with
    | true => exact Or.inl (if_neg hspent)
    | false => exact Or.inr (if_neg hspent)

theorem SyncTracked.visited
    (htracked : SyncTracked index.syncFields episode)
    (hvisited : Visited index visit) :
    SyncTracked visit.2.syncFields (episode.visited visit.1) := by
  rcases hvisited with rfl | ⟨sent, rfl⟩
  · exact htracked
  rcases index.procSync_cases sent with hskip | hwait |
    ⟨hneed, ⟨-, hgave⟩ | ⟨hleft, hquery | hfail⟩⟩
  · rw [hskip]
    exact htracked
  · rw [hwait]
    exact htracked
  · rw [hgave]
    exact ⟨Nat.zero_le _, nofun, fun _ => rfl⟩
  · rw [hquery]
    have hcount := htracked.counted hneed
    constructor
    · exact hleft
    · intro _
      change index.retryCount = _ at hcount
      change index.retryCount + 1 =
        episode.carried + (episode.queried + 1) + episode.failed
      omega
    · intro hdone
      exact absurd (hneed.symm.trans hdone) nofun
  · rw [hfail]
    have hcount := htracked.counted hneed
    constructor
    · exact hleft
    · intro _
      change index.retryCount = _ at hcount
      change index.retryCount + 1 =
        episode.carried + episode.queried + (episode.failed + 1)
      omega
    · intro hdone
      exact absurd (hneed.symm.trans hdone) nofun

/-- A visit keeps within the budget unless it gives the channel up after
fewer queries. -/
theorem SyncTracked.visited_withinBudget_iff
    (htracked : SyncTracked index.syncFields episode)
    (hwithin : episode.WithinBudget) (hvisited : Visited index visit) :
    (episode.visited visit.1).WithinBudget ↔
      (visit.1 = .gaveUp → episode.carried = 0 ∧ episode.failed = 0) := by
  rcases hvisited with rfl | ⟨sent, rfl⟩
  · exact iff_of_true hwithin nofun
  rcases index.procSync_cases sent with hskip | hwait |
    ⟨hneed, ⟨hspent, hgave⟩ | ⟨hleft, hquery | hfail⟩⟩
  · rw [hskip]
    exact iff_of_true hwithin nofun
  · rw [hwait]
    exact iff_of_true hwithin nofun
  · rw [hgave]
    have hcount := htracked.counted hneed
    have hbound := htracked.bounded
    change index.retryCount = _ at hcount
    change index.retryCount ≤ _ at hbound
    constructor
    · intro hnext _
      have hall := hnext.givenUp episode.queried List.mem_cons_self
      omega
    · intro hunspent
      obtain ⟨hcarried, hfailed⟩ := hunspent rfl
      constructor
      · exact hwithin.queried
      · intro queries hqueries
        rcases List.mem_cons.mp hqueries with rfl | hold
        · omega
        · exact hwithin.givenUp queries hold
  · rw [hquery]
    have hcount := htracked.counted hneed
    change index.retryCount = _ at hcount
    apply iff_of_true _ nofun
    constructor
    · change episode.queried + 1 ≤ maximumRetryTimes
      omega
    · exact hwithin.givenUp
  · rw [hfail]
    exact iff_of_true ⟨hwithin.queried, hwithin.givenUp⟩ nofun

end

namespace SyncState

variable {state next : SyncState} {devSubserial : CString}

structure TrackedAt (place : IndexPlace) (state : SyncState) : Prop where
  kept : SyncKept (syncAt place state.devs) (state.episodes place)
  within : (state.episodes place).WithinBudget

def Tracked (state : SyncState) : Prop := ∀ place, state.TrackedAt place

theorem Tracked.budgetsKept (htracked : state.Tracked) :
    state.BudgetsKept := by
  intro place
  have hwithin := (htracked place).within
  exact ⟨hwithin.queried, hwithin.givenUp⟩

theorem tracked_init : Tracked init :=
  fun _ => ⟨rfl, SyncEpisode.withinBudget_start⟩

theorem SyncKept.expire {index : NodeIndex} {episode : SyncEpisode}
    (htracked : SyncTracked index.syncFields episode) :
    SyncTracked index.expire.syncFields episode := by
  unfold NodeIndex.expire
  split_ifs
  · exact ⟨htracked.bounded, htracked.counted, htracked.cleared⟩
  · exact htracked

/-- The opening of an episode everywhere, with the counters that the change
leaves. -/
theorem Tracked.openAll (htracked : state.Tracked)
    {change : NodeIndex → NodeIndex} {carried : NodeIndex → ℕ}
    (hfields : ∀ index : NodeIndex,
      (change index).syncFields = ⟨true, .none, carried index⟩)
    (hbounded : ∀ index : NodeIndex, carried index ≤ index.retryCount) :
    Tracked ⟨mapIndexes change state.devs, state.openAll carried⟩ := by
  intro place
  obtain ⟨hkept, hwithin⟩ := htracked place
  unfold syncAt at hkept
  suffices hopened : SyncKept (syncAt place (mapIndexes change state.devs))
        (state.openAll carried place) ∧
      (state.openAll carried place).WithinBudget from
    ⟨hopened.1, hopened.2⟩
  cases hindex : indexAt place state.devs with
  | none =>
      rw [hindex] at hkept
      have hepisode : state.openAll carried place =
          state.episodes place := by
        rw [SyncState.openAll, hindex]
      constructor
      · rw [hepisode, syncAt, indexAt_mapIndexes, hindex]
        exact hkept
      · rw [hepisode]
        exact hwithin
  | some index =>
      rw [hindex] at hkept
      have hepisode : state.openAll carried place =
          (state.episodes place).opened (carried index) := by
        rw [SyncState.openAll, hindex]
      constructor
      · rw [hepisode, syncAt, indexAt_mapIndexes, hindex, Option.map_some,
          Option.map_some, hfields]
        exact ⟨(hbounded index).trans hkept.bounded, fun _ => rfl, nofun⟩
      · rw [hepisode]
        exact ⟨Nat.zero_le _, hwithin.givenUp⟩

theorem TrackedAt.pass {place : IndexPlace}
    (htracked : state.TrackedAt place) (sent : IndexPlace → Bool) :
    SyncKept (syncAt place (shadowProcSync sent state.devs))
        ((state.episodes place).visited
          (visitAt sent state.devs place)) ∧
      (((state.episodes place).visited
          (visitAt sent state.devs place)).WithinBudget ↔
        (visitAt sent state.devs place = .gaveUp →
          (state.episodes place).carried = 0 ∧
            (state.episodes place).failed = 0)) := by
  obtain ⟨hkept, hwithin⟩ := htracked
  have hpass := indexAt_shadowProcSync sent state.devs place
  unfold syncAt at hkept ⊢
  cases hindex : indexAt place state.devs with
  | none =>
      rw [hindex] at hkept hpass
      rw [hpass.1, hpass.2]
      exact ⟨hkept, iff_of_true hwithin nofun⟩
  | some index =>
      rw [hindex] at hkept hpass
      obtain ⟨visit, hvisited, hat, hafter⟩ := hpass
      rw [hat, hafter]
      exact ⟨SyncTracked.visited hkept hvisited,
        hkept.visited_withinBudget_iff hwithin hvisited⟩

theorem Tracked.step (htracked : state.Tracked) {event : SyncEvent}
    (hunspent : state.BudgetsUnspent event)
    (hstep : state.step devSubserial event = some next) : next.Tracked := by
  cases event with
  | register res domainId props =>
      cases hstep
      intro place
      obtain ⟨hkept, hwithin⟩ := htracked place
      refine ⟨?_, hwithin⟩
      rcases growsFresh_syncAt_register devSubserial res domainId props
          state.devs place with hsame | ⟨hnone, hfresh⟩
      · rw [hsame]
        exact hkept
      · rw [hnone] at hkept
        have hstart : state.episodes place = SyncEpisode.start := hkept
        rw [hfresh]
        change SyncTracked SyncFields.fresh (state.episodes place)
        rw [hstart]
        exact ⟨Nat.zero_le _, fun _ => rfl, nofun⟩
  | changeKeys devs =>
      simp only [SyncState.step] at hstep
      split at hstep
      case isFalse => cases hstep
      case isTrue hsame =>
        cases hstep
        intro place
        obtain ⟨hkept, hwithin⟩ := htracked place
        refine ⟨?_, hwithin⟩
        rw [syncAt_of_syncFields hsame]
        exact hkept
  | reset =>
      cases hstep
      exact @Tracked.openAll state htracked NodeIndex.reset
        NodeIndex.retryCount (fun _ => rfl) fun _ => le_rfl
  | toSync =>
      cases hstep
      exact @Tracked.openAll state htracked NodeIndex.toSync (fun _ => 0)
        (fun _ => rfl) fun _ => Nat.zero_le _
  | reply res =>
      cases hstep
      intro place
      obtain ⟨hkept, hwithin⟩ := htracked place
      refine ⟨?_, hwithin⟩
      rcases disables_syncAt_reply res state.devs place with
        hsame | ⟨fields, hold, hnew⟩
      · rw [hsame]
        exact hkept
      · rw [hnew]
        exact ⟨Nat.zero_le _, nofun, fun _ => rfl⟩
  | expire expired =>
      cases hstep
      intro place
      obtain ⟨hkept, hwithin⟩ := htracked place
      refine ⟨?_, hwithin⟩
      unfold syncAt at hkept ⊢
      rw [indexAt_expireTimers]
      cases hindex : indexAt place state.devs with
      | none =>
          rw [hindex] at hkept
          exact hkept
      | some index =>
          rw [hindex] at hkept
          rw [Option.map_some, Option.map_some]
          split_ifs
          · exact SyncKept.expire hkept
          · exact hkept
  | pass sent =>
      cases hstep
      intro place
      obtain ⟨hkept, hwithin⟩ := (htracked place).pass sent
      exact ⟨hkept, hwithin.mpr (hunspent place)⟩

/-- The budgets of all channels are kept exactly in the runs that give up no
channel whose counter was not clear when its episode was opened, or that had
a query which could not be sent. -/
theorem budgetsKept_along_iff_budgetsUnspent (devSubserial : CString)
    (events : List SyncEvent) :
    StepSystem.Along (step devSubserial) BudgetsKept init events ↔
      StepSystem.StepsMeet (step devSubserial) BudgetsUnspent init
        events := by
  have hkeep : ∀ state event next, Tracked state →
      state.BudgetsUnspent event → state.step devSubserial event = some next →
        Tracked next :=
    fun _ _ _ htracked hunspent hstep => htracked.step hunspent hstep
  have hbreak : ∀ state event, Tracked state → ¬ state.BudgetsUnspent event →
      ∃ next, state.step devSubserial event = some next ∧
        ¬ next.BudgetsKept := by
    intro state event htracked hspent
    cases event with
    | pass sent =>
        refine ⟨_, rfl, ?_⟩
        intro hkept
        apply hspent
        intro place
        apply ((htracked place).pass sent).2.mp
        exact ⟨(hkept place).1, (hkept place).2⟩
    | _ => exact absurd trivial hspent
  exact StepSystem.along_iff_stepsMeet
    (fun _ htracked => htracked.budgetsKept) hkeep hbreak tracked_init

def lampRegister : SyncEvent :=
  .register lampRes "power".toList
    [⟨storedName 64 "on".toList ShadowBusiness.key_pos, some 0, none⟩]

/-- A reset after one query leaves two for the episode that it opens, and
queries that cannot be sent leave none. -/
theorem budgets_spent :
    (∃ state, StepSystem.exec (step "hub".toList) init
        [lampRegister, .pass fun _ => true, .reset, .pass fun _ => true,
          .expire fun _ => true, .pass fun _ => true, .expire fun _ => true,
          .pass fun _ => true] = some state ∧
      (state.episodes (0, 0, 0)).givenUp = [2] ∧ ¬ state.BudgetsKept) ∧
    ∃ state, StepSystem.exec (step "hub".toList) init
        [lampRegister, .pass fun _ => false, .pass fun _ => false,
          .pass fun _ => false, .pass fun _ => false] = some state ∧
      (state.episodes (0, 0, 0)).givenUp = [0] ∧ ¬ state.BudgetsKept := by
  constructor
  · refine ⟨_, rfl, rfl, ?_⟩
    intro hkept
    have hall := (hkept (0, 0, 0)).2 2 List.mem_cons_self
    cases hall
  · refine ⟨_, rfl, rfl, ?_⟩
    intro hkept
    have hall := (hkept (0, 0, 0)).2 0 List.mem_cons_self
    cases hall

end SyncState

end EziotSdk
