import TellorPallet.Oracle.Lookups
import TellorPallet.Pallet.Decoding
import TellorPallet.Staking.Solvency

/-!
# Amounts that follow reported prices

The stake amount and the dispute fee follow two reported prices. `on_initialize` updates them
together, the fee from the stake amount just written, or leaves both as they are.
-/

namespace TellorPallet

open Outcome Transition Predecessor

variable {AccountId : Type} {cfg : Config AccountId} {s s' : State AccountId} {queryId : QueryId}
  {price : ℕ}

/-- The number in the last valid report of a query from before the last twelve hours, within the range
of accepted prices. -/
structure IsPrice (s : State AccountId) (queryId : QueryId) (price : ℕ) : Prop where
  elapsed : 12 * hours ≤ s.now
  reported : ∃ index t value,
    IsLast (s.oracle.validBefore queryId (s.now - 12 * hours)) (some index) ∧
      s.oracle.reportedTimestampsByIndex.lookup (queryId, index) = some t ∧
      t < s.now - 12 * hours ∧ t ∈ s.oracle.valid queryId ∧
      s.oracle.reportedValuesByTimestamp.lookup (queryId, t) = some value ∧
      price = ofBigEndian value
  lower : 10 ^ 16 ≤ price
  upper : price < 10 ^ 24

/-- The amounts once they were updated from the two prices. -/
structure PricesUpdated (cfg : Config AccountId) (s : State AccountId)
    (stakingTokenPrice localTokenPrice : ℕ) (prices : Prices) : Prop where
  enabled : 0 < cfg.updateStakeAmountInterval
  due : s.prices.lastStakeAmountUpdate + max cfg.updateStakeAmountInterval (12 * hours) ≤ s.now
  stakingTokenPrice_eq : IsPrice s cfg.stakingTokenPriceQueryId stakingTokenPrice
  localTokenPrice_eq : IsPrice s cfg.stakingToLocalTokenPriceQueryId localTokenPrice
  stakeAmount_eq : prices.stakeAmount =
    max cfg.minimumStakeAmount (cfg.stakeAmountCurrencyTarget * 10 ^ 18 / stakingTokenPrice)
  disputeFee_eq : prices.disputeFee = u256ToBalance cfg
    (localAmount cfg.decimals (prices.stakeAmount / 10 * localTokenPrice / 10 ^ 18))
  lastStakeAmountUpdate_eq : prices.lastStakeAmountUpdate = s.now

/-! ## One price -/

theorem reportedPrice_isPrice {error : Error} (hseries : s.oracle.ReportSeries queryId)
    (h : reportedPrice s queryId error = .ok price) : IsPrice s queryId price := by
  simp only [reportedPrice, bind_eq_ok, okOr_eq_ok, guard_eq_ok, exists_const, Checked.sub_eq_some,
    bytesToU256_eq_some] at h
  obtain ⟨_, ⟨helapsed, rfl⟩, ⟨value, t⟩, hread, _, ⟨hvalue, -⟩, ⟨hlower, hupper⟩, h⟩ := h
  cases h
  have hlast : IsLast (s.oracle.validBefore queryId (s.now - 12 * hours))
    (s.oracle.getIndexForDataBefore queryId (s.now - 12 * hours)) :=
    Oracle.getIndexForDataBefore_isLast hseries
  change s.oracle.getDataBefore queryId (s.now - 12 * hours) = some (value, t) at hread
  simp only [Oracle.getDataBefore, Option.bind_eq_some_iff, Option.map_eq_some_iff,
    Prod.mk.injEq] at hread
  obtain ⟨index, hindex, _, ht, _, hstored, rfl, rfl⟩ := hread
  rw [hindex] at hlast
  refine ⟨helapsed, ⟨index, _, _, hlast, ht, ?_, ?_, hstored, hvalue.symm⟩, hlower, hupper⟩
  all_goals
    obtain ⟨u, hvalid, hu, hbefore⟩ := hlast.1
    rw [ht] at hu
    cases hu
  · exact hbefore
  · exact hvalid

/-! ## Both amounts -/

variable [DecidableEq AccountId]

omit [DecidableEq AccountId] in
theorem doUpdateStakeAmount_eq_ok (h : doUpdateStakeAmount cfg s = .ok s') :
    ∃ price, reportedPrice s cfg.stakingTokenPriceQueryId .invalidStakingTokenPrice = .ok price ∧
      s'.prices = { s.prices with
        stakeAmount := max cfg.minimumStakeAmount
          (cfg.stakeAmountCurrencyTarget * 10 ^ 18 / price) } ∧
      s'.oracle = s.oracle ∧ s'.now = s.now := by
  simp only [doUpdateStakeAmount, bind_eq_ok, okOr_eq_ok, Checked.mul_eq_some] at h
  obtain ⟨price, hprice, _, ⟨-, rfl⟩, h⟩ := h
  cases h
  refine ⟨price, hprice, ?_, rfl, rfl⟩
  have hamount : (if cfg.stakeAmountCurrencyTarget * 10 ^ 18 / price < cfg.minimumStakeAmount then
        cfg.minimumStakeAmount
      else cfg.stakeAmountCurrencyTarget * 10 ^ 18 / price) =
      max cfg.minimumStakeAmount (cfg.stakeAmountCurrencyTarget * 10 ^ 18 / price) := by
    split <;> omega
  rw [← hamount]
  rfl

omit [DecidableEq AccountId] in
theorem updateDisputeFee_eq_ok (h : updateDisputeFee cfg s = .ok s') :
    ∃ price, reportedPrice s cfg.stakingToLocalTokenPriceQueryId .invalidPrice = .ok price ∧
      s'.prices = { s.prices with
        disputeFee := u256ToBalance cfg
          (localAmount cfg.decimals (s.prices.stakeAmount / 10 * price / 10 ^ 18)) } := by
  simp only [updateDisputeFee, calculateDisputeFee, bind_eq_ok, okOr_eq_ok, Checked.mul_eq_some] at h
  obtain ⟨price, hprice, _, ⟨_, ⟨-, rfl⟩, fee, hfee, hnew⟩, h⟩ := h
  cases hnew
  refine ⟨price, hprice, ?_⟩
  have hconverted : fee = localAmount cfg.decimals (s.prices.stakeAmount / 10 * price / 10 ^ 18) :=
    convert_eq_ok hfee
  rw [← hconverted]
  split at h
  · cases h
    rfl
  · next hsame =>
    cases h
    rw [not_not.mp hsame]

omit [DecidableEq AccountId] in
/-- Sending votes leaves the amounts alone. -/
theorem doSendVotes_prices (send : Sender) (s : State AccountId) (timestamp max : ℕ) :
    (doSendVotes cfg send s timestamp max).prices = s.prices := by
  have hsteps : Relation.ReflTransGen
      (fun s s' : State AccountId ↦ s'.prices = s.prices) s (doSendVotes cfg send s timestamp max) := by
    apply doSendVotes_steps send
    intro s s' disputeId pending vote message _ hsent
    rw [hsent.state_eq]
  generalize doSendVotes cfg send s timestamp max = s' at hsteps ⊢
  induction hsteps with
  | refl => rfl
  | tail _ hlast ih => exact hlast.trans ih

omit [DecidableEq AccountId] in
theorem updatePrices_cases (hseries : ∀ queryId, s.oracle.ReportSeries queryId) :
    (updatePrices cfg s).prices = s.prices ∨
      ∃ stakingTokenPrice localTokenPrice,
        PricesUpdated cfg s stakingTokenPrice localTokenPrice (updatePrices cfg s).prices := by
  unfold updatePrices
  split
  · next hdue =>
    split
    · next updated hupdated =>
      right
      obtain ⟨mid, hstake, hfee⟩ := bind_eq_ok.mp hupdated
      obtain ⟨p₁, hp₁, hmid, horacle, hnow⟩ := doUpdateStakeAmount_eq_ok hstake
      obtain ⟨p₂, hp₂, hafter⟩ := updateDisputeFee_eq_ok hfee
      have hstaking := reportedPrice_isPrice (hseries _) hp₁
      have hlocal : IsPrice s cfg.stakingToLocalTokenPriceQueryId p₂ := by
        apply reportedPrice_isPrice (hseries _)
        rw [reportedPrice, horacle, hnow] at hp₂
        exact hp₂
      rw [hmid] at hafter
      refine ⟨p₁, p₂, hdue.1, hdue.2, hstaking, hlocal, ?_, ?_, rfl⟩
      · rw [hafter]
      · rw [hafter]
    · exact Or.inl rfl
  · exact Or.inl rfl

/-- In every reachable state `on_initialize` leaves both amounts and the time of their last update as
they are, or updates all three: from two prices reported more than twelve hours ago, and the dispute
fee from the new stake amount. -/
theorem prices_onInitialize (hs : Reachable cfg s) (send : Sender) :
    (onInitialize cfg send s).prices = s.prices ∨
      ∃ stakingTokenPrice localTokenPrice,
        PricesUpdated cfg s stakingTokenPrice localTokenPrice (onInitialize cfg send s).prices := by
  rw [onInitialize, doSendVotes_prices]
  exact updatePrices_cases hs.seriesInvariant.series

namespace Mock

/-- The mock runtime with the query of the runs as both price queries. -/
def priced : Config ℕ :=
  { config with
    stakingTokenPriceQueryId := Mock.queryId
    stakingToLocalTokenPriceQueryId := Mock.queryId }

theorem isGenesis_priced : IsGenesis priced genesis := isGenesis_of_eq rfl rfl rfl

/-- A price of two tokens, reported ten seconds after the start and no longer disputable. -/
def reportedTwo : List (Input ℕ) :=
  [deposit 7, block 10, .extrinsic send (.signed 7)
    (.submitValue Mock.queryId [27, 193, 109, 103, 78, 200, 0, 0] 0 []), block (12 * hours + 11)]

end Mock

/-- A price of two tokens brings the stake amount to 250 tokens. -/
theorem prices_onInitialize_two :
    let s := run (step Mock.priced) Mock.reportedTwo Mock.genesis
    (onInitialize Mock.priced Mock.send s).prices.stakeAmount = 250 * 10 ^ 18 ∧
      ∃ stakingTokenPrice localTokenPrice, PricesUpdated Mock.priced s stakingTokenPrice
        localTokenPrice (onInitialize Mock.priced Mock.send s).prices := by
  intro s
  have hs : Reachable Mock.priced s := ⟨Mock.genesis, Mock.isGenesis_priced,
    reaches_run Mock.reportedTwo _ (by decide +kernel)⟩
  have hbefore : s.prices.stakeAmount = 100 * 10 ^ 18 := by decide +kernel
  have hafter : (onInitialize Mock.priced Mock.send s).prices.stakeAmount = 250 * 10 ^ 18 := by
    decide +kernel
  refine ⟨hafter, ?_⟩
  rcases prices_onInitialize hs Mock.send with hsame | hupdated
  · rw [hsame, hbefore] at hafter
    exact absurd hafter (by decide)
  · exact hupdated

end TellorPallet
