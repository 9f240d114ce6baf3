import TellorPallet.Staking.Runs
import TellorPallet.Staking.Withdrawals

/-!
# The addresses of stakers

A staker's record holds the staker's address on the controller chain. The first deposit sets it, later
reports of the staking contract have to name it again, and nothing removes a record, so that an address
once registered is the staker's for good.
-/

namespace TellorPallet

variable {AccountId : Type} [DecidableEq AccountId]

/-- The registered address of a staker on the controller chain. -/
def Staking.addressOf (st : Staking AccountId) (staker : AccountId) : Option Address :=
  (st.stakerDetails.lookup staker).map StakeInfo.address

/-- From one state of the stakes to a later one, stakers keep their addresses. -/
def AddressesKept (st st' : Staking AccountId) : Prop :=
  ∀ staker address, st.addressOf staker = some address → st'.addressOf staker = some address

section Records

variable {cfg : Config AccountId} {st st' : Staking AccountId} {s s₁ s' : State AccountId}
  {reporter : AccountId} {info info' : StakeInfo}

theorem AddressesKept.of_details (h : st'.stakerDetails = st.stakerDetails) : AddressesKept st st' := by
  intro staker address haddress
  rwa [Staking.addressOf, h]

/-- A record is stored with the address of the one there was, if there was one. -/
theorem AddressesKept.of_insert (h : st'.stakerDetails = st.stakerDetails.insert reporter info')
    (hinfo : ∀ info, st.stakerDetails.lookup reporter = some info → info'.address = info.address) :
    AddressesKept st st' := by
  intro staker address haddress
  rw [Staking.addressOf, h, FiniteMap.lookup_insert_ite]
  split
  · next heq =>
    rw [heq, Staking.addressOf] at haddress
    obtain ⟨info, hfound, rfl⟩ := Option.map_eq_some_iff.mp haddress
    exact congrArg some (hinfo info hfound)
  · exact haddress

theorem updateStakeAndPayRewards_address {newStakedBalance : ℕ}
    (h : updateStakeAndPayRewards cfg s reporter info newStakedBalance = .ok (info', s')) :
    info'.address = info.address := by
  obtain ⟨u, st, st₁, stake', -, -, -, hrestaked, -⟩ := updateStakeAndPayRewards_eq_ok h
  rw [hrestaked.info_eq]

theorem RecordStep.address_eq {settled : Option ℕ} {before after : State AccountId × StakeInfo}
    (h : RecordStep cfg reporter settled before after) : after.2.address = before.2.address := by
  cases h with
  | settle hsettled h => exact updateStakeAndPayRewards_address h
  | release hlocked htotal => rfl
  | lock amount => rfl
  | note startDate startVoteCount startVoteTally => rfl

theorem RecordStep.stakerDetails_eq {settled : Option ℕ} {before after : State AccountId × StakeInfo}
    (h : RecordStep cfg reporter settled before after) :
    after.1.staking.stakerDetails = before.1.staking.stakerDetails := by
  cases h with
  | settle hsettled h => exact (updateStakeAndPayRewards_toWithdraw h).2
  | release hlocked htotal => rfl
  | lock amount => rfl
  | note startDate startVoteCount startVoteTally => rfl

theorem Reported.addressesKept {settled : Option ℕ} {event : Event AccountId}
    (h : Reported cfg s reporter settled info s₁ info' event s') :
    AddressesKept s.staking s'.staking := by
  have hmoves := h.invariant
    (fun after ↦ after.1.staking.stakerDetails = s.staking.stakerDetails ∧
      after.2.address = info.address)
    (fun _ _ hbefore hmove ↦ ⟨hmove.stakerDetails_eq.trans hbefore.1, hmove.address_eq.trans hbefore.2⟩)
    ⟨rfl, rfl⟩
  have hstored : s'.staking.stakerDetails = s.staking.stakerDetails.insert reporter info' := by
    rw [h.state_eq, ← hmoves.1]
    rfl
  refine .of_insert hstored fun found hfound ↦ ?_
  rcases h.record_eq with hrecord | ⟨hnone, -⟩
  · rw [hrecord] at hfound
    cases hfound
    exact hmoves.2
  · rw [hnone] at hfound
    cases hfound

theorem StakingStep.addressesKept {input : Input AccountId} (h : StakingStep cfg s input s') :
    AddressesKept s.staking s'.staking := by
  cases h with
  | unchanged hstaking hbalance => exact .of_details (by rw [hstaking])
  | rewarded hbalance hrewards hstaking hrate =>
    exact .of_details (by rw [hstaking, Staking.updateRewards_frame hrewards])
  | @submitted _ _ reporter _ staker hstaker hledger hstaking =>
    have hstored : s'.staking.stakerDetails =
        s.staking.stakerDetails.insert reporter (staker.reported s.now) :=
      congrArg Staking.stakerDetails hstaking
    refine .of_insert hstored fun found hfound ↦ ?_
    rw [hstaker] at hfound
    cases hfound
    rfl
  | reported haccepted hcall h => exact h.addressesKept
  | @withdrawn _ reporter amount info _ h =>
    have hstored : s'.staking.stakerDetails = s.staking.stakerDetails.insert reporter
        { info with lockedBalance := info.lockedBalance - amount } := by
      rw [h.state_eq]
      rfl
    refine .of_insert hstored fun found hfound ↦ ?_
    rw [h.record_eq] at hfound
    cases hfound
    rfl

end Records

end TellorPallet
