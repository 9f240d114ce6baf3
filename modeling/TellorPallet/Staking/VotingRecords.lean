import TellorPallet.Governance.Runs
import TellorPallet.Staking.Settlement
import TellorPallet.Staking.Withdrawals

/-!
# Voting records

A staker's record holds the numbers of votes at its first deposit: its participation is counted from
them. Votes are only ever added, so that the numbers were reached and the participation is no negative
number.
-/

namespace TellorPallet

open Outcome

variable {AccountId : Type} [DecidableEq AccountId] {cfg : Config AccountId}
  {s s' s₁ : State AccountId} {staker : AccountId} {info info' : StakeInfo}
  {newStakedBalance amount : ℕ}

theorem stakerRecord_getD (s : State AccountId) (staker : AccountId) (address : Address) :
    ∃ address', (s.staking.stakerDetails.lookup staker).getD (StakeInfo.new address) =
      { s.stakerRecord staker with address := address' } := by
  unfold State.stakerRecord
  cases s.staking.stakerDetails.lookup staker with
  | none => exact ⟨address, rfl⟩
  | some info => exact ⟨info.address, rfl⟩

theorem stakerRecord_eq (h : s.staking.stakerDetails.lookup staker = some info) :
    s.stakerRecord staker = info := by
  rw [State.stakerRecord, h, Option.getD_some]

/-- A record counts votes from numbers that were reached. -/
def StakeInfo.VotesStarted (g : Governance AccountId) (staker : AccountId) (info : StakeInfo) : Prop :=
  info.startVoteCount ≤ g.voteCount ∧ info.startVoteTally ≤ g.voteTally staker

/-- All records do. -/
def VotesStarted (s : State AccountId) : Prop :=
  ∀ staker info, s.staking.stakerDetails.lookup staker = some info →
    info.VotesStarted s.governance staker

theorem VotesStarted.stakerRecord (h : VotesStarted s) (staker : AccountId) :
    (s.stakerRecord staker).VotesStarted s.governance staker := by
  unfold State.stakerRecord
  cases hlookup : s.staking.stakerDetails.lookup staker with
  | none => exact ⟨Nat.zero_le _, Nat.zero_le _⟩
  | some info => exact h staker info hlookup

/-- What a deposit makes of a record, stored or new, counts votes from numbers that were reached. -/
theorem VotesStarted.relocked (h : VotesStarted s) (staker : AccountId) (address : Address)
    (amount : ℕ) : StakeInfo.VotesStarted s.governance staker
      (((s.staking.stakerDetails.lookup staker).getD (StakeInfo.new address)).relocked s.governance
        staker amount) := by
  obtain ⟨address', hrecord⟩ := stakerRecord_getD s staker address
  rw [hrecord]
  unfold StakeInfo.relocked
  split
  · exact ⟨le_rfl, le_rfl⟩
  · exact h.stakerRecord staker

/-- The share of a pending reward counts no negative number of votes. -/
theorem StakeInfo.VotesStarted.participationShare_ne_underflow
    (h : info.VotesStarted s.governance staker) (pendingReward : ℕ) :
    Staking.participationShare cfg s.governance staker info pendingReward ≠ .error underflow := by
  intro herror
  simp only [Staking.participationShare, bind_eq_error, okOr_eq_error, okOr_eq_ok,
    Checked.sub_eq_some] at herror
  rcases herror with ⟨hnone, -⟩ | ⟨_, ⟨-, rfl⟩, hshare⟩
  · rw [Checked.sub, if_pos h.1] at hnone
    cases hnone
  · split at hshare
    · simp only [bind_eq_error, okOr_eq_error, okOr_eq_ok] at hshare
      rcases hshare with ⟨hnone, -⟩ | ⟨_, -, ⟨-, herror⟩ | ⟨_, -, ⟨-, herror⟩ | ⟨_, -, herror⟩⟩⟩
      · rw [Checked.sub, if_pos h.2] at hnone
        cases hnone
      · cases herror
      · cases herror
      · cases herror
    · cases hshare

/-- Records stay so while votes are counted, with one stored that is. -/
theorem VotesStarted.insert (h : VotesStarted s) (hcounted : VotesCounted s.governance s'.governance)
    (hdetails : s'.staking.stakerDetails = s.staking.stakerDetails.insert staker info)
    (hinfo : info.VotesStarted s.governance staker) : VotesStarted s' := by
  intro other otherInfo hother
  have hkept : otherInfo.VotesStarted s.governance other := by
    rw [hdetails, FiniteMap.lookup_insert_ite] at hother
    split at hother
    · next heq =>
      cases hother
      exact heq ▸ hinfo
    · exact h other otherInfo hother
  exact ⟨hkept.1.trans hcounted.voteCount_le, hkept.2.trans (hcounted.voteTally_le other)⟩

/-- The state stores a record that counts votes from a number reached before, and no other. -/
def StoresRecord (s : State AccountId) (staker : AccountId) (s' : State AccountId) : Prop :=
  ∃ info, s'.staking.stakerDetails = s.staking.stakerDetails.insert staker info ∧
    info.VotesStarted s.governance staker

theorem storesRecord_put (hdetails : s₁.staking.stakerDetails = s.staking.stakerDetails)
    (hinfo : info.VotesStarted s.governance staker) (event : Event AccountId) :
    StoresRecord s staker ((s₁.putStaker staker info).depositEvent event) := by
  refine ⟨info, ?_, hinfo⟩
  change s₁.staking.stakerDetails.insert staker info = _
  rw [hdetails]

theorem updateStakeAndPayRewards_votesStarted {g : Governance AccountId}
    (h : updateStakeAndPayRewards cfg s staker info newStakedBalance = .ok (info', s'))
    (hinfo : info.VotesStarted g staker) : info'.VotesStarted g staker := by
  obtain ⟨u, st, st₁, stake', -, -, -, hrestaked, -⟩ := updateStakeAndPayRewards_eq_ok h
  rw [hrestaked.info_eq]
  exact hinfo

theorem reportStakeDeposited_stores {address : Address} (hstarted : VotesStarted s)
    (h : reportStakeDeposited cfg s staker amount address = .ok s') : StoresRecord s staker s' := by
  simp only [reportStakeDeposited, bind_eq_ok, guard_eq_ok, exists_const, okOr_eq_ok,
    Checked.add_eq_some, useLockedBalance_eq_ok_iff] at h
  obtain ⟨-, _, ⟨-, rfl⟩, _, ⟨-, rfl⟩, ⟨settled, s₁⟩, hsettled, h⟩ := h
  cases h
  have hvotes := updateStakeAndPayRewards_votesStarted hsettled
    (hstarted.relocked staker address amount)
  have hdetails : s₁.staking.stakerDetails = s.staking.stakerDetails :=
    (updateStakeAndPayRewards_toWithdraw hsettled).2
  apply storesRecord_put hdetails
  exact hvotes

theorem reportStakingWithdrawRequest_stores {address : Address} (hstarted : VotesStarted s)
    (h : reportStakingWithdrawRequest cfg s staker amount address = .ok s') :
    StoresRecord s staker s' := by
  simp only [reportStakingWithdrawRequest, bind_eq_ok, okOr_eq_ok, guard_eq_ok, exists_const,
    Checked.add_eq_some] at h
  obtain ⟨info, hinfo, -, -, ⟨settled, s₁⟩, hsettled, _, ⟨-, rfl⟩, _, ⟨-, rfl⟩, h⟩ := h
  cases h
  have hdetails : (s₁.lock amount).staking.stakerDetails = s.staking.stakerDetails :=
    (updateStakeAndPayRewards_toWithdraw hsettled).2
  have hvotes := updateStakeAndPayRewards_votesStarted hsettled (hstarted staker info hinfo)
  apply storesRecord_put hdetails
  exact hvotes

theorem slashBalances_votesStarted (hinfo : info.VotesStarted s.governance staker)
    (h : slashBalances cfg s staker amount info = .ok (info', s')) :
    s'.staking.stakerDetails = s.staking.stakerDetails ∧
      info'.VotesStarted s.governance staker := by
  unfold slashBalances at h
  split at h
  · simp only [bind_eq_ok, releaseLocked_eq_ok] at h
    obtain ⟨_, ⟨-, rfl⟩, h⟩ := h
    cases h
    exact ⟨rfl, hinfo⟩
  · simp only [bind_eq_ok, okOr_eq_ok, Checked.add_eq_some] at h
    obtain ⟨_, ⟨-, rfl⟩, h⟩ := h
    split at h
    · simp only [bind_eq_ok, okOr_eq_ok, Checked.sub_eq_some, releaseLocked_eq_ok] at h
      obtain ⟨_, ⟨-, rfl⟩, _, ⟨-, rfl⟩, ⟨settled, s₁⟩, hsettled, _, ⟨-, rfl⟩, h⟩ := h
      cases h
      have hvotes := updateStakeAndPayRewards_votesStarted hsettled hinfo
      exact ⟨(updateStakeAndPayRewards_toWithdraw hsettled).2, hvotes⟩
    · simp only [bind_eq_ok, releaseLocked_eq_ok] at h
      obtain ⟨_, ⟨-, rfl⟩, ⟨settled, s₁⟩, hsettled, h⟩ := h
      cases h
      have hvotes := updateStakeAndPayRewards_votesStarted hsettled hinfo
      exact ⟨(updateStakeAndPayRewards_toWithdraw hsettled).2, hvotes⟩

theorem reportSlash_stores (hstarted : VotesStarted s)
    (h : reportSlash cfg s staker amount = .ok s') : StoresRecord s staker s' := by
  simp only [reportSlash, bind_eq_ok, okOr_eq_ok, guard_eq_ok, exists_const] at h
  obtain ⟨info, hinfo, _, -, -, ⟨slashed, s₁⟩, hslashed, h⟩ := h
  cases h
  obtain ⟨hdetails, hslashedInfo⟩ := slashBalances_votesStarted (hstarted staker info hinfo) hslashed
  exact storesRecord_put hdetails hslashedInfo _

/-- An accepted report stores one record. -/
theorem report_stores {send : Sender} {call : Call AccountId} (hstarted : VotesStarted s)
    (haccepted : dispatch cfg send s .staking call = .ok s') (hcall : call.staker = some staker) :
    StoresRecord s staker s' := by
  cases call with
  | reportStakeDeposited reporter amount address =>
    cases hcall
    obtain ⟨_, -, h⟩ := bind_eq_ok.mp haccepted
    exact reportStakeDeposited_stores hstarted h
  | reportStakingWithdrawRequest reporter amount address =>
    cases hcall
    obtain ⟨_, -, h⟩ := bind_eq_ok.mp haccepted
    exact reportStakingWithdrawRequest_stores hstarted h
  | reportSlash reporter amount =>
    cases hcall
    obtain ⟨_, -, h⟩ := bind_eq_ok.mp haccepted
    exact reportSlash_stores hstarted h
  | _ => cases hcall

theorem StakingStep.votesStarted {input : Input AccountId} (h : StakingStep cfg s input s')
    (hcounted : VotesCounted s.governance s'.governance) (hstarted : VotesStarted s) :
    VotesStarted s' := by
  have hkept : s'.staking.stakerDetails = s.staking.stakerDetails → VotesStarted s' := by
    intro hdetails other info hinfo
    rw [hdetails] at hinfo
    obtain ⟨hcount, htally⟩ := hstarted other info hinfo
    exact ⟨hcount.trans hcounted.voteCount_le, htally.trans (hcounted.voteTally_le other)⟩
  cases h with
  | unchanged hstaking hbalance => exact hkept (by rw [hstaking])
  | rewarded hbalance hrewards hstaking =>
    exact hkept (by rw [hstaking, Staking.updateRewards_frame hrewards])
  | @submitted _ _ reporter queryId staker hstaker hledger hstaking =>
    have hdetails : s'.staking.stakerDetails =
        s.staking.stakerDetails.insert reporter (staker.reported s.now) := by
      rw [hstaking]
      rfl
    exact hstarted.insert hcounted hdetails (hstarted reporter staker hstaker)
  | reported haccepted hcall h =>
    obtain ⟨info, hdetails, hinfo⟩ := report_stores hstarted haccepted hcall
    exact hstarted.insert hcounted hdetails hinfo
  | @withdrawn _ reporter amount info _ h =>
    have hdetails : s'.staking.stakerDetails = s.staking.stakerDetails.insert reporter
        { info with lockedBalance := info.lockedBalance - amount } := by
      rw [h.state_eq]
      rfl
    exact hstarted.insert hcounted hdetails (hstarted reporter info h.record_eq)

/-- In every state reached the records count votes from numbers reached. -/
theorem Reachable.votesStarted (h : Reachable cfg s) : VotesStarted s := by
  apply h.invariant VotesStarted
  · rintro s₀ ⟨ledger, blockNumber, now, -, rfl⟩
    simp [VotesStarted, State.genesis]
  · intro s₀ input s₁ hinv heffect
    exact heffect.stakingStep.votesStarted heffect.votesCounted hinv

end TellorPallet
