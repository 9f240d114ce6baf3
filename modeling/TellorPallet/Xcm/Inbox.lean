import TellorPallet.Xcm.GovernanceCalls
import TellorPallet.Xcm.Messages
import TellorPallet.Xcm.Programs

/-!
# What the governance contract hears

The programs that were sent to the chain of the governance contract, executed there, are calls of the
contract. In every reachable state the contract has heard of each dispute once for every round opened, and
then of the tallies of each round that was sent, in the order of the rounds and with the tallies that the
round still has. Nothing is heard twice and nothing is heard that is not in storage.
-/

namespace TellorPallet

open Outcome Transition

variable {AccountId : Type} [DecidableEq AccountId] (cfg : Config AccountId) (x : XcmConfig)

/-- The surroundings as documented: the encoder of the contract ABI, the destination's weigher, and a
minimum stake amount that its type holds. In a build without overflow checks the weights for the gas of
the calls of the governance contract do not overflow. -/
structure Wired : Prop where
  encodesAbi : cfg.EncodesAbi
  weighs : ∀ message : Message, message.input.length ≤ maxEthereumXcmInputSize →
    cfg.weighs message = (x.program message).isSome
  addsUp : x.overflowChecks = false → ∀ call gasLimit, gasLimit ≤ gasBeginParachainDispute →
    x.AddsUp cfg.governance.paraId call gasLimit
  minimumStakeAmount_lt : cfg.minimumStakeAmount < 2 ^ 256

/-- The call of the governance contract that a message is executed as. -/
def deliver (message : Message) : Option GovernanceCall :=
  if message.paraId = cfg.governance.paraId then
    ((x.program message).bind readProgram).bind fun remote ↦
      if remote.palletIndex = x.ethereumXcmPalletIndex ∧ remote.contract = cfg.governance.address then
        readGovernanceCall remote.input
      else none
  else none

/-- The calls the governance contract received, oldest first. -/
def State.inbox (s : State AccountId) : List GovernanceCall := s.sentMessages.filterMap (deliver cfg x)

/-- What a call announces of a dispute: the address of the disputed reporter, the disputed value and the
amount to slash. -/
def GovernanceCall.announces (disputeId : DisputeId) :
    GovernanceCall → Option (Option Address × Value × ℕ)
  | .beginParachainDispute queryId timestamp value disputedReporter _ slashAmount =>
    if disputeIdOf cfg queryId timestamp = disputeId then
      some (some disputedReporter, value, slashAmount)
    else none
  | .vote .. => none

/-- The tallies that a call reports of a dispute. -/
def GovernanceCall.tallies (disputeId : DisputeId) : GovernanceCall → Option (Tally × Tally)
  | .beginParachainDispute .. => none
  | .vote id users reporters => if id = disputeId then some (users, reporters) else none

/-- The tallies of a round, if it was sent. -/
def Governance.sentTally (g : Governance AccountId) (disputeId : DisputeId) (voteRound : ℕ) :
    Option (Tally × Tally) :=
  (g.voteInfo.lookup (disputeId, voteRound)).bind fun vote ↦
    if vote.sent = true then some (vote.users, vote.reporters) else none

/-- The tallies of the rounds that were sent, in the order of the rounds. -/
def Governance.sentTallies (g : Governance AccountId) (disputeId : DisputeId) : List (Tally × Tally) :=
  (List.range' 1 (g.rounds disputeId)).filterMap (g.sentTally disputeId)

/-- The dispute as each of its rounds announces it, with the address that its reporter has registered. -/
def State.announcements (s : State AccountId) (disputeId : DisputeId) :
    List (Option Address × Value × ℕ) :=
  (s.governance.disputeInfo.lookup disputeId).elim [] fun dispute ↦
    List.replicate (s.governance.rounds disputeId)
      (s.staking.addressOf dispute.disputedReporter, dispute.value, dispute.slashedAmount)

/-- What was heard is what is stored, and what is stored fits into words. -/
structure Heard (s : State AccountId) : Prop where
  queued : ∀ d pending, s.governance.pendingVotes.lookup d = some pending →
    pending.1 = s.governance.rounds d ∧ 1 ≤ pending.1
  stakeAmount_lt : s.prices.stakeAmount < 2 ^ 256
  slashedAmount_lt : ∀ d dispute, s.governance.disputeInfo.lookup d = some dispute →
    dispute.slashedAmount < 2 ^ 256
  registered : ∀ d dispute, s.governance.disputeInfo.lookup d = some dispute →
    ∃ address, s.staking.addressOf dispute.disputedReporter = some address
  fits : ∀ key vote, s.governance.voteInfo.lookup key = some vote →
    vote.users.Fits ∧ vote.reporters.Fits
  announced : ∀ d, (s.inbox cfg x).filterMap (GovernanceCall.announces cfg d) =
    s.announcements d
  tallied : ∀ d, (s.inbox cfg x).filterMap (GovernanceCall.tallies d) = s.governance.sentTallies d

section Delivery

variable {cfg x} {location : ContractLocation} {call : ContractCall} {gasLimit : ℕ} {message : Message}

omit [DecidableEq AccountId] in
theorem length_abiEncode_lt (h : transact cfg location call gasLimit = .ok message) :
    (cfg.abiEncode call.tokens).length ≤ maxEthereumXcmInputSize := by
  rw [transact_eq_ite] at h
  split at h
  · next hsize =>
    rw [contractMessage, List.length_append] at hsize
    exact (Nat.le_add_left _ _).trans hsize
  · cases h

omit [DecidableEq AccountId] in
/-- The governance contract reads the messages that are sent to it, unless their weights overflow. -/
theorem deliver_transact (hwired : Wired cfg x)
    (h : transact cfg location call gasLimit = .ok message) :
    ∃ bytes, (x.overflowChecks = true → x.AddsUp location.paraId bytes gasLimit) ∧
      deliver cfg x message =
        if location.paraId = cfg.governance.paraId ∧ location.address = cfg.governance.address ∧
            x.AddsUp location.paraId bytes gasLimit then
          readGovernanceCall (call.selector ++ cfg.abiEncode call.tokens)
        else none := by
  rw [transact_eq_ite] at h
  split at h
  · next hsize =>
    split at h
    · next hweighs =>
      cases h
      rw [hwired.weighs _ hsize, Option.isSome_iff_exists] at hweighs
      obtain ⟨program, hprogram⟩ := hweighs
      let bytes := EthereumXcm.transact x.ethereumXcmPalletIndex location.address ⟨_, hsize⟩
        (Fin.ofNat _ gasLimit)
      have hcarried : x.transact location.paraId bytes gasLimit = .ok program := by
        rw [XcmConfig.program, XcmConfig.remoteBytes, dif_pos hsize] at hprogram
        exact toOption_eq_some.mp hprogram
      have hread := readProgram_transact hcarried
      refine ⟨bytes, XcmConfig.addsUp_of_transact hcarried, ?_⟩
      rw [deliver, hprogram, Option.bind_some, hread, readRemoteCall_transact]
      by_cases hadds : x.AddsUp location.paraId bytes gasLimit
      · simp only [contractMessage, hadds, if_true, Option.bind_some, and_true, ite_and]
      · simp [hadds]
    · cases h
  · cases h

omit [DecidableEq AccountId] in
/-- The calls of the governance contract arrive. -/
theorem deliver_governance (hwired : Wired cfg x) (hgas : gasLimit ≤ gasBeginParachainDispute)
    (h : transact cfg cfg.governance call gasLimit = .ok message) :
    deliver cfg x message = readGovernanceCall (call.selector ++ cfg.abiEncode call.tokens) := by
  obtain ⟨bytes, hchecked, hdeliver⟩ := deliver_transact hwired h
  have hadds : x.AddsUp cfg.governance.paraId bytes gasLimit := by
    cases hchecks : x.overflowChecks with
    | false => exact hwired.addsUp hchecks bytes gasLimit hgas
    | true => exact hchecked hchecks
  rw [hdeliver, if_pos ⟨rfl, rfl, hadds⟩]

end Delivery

/-! ## Moves -/

section Steps

variable {cfg x} {s s' : State AccountId}

theorem Tally.Fits.accrue {tally : Tally} (h : tally.Fits) {bound : ℕ} (hbound : bound ≤ u256Max)
    (supports : Option Bool) (weight : ℕ) : (tally.accrue bound supports weight).Fits := by
  obtain ⟨hfor, hagainst, hinvalid⟩ := h
  have hsum (a : ℕ) : Saturating.add bound a weight < 2 ^ 256 :=
    le_u256Max_iff.mp ((Saturating.add_le_bound bound a weight).trans hbound)
  rcases supports with _ | _ | _
  · exact ⟨hfor, hagainst, hsum _⟩
  · exact ⟨hfor, hsum _, hinvalid⟩
  · exact ⟨hsum _, hagainst, hinvalid⟩

theorem Tally.fits_zero : Tally.zero.Fits := by
  have hpositive : 0 < 2 ^ 256 := by positivity
  exact ⟨hpositive, hpositive, hpositive⟩

/-- What is heard depends on the messages, the records of disputes and votes, and the addresses alone. -/
theorem Heard.of_eq (hinv : Heard cfg x s) (hgovernance : s'.governance = s.governance)
    (haddresses : AddressesKept s.staking s'.staking) (hinbox : s'.inbox cfg x = s.inbox cfg x)
    (hstake : s'.prices.stakeAmount < 2 ^ 256) : Heard cfg x s' := by
  refine ⟨?_, hstake, ?_, fun d dispute hdispute ↦ ?_, ?_, fun d ↦ ?_, ?_⟩
  · rw [hgovernance]
    exact hinv.queued
  · rw [hgovernance]
    exact hinv.slashedAmount_lt
  · rw [hgovernance] at hdispute
    obtain ⟨address, hregistered⟩ := hinv.registered d dispute hdispute
    exact ⟨address, haddresses _ _ hregistered⟩
  · rw [hgovernance]
    exact hinv.fits
  · rw [hinbox, hinv.announced, State.announcements, State.announcements, hgovernance]
    cases hdispute : s.governance.disputeInfo.lookup d with
    | none => rfl
    | some dispute =>
      obtain ⟨address, hregistered⟩ := hinv.registered d dispute hdispute
      rw [Option.elim_some, Option.elim_some, hregistered, haddresses _ _ hregistered]
  · rw [hgovernance, hinbox]
    exact hinv.tallied

omit [DecidableEq AccountId] in
theorem VoteUpdated.sentTally {d : DisputeId} {r : ℕ} {vote vote' : Vote AccountId}
    (h : VoteUpdated s s' d r vote vote') (disputeId : DisputeId) (voteRound : ℕ) :
    s'.governance.sentTally disputeId voteRound =
      if disputeId = d ∧ voteRound = r then
        if vote'.sent = true then some (vote'.users, vote'.reporters) else none
      else s.governance.sentTally disputeId voteRound := by
  rw [Governance.sentTally, h.lookup]
  split
  · rfl
  · rfl

theorem VoteUpdated.announcements {d : DisputeId} {r : ℕ} {vote vote' : Vote AccountId}
    (h : VoteUpdated s s' d r vote vote') (hstaking : s'.staking = s.staking) (disputeId : DisputeId) :
    s'.announcements disputeId = s.announcements disputeId := by
  rw [State.announcements, h.disputeInfo_eq, h.rounds, hstaking]
  rfl

/-- Updating a vote sends nothing, and leaves the tallies of a sent round alone. -/
theorem VoteUpdated.heard {d : DisputeId} {r : ℕ} {vote vote' : Vote AccountId}
    (h : VoteUpdated s s' d r vote vote') (hpending : s'.governance.pendingVotes =
      s.governance.pendingVotes) (hmessages : s'.sentMessages = s.sentMessages)
    (hprices : s'.prices = s.prices) (hstaking : s'.staking = s.staking)
    (hfits : vote'.users.Fits ∧ vote'.reporters.Fits) (hsent : vote'.sent = vote.sent)
    (hkept : vote.sent = true → vote'.users = vote.users ∧ vote'.reporters = vote.reporters)
    (hinv : Heard cfg x s) : Heard cfg x s' := by
  have hinbox : s'.inbox cfg x = s.inbox cfg x := by rw [State.inbox, hmessages]; rfl
  refine ⟨?_, ?_, ?_, ?_, fun key other hother ↦ ?_, fun disputeId ↦ ?_, fun disputeId ↦ ?_⟩
  · intro disputeId pending hlookup
    rw [hpending] at hlookup
    rw [h.rounds]
    exact hinv.queued disputeId pending hlookup
  · rw [hprices]
    exact hinv.stakeAmount_lt
  · rw [h.disputeInfo_eq]
    exact hinv.slashedAmount_lt
  · rw [h.disputeInfo_eq, hstaking]
    exact hinv.registered
  · obtain ⟨i, j⟩ := key
    rw [h.lookup] at hother
    split at hother
    · cases hother
      exact hfits
    · exact hinv.fits _ other hother
  · rw [hinbox, h.announcements hstaking]
    exact hinv.announced disputeId
  · rw [hinbox, hinv.tallied, Governance.sentTallies, Governance.sentTallies, h.rounds]
    apply List.filterMap_congr
    intro voteRound _
    rw [h.sentTally]
    split
    · next heq =>
      rw [heq.1, heq.2, Governance.sentTally, h.vote_eq, Option.bind_some, hsent]
      split
      · next hflag => rw [(hkept hflag).1, (hkept hflag).2]
      · rfl
    · rfl

/-- A vote that is sent is heard as the last one of its dispute. -/
theorem VoteSent.heard (hwired : Wired cfg x) {send : Sender} {disputeId : DisputeId}
    {pending : ℕ × ℕ} {vote : Vote AccountId} {message : Message}
    (hpending : s.governance.pendingVotes.lookup disputeId = some pending)
    (h : VoteSent cfg send s disputeId pending.1 vote message s') (hinv : Heard cfg x s) :
    Heard cfg x s' := by
  obtain ⟨hround, hpositive⟩ := hinv.queued disputeId pending hpending
  have hupdated := h.voteUpdated
  have hfits := hinv.fits _ vote h.vote_eq
  have hmessages : s'.sentMessages = s.sentMessages ++ [message] :=
    (congrArg State.sentMessages h.state_eq :)
  have hmessage : deliver cfg x message = some (.vote disputeId vote.users vote.reporters) := by
    rw [deliver_governance hwired (by decide) h.message_eq]
    exact readGovernanceCall_vote hwired.encodesAbi rfl hfits.1 hfits.2
      ((length_abiEncode_lt h.message_eq).trans_lt (by decide))
  have hinbox : s'.inbox cfg x = s.inbox cfg x ++ [.vote disputeId vote.users vote.reporters] := by
    rw [State.inbox, hmessages, List.filterMap_append, List.filterMap_cons_some hmessage]
    rfl
  have hstaking : s'.staking = s.staking := (congrArg State.staking h.state_eq :)
  refine ⟨?_, ?_, ?_, ?_, fun key other hother ↦ ?_, fun other ↦ ?_, fun other ↦ ?_⟩
  · intro other entry hlookup
    rw [h.pendingVotes_lookup] at hlookup
    split at hlookup
    · cases hlookup
    · rw [hupdated.rounds]
      exact hinv.queued other entry hlookup
  · have hprices : s'.prices = s.prices := (congrArg State.prices h.state_eq :)
    rw [hprices]
    exact hinv.stakeAmount_lt
  · rw [hupdated.disputeInfo_eq]
    exact hinv.slashedAmount_lt
  · rw [hupdated.disputeInfo_eq, hstaking]
    exact hinv.registered
  · obtain ⟨i, j⟩ := key
    rw [hupdated.lookup] at hother
    split at hother
    · cases hother
      exact hfits
    · exact hinv.fits _ other hother
  · rw [hinbox, List.filterMap_append, hinv.announced, hupdated.announcements hstaking]
    exact List.append_nil _
  · rw [hinbox, List.filterMap_append, hinv.tallied, Governance.sentTallies, Governance.sentTallies,
      hupdated.rounds]
    by_cases hother : other = disputeId
    · -- the round that is sent is the last one, and was not sent before
      rw [hother, ← hround]
      obtain ⟨earlier, hearlier⟩ := Nat.exists_eq_add_of_le' hpositive
      have hlast : s'.governance.sentTally disputeId pending.1 = some (vote.users, vote.reporters) := by
        rw [hupdated.sentTally, if_pos ⟨rfl, rfl⟩]
        exact if_pos rfl
      have hbefore : s.governance.sentTally disputeId pending.1 = none := by
        rw [Governance.sentTally, h.vote_eq, Option.bind_some, h.not_sent]
        exact if_neg Bool.false_ne_true
      have hrest : (List.range' 1 earlier).filterMap (s'.governance.sentTally disputeId) =
          (List.range' 1 earlier).filterMap (s.governance.sentTally disputeId) := by
        apply List.filterMap_congr
        intro voteRound hmem
        rw [List.mem_range'_1] at hmem
        rw [hupdated.sentTally, if_neg]
        rintro ⟨-, heq⟩
        omega
      rw [hearlier, List.range'_concat, Nat.one_mul, Nat.add_comm 1 earlier, ← hearlier,
        List.filterMap_append, List.filterMap_append, hrest, List.filterMap_cons_some hlast,
        List.filterMap_cons_none hbefore]
      simp [GovernanceCall.tallies]
    · have hsame : (List.range' 1 (s.governance.rounds other)).filterMap
          (s'.governance.sentTally other) =
          (List.range' 1 (s.governance.rounds other)).filterMap (s.governance.sentTally other) := by
        apply List.filterMap_congr
        intro voteRound _
        rw [hupdated.sentTally, if_neg fun heq ↦ hother heq.1]
      rw [hsame]
      simp [GovernanceCall.tallies, Ne.symm hother]

/-- A round that is opened is heard of once more, as its dispute was announced. -/
theorem Announced.heard (hwired : Wired cfg x) {queryId : QueryId} {timestamp voteRound : ℕ}
    {dispute : Dispute AccountId} {message : Message} (hnow : s.now < 2 ^ 256)
    (h : Announced cfg s queryId timestamp voteRound dispute message s') (hinv : Heard cfg x s) :
    Heard cfg x s' := by
  obtain ⟨fee, initiator, hopened⟩ := h.opened
  obtain ⟨disputedReporter, beneficiary, haddress, hmessage⟩ := h.message_eq
  have hround := hopened.round_eq
  have hslashed : dispute.slashedAmount < 2 ^ 256 := by
    rcases h.dispute_cases with ⟨-, hamount⟩ | ⟨-, hfound⟩
    · rw [hamount]
      exact hinv.stakeAmount_lt
    · exact hinv.slashedAmount_lt _ dispute hfound
  have hdelivered : deliver cfg x message = some (.beginParachainDispute queryId timestamp dispute.value
      disputedReporter beneficiary dispute.slashedAmount) := by
    have hsize := length_abiEncode_lt hmessage
    have hvalue := length_value_le hwired.encodesAbi hsize
    rw [deliver_governance hwired le_rfl hmessage]
    exact readGovernanceCall_dispute hwired.encodesAbi rfl (h.timestamp_le.trans_lt hnow) hslashed
      (hvalue.trans_lt (by decide)) (hsize.trans_lt (by decide))
  have hinbox : s'.inbox cfg x = s.inbox cfg x ++ [.beginParachainDispute queryId timestamp
      dispute.value disputedReporter beneficiary dispute.slashedAmount] := by
    rw [State.inbox, h.sentMessages_eq, List.filterMap_append, List.filterMap_cons_some hdelivered]
    rfl
  refine ⟨?_, ?_, ?_, ?_, fun key other hother ↦ ?_, fun other ↦ ?_, fun other ↦ ?_⟩
  · intro other entry hlookup
    rw [hopened.pendingVotes_eq, FiniteMap.lookup_insert_ite] at hlookup
    rw [hopened.rounds]
    split at hlookup
    · next heq =>
      cases hlookup
      rw [if_pos heq]
      exact ⟨hround, by omega⟩
    · next hne =>
      rw [if_neg hne]
      exact hinv.queued other entry hlookup
  · rw [h.stakeAmount_eq]
    exact hinv.stakeAmount_lt
  · intro other found hfound
    rw [h.disputeInfo_eq] at hfound
    split at hfound
    · cases hfound
      exact hslashed
    · exact hinv.slashedAmount_lt other found hfound
  · intro other found hfound
    rw [h.disputeInfo_eq] at hfound
    rw [h.staking_eq]
    split at hfound
    · cases hfound
      exact ⟨disputedReporter, haddress⟩
    · exact hinv.registered other found hfound
  · obtain ⟨i, j⟩ := key
    rw [hopened.lookup] at hother
    split at hother
    · cases hother
      exact ⟨Tally.fits_zero, Tally.fits_zero⟩
    · exact hinv.fits _ other hother
  · rw [hinbox, List.filterMap_append, hinv.announced, State.announcements, State.announcements,
      h.disputeInfo_eq, hopened.rounds, h.staking_eq]
    split
    · next heq =>
      rw [heq]
      -- nothing was announced before the first round, and every later one finds the same dispute
      have hbefore : (s.governance.disputeInfo.lookup (disputeIdOf cfg queryId timestamp)).elim []
          (fun found ↦ List.replicate (s.governance.rounds (disputeIdOf cfg queryId timestamp))
            (s.staking.addressOf found.disputedReporter, found.value, found.slashedAmount)) =
          List.replicate (s.governance.rounds (disputeIdOf cfg queryId timestamp))
            (some disputedReporter, dispute.value, dispute.slashedAmount) := by
        rcases h.dispute_cases with ⟨hfirst, -⟩ | ⟨-, hfound⟩
        · have hzero : s.governance.rounds (disputeIdOf cfg queryId timestamp) = 0 := by omega
          rw [hzero]
          cases s.governance.disputeInfo.lookup (disputeIdOf cfg queryId timestamp) <;> rfl
        · rw [hfound, Option.elim_some, haddress]
      rw [hbefore, Option.elim_some, haddress, List.replicate_succ']
      simp [GovernanceCall.announces]
    · next hne => simp [GovernanceCall.announces, Ne.symm hne]
  · have hsame (voteRound' : ℕ) (hle : voteRound' ≤ s.governance.rounds other) :
        s'.governance.sentTally other voteRound' = s.governance.sentTally other voteRound' := by
      rw [Governance.sentTally, hopened.lookup, if_neg]
      · rfl
      · rintro ⟨rfl, rfl⟩
        omega
    have hearlier : (List.range' 1 (s.governance.rounds other)).filterMap
        (s'.governance.sentTally other) = s.governance.sentTallies other := by
      apply List.filterMap_congr
      intro voteRound' hmem
      rw [List.mem_range'_1] at hmem
      exact hsame voteRound' (by omega)
    have hafter : s'.governance.sentTallies other = (List.range' 1 (s'.governance.rounds other)).filterMap
        (s'.governance.sentTally other) := rfl
    rw [hinbox, List.filterMap_append, hinv.tallied, hafter, hopened.rounds]
    split
    · next heq =>
      have hlast : s'.governance.sentTally other (1 + s.governance.rounds other) = none := by
        rw [Governance.sentTally, hopened.lookup, if_pos ⟨heq, by rw [heq, hround, Nat.add_comm]⟩]
        rfl
      rw [← heq, List.range'_concat, Nat.one_mul, List.filterMap_append, hearlier,
        List.filterMap_cons_none hlast]
      rfl
    · rw [hearlier]
      exact List.append_nil _

theorem Silent.heard (hwired : Wired cfg x) (h : Silent cfg s s') (hinv : Heard cfg x s) :
    Heard cfg x s' := by
  refine hinv.of_eq h.governance_eq h.addresses_kept (by rw [State.inbox, h.sentMessages_eq]; rfl) ?_
  rcases h.stakeAmount_cases with hsame | hle
  · rw [hsame]
    exact hinv.stakeAmount_lt
  · exact hle.trans_lt (max_lt hwired.minimumStakeAmount_lt (le_u256Max_iff.mp le_rfl))

/-- Every move is heard as it is stored. -/
theorem MessageStep.heard (hwired : Wired cfg x) (hnow : s.now < 2 ^ 256)
    (h : MessageStep cfg s s') (hinv : Heard cfg x s) : Heard cfg x s' := by
  cases h with
  | silent h => exact h.heard hwired hinv
  | @registered _ _ _ _ _ _ _ _ message hmessage hmessages hgovernance hstaking hnow hprices =>
    have hdelivered : deliver cfg x message = none := by
      obtain ⟨bytes, -, hdeliver⟩ := deliver_transact hwired hmessage
      rw [hdeliver, readGovernanceCall_register]
      exact ite_self _
    refine hinv.of_eq hgovernance (.of_details (by rw [hstaking])) ?_ (hprices ▸ hinv.stakeAmount_lt)
    rw [State.inbox, hmessages, List.filterMap_append, List.filterMap_cons_none hdelivered]
    exact List.append_nil _
  | voted h =>
    have hfits := hinv.fits _ _ h.vote_eq
    refine h.voteUpdated.heard ?_ ?_ ?_ ?_ ⟨hfits.1.accrue cfg.balanceMax_le _ _,
      hfits.2.accrue (by decide) _ _⟩ rfl (fun hsent ↦ absurd (h.not_sent.symm.trans hsent) nofun) hinv
    · rw [h.state_eq]
      rfl
    · rw [h.state_eq]
    · rw [h.state_eq]
    · rw [h.state_eq]
  | sent hpending h => exact h.heard hwired hpending hinv
  | announced h => exact h.heard hwired hnow hinv
  | tallied h =>
    have hfits := hinv.fits _ _ h.vote_eq
    refine h.voteUpdated.heard ?_ ?_ ?_ ?_ hfits rfl (fun _ ↦ ⟨rfl, rfl⟩) hinv
    · rw [h.state_eq]
      rfl
    · rw [h.state_eq]
    · rw [h.state_eq]
    · rw [h.state_eq]
  | executed h =>
    have hfits := hinv.fits _ _ h.vote_eq
    refine h.voteUpdated.heard ?_ ?_ ?_ ?_ hfits rfl (fun _ ↦ ⟨rfl, rfl⟩) hinv
    · rw [h.state_eq]
      rfl
    · rw [h.state_eq]
    · rw [h.state_eq]
    · rw [h.state_eq]

theorem heard_of_messageSteps (hwired : Wired cfg x)
    (h : Relation.ReflTransGen (MessageStep cfg) s s') (hnow : s'.now < 2 ^ 256)
    (hinv : Heard cfg x s) : Heard cfg x s' := by
  induction h with
  | refl => exact hinv
  | tail _ hlast ih =>
    have hbefore := hlast.now_le.trans_lt hnow
    exact hlast.heard hwired hbefore (ih hbefore)

end Steps

/-! ## Runs -/

/-- The mock runtime with its weigher in place. -/
def Mock.weighed : Config ℕ :=
  { Mock.config with weighs := fun message ↦ (Mock.xcm.program message).isSome }

theorem Mock.wired : Wired Mock.weighed Mock.xcm :=
  ⟨Mock.encodesAbi, fun _ _ ↦ rfl, fun _ call _ hgas ↦ Mock.addsUp hgas call, by decide⟩

section Runs

variable {cfg x} {s : State AccountId}

theorem heard_genesis (hwired : Wired cfg x) (h : IsGenesis cfg s) : Heard cfg x s := by
  obtain ⟨ledger, blockNumber, now, -, rfl⟩ := h
  refine ⟨fun d pending ↦ ?_, hwired.minimumStakeAmount_lt, fun d dispute ↦ ?_, fun d dispute ↦ ?_,
    fun key vote ↦ ?_, fun d ↦ ?_, fun d ↦ ?_⟩
  all_goals simp [State.genesis, State.inbox, State.announcements, Governance.sentTallies,
    Governance.rounds]

/-- In every state reached before the clock outgrows a word, the governance contract has received, for
each dispute, exactly one announcement for every round that was opened, each with the address that the
disputed reporter has registered, the value in dispute and the amount to slash, and exactly one vote for
every round that was sent, in the order of the rounds and with the tallies stored for the round. -/
theorem inbox_of_reachable (hwired : Wired cfg x) (h : Reachable cfg s) (hnow : s.now < 2 ^ 256)
    (disputeId : DisputeId) :
    (s.inbox cfg x).filterMap (GovernanceCall.announces cfg disputeId) =
        s.announcements disputeId ∧
      (s.inbox cfg x).filterMap (GovernanceCall.tallies disputeId) =
        s.governance.sentTallies disputeId := by
  obtain ⟨s₀, hgenesis, hreaches⟩ := h
  have hheard : SeriesInvariant s ∧ (s.now < 2 ^ 256 → Heard cfg x s) := by
    refine Reaches.invariant
      (fun mid input (hmid : SeriesInvariant mid ∧ (mid.now < 2 ^ 256 → Heard cfg x mid)) hadmits ↦ ?_)
      hreaches ⟨seriesInvariant_genesis hgenesis, fun _ ↦ heard_genesis hwired hgenesis⟩
    refine ⟨(step_effect hadmits).seriesStep.preserves hmid.1, fun hlater ↦ ?_⟩
    have hsteps := step_messageSteps hmid.1 hadmits
    have hle := now_le_of_messageSteps hsteps
    exact heard_of_messageSteps hwired hsteps hlater (hmid.2 (hle.trans_lt hlater))
  exact ⟨(hheard.2 hnow).announced disputeId, (hheard.2 hnow).tallied disputeId⟩

/-- The mock runtime's dispute was announced twice, and the tallies of both its rounds were received. -/
theorem inbox_of_reachable_sentRounds :
    let s := run (step Mock.weighed) (Mock.sentRounds Mock.send) Mock.genesis
    (s.inbox Mock.weighed Mock.xcm).filterMap (GovernanceCall.announces Mock.weighed Mock.disputeId) =
        s.announcements Mock.disputeId ∧
      (s.inbox Mock.weighed Mock.xcm).filterMap (GovernanceCall.tallies Mock.disputeId) =
        s.governance.sentTallies Mock.disputeId :=
  inbox_of_reachable Mock.wired
    ⟨Mock.genesis, Mock.isGenesis_of_eq rfl rfl rfl, reaches_run _ _ (by decide +kernel)⟩
    (by decide +kernel) Mock.disputeId

end Runs

end TellorPallet
