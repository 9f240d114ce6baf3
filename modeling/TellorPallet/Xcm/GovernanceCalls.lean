import TellorPallet.Foundation.HeadTail
import TellorPallet.Governance.Disputes
import TellorPallet.Governance.Votes
import TellorPallet.Pallet.Decoding
import TellorPallet.Runtime.Mock

/-!
# Calls as the governance contract reads them

The ABI library outside the pallet writes tokens in the head and tail layout. The governance contract
tells the calls of the pallet apart by their selector and reads their parameters by their types. Here the
two meet: every call that the pallet makes on the governance contract is read as the call it is.
-/

namespace TellorPallet

open Outcome

/-! ## Tokens -/

theorem beBytes_eq_word (n : ℕ) : beBytes 32 n = HeadTail.word n := by
  have hreverse : ∀ width n, beBytes width n = (Codec.littleEndian width n).reverse := by
    intro width
    induction width with
    | zero => exact fun _ ↦ rfl
    | succ width ih =>
      intro n
      rw [beBytes_succ, Codec.littleEndian, List.reverse_cons, ih]
  exact hreverse 32 n

theorem ofBigEndian_word {n : ℕ} (h : n < 2 ^ 256) : ofBigEndian (HeadTail.word n) = n := by
  have hrange : 256 ^ 32 = 2 ^ 256 := by norm_num
  rw [← beBytes_eq_word, ofBigEndian_beBytes, hrange, Nat.mod_eq_of_lt h]

mutual

/-- The value that a token stands for. -/
def Token.item : Token → HeadTail.Item
  | .uint value => .word (HeadTail.word value)
  | .fixedBytes bytes => .word (HeadTail.padded bytes)
  | .bytes bytes => .bytes bytes
  | .address address => .word (HeadTail.word address.val)
  | .tuple fields => .record (tokenItems fields)
  | .array items => .sequence (tokenItems items)

def tokenItems : List Token → List HeadTail.Item
  | [] => []
  | token :: rest => token.item :: tokenItems rest

end

/-- The ABI encoder follows the layout of the contract ABI. -/
def Config.EncodesAbi {AccountId : Type} (cfg : Config AccountId) : Prop :=
  ∀ tokens, cfg.abiEncode tokens = HeadTail.encode (tokenItems tokens)

/-! ## The calls -/

inductive GovernanceCall where
  | beginParachainDispute (queryId : H256) (timestamp : ℕ) (value : Value)
      (disputedReporter disputeInitiator : Address) (slashAmount : ℕ)
  | vote (disputeId : H256) (users reporters : Tally)
deriving DecidableEq

/-- The types of the parameters of `beginParachainDispute`. -/
def disputeShapes : List HeadTail.Shape := [.word, .word, .bytes, .word, .word, .word]

/-- The types of the parameters of `voteParachain`. -/
def voteShapes : List HeadTail.Shape := [.word, .word, .word, .word, .word, .word, .word]

/-- The parameters of a dispute. -/
def readDispute : List HeadTail.Item → Option GovernanceCall
  | [.word queryId, .word timestamp, .bytes value, .word disputedReporter, .word disputeInitiator,
      .word slashAmount] =>
    some (.beginParachainDispute (Fin.ofNat _ (ofBigEndian queryId)) (ofBigEndian timestamp) value
      (Fin.ofNat _ (ofBigEndian disputedReporter)) (Fin.ofNat _ (ofBigEndian disputeInitiator))
      (ofBigEndian slashAmount))
  | _ => none

/-- The parameters of a vote. -/
def readVote : List HeadTail.Item → Option GovernanceCall
  | [.word disputeId, .word usersFor, .word usersAgainst, .word usersInvalid, .word reportersFor,
      .word reportersAgainst, .word reportersInvalid] =>
    some (.vote (Fin.ofNat _ (ofBigEndian disputeId))
      ⟨ofBigEndian usersFor, ofBigEndian usersAgainst, ofBigEndian usersInvalid⟩
      ⟨ofBigEndian reportersFor, ofBigEndian reportersAgainst, ofBigEndian reportersInvalid⟩)
  | _ => none

/-- A call of the governance contract, by its selector. -/
def readGovernanceCall (input : Bytes) : Option GovernanceCall :=
  if input.take 4 = [29, 93, 54, 159] then
    (HeadTail.decode disputeShapes (input.drop 4)).bind readDispute
  else if input.take 4 = [61, 181, 167, 166] then
    (HeadTail.decode voteShapes (input.drop 4)).bind readVote
  else none

theorem padded_hashBytes (hash : H256) :
    HeadTail.padded (hashBytes hash) = HeadTail.word hash.val := by
  rw [hashBytes, beBytes_eq_word, HeadTail.padded, HeadTail.length_word]
  exact List.append_nil _

theorem address_lt (address : Address) : address.val < 2 ^ 256 :=
  address.isLt.trans (by norm_num)

theorem fin_ofNat_val {bound : ℕ} [NeZero bound] (n : Fin bound) : Fin.ofNat bound n.val = n :=
  Fin.ext (Nat.mod_eq_of_lt n.isLt)

section Read

variable {AccountId : Type} {cfg : Config AccountId}

/-- The parameters of an encoded call are read back. -/
theorem decode_abiEncode (habi : cfg.EncodesAbi) {tokens : List Token} {shapes : List HeadTail.Shape}
    (hshapes : HeadTail.HaveShapes (tokenItems tokens) shapes)
    (hsize : (cfg.abiEncode tokens).length < 2 ^ 256) :
    HeadTail.decode shapes (cfg.abiEncode tokens) = some (tokenItems tokens) := by
  rw [habi] at hsize ⊢
  have hread := HeadTail.decode_encode hshapes hsize []
  rwa [List.append_nil] at hread

/-- A dispute is read as what it announces. -/
theorem readGovernanceCall_dispute (habi : cfg.EncodesAbi) {queryId : QueryId} {timestamp : ℕ}
    {value : Value} {disputedReporter disputeInitiator : Address} {slashAmount : ℕ} {call : ContractCall}
    (hcall : call = beginParachainDisputeCall queryId timestamp value disputedReporter disputeInitiator
      slashAmount) (htimestamp : timestamp < 2 ^ 256) (hslash : slashAmount < 2 ^ 256)
    (hvalue : value.length < 2 ^ 256) (hsize : (cfg.abiEncode call.tokens).length < 2 ^ 256) :
    readGovernanceCall (call.selector ++ cfg.abiEncode call.tokens) =
      some (.beginParachainDispute queryId timestamp value disputedReporter disputeInitiator
        slashAmount) := by
  subst hcall
  have hitems : tokenItems (beginParachainDisputeCall queryId timestamp value disputedReporter
      disputeInitiator slashAmount).tokens =
      [.word (HeadTail.word queryId.val), .word (HeadTail.word timestamp), .bytes value,
        .word (HeadTail.word disputedReporter.val), .word (HeadTail.word disputeInitiator.val),
        .word (HeadTail.word slashAmount)] := by
    simp only [beginParachainDisputeCall, tokenItems, Token.item, padded_hashBytes]
  have hshapes : HeadTail.HaveShapes (tokenItems (beginParachainDisputeCall queryId timestamp value
      disputedReporter disputeInitiator slashAmount).tokens) disputeShapes := by
    rw [hitems]
    simpa [disputeShapes, HeadTail.HaveShapes, HeadTail.Item.HasShape] using hvalue
  have hread := decode_abiEncode habi hshapes hsize
  refine (if_pos rfl).trans ?_
  change (HeadTail.decode disputeShapes (cfg.abiEncode _)).bind readDispute = _
  rw [hread, Option.bind_some, hitems, readDispute, ofBigEndian_word queryId.isLt,
    ofBigEndian_word htimestamp, ofBigEndian_word (address_lt _), ofBigEndian_word (address_lt _),
    ofBigEndian_word hslash, fin_ofNat_val, fin_ofNat_val, fin_ofNat_val]

/-- The disputed value is part of its call. -/
theorem length_value_le (habi : cfg.EncodesAbi) {queryId : QueryId} {timestamp slashAmount bound : ℕ}
    {value : Value} {disputedReporter disputeInitiator : Address}
    (hsize : (cfg.abiEncode (beginParachainDisputeCall queryId timestamp value disputedReporter
      disputeInitiator slashAmount).tokens).length ≤ bound) : value.length ≤ bound := by
  rw [habi] at hsize
  have hpart := HeadTail.length_le_layout (HeadTail.mem_partsOf (List.mem_of_getElem?
    (l := tokenItems (beginParachainDisputeCall queryId timestamp value disputedReporter
      disputeInitiator slashAmount).tokens) (i := 2) (a := .bytes value) rfl))
  refine le_trans ?_ (hpart.trans hsize)
  change value.length ≤ (HeadTail.word value.length ++ (value ++ List.replicate _ 0)).length
  rw [List.length_append, List.length_append]
  omega

/-- The numbers of a tally fit into words. -/
def Tally.Fits (tally : Tally) : Prop :=
  tally.doesSupport < 2 ^ 256 ∧ tally.against < 2 ^ 256 ∧ tally.invalidQuery < 2 ^ 256

/-- A vote is read as the tallies it carries. -/
theorem readGovernanceCall_vote (habi : cfg.EncodesAbi) {disputeId : DisputeId}
    {users reporters : Tally} {call : ContractCall} (hcall : call = voteCall disputeId users reporters)
    (husers : users.Fits) (hreporters : reporters.Fits)
    (hsize : (cfg.abiEncode call.tokens).length < 2 ^ 256) :
    readGovernanceCall (call.selector ++ cfg.abiEncode call.tokens) =
      some (.vote disputeId users reporters) := by
  subst hcall
  have hitems : tokenItems (voteCall disputeId users reporters).tokens =
      [.word (HeadTail.word disputeId.val), .word (HeadTail.word users.doesSupport),
        .word (HeadTail.word users.against), .word (HeadTail.word users.invalidQuery),
        .word (HeadTail.word reporters.doesSupport), .word (HeadTail.word reporters.against),
        .word (HeadTail.word reporters.invalidQuery)] := by
    simp only [voteCall, tokenItems, Token.item, padded_hashBytes]
  have hshapes : HeadTail.HaveShapes (tokenItems (voteCall disputeId users reporters).tokens)
      voteShapes := by
    rw [hitems]
    simp [voteShapes, HeadTail.HaveShapes, HeadTail.Item.HasShape]
  have hread := decode_abiEncode habi hshapes hsize
  have hother : ¬([61, 181, 167, 166] : Bytes) = [29, 93, 54, 159] := by decide
  refine (if_neg hother).trans ((if_pos rfl).trans ?_)
  change (HeadTail.decode voteShapes (cfg.abiEncode _)).bind readVote = _
  rw [hread, Option.bind_some, hitems, readVote, ofBigEndian_word disputeId.isLt,
    ofBigEndian_word husers.1, ofBigEndian_word husers.2.1, ofBigEndian_word husers.2.2,
    ofBigEndian_word hreporters.1, ofBigEndian_word hreporters.2.1, ofBigEndian_word hreporters.2.2,
    fin_ofNat_val]

/-- Nothing but these two calls is read. -/
theorem readGovernanceCall_register {paraId palletIndex weightToFee parents : ℕ}
    {interior : List Bytes} {weights : Weights} (rest : Bytes) :
    readGovernanceCall ((registerCall paraId palletIndex weightToFee parents interior
      weights).selector ++ rest) = none := by
  have hdispute : ¬([96, 114, 55, 127] : Bytes) = [29, 93, 54, 159] := by decide
  have hvote : ¬([96, 114, 55, 127] : Bytes) = [61, 181, 167, 166] := by decide
  exact (if_neg hdispute).trans (if_neg hvote)

end Read

/-! ## The encoder of the mock runtime -/

namespace Mock

theorem foldl_eq_layout {join : Bytes × Bytes → HeadTail.Part → Bytes × Bytes} (length : ℕ)
    (hjoin : ∀ head tail part, join (head, tail) part =
      if part.1 then (head ++ beBytes 32 (length + tail.length), tail ++ part.2) else (head ++ part.2, tail))
    (parts : List HeadTail.Part) (head tail : Bytes) :
    parts.foldl join (head, tail) =
      (head ++ HeadTail.heads (length + tail.length) parts, tail ++ HeadTail.tails parts) := by
  induction parts generalizing head tail with
  | nil => simp [HeadTail.heads, HeadTail.tails]
  | cons part rest ih =>
    obtain ⟨dynamic, bytes⟩ := part
    rw [List.foldl_cons, hjoin]
    cases dynamic
    · simp [HeadTail.heads, HeadTail.tails, ih]
    · refine (ih (head ++ beBytes 32 (length + tail.length)) (tail ++ bytes)).trans ?_
      simp [HeadTail.heads, HeadTail.tails, beBytes_eq_word, Nat.add_assoc]

theorem joinEncoded_eq_layout (parts : List HeadTail.Part) : joinEncoded parts = HeadTail.layout parts := by
  rw [joinEncoded, HeadTail.layout, foldl_eq_layout _ (fun _ _ _ ↦ rfl), List.length_nil, Nat.add_zero]
  rfl

theorem length_encodeTokens (tokens : List Token) :
    (encodeTokens tokens).length = (tokenItems tokens).length := by
  induction tokens with
  | nil => rfl
  | cons token rest ih => rw [encodeTokens, tokenItems, List.length_cons, List.length_cons, ih]

mutual

theorem encodeToken_eq : (token : Token) → encodeToken token = token.item.part
  | .uint value => by rw [encodeToken, Token.item, HeadTail.Item.part, beBytes_eq_word]
  | .fixedBytes bytes => rfl
  | .bytes bytes => by
    rw [encodeToken, Token.item, HeadTail.Item.part, beBytes_eq_word]
    rfl
  | .address address => by rw [encodeToken, Token.item, HeadTail.Item.part, beBytes_eq_word]
  | .tuple fields => by
    rw [encodeToken, Token.item, HeadTail.Item.part, ← encodeTokens_eq fields, joinEncoded_eq_layout]
  | .array items => by
    have hlength : (encodeTokens items).length = (tokenItems items).length := length_encodeTokens items
    rw [encodeToken, Token.item, HeadTail.Item.part, ← encodeTokens_eq items, ← joinEncoded_eq_layout,
      ← beBytes_eq_word, ← hlength]

theorem encodeTokens_eq : (tokens : List Token) → encodeTokens tokens = HeadTail.partsOf (tokenItems tokens)
  | [] => rfl
  | token :: rest => by
    rw [encodeTokens, tokenItems, HeadTail.partsOf, encodeToken_eq token, encodeTokens_eq rest]

end

/-- The encoder of the mock runtime follows the layout. -/
theorem encodesAbi : config.EncodesAbi := fun tokens ↦ by
  change joinEncoded (encodeTokens tokens) = HeadTail.layout (HeadTail.partsOf (tokenItems tokens))
  rw [encodeTokens_eq, joinEncoded_eq_layout]

end Mock

end TellorPallet
