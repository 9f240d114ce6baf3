import TellorPallet.Runtime.Effects

/-!
# The mock runtime

The constants of the pallet's mock runtime, with one address each for its random contract addresses and
the surroundings written out: the ABI encoding of tokens, an asset with an existential deposit, and a
sender that never returns an error. The hash is given on the inputs that the runs below hash.
-/

namespace TellorPallet.Mock

open Transition

/-! ## ABI encoding -/

/-- The encoding of a sequence from the encodings of its items, each with whether it is dynamic: a
dynamic item is found at its offset after the heads of all items. -/
def joinEncoded (items : List (Bool × Bytes)) : Bytes :=
  let headLength := (items.map fun item ↦ if item.1 then 32 else item.2.length).sum
  let heads := items.foldl (fun (head, tail) item ↦
    if item.1 then (head ++ beBytes 32 (headLength + tail.length), tail ++ item.2)
    else (head ++ item.2, tail)) (([], []) : Bytes × Bytes)
  heads.1 ++ heads.2

/-- Fill up to a multiple of 32 bytes. -/
def padded (bytes : Bytes) : Bytes :=
  bytes ++ List.replicate ((32 - bytes.length % 32) % 32) 0

mutual

/-- The encoding of a token, with whether it is dynamic. -/
def encodeToken : Token → Bool × Bytes
  | .uint value => (false, beBytes 32 value)
  | .fixedBytes bytes => (false, padded bytes)
  | .bytes bytes => (true, beBytes 32 bytes.length ++ padded bytes)
  | .address address => (false, beBytes 32 address.val)
  | .tuple fields =>
    let items := encodeTokens fields
    (items.any Prod.fst, joinEncoded items)
  | .array tokens =>
    let items := encodeTokens tokens
    (true, beBytes 32 items.length ++ joinEncoded items)

def encodeTokens : List Token → List (Bool × Bytes)
  | [] => []
  | token :: rest => encodeToken token :: encodeTokens rest

end

/-- `ethabi::encode`. -/
def abiEncode (tokens : List Token) : Bytes := joinEncoded (encodeTokens tokens)

/-! ## Hashes -/

/-- The hash of the empty query data, and the identifier of its query. -/
def queryId : QueryId :=
  89477152217924674838424037953991966239322087453347756267410168184682657981552

/-- The start of the runs below, in seconds since the UNIX epoch. -/
def start : ℕ := 1700000000

/-- The identifiers of the disputes of reports made 10, 20 and 30 seconds after the start. -/
def disputeHashes : List (ℕ × H256) :=
  [(10, 86912676562842559625753480314757402638156321068838633133141968307105996060112),
    (20, 76332309309508858980999100745723082925873120863368598502485967778290378194976),
    (30, 36360874885343979040760558443751182714595533305481507131497077417282945476303)]

/-- The identifier of a feed for the query: 100 for the first report within 600 seconds of each hour
from the start. -/
def feedId : FeedId :=
  1456225157222937510519479251535568009039116199706109264565477875523268990623

/-- `Keccak256::hash`, on the empty query data and on the encodings of that feed and of those
disputes. -/
def keccak256 (bytes : Bytes) : H256 :=
  if bytes = [] then queryId
  else if bytes = abiEncode [.fixedBytes (hashBytes queryId), .uint 100, .uint start, .uint 3600,
      .uint 600, .uint 0, .uint 0] then feedId
  else
    (disputeHashes.find? fun entry ↦ abiEncode
      [.uint 3000, .fixedBytes (hashBytes queryId), .uint (start + entry.1)] = bytes).elim 0 Prod.snd

/-! ## The runtime -/

/-- An existential deposit of one: a transfer leaves nobody with less, and a protected source not
with nothing. -/
def permits (ledger : Ledger ℕ) (source dest amount : ℕ) (preservation : Preservation) : Bool :=
  amount = 0 ∨ (1 ≤ ledger dest + amount ∧
    (preservation = .protect → 1 ≤ ledger source - amount))

def config : Config ℕ where
  balanceMax := u128Max
  decimals := 12
  fee := 10
  feeLocation := some (1, [.parachain 3000])
  governance := ⟨2000, 2⟩
  initialDisputeFee := 50 * 10 ^ 12
  maxClaimTimestamps := 100
  maxDisputedTimeSeries := 100
  minimumBalance := 1
  minimumStakeAmount := 100 * 10 ^ 18
  palletIndex := 3
  parachainId := 3000
  registry := ⟨2000, 1⟩
  stakeAmountCurrencyTarget := 500 * 10 ^ 18
  stakingTokenPriceQueryId :=
    95781555589333711869130284578760241589809519952520154541696451808397554610568
  stakingToLocalTokenPriceQueryId :=
    114357777088166718856241628230465676292466283609972297647539725367257771031838
  updateStakeAmountInterval := 12 * hours
  weights := ⟨960000000, 1083000000, 295000000, 225000000, 4267883023, 1226000000⟩
  weightToFee := 10000
  keccak256 := keccak256
  abiEncode := abiEncode
  weighs := fun _ ↦ true
  permits := permits
  account := 35412366995225062907907960685
  tips := 153444895642308828153615965741503508333
  stakingRewards := 142733410250428956410067877640542646125
  disputeFees := 149472787277879084789560734552946929517
  u128_le_balanceMax := le_rfl
  balanceMax_le := by decide
  tips_ne_stakingRewards := by decide
  tips_ne_disputeFees := by decide
  stakingRewards_ne_disputeFees := by decide
  account_ne_tips := by decide
  account_ne_stakingRewards := by decide
  account_ne_disputeFees := by decide

/-- The mock's sender never returns an error. -/
def send : Sender := fun _ ↦ .ok ()

/-- The state before the first block, with every account in funds. -/
def genesis : State ℕ :=
  State.genesis config (fun account ↦ if account ∈ palletAccounts config then 1 else 10 ^ 20) 1 start

/-- The state is one before the first block of every runtime with its first amounts. -/
theorem isGenesis_of_eq {cfg : Config ℕ} (hmax : cfg.balanceMax = u128Max)
    (hstake : cfg.minimumStakeAmount = config.minimumStakeAmount)
    (hfee : cfg.initialDisputeFee = config.initialDisputeFee) : IsGenesis cfg genesis := by
  have hgenesis : genesis = State.genesis cfg genesis.ledger 1 start := by
    rw [State.genesis, hstake, hfee]
    rfl
  refine ⟨_, _, _, fun account ↦ ?_, hgenesis⟩
  rw [hmax]
  change (if account ∈ palletAccounts config then 1 else 10 ^ 20) ≤ u128Max
  split
  · decide
  · decide

theorem isGenesis_genesis : IsGenesis config genesis := isGenesis_of_eq rfl rfl rfl

/-- The states that the runs of the mock runtime reach. -/
theorem reachableBy_run {admits : State ℕ → Input ℕ → Prop} (inputs : List (Input ℕ))
    (h : AdmitsAll (step config) admits inputs genesis) :
    ReachableBy config admits (run (step config) inputs genesis) :=
  ⟨genesis, isGenesis_genesis, reaches_run inputs genesis h⟩

/-- The runs of the mock runtime with what is recorded beside them. -/
theorem reachedWith_run {γ : Type} {record : State ℕ → Input ℕ → γ → γ} {start : γ}
    {admits : State ℕ → Input ℕ → Prop} (inputs : List (Input ℕ))
    (h : AdmitsAll (recording (step config) record) (fun c input ↦ admits c.1 input) inputs
      (genesis, start)) :
    ReachedWith config record start admits
      (run (recording (step config) record) inputs (genesis, start)).1
      (run (recording (step config) record) inputs (genesis, start)).2 :=
  ⟨genesis, isGenesis_genesis, reaches_run inputs _ h⟩

/-! ## Inputs -/

/-- The next block, a number of seconds after the start. -/
def block (seconds : ℕ) : Input ℕ := .newBlock 2 (start + seconds)

/-- A staker deposits the minimum stake. -/
def deposit (staker : ℕ) : Input ℕ :=
  .extrinsic send .staking (.reportStakeDeposited staker (100 * 10 ^ 18) 9)

/-- A staker submits a value for the query. -/
def submit (reporter : ℕ) : Input ℕ :=
  .extrinsic send (.signed reporter) (.submitValue queryId [1] 0 [])

/-- A staker disputes the report made a number of seconds after the start. -/
def dispute (initiator seconds : ℕ) : Input ℕ :=
  .extrinsic send (.signed initiator) (.beginDispute queryId (start + seconds) none)

def tip (tipper amount : ℕ) : Input ℕ := .extrinsic send (.signed tipper) (.tip queryId amount [])

/-- The feed is set up with an amount in it. -/
def setUpFeed (creator amount : ℕ) : Input ℕ :=
  .extrinsic send (.signed creator) (.setupDataFeed queryId 100 start 3600 600 0 0 [] amount)

/-- A staker claims the one-time tip for the report made a number of seconds after the start. -/
def claimOnetimeTip (reporter seconds : ℕ) : Input ℕ :=
  .extrinsic send (.signed reporter) (.claimOnetimeTip queryId [start + seconds])

/-- A staker claims the reward of the feed for that report. -/
def claimTip (reporter seconds : ℕ) : Input ℕ :=
  .extrinsic send (.signed reporter) (.claimTip feedId queryId [start + seconds])

/-- Three stakers report 10, 20 and 30 seconds after the start, and the second report is disputed. -/
def reports : List (Input ℕ) :=
  [deposit 7, deposit 8, deposit 9, block 10, submit 7, block 20, submit 8, block 30, submit 9,
    dispute 9 20]

/-- The identifier of the dispute of the second report. -/
def disputeId : DisputeId :=
  76332309309508858980999100745723082925873120863368598502485967778290378194976

def tally (result : VoteResult) : Input ℕ :=
  .extrinsic send .governance (.reportVoteTallied disputeId result)

def execute : Input ℕ := .extrinsic send .governance (.reportVoteExecuted disputeId)

/-- Two rounds of the dispute, each tallied after its voting period. -/
def rounds : List (Input ℕ) :=
  reports ++ [block (days + 30), tally .failed, block (days + 60), dispute 9 20,
    block (3 * days + 60), tally .passed]

/-- Two rounds of the dispute, each sent, tallied and the last one executed. -/
def sentRounds (sender : Sender) : List (Input ℕ) :=
  reports ++ [block (12 * hours), .onInitialize sender, block (days + 30), .onInitialize sender,
    tally .failed, block (days + 60), dispute 9 20, block (2 * days), .onInitialize sender,
    block (3 * days + 60), .onInitialize sender, tally .passed, block (4 * days + 60), execute]

/-- Two reports with a tip before each, both tips claimed and the first report rewarded from a feed. -/
def payments : List (Input ℕ) :=
  [deposit 7, deposit 8, block 5, setUpFeed 5 1000, tip 5 100, block 10, submit 7, block 15, tip 6 200,
    block 20, submit 8, block (12 * hours + 30), claimOnetimeTip 7 10, claimTip 7 10,
    claimOnetimeTip 8 20]

/-- Two reports with a tip before each, neither claimed. -/
def reported : List (Input ℕ) :=
  [deposit 7, deposit 8, deposit 9, block 5, tip 5 100, block 10, submit 7, block 15, tip 6 200,
    block 20, submit 8]

/-- Three reports, the second of them disputed, with a tip after the first and one after the second;
`before` comes before the first report. -/
def tipsBetween (before : List (Input ℕ)) : List (Input ℕ) :=
  [deposit 7, deposit 8, deposit 9] ++ before ++ [block 5, submit 7, block 6, tip 5 100, block 10,
    submit 8, block 11, tip 6 200, dispute 9 10, block 20, submit 9, block (12 * hours + 30)]

end TellorPallet.Mock
