import TellorPallet.Oracle.Finality
import TellorPallet.Staking.Totals
import TellorPallet.Runtime.Mock
import TellorPallet.Staking.Withdrawals
import TellorPallet.Staking.Solvency
import TellorPallet.Governance.Runs
import TellorPallet.Governance.Rounds
import TellorPallet.Governance.Queue
import TellorPallet.Governance.Escrow
import TellorPallet.Governance.Counters
import TellorPallet.AutoPay.Exactness
import TellorPallet.AutoPay.TipLedger
import TellorPallet.AutoPay.FeedIndex
import TellorPallet.AutoPay.Windows
import TellorPallet.AutoPay.PriceChanges
import TellorPallet.AutoPay.Listing
import TellorPallet.AutoPay.Details
import TellorPallet.Staking.Debts
import TellorPallet.Oracle.Backing
import TellorPallet.Staking.Funding
import TellorPallet.Governance.Delivery
import TellorPallet.Governance.Tallies
import TellorPallet.Staking.Acceptance
import TellorPallet.Oracle.Lookups
import TellorPallet.Oracle.Removal
import TellorPallet.Staking.Slashing
import TellorPallet.AutoPay.Batches
import TellorPallet.Oracle.Prices
import TellorPallet.Oracle.Iterations
import TellorPallet.Pallet.Junctions
import TellorPallet.Staking.Deposits
import TellorPallet.Foundation.HeadTail
import TellorPallet.Foundation.Service
import TellorPallet.Foundation.Potential
import TellorPallet.Foundation.Journal
import TellorPallet.Xcm.EthereumXcm
import TellorPallet.Xcm.Programs
import TellorPallet.Xcm.GovernanceCalls
import TellorPallet.Xcm.Messages
import TellorPallet.Xcm.Authority
import TellorPallet.Xcm.Inbox
import TellorPallet.Runtime.Transfers
import TellorPallet.AutoPay.UserTips
import TellorPallet.Runtime.Isolation
import TellorPallet.Governance.Conclusion
import TellorPallet.Staking.Collateral
import TellorPallet.Oracle.Log
import TellorPallet.Oracle.Nonces
import TellorPallet.Governance.Records
import TellorPallet.Oracle.Consumer
import TellorPallet.Staking.ReportCounts
import TellorPallet.Staking.Earnings
import TellorPallet.Governance.Waiting
