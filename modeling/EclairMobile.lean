import EclairMobile.Lib.Reach
import EclairMobile.DBHelper
import EclairMobile.Actors.NodeSupervisor
import EclairMobile.Activities.SendPaymentActivity
import EclairMobile.Payments.Status
import EclairMobile.Actors.ElectrumSupervisor
import EclairMobile.Payments.OnchainLedger
import EclairMobile.Payments.PaidRuns
import EclairMobile.Lib.Counting
import EclairMobile.Payments.SendMachine
import EclairMobile.Payments.SendView
import EclairMobile.Payments.SendSafety
import EclairMobile.Activities.RestoreChannelsBackupActivity
import EclairMobile.Lib.Bytes
import EclairMobile.Services.CheckElectrumWorker
import EclairMobile.Utils.AesCbcWithIntegrity
import EclairMobile.Utils.EncryptedData
import EclairMobile.Lib.Fallible
import EclairMobile.Utils.WalletUtils
import EclairMobile.Utils.FileFormats
import EclairMobile.Lib.Format
import EclairMobile.Utils.Headers
import EclairMobile.Utils.LocalBackupHelper
import EclairMobile.Services.ChannelsBackupWorker
import EclairMobile.Activities.EclairActivity
import EclairMobile.Lib.Joins
import EclairMobile.Payments.FinalStatus
import EclairMobile.Channels.Balances
import EclairMobile.Channels.Attached
import EclairMobile.Channels.NodeRestarts
import EclairMobile.Channels.Terminated
import EclairMobile.Channels.LearntOnce
import EclairMobile.Lib.Words
import EclairMobile.Utils.Mnemonics
import EclairMobile.Fragments.DisplaySeedDialog
import EclairMobile.Activities.PaymentScreen
import EclairMobile.Payments.ConfirmedOnce
import EclairMobile.Lib.HashMap
import EclairMobile.Activities.RestoreScreen
import EclairMobile.Backups.ConcludesWhenDone
import EclairMobile.Backups.Verdicts
import EclairMobile.Backups.JudgedAlike
import EclairMobile.Backups.FindBest
import EclairMobile.Lib.Comparator
import EclairMobile.Backups.SortContract
import EclairMobile.Models.ErrorParcel
import EclairMobile.Lib.Except
import EclairMobile.Lib.Greedy
import EclairMobile.Channels.RoutingHints
import EclairMobile.Payments.Notified
import EclairMobile.Fragments.CustomElectrumServerDialog
import EclairMobile.App.ElectrumState
import EclairMobile.Utils.KeystoreHelper
import EclairMobile.Activities.SecuritySettingsActivity
import EclairMobile.DBMigrationHelper
import EclairMobile.Actors.RefreshScheduler
import EclairMobile.Fragments.WalletImportSeedFragment
import EclairMobile.Fragments.ReceivePaymentFragment
import EclairMobile.Fragments.ReceiveStages
import EclairMobile.Fragments.ReceiveRuns
import EclairMobile.Fragments.PaidRequests
import EclairMobile.Backups.LeavesScanning
import EclairMobile.Payments.ReleasesForm
import EclairMobile.Models.BitcoinURI
import EclairMobile.Lib.Sql
import EclairMobile.Models.Daos
import EclairMobile.Lib.Casing
import EclairMobile.Activities.SeedWrites
import EclairMobile.Activities.CreateSeedActivity
import EclairMobile.Activities.CreateSeedRuns
import EclairMobile.Activities.StartupActivity
import EclairMobile.Activities.StartupRuns
import EclairMobile.Activities.SeedKept
import EclairMobile.Activities.OwnWallet
import EclairMobile.Activities.RestoreFirst
import EclairMobile.Activities.RestoreSeedScreen
import EclairMobile.Activities.RestoreSeedRuns
import EclairMobile.Activities.OpenChannelActivity
import EclairMobile.Activities.OpenChannelRuns
import EclairMobile.Lib.LatestWrite
import EclairMobile.Lib.Republished
import EclairMobile.Services.GoogleDrive
import EclairMobile.Services.DriveRuns
import EclairMobile.Services.BackupWork
