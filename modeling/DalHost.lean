import DalHost.Bhp.Answers
import DalHost.Bhp.Connection
import DalHost.Bhp.Disconnect
import DalHost.Bhp.Handover
import DalHost.Bhp.Numbers
import DalHost.Bhp.Receiver
import DalHost.Bhp.Registry
import DalHost.Bhp.Runs
import DalHost.Bhp.Sessions
import DalHost.Bhp.Steps
import DalHost.Bhp.Wire
import DalHost.Client.AppletProperty
import DalHost.Client.Bounds
import DalHost.Client.Decode
import DalHost.Client.Encode
import DalHost.Client.EventRegistration
import DalHost.Client.Exchange
import DalHost.Client.HandleHistory
import DalHost.Client.HandleLedger
import DalHost.Client.HandleStates
import DalHost.Client.Handles
import DalHost.Client.InstalledLists
import DalHost.Client.RequestRoundTrip
import DalHost.Client.ResponseRoundTrip
import DalHost.Client.SessionDump
import DalHost.Client.TableRoundTrip
import DalHost.Common.Codes
import DalHost.Common.Layout
import DalHost.Common.Message
import DalHost.Common.Uuid
import DalHost.Dispatch.AppletIds
import DalHost.Dispatch.Decode
import DalHost.Dispatch.Framing
import DalHost.Dispatch.Leak
import DalHost.Dispatch.Process
import DalHost.Dispatch.Reply
import DalHost.Dispatch.Safety
import DalHost.Dispatch.SpoolerGuard
import DalHost.Events.Delivery
import DalHost.Events.FollowsState
import DalHost.Events.Recovery
import DalHost.Events.Restart
import DalHost.Events.Spooler
import DalHost.Lib.Buffer
import DalHost.Lib.Calls
import DalHost.Lib.Cells
import DalHost.Lib.ChunkedSend
import DalHost.Lib.Headcount
import DalHost.Lib.LockedThreads
import DalHost.Lib.OrdMap
import DalHost.Lib.Pipe
import DalHost.Lib.Prog
import DalHost.Lib.Records
import DalHost.Lib.RecursiveLock
import DalHost.Lib.Runs
import DalHost.Lib.Scan
import DalHost.Lib.Sections
import DalHost.Lib.StableSort
import DalHost.Lib.Streams
import DalHost.MailBox.Draining
import DalHost.MailBox.Messages
import DalHost.Package.Dalp
import DalHost.Package.Filters
import DalHost.Package.Limits
import DalHost.Package.Orders
import DalHost.Package.Outcomes
import DalHost.Package.Positions
import DalHost.Package.Reader
import DalHost.Package.Selection
import DalHost.Plugin.AcpAgreement
import DalHost.Plugin.AcpCommands
import DalHost.Plugin.AcpFormat
import DalHost.Plugin.AcpLoads
import DalHost.Plugin.AcpReader
import DalHost.Plugin.AdminPack
import DalHost.Plugin.AppletProperty
import DalHost.Plugin.Beihai
import DalHost.Plugin.Package
import DalHost.Plugin.SdSessions
import DalHost.Plugin.SecurityDomains
import DalHost.Plugin.TaImage
import DalHost.Plugin.UninstallPack
import DalHost.Repository.Durability
import DalHost.Repository.FailedInstall
import DalHost.Repository.Invariant
import DalHost.Repository.StartUp
import DalHost.Repository.Store
import DalHost.Repository.Uninstall
import DalHost.Service.AppletStates
import DalHost.Service.AppletsManager
import DalHost.Service.Calls
import DalHost.Service.CloseSession
import DalHost.Service.CreateSession
import DalHost.Service.Downloads
import DalHost.Service.Evolution
import DalHost.Service.Install
import DalHost.Service.LifeCycle
import DalHost.Service.LifeGuards
import DalHost.Service.ReadWriteLock
import DalHost.Service.Refinement
import DalHost.Service.SessionsManager
import DalHost.Service.State
import DalHost.Sessions.CleanUp
import DalHost.Sessions.Eviction
import DalHost.Sessions.LockLifetime
import DalHost.Sessions.MakingRoom
import DalHost.Sessions.OwnerBalance
import DalHost.Sessions.SessionLocks
import DalHost.Sessions.SharedSupport
import DalHost.Sessions.TableInvariant
import DalHost.Sessions.UnloadGuard
import DalHost.Sessions.VmSessions
import DalHost.Transport.ClientSlots
import DalHost.Transport.Sends
import DalHost.Transport.SocketFraming
import DalHost.Transport.Sockets
import DalHost.Transport.TeeLib
import DalHost.Transport.TeeMutex
import DalHost.Transport.TeeRegistry
import DalHost.Transport.TeeStream
