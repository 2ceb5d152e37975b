import CloudPlay.ControlPlaneServer
import CloudPlay.LeaseReadyOwnership
import CloudPlay.ReleaseIdempotency
import CloudPlay.StaleDisconnect
import CloudPlay.TenantIsolation
import CloudPlay.EndedTerminal
import CloudPlay.StreamAuthorization
import CloudPlay.RentalPricing
import CloudPlay.LeaseSeparation
import CloudPlay.TokenRevocation
import CloudPlay.StickyBlocks
import CloudPlay.AdvertisedCapacity
import CloudPlay.HeartbeatChecker
import CloudPlay.NodeRecycling
import CloudPlay.LeaseLockOrder
import CloudPlay.SequentialExecution
import CloudPlay.ExactlyOnceBilling
import CloudPlay.BillingTimestamps
import CloudPlay.RentIdempotency
import CloudPlay.NodeStatusRaces
import CloudPlay.NodeDeletion
import CloudPlay.WireAgreement
import CloudPlay.SignalingKeys
import CloudPlay.CandidateOrder
import CloudPlay.LeaseConvergence
import CloudPlay.SharedCapture
import CloudPlay.FailedStarts
import CloudPlay.SplitRentals
import CloudPlay.ExactAllocation
import CloudPlay.GamepadAnalogs
import CloudPlay.SupersededSockets
import CloudPlay.PendingReconnects
import CloudPlay.ControlLayouts
import CloudPlay.CursorLock
import CloudPlay.StuckButtons
import CloudPlay.HatPad
import CloudPlay.VirtualGamepads
import CloudPlay.JoystickKeys
import CloudPlay.RemoteMouse
import CloudPlay.TouchIdentities
import CloudPlay.TvRemote
import CloudPlay.PreferredCodec
import CloudPlay.LayoutLoads
import CloudPlay.MockBilling
import CloudPlay.AmountColumns
import CloudPlay.InputCodec
import CloudPlay.SharedAudio
import CloudPlay.DisplayAttempts
import CloudPlay.SmoothMouse
import CloudPlay.TimedRun
import CloudPlay.LostPings
import CloudPlay.RunTally
import CloudPlay.ClipboardSync
import CloudPlay.GamepadTexts
import CloudPlay.GamepadReports
import CloudPlay.RenderedDevice
import CloudPlay.PinchZoom
import CloudPlay.ScrollFlings
import CloudPlay.MouseButtons
import CloudPlay.MouseFollowed
import CloudPlay.OnScreenControls
import CloudPlay.ShownSticks
import CloudPlay.SharedKeys
import CloudPlay.FireDrags
import CloudPlay.LeaseOrders
import CloudPlay.RequestSettings
import CloudPlay.ServedHolders
import CloudPlay.PublishedView
import CloudPlay.PoolView
import CloudPlay.DeviceLists
