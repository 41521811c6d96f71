import AsmWt.AccountPage
import AsmWt.AttendanceHistory
import AsmWt.BiometricLock
import AsmWt.BusyFlag
import AsmWt.CivilDate
import AsmWt.ClockInEvidence
import AsmWt.ClockOnce
import AsmWt.ClockProcess
import AsmWt.ClockingScreens
import AsmWt.ConfirmationSheet
import AsmWt.CounterMonth
import AsmWt.CounterOrder
import AsmWt.DateText
import AsmWt.DeletedTask
import AsmWt.DeviceGate
import AsmWt.DocStore
import AsmWt.Employees
import AsmWt.FailedPress
import AsmWt.FenceGeometry
import AsmWt.FenceLayers
import AsmWt.FenceList
import AsmWt.Firestore
import AsmWt.ForcedSignOut
import AsmWt.Grouping
import AsmWt.InsideArea
import AsmWt.Interleaving
import AsmWt.JsonDecode
import AsmWt.JsonEncode
import AsmWt.JsonText
import AsmWt.KeyedRecord
import AsmWt.ListIterator
import AsmWt.LoadingOverlay
import AsmWt.LocationEvidence
import AsmWt.LostUpdate
import AsmWt.ManualAttendance
import AsmWt.ManualSessions
import AsmWt.ManualTruth
import AsmWt.NestedRecord
import AsmWt.NewFeeds
import AsmWt.NotificationList
import AsmWt.OfflineGuard
import AsmWt.OrderedSearch
import AsmWt.OtpBinding
import AsmWt.OtpCountdown
import AsmWt.OtpService
import AsmWt.OtpThrottle
import AsmWt.OverlayBalance
import AsmWt.OwnOrganization
import AsmWt.Pagination
import AsmWt.Paging
import AsmWt.PendingCalls
import AsmWt.PhoneUniqueness
import AsmWt.PhoneVerification
import AsmWt.PhotoWatermark
import AsmWt.ProfilePhoto
import AsmWt.ProfileStamp
import AsmWt.PushToken
import AsmWt.RegisterStep1
import AsmWt.ReportCounters
import AsmWt.RequestedTask
import AsmWt.RouterGuard
import AsmWt.ScreenClock
import AsmWt.SessionStart
import AsmWt.SignInLookup
import AsmWt.StatusReport
import AsmWt.SwipedTask
import AsmWt.TaskCalendar
import AsmWt.TaskDetail
import AsmWt.TaskLifecycle
import AsmWt.TaskRequest
import AsmWt.TasksModel
import AsmWt.TodayTask
import AsmWt.Tracking
import AsmWt.UnseenNotifications
import AsmWt.UserProfile
import AsmWt.WallClock
