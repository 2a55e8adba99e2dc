import Jincubator.AlarmExclusion
import Jincubator.ByteSwaps
import Jincubator.Calibration
import Jincubator.ChannelRenaming
import Jincubator.Co2
import Jincubator.Co2Frame
import Jincubator.ControlLoops
import Jincubator.Countdowns
import Jincubator.DamperRange
import Jincubator.DamperStop
import Jincubator.DayLimit
import Jincubator.DeadReckoning
import Jincubator.DeadZone
import Jincubator.FanDelay
import Jincubator.FanStop
import Jincubator.FirstStart
import Jincubator.Humidifier
import Jincubator.IniCalibration
import Jincubator.Interlock
import Jincubator.Jitter
import Jincubator.OnTime
import Jincubator.OverTemperature
import Jincubator.PartialBackup
import Jincubator.PidAverage
import Jincubator.PidOverflow
import Jincubator.PidProportional
import Jincubator.PidWindup
import Jincubator.Pt100Readings
import Jincubator.RegisterViews
import Jincubator.RestPhases
import Jincubator.Restart
import Jincubator.RunModes
import Jincubator.SensorGuard
import Jincubator.SensorReport
import Jincubator.SerialRead
import Jincubator.SetPointSides
import Jincubator.SetPointTables
import Jincubator.SharedValve
import Jincubator.StopMode
import Jincubator.SyncMotor
import Jincubator.SystemRuns
import Jincubator.TempDivision
import Jincubator.TestIndependence
