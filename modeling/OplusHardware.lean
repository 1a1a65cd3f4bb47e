import OplusHardware.QtiVibrator.Level
import OplusHardware.QtiVibrator.PlayLength
import OplusHardware.QtiVibrator.LedFailures
import OplusHardware.Touch.SharedMask
import OplusHardware.Touch.Backends
import OplusHardware.Touch.Requests
import OplusHardware.Udfps.Runs
import OplusHardware.Udfps.Shutdown
import OplusHardware.Udfps.Presses
import OplusHardware.Udfps.Leftover
import OplusHardware.Udfps.Wakeups
import OplusHardware.AlertSlider.Moves
import OplusHardware.AlertSlider.ZenWait
import OplusHardware.AlertSlider.FinalPosition
import OplusHardware.AlertSlider.MediaMute
import OplusHardware.AlertSlider.Dialog
import OplusHardware.Esim.Runs
import OplusHardware.AudioAmplifier.Runs
import OplusHardware.NrModeSwitcher.Runs
import OplusHardware.LiveDisplay.ModeIds
import OplusHardware.LiveDisplay.DefaultFile
import OplusHardware.LiveDisplay.AppliedMode
import OplusHardware.LiveDisplay.AntiFlicker
import OplusHardware.Fingerprint.Locations
import OplusHardware.Fingerprint.BiometricsFingerprint
import OplusHardware.Pen.PenService
import OplusHardware.Ir.ConsumerIr
import OplusHardware.Doze.Sensors
import OplusHardware.Doze.Settings
import OplusHardware.QtiVibrator.Orphans
import OplusHardware.Udfps.Traces
import OplusHardware.Udfps.Sampling
import OplusHardware.Udfps.SubHal
import OplusHardware.AlertSlider.Pipeline
import OplusHardware.AudioAmplifier.Lifetime
import OplusHardware.NrModeSwitcher.Exit
import OplusHardware.LiveDisplay.SharedPanel
import OplusHardware.Pen.Bonding
import OplusHardware.Doze.Debounce
import OplusHardware.FolioDaemon.Runs
import OplusHardware.Ifaa.FpPayProxy
import OplusHardware.Ifaa.ExtInfo
import OplusHardware.QtiVibrator.Completions
import OplusHardware.Richtap.Vibrator
import OplusHardware.Esim.Settings
