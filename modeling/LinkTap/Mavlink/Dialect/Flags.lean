import LinkTap.Mavlink.Schema

/-!
# Flag sets of the standard dialect

The flag sets that message fields refer to, each with the bit values it defines. A field of
flags keeps the defined bits of its number and drops the others.
-/

set_option autoImplicit false

namespace LinkTap.Mavlink.Dialect

def mavModeFlag : FlagSpec where
  name := "MAV_MODE_FLAG"
  bits := [1, 2, 4, 8, 16, 32, 64, 128]

def mavSysStatusSensor : FlagSpec where
  name := "MAV_SYS_STATUS_SENSOR"
  bits := [
    1, 2, 4, 8, 16, 32, 64, 128, 256, 512, 1024, 2048, 4096, 8192, 16384, 32768, 65536, 131072,
    262144, 524288, 1048576, 2097152, 4194304, 8388608, 16777216, 33554432, 67108864, 134217728,
    268435456, 536870912, 1073741824, 2147483648]

def attitudeTargetTypemask : FlagSpec where
  name := "ATTITUDE_TARGET_TYPEMASK"
  bits := [1, 2, 4, 32, 64, 128]

def positionTargetTypemask : FlagSpec where
  name := "POSITION_TARGET_TYPEMASK"
  bits := [1, 2, 4, 8, 16, 32, 64, 128, 256, 512, 1024, 2048]

def highresImuUpdatedFlags : FlagSpec where
  name := "HIGHRES_IMU_UPDATED_FLAGS"
  bits := [1, 2, 4, 8, 16, 32, 64, 128, 256, 512, 1024, 2048, 4096, 8192, 16384, 32768]

def hilSensorUpdatedFlags : FlagSpec where
  name := "HIL_SENSOR_UPDATED_FLAGS"
  bits := [1, 2, 4, 8, 16, 32, 64, 128, 256, 512, 1024, 2048, 4096, 2147483648]

def mavPowerStatus : FlagSpec where
  name := "MAV_POWER_STATUS"
  bits := [1, 2, 4, 8, 16, 32]

def serialControlFlag : FlagSpec where
  name := "SERIAL_CONTROL_FLAG"
  bits := [1, 2, 4, 8, 16]

def mavProtocolCapability : FlagSpec where
  name := "MAV_PROTOCOL_CAPABILITY"
  bits := [
    1, 2, 4, 8, 16, 32, 64, 128, 256, 512, 1024, 2048, 4096, 8192, 16384, 32768, 65536, 131072]

def estimatorStatusFlags : FlagSpec where
  name := "ESTIMATOR_STATUS_FLAGS"
  bits := [1, 2, 4, 8, 16, 32, 64, 128, 256, 512, 1024, 2048]

def gpsInputIgnoreFlags : FlagSpec where
  name := "GPS_INPUT_IGNORE_FLAGS"
  bits := [1, 2, 4, 8, 16, 32, 64, 128]

def hlFailureFlag : FlagSpec where
  name := "HL_FAILURE_FLAG"
  bits := [1, 2, 4, 8, 16, 32, 64, 128, 256, 512, 1024, 2048, 4096, 8192]

def adsbFlags : FlagSpec where
  name := "ADSB_FLAGS"
  bits := [1, 2, 4, 8, 16, 32, 64, 128, 256, 32768]

def cameraCapFlags : FlagSpec where
  name := "CAMERA_CAP_FLAGS"
  bits := [1, 2, 4, 8, 16, 32, 64, 128, 256, 512, 1024, 2048]

def videoStreamStatusFlags : FlagSpec where
  name := "VIDEO_STREAM_STATUS_FLAGS"
  bits := [1, 2]

def cameraTrackingTargetData : FlagSpec where
  name := "CAMERA_TRACKING_TARGET_DATA"
  bits := [1, 2, 4]

def gimbalManagerCapFlags : FlagSpec where
  name := "GIMBAL_MANAGER_CAP_FLAGS"
  bits := [1, 2, 4, 8, 16, 32, 64, 128, 256, 512, 1024, 2048, 4096, 8192, 65536, 131072]

def gimbalManagerFlags : FlagSpec where
  name := "GIMBAL_MANAGER_FLAGS"
  bits := [1, 2, 4, 8, 16, 32, 64, 128, 256, 512]

def gimbalDeviceCapFlags : FlagSpec where
  name := "GIMBAL_DEVICE_CAP_FLAGS"
  bits := [1, 2, 4, 8, 16, 32, 64, 128, 256, 512, 1024, 2048, 4096, 8192]

def gimbalDeviceFlags : FlagSpec where
  name := "GIMBAL_DEVICE_FLAGS"
  bits := [1, 2, 4, 8, 16, 32, 64, 128, 256, 512]

def gimbalDeviceErrorFlags : FlagSpec where
  name := "GIMBAL_DEVICE_ERROR_FLAGS"
  bits := [1, 2, 4, 8, 16, 32, 64, 128, 256, 512]

def escFailureFlags : FlagSpec where
  name := "ESC_FAILURE_FLAGS"
  bits := [1, 2, 4, 8, 16, 32, 64]

def aisFlags : FlagSpec where
  name := "AIS_FLAGS"
  bits := [1, 2, 4, 8, 16, 32, 64, 128, 256, 512, 1024, 2048, 4096]

def utmDataAvailFlags : FlagSpec where
  name := "UTM_DATA_AVAIL_FLAGS"
  bits := [1, 2, 4, 8, 16, 32, 64, 128]

def mavGeneratorStatusFlag : FlagSpec where
  name := "MAV_GENERATOR_STATUS_FLAG"
  bits := [
    1, 2, 4, 8, 16, 32, 64, 128, 256, 512, 1024, 2048, 4096, 8192, 16384, 32768, 65536, 131072,
    262144, 524288, 1048576, 2097152, 4194304]

def tuneFormat : FlagSpec where
  name := "TUNE_FORMAT"
  bits := [1, 2]

def mavEventCurrentSequenceFlags : FlagSpec where
  name := "MAV_EVENT_CURRENT_SEQUENCE_FLAGS"
  bits := [1]

def mavWinchStatusFlag : FlagSpec where
  name := "MAV_WINCH_STATUS_FLAG"
  bits := [1, 2, 4, 8, 16, 32, 64, 128, 256, 512, 1024, 2048, 4096, 8192]

end LinkTap.Mavlink.Dialect
