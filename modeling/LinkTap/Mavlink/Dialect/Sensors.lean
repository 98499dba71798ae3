import LinkTap.Mavlink.Dialect.Enums

/-!
# Messages: sensors and state

Satellite positioning, inertial and pressure sensors, attitude, position, radio control
channels and servo outputs.
-/

set_option autoImplicit false

namespace LinkTap.Mavlink.Dialect

def gpsRawInt : MessageSpec where
  id := 24
  name := "GPS_RAW_INT"
  fields := [
    .single .u64 "time_usec",
    .enumerated .u8 gpsFixType "fix_type",
    .single .i32 "lat",
    .single .i32 "lon",
    .single .i32 "alt",
    .single .u16 "eph",
    .single .u16 "epv",
    .single .u16 "vel",
    .single .u16 "cog",
    .single .u8 "satellites_visible"]

def gpsStatus : MessageSpec where
  id := 25
  name := "GPS_STATUS"
  fields := [
    .single .u8 "satellites_visible",
    .array .u8 20 "satellite_prn",
    .array .u8 20 "satellite_used",
    .array .u8 20 "satellite_elevation",
    .array .u8 20 "satellite_azimuth",
    .array .u8 20 "satellite_snr"]

def scaledImu : MessageSpec where
  id := 26
  name := "SCALED_IMU"
  fields := [
    .single .u32 "time_boot_ms",
    .single .i16 "xacc",
    .single .i16 "yacc",
    .single .i16 "zacc",
    .single .i16 "xgyro",
    .single .i16 "ygyro",
    .single .i16 "zgyro",
    .single .i16 "xmag",
    .single .i16 "ymag",
    .single .i16 "zmag"]

def rawImu : MessageSpec where
  id := 27
  name := "RAW_IMU"
  fields := [
    .single .u64 "time_usec",
    .single .i16 "xacc",
    .single .i16 "yacc",
    .single .i16 "zacc",
    .single .i16 "xgyro",
    .single .i16 "ygyro",
    .single .i16 "zgyro",
    .single .i16 "xmag",
    .single .i16 "ymag",
    .single .i16 "zmag"]

def rawPressure : MessageSpec where
  id := 28
  name := "RAW_PRESSURE"
  fields := [
    .single .u64 "time_usec",
    .single .i16 "press_abs",
    .single .i16 "press_diff1",
    .single .i16 "press_diff2",
    .single .i16 "temperature"]

def scaledPressure : MessageSpec where
  id := 29
  name := "SCALED_PRESSURE"
  fields := [
    .single .u32 "time_boot_ms",
    .single .f32 "press_abs",
    .single .f32 "press_diff",
    .single .i16 "temperature"]

def attitude : MessageSpec where
  id := 30
  name := "ATTITUDE"
  fields := [
    .single .u32 "time_boot_ms",
    .single .f32 "roll",
    .single .f32 "pitch",
    .single .f32 "yaw",
    .single .f32 "rollspeed",
    .single .f32 "pitchspeed",
    .single .f32 "yawspeed"]

def attitudeQuaternion : MessageSpec where
  id := 31
  name := "ATTITUDE_QUATERNION"
  fields := [
    .single .u32 "time_boot_ms",
    .single .f32 "q1",
    .single .f32 "q2",
    .single .f32 "q3",
    .single .f32 "q4",
    .single .f32 "rollspeed",
    .single .f32 "pitchspeed",
    .single .f32 "yawspeed"]

def localPositionNed : MessageSpec where
  id := 32
  name := "LOCAL_POSITION_NED"
  fields := [
    .single .u32 "time_boot_ms",
    .single .f32 "x",
    .single .f32 "y",
    .single .f32 "z",
    .single .f32 "vx",
    .single .f32 "vy",
    .single .f32 "vz"]

def globalPositionInt : MessageSpec where
  id := 33
  name := "GLOBAL_POSITION_INT"
  fields := [
    .single .u32 "time_boot_ms",
    .single .i32 "lat",
    .single .i32 "lon",
    .single .i32 "alt",
    .single .i32 "relative_alt",
    .single .i16 "vx",
    .single .i16 "vy",
    .single .i16 "vz",
    .single .u16 "hdg"]

def rcChannelsScaled : MessageSpec where
  id := 34
  name := "RC_CHANNELS_SCALED"
  fields := [
    .single .u32 "time_boot_ms",
    .single .u8 "port",
    .single .i16 "chan1_scaled",
    .single .i16 "chan2_scaled",
    .single .i16 "chan3_scaled",
    .single .i16 "chan4_scaled",
    .single .i16 "chan5_scaled",
    .single .i16 "chan6_scaled",
    .single .i16 "chan7_scaled",
    .single .i16 "chan8_scaled",
    .single .u8 "rssi"]

def rcChannelsRaw : MessageSpec where
  id := 35
  name := "RC_CHANNELS_RAW"
  fields := [
    .single .u32 "time_boot_ms",
    .single .u8 "port",
    .single .u16 "chan1_raw",
    .single .u16 "chan2_raw",
    .single .u16 "chan3_raw",
    .single .u16 "chan4_raw",
    .single .u16 "chan5_raw",
    .single .u16 "chan6_raw",
    .single .u16 "chan7_raw",
    .single .u16 "chan8_raw",
    .single .u8 "rssi"]

def servoOutputRaw : MessageSpec where
  id := 36
  name := "SERVO_OUTPUT_RAW"
  fields := [
    .single .u32 "time_usec",
    .single .u8 "port",
    .single .u16 "servo1_raw",
    .single .u16 "servo2_raw",
    .single .u16 "servo3_raw",
    .single .u16 "servo4_raw",
    .single .u16 "servo5_raw",
    .single .u16 "servo6_raw",
    .single .u16 "servo7_raw",
    .single .u16 "servo8_raw"]

end LinkTap.Mavlink.Dialect
