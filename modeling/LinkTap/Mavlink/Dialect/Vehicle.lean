import LinkTap.Mavlink.Dialect.Enums
import LinkTap.Mavlink.Dialect.Flags

/-!
# Messages: vehicle state and debugging

Fences, calibration, engine and estimator status, wind, high latency summaries, home
position, traffic, collisions, named values, status text, signing, buttons and tunes.
-/

set_option autoImplicit false

namespace LinkTap.Mavlink.Dialect

def fenceStatus : MessageSpec where
  id := 162
  name := "FENCE_STATUS"
  fields := [
    .single .u8 "breach_status",
    .single .u16 "breach_count",
    .enumerated .u8 fenceBreach "breach_type",
    .single .u32 "breach_time"]

def magCalReport : MessageSpec where
  id := 192
  name := "MAG_CAL_REPORT"
  fields := [
    .single .u8 "compass_id",
    .single .u8 "cal_mask",
    .enumerated .u8 magCalStatus "cal_status",
    .single .u8 "autosaved",
    .single .f32 "fitness",
    .single .f32 "ofs_x",
    .single .f32 "ofs_y",
    .single .f32 "ofs_z",
    .single .f32 "diag_x",
    .single .f32 "diag_y",
    .single .f32 "diag_z",
    .single .f32 "offdiag_x",
    .single .f32 "offdiag_y",
    .single .f32 "offdiag_z"]

def efiStatus : MessageSpec where
  id := 225
  name := "EFI_STATUS"
  fields := [
    .single .u8 "health",
    .single .f32 "ecu_index",
    .single .f32 "rpm",
    .single .f32 "fuel_consumed",
    .single .f32 "fuel_flow",
    .single .f32 "engine_load",
    .single .f32 "throttle_position",
    .single .f32 "spark_dwell_time",
    .single .f32 "barometric_pressure",
    .single .f32 "intake_manifold_pressure",
    .single .f32 "intake_manifold_temperature",
    .single .f32 "cylinder_head_temperature",
    .single .f32 "ignition_timing",
    .single .f32 "injection_time",
    .single .f32 "exhaust_gas_temperature",
    .single .f32 "throttle_out",
    .single .f32 "pt_compensation"]

def estimatorStatus : MessageSpec where
  id := 230
  name := "ESTIMATOR_STATUS"
  fields := [
    .single .u64 "time_usec",
    .flags .u16 estimatorStatusFlags "flags",
    .single .f32 "vel_ratio",
    .single .f32 "pos_horiz_ratio",
    .single .f32 "pos_vert_ratio",
    .single .f32 "mag_ratio",
    .single .f32 "hagl_ratio",
    .single .f32 "tas_ratio",
    .single .f32 "pos_horiz_accuracy",
    .single .f32 "pos_vert_accuracy"]

def windCov : MessageSpec where
  id := 231
  name := "WIND_COV"
  fields := [
    .single .u64 "time_usec",
    .single .f32 "wind_x",
    .single .f32 "wind_y",
    .single .f32 "wind_z",
    .single .f32 "var_horiz",
    .single .f32 "var_vert",
    .single .f32 "wind_alt",
    .single .f32 "horiz_accuracy",
    .single .f32 "vert_accuracy"]

def gpsInput : MessageSpec where
  id := 232
  name := "GPS_INPUT"
  fields := [
    .single .u64 "time_usec",
    .single .u8 "gps_id",
    .flags .u16 gpsInputIgnoreFlags "ignore_flags",
    .single .u32 "time_week_ms",
    .single .u16 "time_week",
    .single .u8 "fix_type",
    .single .i32 "lat",
    .single .i32 "lon",
    .single .f32 "alt",
    .single .f32 "hdop",
    .single .f32 "vdop",
    .single .f32 "vn",
    .single .f32 "ve",
    .single .f32 "vd",
    .single .f32 "speed_accuracy",
    .single .f32 "horiz_accuracy",
    .single .f32 "vert_accuracy",
    .single .u8 "satellites_visible"]

def gpsRtcmData : MessageSpec where
  id := 233
  name := "GPS_RTCM_DATA"
  fields := [
    .single .u8 "flags",
    .single .u8 "len",
    .array .u8 180 "data"]

def highLatency : MessageSpec where
  id := 234
  name := "HIGH_LATENCY"
  fields := [
    .flags .u8 mavModeFlag "base_mode",
    .single .u32 "custom_mode",
    .enumerated .u8 mavLandedState "landed_state",
    .single .i16 "roll",
    .single .i16 "pitch",
    .single .u16 "heading",
    .single .i8 "throttle",
    .single .i16 "heading_sp",
    .single .i32 "latitude",
    .single .i32 "longitude",
    .single .i16 "altitude_amsl",
    .single .i16 "altitude_sp",
    .single .u8 "airspeed",
    .single .u8 "airspeed_sp",
    .single .u8 "groundspeed",
    .single .i8 "climb_rate",
    .single .u8 "gps_nsat",
    .enumerated .u8 gpsFixType "gps_fix_type",
    .single .u8 "battery_remaining",
    .single .i8 "temperature",
    .single .i8 "temperature_air",
    .single .u8 "failsafe",
    .single .u8 "wp_num",
    .single .u16 "wp_distance"]

def highLatency2 : MessageSpec where
  id := 235
  name := "HIGH_LATENCY2"
  fields := [
    .single .u32 "timestamp",
    .enumerated .u8 mavType "type",
    .enumerated .u8 mavAutopilot "autopilot",
    .single .u16 "custom_mode",
    .single .i32 "latitude",
    .single .i32 "longitude",
    .single .i16 "altitude",
    .single .i16 "target_altitude",
    .single .u8 "heading",
    .single .u8 "target_heading",
    .single .u16 "target_distance",
    .single .u8 "throttle",
    .single .u8 "airspeed",
    .single .u8 "airspeed_sp",
    .single .u8 "groundspeed",
    .single .u8 "windspeed",
    .single .u8 "wind_heading",
    .single .u8 "eph",
    .single .u8 "epv",
    .single .i8 "temperature_air",
    .single .i8 "climb_rate",
    .single .i8 "battery",
    .single .u16 "wp_num",
    .flags .u16 hlFailureFlag "failure_flags",
    .single .i8 "custom0",
    .single .i8 "custom1",
    .single .i8 "custom2"]

def vibration : MessageSpec where
  id := 241
  name := "VIBRATION"
  fields := [
    .single .u64 "time_usec",
    .single .f32 "vibration_x",
    .single .f32 "vibration_y",
    .single .f32 "vibration_z",
    .single .u32 "clipping_0",
    .single .u32 "clipping_1",
    .single .u32 "clipping_2"]

def homePosition : MessageSpec where
  id := 242
  name := "HOME_POSITION"
  fields := [
    .single .i32 "latitude",
    .single .i32 "longitude",
    .single .i32 "altitude",
    .single .f32 "x",
    .single .f32 "y",
    .single .f32 "z",
    .array .f32 4 "q",
    .single .f32 "approach_x",
    .single .f32 "approach_y",
    .single .f32 "approach_z"]

def setHomePosition : MessageSpec where
  id := 243
  name := "SET_HOME_POSITION"
  fields := [
    .single .u8 "target_system",
    .single .i32 "latitude",
    .single .i32 "longitude",
    .single .i32 "altitude",
    .single .f32 "x",
    .single .f32 "y",
    .single .f32 "z",
    .array .f32 4 "q",
    .single .f32 "approach_x",
    .single .f32 "approach_y",
    .single .f32 "approach_z"]

def messageInterval : MessageSpec where
  id := 244
  name := "MESSAGE_INTERVAL"
  fields := [
    .single .u16 "message_id",
    .single .i32 "interval_us"]

def extendedSysState : MessageSpec where
  id := 245
  name := "EXTENDED_SYS_STATE"
  fields := [
    .enumerated .u8 mavVtolState "vtol_state",
    .enumerated .u8 mavLandedState "landed_state"]

def adsbVehicle : MessageSpec where
  id := 246
  name := "ADSB_VEHICLE"
  fields := [
    .single .u32 "ICAO_address",
    .single .i32 "lat",
    .single .i32 "lon",
    .enumerated .u8 adsbAltitudeType "altitude_type",
    .single .i32 "altitude",
    .single .u16 "heading",
    .single .u16 "hor_velocity",
    .single .i16 "ver_velocity",
    .array .char 9 "callsign",
    .enumerated .u8 adsbEmitterType "emitter_type",
    .single .u8 "tslc",
    .flags .u16 adsbFlags "flags",
    .single .u16 "squawk"]

def collision : MessageSpec where
  id := 247
  name := "COLLISION"
  fields := [
    .enumerated .u8 mavCollisionSrc "src",
    .single .u32 "id",
    .enumerated .u8 mavCollisionAction "action",
    .enumerated .u8 mavCollisionThreatLevel "threat_level",
    .single .f32 "time_to_minimum_delta",
    .single .f32 "altitude_minimum_delta",
    .single .f32 "horizontal_minimum_delta"]

def v2Extension : MessageSpec where
  id := 248
  name := "V2_EXTENSION"
  fields := [
    .single .u8 "target_network",
    .single .u8 "target_system",
    .single .u8 "target_component",
    .single .u16 "message_type",
    .array .u8 249 "payload"]

def memoryVect : MessageSpec where
  id := 249
  name := "MEMORY_VECT"
  fields := [
    .single .u16 "address",
    .single .u8 "ver",
    .single .u8 "type",
    .array .i8 32 "value"]

def debugVect : MessageSpec where
  id := 250
  name := "DEBUG_VECT"
  fields := [
    .array .char 10 "name",
    .single .u64 "time_usec",
    .single .f32 "x",
    .single .f32 "y",
    .single .f32 "z"]

def namedValueFloat : MessageSpec where
  id := 251
  name := "NAMED_VALUE_FLOAT"
  fields := [
    .single .u32 "time_boot_ms",
    .array .char 10 "name",
    .single .f32 "value"]

def namedValueInt : MessageSpec where
  id := 252
  name := "NAMED_VALUE_INT"
  fields := [
    .single .u32 "time_boot_ms",
    .array .char 10 "name",
    .single .i32 "value"]

def statustext : MessageSpec where
  id := 253
  name := "STATUSTEXT"
  fields := [
    .enumerated .u8 mavSeverity "severity",
    .array .char 50 "text"]

def debug : MessageSpec where
  id := 254
  name := "DEBUG"
  fields := [
    .single .u32 "time_boot_ms",
    .single .u8 "ind",
    .single .f32 "value"]

def setupSigning : MessageSpec where
  id := 256
  name := "SETUP_SIGNING"
  fields := [
    .single .u8 "target_system",
    .single .u8 "target_component",
    .array .u8 32 "secret_key",
    .single .u64 "initial_timestamp"]

def buttonChange : MessageSpec where
  id := 257
  name := "BUTTON_CHANGE"
  fields := [
    .single .u32 "time_boot_ms",
    .single .u32 "last_change_ms",
    .single .u8 "state"]

def playTune : MessageSpec where
  id := 258
  name := "PLAY_TUNE"
  fields := [
    .single .u8 "target_system",
    .single .u8 "target_component",
    .array .char 30 "tune"]

end LinkTap.Mavlink.Dialect
