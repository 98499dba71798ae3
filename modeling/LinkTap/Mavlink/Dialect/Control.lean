import LinkTap.Mavlink.Dialect.Commands
import LinkTap.Mavlink.Dialect.Enums
import LinkTap.Mavlink.Dialect.Flags

/-!
# Messages: control and commands

Covariances, controller outputs, radio control overrides, data streams, manual control,
commands and their acknowledgements, setpoints and hardware-in-the-loop state.
-/

set_option autoImplicit false

namespace LinkTap.Mavlink.Dialect

def attitudeQuaternionCov : MessageSpec where
  id := 61
  name := "ATTITUDE_QUATERNION_COV"
  fields := [
    .single .u64 "time_usec",
    .array .f32 4 "q",
    .single .f32 "rollspeed",
    .single .f32 "pitchspeed",
    .single .f32 "yawspeed",
    .array .f32 9 "covariance"]

def navControllerOutput : MessageSpec where
  id := 62
  name := "NAV_CONTROLLER_OUTPUT"
  fields := [
    .single .f32 "nav_roll",
    .single .f32 "nav_pitch",
    .single .i16 "nav_bearing",
    .single .i16 "target_bearing",
    .single .u16 "wp_dist",
    .single .f32 "alt_error",
    .single .f32 "aspd_error",
    .single .f32 "xtrack_error"]

def globalPositionIntCov : MessageSpec where
  id := 63
  name := "GLOBAL_POSITION_INT_COV"
  fields := [
    .single .u64 "time_usec",
    .enumerated .u8 mavEstimatorType "estimator_type",
    .single .i32 "lat",
    .single .i32 "lon",
    .single .i32 "alt",
    .single .i32 "relative_alt",
    .single .f32 "vx",
    .single .f32 "vy",
    .single .f32 "vz",
    .array .f32 36 "covariance"]

def localPositionNedCov : MessageSpec where
  id := 64
  name := "LOCAL_POSITION_NED_COV"
  fields := [
    .single .u64 "time_usec",
    .enumerated .u8 mavEstimatorType "estimator_type",
    .single .f32 "x",
    .single .f32 "y",
    .single .f32 "z",
    .single .f32 "vx",
    .single .f32 "vy",
    .single .f32 "vz",
    .single .f32 "ax",
    .single .f32 "ay",
    .single .f32 "az",
    .array .f32 45 "covariance"]

def rcChannels : MessageSpec where
  id := 65
  name := "RC_CHANNELS"
  fields := [
    .single .u32 "time_boot_ms",
    .single .u8 "chancount",
    .single .u16 "chan1_raw",
    .single .u16 "chan2_raw",
    .single .u16 "chan3_raw",
    .single .u16 "chan4_raw",
    .single .u16 "chan5_raw",
    .single .u16 "chan6_raw",
    .single .u16 "chan7_raw",
    .single .u16 "chan8_raw",
    .single .u16 "chan9_raw",
    .single .u16 "chan10_raw",
    .single .u16 "chan11_raw",
    .single .u16 "chan12_raw",
    .single .u16 "chan13_raw",
    .single .u16 "chan14_raw",
    .single .u16 "chan15_raw",
    .single .u16 "chan16_raw",
    .single .u16 "chan17_raw",
    .single .u16 "chan18_raw",
    .single .u8 "rssi"]

def requestDataStream : MessageSpec where
  id := 66
  name := "REQUEST_DATA_STREAM"
  fields := [
    .single .u8 "target_system",
    .single .u8 "target_component",
    .single .u8 "req_stream_id",
    .single .u16 "req_message_rate",
    .single .u8 "start_stop"]

def dataStream : MessageSpec where
  id := 67
  name := "DATA_STREAM"
  fields := [
    .single .u8 "stream_id",
    .single .u16 "message_rate",
    .single .u8 "on_off"]

def manualControl : MessageSpec where
  id := 69
  name := "MANUAL_CONTROL"
  fields := [
    .single .u8 "target",
    .single .i16 "x",
    .single .i16 "y",
    .single .i16 "z",
    .single .i16 "r",
    .single .u16 "buttons"]

def rcChannelsOverride : MessageSpec where
  id := 70
  name := "RC_CHANNELS_OVERRIDE"
  fields := [
    .single .u8 "target_system",
    .single .u8 "target_component",
    .single .u16 "chan1_raw",
    .single .u16 "chan2_raw",
    .single .u16 "chan3_raw",
    .single .u16 "chan4_raw",
    .single .u16 "chan5_raw",
    .single .u16 "chan6_raw",
    .single .u16 "chan7_raw",
    .single .u16 "chan8_raw"]

def missionItemInt : MessageSpec where
  id := 73
  name := "MISSION_ITEM_INT"
  fields := [
    .single .u8 "target_system",
    .single .u8 "target_component",
    .single .u16 "seq",
    .enumerated .u8 mavFrame "frame",
    .enumerated .u16 mavCmd "command",
    .single .u8 "current",
    .single .u8 "autocontinue",
    .single .f32 "param1",
    .single .f32 "param2",
    .single .f32 "param3",
    .single .f32 "param4",
    .single .i32 "x",
    .single .i32 "y",
    .single .f32 "z"]

def vfrHud : MessageSpec where
  id := 74
  name := "VFR_HUD"
  fields := [
    .single .f32 "airspeed",
    .single .f32 "groundspeed",
    .single .i16 "heading",
    .single .u16 "throttle",
    .single .f32 "alt",
    .single .f32 "climb"]

def commandInt : MessageSpec where
  id := 75
  name := "COMMAND_INT"
  fields := [
    .single .u8 "target_system",
    .single .u8 "target_component",
    .enumerated .u8 mavFrame "frame",
    .enumerated .u16 mavCmd "command",
    .single .u8 "current",
    .single .u8 "autocontinue",
    .single .f32 "param1",
    .single .f32 "param2",
    .single .f32 "param3",
    .single .f32 "param4",
    .single .i32 "x",
    .single .i32 "y",
    .single .f32 "z"]

def commandLong : MessageSpec where
  id := 76
  name := "COMMAND_LONG"
  fields := [
    .single .u8 "target_system",
    .single .u8 "target_component",
    .enumerated .u16 mavCmd "command",
    .single .u8 "confirmation",
    .single .f32 "param1",
    .single .f32 "param2",
    .single .f32 "param3",
    .single .f32 "param4",
    .single .f32 "param5",
    .single .f32 "param6",
    .single .f32 "param7"]

def commandAck : MessageSpec where
  id := 77
  name := "COMMAND_ACK"
  fields := [
    .enumerated .u16 mavCmd "command",
    .enumerated .u8 mavResult "result"]

def commandCancel : MessageSpec where
  id := 80
  name := "COMMAND_CANCEL"
  fields := [
    .single .u8 "target_system",
    .single .u8 "target_component",
    .enumerated .u16 mavCmd "command"]

def manualSetpoint : MessageSpec where
  id := 81
  name := "MANUAL_SETPOINT"
  fields := [
    .single .u32 "time_boot_ms",
    .single .f32 "roll",
    .single .f32 "pitch",
    .single .f32 "yaw",
    .single .f32 "thrust",
    .single .u8 "mode_switch",
    .single .u8 "manual_override_switch"]

def setAttitudeTarget : MessageSpec where
  id := 82
  name := "SET_ATTITUDE_TARGET"
  fields := [
    .single .u32 "time_boot_ms",
    .single .u8 "target_system",
    .single .u8 "target_component",
    .flags .u8 attitudeTargetTypemask "type_mask",
    .array .f32 4 "q",
    .single .f32 "body_roll_rate",
    .single .f32 "body_pitch_rate",
    .single .f32 "body_yaw_rate",
    .single .f32 "thrust"]

def attitudeTarget : MessageSpec where
  id := 83
  name := "ATTITUDE_TARGET"
  fields := [
    .single .u32 "time_boot_ms",
    .flags .u8 attitudeTargetTypemask "type_mask",
    .array .f32 4 "q",
    .single .f32 "body_roll_rate",
    .single .f32 "body_pitch_rate",
    .single .f32 "body_yaw_rate",
    .single .f32 "thrust"]

def setPositionTargetLocalNed : MessageSpec where
  id := 84
  name := "SET_POSITION_TARGET_LOCAL_NED"
  fields := [
    .single .u32 "time_boot_ms",
    .single .u8 "target_system",
    .single .u8 "target_component",
    .enumerated .u8 mavFrame "coordinate_frame",
    .flags .u16 positionTargetTypemask "type_mask",
    .single .f32 "x",
    .single .f32 "y",
    .single .f32 "z",
    .single .f32 "vx",
    .single .f32 "vy",
    .single .f32 "vz",
    .single .f32 "afx",
    .single .f32 "afy",
    .single .f32 "afz",
    .single .f32 "yaw",
    .single .f32 "yaw_rate"]

def positionTargetLocalNed : MessageSpec where
  id := 85
  name := "POSITION_TARGET_LOCAL_NED"
  fields := [
    .single .u32 "time_boot_ms",
    .enumerated .u8 mavFrame "coordinate_frame",
    .flags .u16 positionTargetTypemask "type_mask",
    .single .f32 "x",
    .single .f32 "y",
    .single .f32 "z",
    .single .f32 "vx",
    .single .f32 "vy",
    .single .f32 "vz",
    .single .f32 "afx",
    .single .f32 "afy",
    .single .f32 "afz",
    .single .f32 "yaw",
    .single .f32 "yaw_rate"]

def setPositionTargetGlobalInt : MessageSpec where
  id := 86
  name := "SET_POSITION_TARGET_GLOBAL_INT"
  fields := [
    .single .u32 "time_boot_ms",
    .single .u8 "target_system",
    .single .u8 "target_component",
    .enumerated .u8 mavFrame "coordinate_frame",
    .flags .u16 positionTargetTypemask "type_mask",
    .single .i32 "lat_int",
    .single .i32 "lon_int",
    .single .f32 "alt",
    .single .f32 "vx",
    .single .f32 "vy",
    .single .f32 "vz",
    .single .f32 "afx",
    .single .f32 "afy",
    .single .f32 "afz",
    .single .f32 "yaw",
    .single .f32 "yaw_rate"]

def positionTargetGlobalInt : MessageSpec where
  id := 87
  name := "POSITION_TARGET_GLOBAL_INT"
  fields := [
    .single .u32 "time_boot_ms",
    .enumerated .u8 mavFrame "coordinate_frame",
    .flags .u16 positionTargetTypemask "type_mask",
    .single .i32 "lat_int",
    .single .i32 "lon_int",
    .single .f32 "alt",
    .single .f32 "vx",
    .single .f32 "vy",
    .single .f32 "vz",
    .single .f32 "afx",
    .single .f32 "afy",
    .single .f32 "afz",
    .single .f32 "yaw",
    .single .f32 "yaw_rate"]

def localPositionNedSystemGlobalOffset : MessageSpec where
  id := 89
  name := "LOCAL_POSITION_NED_SYSTEM_GLOBAL_OFFSET"
  fields := [
    .single .u32 "time_boot_ms",
    .single .f32 "x",
    .single .f32 "y",
    .single .f32 "z",
    .single .f32 "roll",
    .single .f32 "pitch",
    .single .f32 "yaw"]

def hilState : MessageSpec where
  id := 90
  name := "HIL_STATE"
  fields := [
    .single .u64 "time_usec",
    .single .f32 "roll",
    .single .f32 "pitch",
    .single .f32 "yaw",
    .single .f32 "rollspeed",
    .single .f32 "pitchspeed",
    .single .f32 "yawspeed",
    .single .i32 "lat",
    .single .i32 "lon",
    .single .i32 "alt",
    .single .i16 "vx",
    .single .i16 "vy",
    .single .i16 "vz",
    .single .i16 "xacc",
    .single .i16 "yacc",
    .single .i16 "zacc"]

def hilControls : MessageSpec where
  id := 91
  name := "HIL_CONTROLS"
  fields := [
    .single .u64 "time_usec",
    .single .f32 "roll_ailerons",
    .single .f32 "pitch_elevator",
    .single .f32 "yaw_rudder",
    .single .f32 "throttle",
    .single .f32 "aux1",
    .single .f32 "aux2",
    .single .f32 "aux3",
    .single .f32 "aux4",
    .enumerated .u8 mavMode "mode",
    .single .u8 "nav_mode"]

def hilRcInputsRaw : MessageSpec where
  id := 92
  name := "HIL_RC_INPUTS_RAW"
  fields := [
    .single .u64 "time_usec",
    .single .u16 "chan1_raw",
    .single .u16 "chan2_raw",
    .single .u16 "chan3_raw",
    .single .u16 "chan4_raw",
    .single .u16 "chan5_raw",
    .single .u16 "chan6_raw",
    .single .u16 "chan7_raw",
    .single .u16 "chan8_raw",
    .single .u16 "chan9_raw",
    .single .u16 "chan10_raw",
    .single .u16 "chan11_raw",
    .single .u16 "chan12_raw",
    .single .u8 "rssi"]

def hilActuatorControls : MessageSpec where
  id := 93
  name := "HIL_ACTUATOR_CONTROLS"
  fields := [
    .single .u64 "time_usec",
    .array .f32 16 "controls",
    .flags .u8 mavModeFlag "mode",
    .single .u64 "flags"]

end LinkTap.Mavlink.Dialect
