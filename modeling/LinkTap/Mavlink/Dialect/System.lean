import LinkTap.Mavlink.Dialect.Enums
import LinkTap.Mavlink.Dialect.Flags

/-!
# Messages: system and parameters

Heartbeat, system status and time, link checks, operator control, modes and parameters.
-/

set_option autoImplicit false

namespace LinkTap.Mavlink.Dialect

def heartbeat : MessageSpec where
  id := 0
  name := "HEARTBEAT"
  fields := [
    .enumerated .u8 mavType "type",
    .enumerated .u8 mavAutopilot "autopilot",
    .flags .u8 mavModeFlag "base_mode",
    .single .u32 "custom_mode",
    .enumerated .u8 mavState "system_status",
    .single .u8 "mavlink_version"]

def sysStatus : MessageSpec where
  id := 1
  name := "SYS_STATUS"
  fields := [
    .flags .u32 mavSysStatusSensor "onboard_control_sensors_present",
    .flags .u32 mavSysStatusSensor "onboard_control_sensors_enabled",
    .flags .u32 mavSysStatusSensor "onboard_control_sensors_health",
    .single .u16 "load",
    .single .u16 "voltage_battery",
    .single .i16 "current_battery",
    .single .i8 "battery_remaining",
    .single .u16 "drop_rate_comm",
    .single .u16 "errors_comm",
    .single .u16 "errors_count1",
    .single .u16 "errors_count2",
    .single .u16 "errors_count3",
    .single .u16 "errors_count4"]

def systemTime : MessageSpec where
  id := 2
  name := "SYSTEM_TIME"
  fields := [
    .single .u64 "time_unix_usec",
    .single .u32 "time_boot_ms"]

def ping : MessageSpec where
  id := 4
  name := "PING"
  fields := [
    .single .u64 "time_usec",
    .single .u32 "seq",
    .single .u8 "target_system",
    .single .u8 "target_component"]

def changeOperatorControl : MessageSpec where
  id := 5
  name := "CHANGE_OPERATOR_CONTROL"
  fields := [
    .single .u8 "target_system",
    .single .u8 "control_request",
    .single .u8 "version",
    .array .char 25 "passkey"]

def changeOperatorControlAck : MessageSpec where
  id := 6
  name := "CHANGE_OPERATOR_CONTROL_ACK"
  fields := [
    .single .u8 "gcs_system_id",
    .single .u8 "control_request",
    .single .u8 "ack"]

def authKey : MessageSpec where
  id := 7
  name := "AUTH_KEY"
  fields := [
    .array .char 32 "key"]

def linkNodeStatus : MessageSpec where
  id := 8
  name := "LINK_NODE_STATUS"
  fields := [
    .single .u64 "timestamp",
    .single .u8 "tx_buf",
    .single .u8 "rx_buf",
    .single .u32 "tx_rate",
    .single .u32 "rx_rate",
    .single .u16 "rx_parse_err",
    .single .u16 "tx_overflows",
    .single .u16 "rx_overflows",
    .single .u32 "messages_sent",
    .single .u32 "messages_received",
    .single .u32 "messages_lost"]

def setMode : MessageSpec where
  id := 11
  name := "SET_MODE"
  fields := [
    .single .u8 "target_system",
    .enumerated .u8 mavMode "base_mode",
    .single .u32 "custom_mode"]

def paramRequestRead : MessageSpec where
  id := 20
  name := "PARAM_REQUEST_READ"
  fields := [
    .single .u8 "target_system",
    .single .u8 "target_component",
    .array .char 16 "param_id",
    .single .i16 "param_index"]

def paramRequestList : MessageSpec where
  id := 21
  name := "PARAM_REQUEST_LIST"
  fields := [
    .single .u8 "target_system",
    .single .u8 "target_component"]

def paramValue : MessageSpec where
  id := 22
  name := "PARAM_VALUE"
  fields := [
    .array .char 16 "param_id",
    .single .f32 "param_value",
    .enumerated .u8 mavParamType "param_type",
    .single .u16 "param_count",
    .single .u16 "param_index"]

def paramSet : MessageSpec where
  id := 23
  name := "PARAM_SET"
  fields := [
    .single .u8 "target_system",
    .single .u8 "target_component",
    .array .char 16 "param_id",
    .single .f32 "param_value",
    .enumerated .u8 mavParamType "param_type"]

end LinkTap.Mavlink.Dialect
