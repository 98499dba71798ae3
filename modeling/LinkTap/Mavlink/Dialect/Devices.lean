import LinkTap.Mavlink.Dialect.Commands
import LinkTap.Mavlink.Dialect.Enums
import LinkTap.Mavlink.Dialect.Flags

/-!
# Messages: devices and services

Motor controllers, wireless links, vessels, node status, extended parameters, obstacles,
odometry, trajectories, cellular links, engine speed, traffic management, onboard
computers, component information, tunes and events.
-/

set_option autoImplicit false

namespace LinkTap.Mavlink.Dialect

def escInfo : MessageSpec where
  id := 290
  name := "ESC_INFO"
  fields := [
    .single .u8 "index",
    .single .u64 "time_usec",
    .single .u16 "counter",
    .single .u8 "count",
    .enumerated .u8 escConnectionType "connection_type",
    .single .u8 "info",
    .array .u16 4 "failure_flags",
    .array .u32 4 "error_count",
    .array .i16 4 "temperature"]

def escStatus : MessageSpec where
  id := 291
  name := "ESC_STATUS"
  fields := [
    .single .u8 "index",
    .single .u64 "time_usec",
    .array .i32 4 "rpm",
    .array .f32 4 "voltage",
    .array .f32 4 "current"]

def wifiConfigAp : MessageSpec where
  id := 299
  name := "WIFI_CONFIG_AP"
  fields := [
    .array .char 32 "ssid",
    .array .char 64 "password"]

def protocolVersion : MessageSpec where
  id := 300
  name := "PROTOCOL_VERSION"
  fields := [
    .single .u16 "version",
    .single .u16 "min_version",
    .single .u16 "max_version",
    .array .u8 8 "spec_version_hash",
    .array .u8 8 "library_version_hash"]

def aisVessel : MessageSpec where
  id := 301
  name := "AIS_VESSEL"
  fields := [
    .single .u32 "MMSI",
    .single .i32 "lat",
    .single .i32 "lon",
    .single .u16 "COG",
    .single .u16 "heading",
    .single .u16 "velocity",
    .single .i8 "turn_rate",
    .enumerated .u8 aisNavStatus "navigational_status",
    .enumerated .u8 aisType "type",
    .single .u16 "dimension_bow",
    .single .u16 "dimension_stern",
    .single .u8 "dimension_port",
    .single .u8 "dimension_starboard",
    .array .char 7 "callsign",
    .array .char 20 "name",
    .single .u16 "tslc",
    .flags .u16 aisFlags "flags"]

def uavcanNodeStatus : MessageSpec where
  id := 310
  name := "UAVCAN_NODE_STATUS"
  fields := [
    .single .u64 "time_usec",
    .single .u32 "uptime_sec",
    .enumerated .u8 uavcanNodeHealth "health",
    .enumerated .u8 uavcanNodeMode "mode",
    .single .u8 "sub_mode",
    .single .u16 "vendor_specific_status_code"]

def uavcanNodeInfo : MessageSpec where
  id := 311
  name := "UAVCAN_NODE_INFO"
  fields := [
    .single .u64 "time_usec",
    .single .u32 "uptime_sec",
    .array .char 80 "name",
    .single .u8 "hw_version_major",
    .single .u8 "hw_version_minor",
    .array .u8 16 "hw_unique_id",
    .single .u8 "sw_version_major",
    .single .u8 "sw_version_minor",
    .single .u32 "sw_vcs_commit"]

def paramExtRequestRead : MessageSpec where
  id := 320
  name := "PARAM_EXT_REQUEST_READ"
  fields := [
    .single .u8 "target_system",
    .single .u8 "target_component",
    .array .char 16 "param_id",
    .single .i16 "param_index"]

def paramExtRequestList : MessageSpec where
  id := 321
  name := "PARAM_EXT_REQUEST_LIST"
  fields := [
    .single .u8 "target_system",
    .single .u8 "target_component"]

def paramExtValue : MessageSpec where
  id := 322
  name := "PARAM_EXT_VALUE"
  fields := [
    .array .char 16 "param_id",
    .array .char 128 "param_value",
    .enumerated .u8 mavParamExtType "param_type",
    .single .u16 "param_count",
    .single .u16 "param_index"]

def paramExtSet : MessageSpec where
  id := 323
  name := "PARAM_EXT_SET"
  fields := [
    .single .u8 "target_system",
    .single .u8 "target_component",
    .array .char 16 "param_id",
    .array .char 128 "param_value",
    .enumerated .u8 mavParamExtType "param_type"]

def paramExtAck : MessageSpec where
  id := 324
  name := "PARAM_EXT_ACK"
  fields := [
    .array .char 16 "param_id",
    .array .char 128 "param_value",
    .enumerated .u8 mavParamExtType "param_type",
    .enumerated .u8 paramAck "param_result"]

def obstacleDistance : MessageSpec where
  id := 330
  name := "OBSTACLE_DISTANCE"
  fields := [
    .single .u64 "time_usec",
    .enumerated .u8 mavDistanceSensor "sensor_type",
    .array .u16 72 "distances",
    .single .u8 "increment",
    .single .u16 "min_distance",
    .single .u16 "max_distance"]

def odometry : MessageSpec where
  id := 331
  name := "ODOMETRY"
  fields := [
    .single .u64 "time_usec",
    .enumerated .u8 mavFrame "frame_id",
    .enumerated .u8 mavFrame "child_frame_id",
    .single .f32 "x",
    .single .f32 "y",
    .single .f32 "z",
    .array .f32 4 "q",
    .single .f32 "vx",
    .single .f32 "vy",
    .single .f32 "vz",
    .single .f32 "rollspeed",
    .single .f32 "pitchspeed",
    .single .f32 "yawspeed",
    .array .f32 21 "pose_covariance",
    .array .f32 21 "velocity_covariance"]

def trajectoryRepresentationWaypoints : MessageSpec where
  id := 332
  name := "TRAJECTORY_REPRESENTATION_WAYPOINTS"
  fields := [
    .single .u64 "time_usec",
    .single .u8 "valid_points",
    .array .f32 5 "pos_x",
    .array .f32 5 "pos_y",
    .array .f32 5 "pos_z",
    .array .f32 5 "vel_x",
    .array .f32 5 "vel_y",
    .array .f32 5 "vel_z",
    .array .f32 5 "acc_x",
    .array .f32 5 "acc_y",
    .array .f32 5 "acc_z",
    .array .f32 5 "pos_yaw",
    .array .f32 5 "vel_yaw",
    .array .u16 5 "command"]

def trajectoryRepresentationBezier : MessageSpec where
  id := 333
  name := "TRAJECTORY_REPRESENTATION_BEZIER"
  fields := [
    .single .u64 "time_usec",
    .single .u8 "valid_points",
    .array .f32 5 "pos_x",
    .array .f32 5 "pos_y",
    .array .f32 5 "pos_z",
    .array .f32 5 "delta",
    .array .f32 5 "pos_yaw"]

def cellularStatus : MessageSpec where
  id := 334
  name := "CELLULAR_STATUS"
  fields := [
    .enumerated .u8 cellularStatusFlag "status",
    .enumerated .u8 cellularNetworkFailedReason "failure_reason",
    .enumerated .u8 cellularNetworkRadioType "type",
    .single .u8 "quality",
    .single .u16 "mcc",
    .single .u16 "mnc",
    .single .u16 "lac"]

def isbdLinkStatus : MessageSpec where
  id := 335
  name := "ISBD_LINK_STATUS"
  fields := [
    .single .u64 "timestamp",
    .single .u64 "last_heartbeat",
    .single .u16 "failed_sessions",
    .single .u16 "successful_sessions",
    .single .u8 "signal_quality",
    .single .u8 "ring_pending",
    .single .u8 "tx_session_pending",
    .single .u8 "rx_session_pending"]

def cellularConfig : MessageSpec where
  id := 336
  name := "CELLULAR_CONFIG"
  fields := [
    .single .u8 "enable_lte",
    .single .u8 "enable_pin",
    .array .char 16 "pin",
    .array .char 16 "new_pin",
    .array .char 32 "apn",
    .array .char 16 "puk",
    .single .u8 "roaming",
    .enumerated .u8 cellularConfigResponse "response"]

def rawRpm : MessageSpec where
  id := 339
  name := "RAW_RPM"
  fields := [
    .single .u8 "index",
    .single .f32 "frequency"]

def utmGlobalPosition : MessageSpec where
  id := 340
  name := "UTM_GLOBAL_POSITION"
  fields := [
    .single .u64 "time",
    .array .u8 18 "uas_id",
    .single .i32 "lat",
    .single .i32 "lon",
    .single .i32 "alt",
    .single .i32 "relative_alt",
    .single .i16 "vx",
    .single .i16 "vy",
    .single .i16 "vz",
    .single .u16 "h_acc",
    .single .u16 "v_acc",
    .single .u16 "vel_acc",
    .single .i32 "next_lat",
    .single .i32 "next_lon",
    .single .i32 "next_alt",
    .single .u16 "update_rate",
    .enumerated .u8 utmFlightState "flight_state",
    .flags .u8 utmDataAvailFlags "flags"]

def debugFloatArray : MessageSpec where
  id := 350
  name := "DEBUG_FLOAT_ARRAY"
  fields := [
    .single .u64 "time_usec",
    .array .char 10 "name",
    .single .u16 "array_id"]

def orbitExecutionStatus : MessageSpec where
  id := 360
  name := "ORBIT_EXECUTION_STATUS"
  fields := [
    .single .u64 "time_usec",
    .single .f32 "radius",
    .enumerated .u8 mavFrame "frame",
    .single .i32 "x",
    .single .i32 "y",
    .single .f32 "z"]

def smartBatteryInfo : MessageSpec where
  id := 370
  name := "SMART_BATTERY_INFO"
  fields := [
    .single .u8 "id",
    .enumerated .u8 mavBatteryFunction "battery_function",
    .enumerated .u8 mavBatteryType "type",
    .single .i32 "capacity_full_specification",
    .single .i32 "capacity_full",
    .single .u16 "cycle_count",
    .array .char 16 "serial_number",
    .array .char 50 "device_name",
    .single .u16 "weight",
    .single .u16 "discharge_minimum_voltage",
    .single .u16 "charging_minimum_voltage",
    .single .u16 "resting_minimum_voltage"]

def generatorStatus : MessageSpec where
  id := 373
  name := "GENERATOR_STATUS"
  fields := [
    .flags .u64 mavGeneratorStatusFlag "status",
    .single .u16 "generator_speed",
    .single .f32 "battery_current",
    .single .f32 "load_current",
    .single .f32 "power_generated",
    .single .f32 "bus_voltage",
    .single .i16 "rectifier_temperature",
    .single .f32 "bat_current_setpoint",
    .single .i16 "generator_temperature",
    .single .u32 "runtime",
    .single .i32 "time_until_maintenance"]

def actuatorOutputStatus : MessageSpec where
  id := 375
  name := "ACTUATOR_OUTPUT_STATUS"
  fields := [
    .single .u64 "time_usec",
    .single .u32 "active",
    .array .f32 32 "actuator"]

def timeEstimateToTarget : MessageSpec where
  id := 380
  name := "TIME_ESTIMATE_TO_TARGET"
  fields := [
    .single .i32 "safe_return",
    .single .i32 "land",
    .single .i32 "mission_next_item",
    .single .i32 "mission_end",
    .single .i32 "commanded_action"]

def tunnel : MessageSpec where
  id := 385
  name := "TUNNEL"
  fields := [
    .single .u8 "target_system",
    .single .u8 "target_component",
    .enumerated .u16 mavTunnelPayloadType "payload_type",
    .single .u8 "payload_length",
    .array .u8 128 "payload"]

def canFrame : MessageSpec where
  id := 386
  name := "CAN_FRAME"
  fields := [
    .single .u8 "target_system",
    .single .u8 "target_component",
    .single .u8 "bus",
    .single .u8 "len",
    .single .u32 "id",
    .array .u8 8 "data"]

def canfdFrame : MessageSpec where
  id := 387
  name := "CANFD_FRAME"
  fields := [
    .single .u8 "target_system",
    .single .u8 "target_component",
    .single .u8 "bus",
    .single .u8 "len",
    .single .u32 "id",
    .array .u8 64 "data"]

def canFilterModify : MessageSpec where
  id := 388
  name := "CAN_FILTER_MODIFY"
  fields := [
    .single .u8 "target_system",
    .single .u8 "target_component",
    .single .u8 "bus",
    .enumerated .u8 canFilterOp "operation",
    .single .u8 "num_ids",
    .array .u16 16 "ids"]

def onboardComputerStatus : MessageSpec where
  id := 390
  name := "ONBOARD_COMPUTER_STATUS"
  fields := [
    .single .u64 "time_usec",
    .single .u32 "uptime",
    .single .u8 "type",
    .array .u8 8 "cpu_cores",
    .array .u8 10 "cpu_combined",
    .array .u8 4 "gpu_cores",
    .array .u8 10 "gpu_combined",
    .single .i8 "temperature_board",
    .array .i8 8 "temperature_core",
    .array .i16 4 "fan_speed",
    .single .u32 "ram_usage",
    .single .u32 "ram_total",
    .array .u32 4 "storage_type",
    .array .u32 4 "storage_usage",
    .array .u32 4 "storage_total",
    .array .u32 6 "link_type",
    .array .u32 6 "link_tx_rate",
    .array .u32 6 "link_rx_rate",
    .array .u32 6 "link_tx_max",
    .array .u32 6 "link_rx_max"]

def componentInformation : MessageSpec where
  id := 395
  name := "COMPONENT_INFORMATION"
  fields := [
    .single .u32 "time_boot_ms",
    .single .u32 "general_metadata_file_crc",
    .array .char 100 "general_metadata_uri",
    .single .u32 "peripherals_metadata_file_crc",
    .array .char 100 "peripherals_metadata_uri"]

def componentMetadata : MessageSpec where
  id := 397
  name := "COMPONENT_METADATA"
  fields := [
    .single .u32 "time_boot_ms",
    .single .u32 "file_crc",
    .array .char 100 "uri"]

def playTuneV2 : MessageSpec where
  id := 400
  name := "PLAY_TUNE_V2"
  fields := [
    .single .u8 "target_system",
    .single .u8 "target_component",
    .flags .u32 tuneFormat "format",
    .array .char 248 "tune"]

def supportedTunes : MessageSpec where
  id := 401
  name := "SUPPORTED_TUNES"
  fields := [
    .single .u8 "target_system",
    .single .u8 "target_component",
    .flags .u32 tuneFormat "format"]

def event : MessageSpec where
  id := 410
  name := "EVENT"
  fields := [
    .single .u8 "destination_component",
    .single .u8 "destination_system",
    .single .u32 "id",
    .single .u32 "event_time_boot_ms",
    .single .u16 "sequence",
    .single .u8 "log_levels",
    .array .u8 40 "arguments"]

def currentEventSequence : MessageSpec where
  id := 411
  name := "CURRENT_EVENT_SEQUENCE"
  fields := [
    .single .u16 "sequence",
    .flags .u8 mavEventCurrentSequenceFlags "flags"]

def requestEvent : MessageSpec where
  id := 412
  name := "REQUEST_EVENT"
  fields := [
    .single .u8 "target_system",
    .single .u8 "target_component",
    .single .u16 "first_sequence",
    .single .u16 "last_sequence"]

def responseEventError : MessageSpec where
  id := 413
  name := "RESPONSE_EVENT_ERROR"
  fields := [
    .single .u8 "target_system",
    .single .u8 "target_component",
    .single .u16 "sequence",
    .single .u16 "sequence_oldest_available",
    .enumerated .u8 mavEventErrorReason "reason"]

end LinkTap.Mavlink.Dialect
