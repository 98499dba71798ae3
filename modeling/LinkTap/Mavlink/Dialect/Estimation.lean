import LinkTap.Mavlink.Dialect.Enums
import LinkTap.Mavlink.Dialect.Flags

/-!
# Messages: estimation, logs and terrain

Optical flow, vision and motion capture estimates, simulated sensors, radio status, file
transfer, logs, corrections, terrain, battery and vehicle version.
-/

set_option autoImplicit false

namespace LinkTap.Mavlink.Dialect

def opticalFlow : MessageSpec where
  id := 100
  name := "OPTICAL_FLOW"
  fields := [
    .single .u64 "time_usec",
    .single .u8 "sensor_id",
    .single .i16 "flow_x",
    .single .i16 "flow_y",
    .single .f32 "flow_comp_m_x",
    .single .f32 "flow_comp_m_y",
    .single .u8 "quality",
    .single .f32 "ground_distance"]

def globalVisionPositionEstimate : MessageSpec where
  id := 101
  name := "GLOBAL_VISION_POSITION_ESTIMATE"
  fields := [
    .single .u64 "usec",
    .single .f32 "x",
    .single .f32 "y",
    .single .f32 "z",
    .single .f32 "roll",
    .single .f32 "pitch",
    .single .f32 "yaw"]

def visionPositionEstimate : MessageSpec where
  id := 102
  name := "VISION_POSITION_ESTIMATE"
  fields := [
    .single .u64 "usec",
    .single .f32 "x",
    .single .f32 "y",
    .single .f32 "z",
    .single .f32 "roll",
    .single .f32 "pitch",
    .single .f32 "yaw"]

def visionSpeedEstimate : MessageSpec where
  id := 103
  name := "VISION_SPEED_ESTIMATE"
  fields := [
    .single .u64 "usec",
    .single .f32 "x",
    .single .f32 "y",
    .single .f32 "z"]

def viconPositionEstimate : MessageSpec where
  id := 104
  name := "VICON_POSITION_ESTIMATE"
  fields := [
    .single .u64 "usec",
    .single .f32 "x",
    .single .f32 "y",
    .single .f32 "z",
    .single .f32 "roll",
    .single .f32 "pitch",
    .single .f32 "yaw"]

def highresImu : MessageSpec where
  id := 105
  name := "HIGHRES_IMU"
  fields := [
    .single .u64 "time_usec",
    .single .f32 "xacc",
    .single .f32 "yacc",
    .single .f32 "zacc",
    .single .f32 "xgyro",
    .single .f32 "ygyro",
    .single .f32 "zgyro",
    .single .f32 "xmag",
    .single .f32 "ymag",
    .single .f32 "zmag",
    .single .f32 "abs_pressure",
    .single .f32 "diff_pressure",
    .single .f32 "pressure_alt",
    .single .f32 "temperature",
    .flags .u16 highresImuUpdatedFlags "fields_updated"]

def opticalFlowRad : MessageSpec where
  id := 106
  name := "OPTICAL_FLOW_RAD"
  fields := [
    .single .u64 "time_usec",
    .single .u8 "sensor_id",
    .single .u32 "integration_time_us",
    .single .f32 "integrated_x",
    .single .f32 "integrated_y",
    .single .f32 "integrated_xgyro",
    .single .f32 "integrated_ygyro",
    .single .f32 "integrated_zgyro",
    .single .i16 "temperature",
    .single .u8 "quality",
    .single .u32 "time_delta_distance_us",
    .single .f32 "distance"]

def hilSensor : MessageSpec where
  id := 107
  name := "HIL_SENSOR"
  fields := [
    .single .u64 "time_usec",
    .single .f32 "xacc",
    .single .f32 "yacc",
    .single .f32 "zacc",
    .single .f32 "xgyro",
    .single .f32 "ygyro",
    .single .f32 "zgyro",
    .single .f32 "xmag",
    .single .f32 "ymag",
    .single .f32 "zmag",
    .single .f32 "abs_pressure",
    .single .f32 "diff_pressure",
    .single .f32 "pressure_alt",
    .single .f32 "temperature",
    .flags .u32 hilSensorUpdatedFlags "fields_updated"]

def simState : MessageSpec where
  id := 108
  name := "SIM_STATE"
  fields := [
    .single .f32 "q1",
    .single .f32 "q2",
    .single .f32 "q3",
    .single .f32 "q4",
    .single .f32 "roll",
    .single .f32 "pitch",
    .single .f32 "yaw",
    .single .f32 "xacc",
    .single .f32 "yacc",
    .single .f32 "zacc",
    .single .f32 "xgyro",
    .single .f32 "ygyro",
    .single .f32 "zgyro",
    .single .f32 "lat",
    .single .f32 "lon",
    .single .f32 "alt",
    .single .f32 "std_dev_horz",
    .single .f32 "std_dev_vert",
    .single .f32 "vn",
    .single .f32 "ve",
    .single .f32 "vd"]

def radioStatus : MessageSpec where
  id := 109
  name := "RADIO_STATUS"
  fields := [
    .single .u8 "rssi",
    .single .u8 "remrssi",
    .single .u8 "txbuf",
    .single .u8 "noise",
    .single .u8 "remnoise",
    .single .u16 "rxerrors",
    .single .u16 "fixed"]

def fileTransferProtocol : MessageSpec where
  id := 110
  name := "FILE_TRANSFER_PROTOCOL"
  fields := [
    .single .u8 "target_network",
    .single .u8 "target_system",
    .single .u8 "target_component",
    .array .u8 251 "payload"]

def timesync : MessageSpec where
  id := 111
  name := "TIMESYNC"
  fields := [
    .single .i64 "tc1",
    .single .i64 "ts1"]

def cameraTrigger : MessageSpec where
  id := 112
  name := "CAMERA_TRIGGER"
  fields := [
    .single .u64 "time_usec",
    .single .u32 "seq"]

def hilGps : MessageSpec where
  id := 113
  name := "HIL_GPS"
  fields := [
    .single .u64 "time_usec",
    .single .u8 "fix_type",
    .single .i32 "lat",
    .single .i32 "lon",
    .single .i32 "alt",
    .single .u16 "eph",
    .single .u16 "epv",
    .single .u16 "vel",
    .single .i16 "vn",
    .single .i16 "ve",
    .single .i16 "vd",
    .single .u16 "cog",
    .single .u8 "satellites_visible"]

def hilOpticalFlow : MessageSpec where
  id := 114
  name := "HIL_OPTICAL_FLOW"
  fields := [
    .single .u64 "time_usec",
    .single .u8 "sensor_id",
    .single .u32 "integration_time_us",
    .single .f32 "integrated_x",
    .single .f32 "integrated_y",
    .single .f32 "integrated_xgyro",
    .single .f32 "integrated_ygyro",
    .single .f32 "integrated_zgyro",
    .single .i16 "temperature",
    .single .u8 "quality",
    .single .u32 "time_delta_distance_us",
    .single .f32 "distance"]

def hilStateQuaternion : MessageSpec where
  id := 115
  name := "HIL_STATE_QUATERNION"
  fields := [
    .single .u64 "time_usec",
    .array .f32 4 "attitude_quaternion",
    .single .f32 "rollspeed",
    .single .f32 "pitchspeed",
    .single .f32 "yawspeed",
    .single .i32 "lat",
    .single .i32 "lon",
    .single .i32 "alt",
    .single .i16 "vx",
    .single .i16 "vy",
    .single .i16 "vz",
    .single .u16 "ind_airspeed",
    .single .u16 "true_airspeed",
    .single .i16 "xacc",
    .single .i16 "yacc",
    .single .i16 "zacc"]

def scaledImu2 : MessageSpec where
  id := 116
  name := "SCALED_IMU2"
  fields := [
    .single .u32 "time_boot_ms",
    .single .i16 "xacc",
    .single .i16 "yacc",
    .single .i16 "zacc",
    .single .i16 "xgyro",
    .single .i16 "ygyro",
    .single .i16 "zgyro",
    .single .i16 "xmag",
    .single .i16 "ymag",
    .single .i16 "zmag"]

def logRequestList : MessageSpec where
  id := 117
  name := "LOG_REQUEST_LIST"
  fields := [
    .single .u8 "target_system",
    .single .u8 "target_component",
    .single .u16 "start",
    .single .u16 "end"]

def logEntry : MessageSpec where
  id := 118
  name := "LOG_ENTRY"
  fields := [
    .single .u16 "id",
    .single .u16 "num_logs",
    .single .u16 "last_log_num",
    .single .u32 "time_utc",
    .single .u32 "size"]

def logRequestData : MessageSpec where
  id := 119
  name := "LOG_REQUEST_DATA"
  fields := [
    .single .u8 "target_system",
    .single .u8 "target_component",
    .single .u16 "id",
    .single .u32 "ofs",
    .single .u32 "count"]

def logData : MessageSpec where
  id := 120
  name := "LOG_DATA"
  fields := [
    .single .u16 "id",
    .single .u32 "ofs",
    .single .u8 "count",
    .array .u8 90 "data"]

def logErase : MessageSpec where
  id := 121
  name := "LOG_ERASE"
  fields := [
    .single .u8 "target_system",
    .single .u8 "target_component"]

def logRequestEnd : MessageSpec where
  id := 122
  name := "LOG_REQUEST_END"
  fields := [
    .single .u8 "target_system",
    .single .u8 "target_component"]

def gpsInjectData : MessageSpec where
  id := 123
  name := "GPS_INJECT_DATA"
  fields := [
    .single .u8 "target_system",
    .single .u8 "target_component",
    .single .u8 "len",
    .array .u8 110 "data"]

def gps2Raw : MessageSpec where
  id := 124
  name := "GPS2_RAW"
  fields := [
    .single .u64 "time_usec",
    .enumerated .u8 gpsFixType "fix_type",
    .single .i32 "lat",
    .single .i32 "lon",
    .single .i32 "alt",
    .single .u16 "eph",
    .single .u16 "epv",
    .single .u16 "vel",
    .single .u16 "cog",
    .single .u8 "satellites_visible",
    .single .u8 "dgps_numch",
    .single .u32 "dgps_age"]

def powerStatus : MessageSpec where
  id := 125
  name := "POWER_STATUS"
  fields := [
    .single .u16 "Vcc",
    .single .u16 "Vservo",
    .flags .u16 mavPowerStatus "flags"]

def serialControl : MessageSpec where
  id := 126
  name := "SERIAL_CONTROL"
  fields := [
    .enumerated .u8 serialControlDev "device",
    .flags .u8 serialControlFlag "flags",
    .single .u16 "timeout",
    .single .u32 "baudrate",
    .single .u8 "count",
    .array .u8 70 "data"]

def gpsRtk : MessageSpec where
  id := 127
  name := "GPS_RTK"
  fields := [
    .single .u32 "time_last_baseline_ms",
    .single .u8 "rtk_receiver_id",
    .single .u16 "wn",
    .single .u32 "tow",
    .single .u8 "rtk_health",
    .single .u8 "rtk_rate",
    .single .u8 "nsats",
    .enumerated .u8 rtkBaselineCoordinateSystem "baseline_coords_type",
    .single .i32 "baseline_a_mm",
    .single .i32 "baseline_b_mm",
    .single .i32 "baseline_c_mm",
    .single .u32 "accuracy",
    .single .i32 "iar_num_hypotheses"]

def gps2Rtk : MessageSpec where
  id := 128
  name := "GPS2_RTK"
  fields := [
    .single .u32 "time_last_baseline_ms",
    .single .u8 "rtk_receiver_id",
    .single .u16 "wn",
    .single .u32 "tow",
    .single .u8 "rtk_health",
    .single .u8 "rtk_rate",
    .single .u8 "nsats",
    .enumerated .u8 rtkBaselineCoordinateSystem "baseline_coords_type",
    .single .i32 "baseline_a_mm",
    .single .i32 "baseline_b_mm",
    .single .i32 "baseline_c_mm",
    .single .u32 "accuracy",
    .single .i32 "iar_num_hypotheses"]

def scaledImu3 : MessageSpec where
  id := 129
  name := "SCALED_IMU3"
  fields := [
    .single .u32 "time_boot_ms",
    .single .i16 "xacc",
    .single .i16 "yacc",
    .single .i16 "zacc",
    .single .i16 "xgyro",
    .single .i16 "ygyro",
    .single .i16 "zgyro",
    .single .i16 "xmag",
    .single .i16 "ymag",
    .single .i16 "zmag"]

def dataTransmissionHandshake : MessageSpec where
  id := 130
  name := "DATA_TRANSMISSION_HANDSHAKE"
  fields := [
    .enumerated .u8 mavlinkDataStreamType "type",
    .single .u32 "size",
    .single .u16 "width",
    .single .u16 "height",
    .single .u16 "packets",
    .single .u8 "payload",
    .single .u8 "jpg_quality"]

def encapsulatedData : MessageSpec where
  id := 131
  name := "ENCAPSULATED_DATA"
  fields := [
    .single .u16 "seqnr",
    .array .u8 253 "data"]

def distanceSensor : MessageSpec where
  id := 132
  name := "DISTANCE_SENSOR"
  fields := [
    .single .u32 "time_boot_ms",
    .single .u16 "min_distance",
    .single .u16 "max_distance",
    .single .u16 "current_distance",
    .enumerated .u8 mavDistanceSensor "type",
    .single .u8 "id",
    .enumerated .u8 mavSensorOrientation "orientation",
    .single .u8 "covariance"]

def terrainRequest : MessageSpec where
  id := 133
  name := "TERRAIN_REQUEST"
  fields := [
    .single .i32 "lat",
    .single .i32 "lon",
    .single .u16 "grid_spacing",
    .single .u64 "mask"]

def terrainData : MessageSpec where
  id := 134
  name := "TERRAIN_DATA"
  fields := [
    .single .i32 "lat",
    .single .i32 "lon",
    .single .u16 "grid_spacing",
    .single .u8 "gridbit",
    .array .i16 16 "data"]

def terrainCheck : MessageSpec where
  id := 135
  name := "TERRAIN_CHECK"
  fields := [
    .single .i32 "lat",
    .single .i32 "lon"]

def terrainReport : MessageSpec where
  id := 136
  name := "TERRAIN_REPORT"
  fields := [
    .single .i32 "lat",
    .single .i32 "lon",
    .single .u16 "spacing",
    .single .f32 "terrain_height",
    .single .f32 "current_height",
    .single .u16 "pending",
    .single .u16 "loaded"]

def scaledPressure2 : MessageSpec where
  id := 137
  name := "SCALED_PRESSURE2"
  fields := [
    .single .u32 "time_boot_ms",
    .single .f32 "press_abs",
    .single .f32 "press_diff",
    .single .i16 "temperature"]

def attPosMocap : MessageSpec where
  id := 138
  name := "ATT_POS_MOCAP"
  fields := [
    .single .u64 "time_usec",
    .array .f32 4 "q",
    .single .f32 "x",
    .single .f32 "y",
    .single .f32 "z"]

def setActuatorControlTarget : MessageSpec where
  id := 139
  name := "SET_ACTUATOR_CONTROL_TARGET"
  fields := [
    .single .u64 "time_usec",
    .single .u8 "group_mlx",
    .single .u8 "target_system",
    .single .u8 "target_component",
    .array .f32 8 "controls"]

def actuatorControlTarget : MessageSpec where
  id := 140
  name := "ACTUATOR_CONTROL_TARGET"
  fields := [
    .single .u64 "time_usec",
    .single .u8 "group_mlx",
    .array .f32 8 "controls"]

def altitude : MessageSpec where
  id := 141
  name := "ALTITUDE"
  fields := [
    .single .u64 "time_usec",
    .single .f32 "altitude_monotonic",
    .single .f32 "altitude_amsl",
    .single .f32 "altitude_local",
    .single .f32 "altitude_relative",
    .single .f32 "altitude_terrain",
    .single .f32 "bottom_clearance"]

def resourceRequest : MessageSpec where
  id := 142
  name := "RESOURCE_REQUEST"
  fields := [
    .single .u8 "request_id",
    .single .u8 "uri_type",
    .array .u8 120 "uri",
    .single .u8 "transfer_type",
    .array .u8 120 "storage"]

def scaledPressure3 : MessageSpec where
  id := 143
  name := "SCALED_PRESSURE3"
  fields := [
    .single .u32 "time_boot_ms",
    .single .f32 "press_abs",
    .single .f32 "press_diff",
    .single .i16 "temperature"]

def followTarget : MessageSpec where
  id := 144
  name := "FOLLOW_TARGET"
  fields := [
    .single .u64 "timestamp",
    .single .u8 "est_capabilities",
    .single .i32 "lat",
    .single .i32 "lon",
    .single .f32 "alt",
    .array .f32 3 "vel",
    .array .f32 3 "acc",
    .array .f32 4 "attitude_q",
    .array .f32 3 "rates",
    .array .f32 3 "position_cov",
    .single .u64 "custom_state"]

def controlSystemState : MessageSpec where
  id := 146
  name := "CONTROL_SYSTEM_STATE"
  fields := [
    .single .u64 "time_usec",
    .single .f32 "x_acc",
    .single .f32 "y_acc",
    .single .f32 "z_acc",
    .single .f32 "x_vel",
    .single .f32 "y_vel",
    .single .f32 "z_vel",
    .single .f32 "x_pos",
    .single .f32 "y_pos",
    .single .f32 "z_pos",
    .single .f32 "airspeed",
    .array .f32 3 "vel_variance",
    .array .f32 3 "pos_variance",
    .array .f32 4 "q",
    .single .f32 "roll_rate",
    .single .f32 "pitch_rate",
    .single .f32 "yaw_rate"]

def batteryStatus : MessageSpec where
  id := 147
  name := "BATTERY_STATUS"
  fields := [
    .single .u8 "id",
    .enumerated .u8 mavBatteryFunction "battery_function",
    .enumerated .u8 mavBatteryType "type",
    .single .i16 "temperature",
    .array .u16 10 "voltages",
    .single .i16 "current_battery",
    .single .i32 "current_consumed",
    .single .i32 "energy_consumed",
    .single .i8 "battery_remaining"]

def autopilotVersion : MessageSpec where
  id := 148
  name := "AUTOPILOT_VERSION"
  fields := [
    .flags .u64 mavProtocolCapability "capabilities",
    .single .u32 "flight_sw_version",
    .single .u32 "middleware_sw_version",
    .single .u32 "os_sw_version",
    .single .u32 "board_version",
    .array .u8 8 "flight_custom_version",
    .array .u8 8 "middleware_custom_version",
    .array .u8 8 "os_custom_version",
    .single .u16 "vendor_id",
    .single .u16 "product_id",
    .single .u64 "uid"]

def landingTarget : MessageSpec where
  id := 149
  name := "LANDING_TARGET"
  fields := [
    .single .u64 "time_usec",
    .single .u8 "target_num",
    .enumerated .u8 mavFrame "frame",
    .single .f32 "angle_x",
    .single .f32 "angle_y",
    .single .f32 "distance",
    .single .f32 "size_x",
    .single .f32 "size_y"]

end LinkTap.Mavlink.Dialect
