import LinkTap.Mavlink.Schema

/-!
# Enumerations of the standard dialect

The enumerations that message fields refer to, each with the numbers that name its variants.
A field whose number names no variant makes the whole message unreadable.
-/

set_option autoImplicit false

namespace LinkTap.Mavlink.Dialect

def mavType : EnumSpec where
  name := "MAV_TYPE"
  entries := [
    (0, "MAV_TYPE_GENERIC"),
    (1, "MAV_TYPE_FIXED_WING"),
    (2, "MAV_TYPE_QUADROTOR"),
    (3, "MAV_TYPE_COAXIAL"),
    (4, "MAV_TYPE_HELICOPTER"),
    (5, "MAV_TYPE_ANTENNA_TRACKER"),
    (6, "MAV_TYPE_GCS"),
    (7, "MAV_TYPE_AIRSHIP"),
    (8, "MAV_TYPE_FREE_BALLOON"),
    (9, "MAV_TYPE_ROCKET"),
    (10, "MAV_TYPE_GROUND_ROVER"),
    (11, "MAV_TYPE_SURFACE_BOAT"),
    (12, "MAV_TYPE_SUBMARINE"),
    (13, "MAV_TYPE_HEXAROTOR"),
    (14, "MAV_TYPE_OCTOROTOR"),
    (15, "MAV_TYPE_TRICOPTER"),
    (16, "MAV_TYPE_FLAPPING_WING"),
    (17, "MAV_TYPE_KITE"),
    (18, "MAV_TYPE_ONBOARD_CONTROLLER"),
    (19, "MAV_TYPE_VTOL_TAILSITTER_DUOROTOR"),
    (20, "MAV_TYPE_VTOL_TAILSITTER_QUADROTOR"),
    (21, "MAV_TYPE_VTOL_TILTROTOR"),
    (22, "MAV_TYPE_VTOL_FIXEDROTOR"),
    (23, "MAV_TYPE_VTOL_TAILSITTER"),
    (24, "MAV_TYPE_VTOL_TILTWING"),
    (25, "MAV_TYPE_VTOL_RESERVED5"),
    (26, "MAV_TYPE_GIMBAL"),
    (27, "MAV_TYPE_ADSB"),
    (28, "MAV_TYPE_PARAFOIL"),
    (29, "MAV_TYPE_DODECAROTOR"),
    (30, "MAV_TYPE_CAMERA"),
    (31, "MAV_TYPE_CHARGING_STATION"),
    (32, "MAV_TYPE_FLARM"),
    (33, "MAV_TYPE_SERVO"),
    (34, "MAV_TYPE_ODID"),
    (35, "MAV_TYPE_DECAROTOR"),
    (36, "MAV_TYPE_BATTERY"),
    (37, "MAV_TYPE_PARACHUTE"),
    (38, "MAV_TYPE_LOG"),
    (39, "MAV_TYPE_OSD"),
    (40, "MAV_TYPE_IMU"),
    (41, "MAV_TYPE_GPS"),
    (42, "MAV_TYPE_WINCH")]

def mavAutopilot : EnumSpec where
  name := "MAV_AUTOPILOT"
  entries := [
    (0, "MAV_AUTOPILOT_GENERIC"),
    (1, "MAV_AUTOPILOT_RESERVED"),
    (2, "MAV_AUTOPILOT_SLUGS"),
    (3, "MAV_AUTOPILOT_ARDUPILOTMEGA"),
    (4, "MAV_AUTOPILOT_OPENPILOT"),
    (5, "MAV_AUTOPILOT_GENERIC_WAYPOINTS_ONLY"),
    (6, "MAV_AUTOPILOT_GENERIC_WAYPOINTS_AND_SIMPLE_NAVIGATION_ONLY"),
    (7, "MAV_AUTOPILOT_GENERIC_MISSION_FULL"),
    (8, "MAV_AUTOPILOT_INVALID"),
    (9, "MAV_AUTOPILOT_PPZ"),
    (10, "MAV_AUTOPILOT_UDB"),
    (11, "MAV_AUTOPILOT_FP"),
    (12, "MAV_AUTOPILOT_PX4"),
    (13, "MAV_AUTOPILOT_SMACCMPILOT"),
    (14, "MAV_AUTOPILOT_AUTOQUAD"),
    (15, "MAV_AUTOPILOT_ARMAZILA"),
    (16, "MAV_AUTOPILOT_AEROB"),
    (17, "MAV_AUTOPILOT_ASLUAV"),
    (18, "MAV_AUTOPILOT_SMARTAP"),
    (19, "MAV_AUTOPILOT_AIRRAILS"),
    (20, "MAV_AUTOPILOT_REFLEX")]

def mavState : EnumSpec where
  name := "MAV_STATE"
  entries := [
    (0, "MAV_STATE_UNINIT"),
    (1, "MAV_STATE_BOOT"),
    (2, "MAV_STATE_CALIBRATING"),
    (3, "MAV_STATE_STANDBY"),
    (4, "MAV_STATE_ACTIVE"),
    (5, "MAV_STATE_CRITICAL"),
    (6, "MAV_STATE_EMERGENCY"),
    (7, "MAV_STATE_POWEROFF"),
    (8, "MAV_STATE_FLIGHT_TERMINATION")]

def mavMode : EnumSpec where
  name := "MAV_MODE"
  entries := [
    (0, "MAV_MODE_PREFLIGHT"),
    (80, "MAV_MODE_STABILIZE_DISARMED"),
    (208, "MAV_MODE_STABILIZE_ARMED"),
    (64, "MAV_MODE_MANUAL_DISARMED"),
    (192, "MAV_MODE_MANUAL_ARMED"),
    (88, "MAV_MODE_GUIDED_DISARMED"),
    (216, "MAV_MODE_GUIDED_ARMED"),
    (92, "MAV_MODE_AUTO_DISARMED"),
    (220, "MAV_MODE_AUTO_ARMED"),
    (66, "MAV_MODE_TEST_DISARMED"),
    (194, "MAV_MODE_TEST_ARMED")]

def mavParamType : EnumSpec where
  name := "MAV_PARAM_TYPE"
  entries := [
    (1, "MAV_PARAM_TYPE_UINT8"),
    (2, "MAV_PARAM_TYPE_INT8"),
    (3, "MAV_PARAM_TYPE_UINT16"),
    (4, "MAV_PARAM_TYPE_INT16"),
    (5, "MAV_PARAM_TYPE_UINT32"),
    (6, "MAV_PARAM_TYPE_INT32"),
    (7, "MAV_PARAM_TYPE_UINT64"),
    (8, "MAV_PARAM_TYPE_INT64"),
    (9, "MAV_PARAM_TYPE_REAL32"),
    (10, "MAV_PARAM_TYPE_REAL64")]

def mavParamExtType : EnumSpec where
  name := "MAV_PARAM_EXT_TYPE"
  entries := [
    (1, "MAV_PARAM_EXT_TYPE_UINT8"),
    (2, "MAV_PARAM_EXT_TYPE_INT8"),
    (3, "MAV_PARAM_EXT_TYPE_UINT16"),
    (4, "MAV_PARAM_EXT_TYPE_INT16"),
    (5, "MAV_PARAM_EXT_TYPE_UINT32"),
    (6, "MAV_PARAM_EXT_TYPE_INT32"),
    (7, "MAV_PARAM_EXT_TYPE_UINT64"),
    (8, "MAV_PARAM_EXT_TYPE_INT64"),
    (9, "MAV_PARAM_EXT_TYPE_REAL32"),
    (10, "MAV_PARAM_EXT_TYPE_REAL64"),
    (11, "MAV_PARAM_EXT_TYPE_CUSTOM")]

def gpsFixType : EnumSpec where
  name := "GPS_FIX_TYPE"
  entries := [
    (0, "GPS_FIX_TYPE_NO_GPS"),
    (1, "GPS_FIX_TYPE_NO_FIX"),
    (2, "GPS_FIX_TYPE_2D_FIX"),
    (3, "GPS_FIX_TYPE_3D_FIX"),
    (4, "GPS_FIX_TYPE_DGPS"),
    (5, "GPS_FIX_TYPE_RTK_FLOAT"),
    (6, "GPS_FIX_TYPE_RTK_FIXED"),
    (7, "GPS_FIX_TYPE_STATIC"),
    (8, "GPS_FIX_TYPE_PPP")]

def mavFrame : EnumSpec where
  name := "MAV_FRAME"
  entries := [
    (0, "MAV_FRAME_GLOBAL"),
    (1, "MAV_FRAME_LOCAL_NED"),
    (2, "MAV_FRAME_MISSION"),
    (3, "MAV_FRAME_GLOBAL_RELATIVE_ALT"),
    (4, "MAV_FRAME_LOCAL_ENU"),
    (5, "MAV_FRAME_GLOBAL_INT"),
    (6, "MAV_FRAME_GLOBAL_RELATIVE_ALT_INT"),
    (7, "MAV_FRAME_LOCAL_OFFSET_NED"),
    (8, "MAV_FRAME_BODY_NED"),
    (9, "MAV_FRAME_BODY_OFFSET_NED"),
    (10, "MAV_FRAME_GLOBAL_TERRAIN_ALT"),
    (11, "MAV_FRAME_GLOBAL_TERRAIN_ALT_INT"),
    (12, "MAV_FRAME_BODY_FRD"),
    (13, "MAV_FRAME_RESERVED_13"),
    (14, "MAV_FRAME_RESERVED_14"),
    (15, "MAV_FRAME_RESERVED_15"),
    (16, "MAV_FRAME_RESERVED_16"),
    (17, "MAV_FRAME_RESERVED_17"),
    (18, "MAV_FRAME_RESERVED_18"),
    (19, "MAV_FRAME_RESERVED_19"),
    (20, "MAV_FRAME_LOCAL_FRD"),
    (21, "MAV_FRAME_LOCAL_FLU")]

def mavMissionResult : EnumSpec where
  name := "MAV_MISSION_RESULT"
  entries := [
    (0, "MAV_MISSION_ACCEPTED"),
    (1, "MAV_MISSION_ERROR"),
    (2, "MAV_MISSION_UNSUPPORTED_FRAME"),
    (3, "MAV_MISSION_UNSUPPORTED"),
    (4, "MAV_MISSION_NO_SPACE"),
    (5, "MAV_MISSION_INVALID"),
    (6, "MAV_MISSION_INVALID_PARAM1"),
    (7, "MAV_MISSION_INVALID_PARAM2"),
    (8, "MAV_MISSION_INVALID_PARAM3"),
    (9, "MAV_MISSION_INVALID_PARAM4"),
    (10, "MAV_MISSION_INVALID_PARAM5_X"),
    (11, "MAV_MISSION_INVALID_PARAM6_Y"),
    (12, "MAV_MISSION_INVALID_PARAM7"),
    (13, "MAV_MISSION_INVALID_SEQUENCE"),
    (14, "MAV_MISSION_DENIED"),
    (15, "MAV_MISSION_OPERATION_CANCELLED")]

def mavEstimatorType : EnumSpec where
  name := "MAV_ESTIMATOR_TYPE"
  entries := [
    (0, "MAV_ESTIMATOR_TYPE_UNKNOWN"),
    (1, "MAV_ESTIMATOR_TYPE_NAIVE"),
    (2, "MAV_ESTIMATOR_TYPE_VISION"),
    (3, "MAV_ESTIMATOR_TYPE_VIO"),
    (4, "MAV_ESTIMATOR_TYPE_GPS"),
    (5, "MAV_ESTIMATOR_TYPE_GPS_INS"),
    (6, "MAV_ESTIMATOR_TYPE_MOCAP"),
    (7, "MAV_ESTIMATOR_TYPE_LIDAR"),
    (8, "MAV_ESTIMATOR_TYPE_AUTOPILOT")]

def mavResult : EnumSpec where
  name := "MAV_RESULT"
  entries := [
    (0, "MAV_RESULT_ACCEPTED"),
    (1, "MAV_RESULT_TEMPORARILY_REJECTED"),
    (2, "MAV_RESULT_DENIED"),
    (3, "MAV_RESULT_UNSUPPORTED"),
    (4, "MAV_RESULT_FAILED"),
    (5, "MAV_RESULT_IN_PROGRESS"),
    (6, "MAV_RESULT_CANCELLED")]

def serialControlDev : EnumSpec where
  name := "SERIAL_CONTROL_DEV"
  entries := [
    (0, "SERIAL_CONTROL_DEV_TELEM1"),
    (1, "SERIAL_CONTROL_DEV_TELEM2"),
    (2, "SERIAL_CONTROL_DEV_GPS1"),
    (3, "SERIAL_CONTROL_DEV_GPS2"),
    (10, "SERIAL_CONTROL_DEV_SHELL"),
    (100, "SERIAL_CONTROL_SERIAL0"),
    (101, "SERIAL_CONTROL_SERIAL1"),
    (102, "SERIAL_CONTROL_SERIAL2"),
    (103, "SERIAL_CONTROL_SERIAL3"),
    (104, "SERIAL_CONTROL_SERIAL4"),
    (105, "SERIAL_CONTROL_SERIAL5"),
    (106, "SERIAL_CONTROL_SERIAL6"),
    (107, "SERIAL_CONTROL_SERIAL7"),
    (108, "SERIAL_CONTROL_SERIAL8"),
    (109, "SERIAL_CONTROL_SERIAL9")]

def rtkBaselineCoordinateSystem : EnumSpec where
  name := "RTK_BASELINE_COORDINATE_SYSTEM"
  entries := [
    (0, "RTK_BASELINE_COORDINATE_SYSTEM_ECEF"),
    (1, "RTK_BASELINE_COORDINATE_SYSTEM_NED")]

def mavlinkDataStreamType : EnumSpec where
  name := "MAVLINK_DATA_STREAM_TYPE"
  entries := [
    (0, "MAVLINK_DATA_STREAM_IMG_JPEG"),
    (1, "MAVLINK_DATA_STREAM_IMG_BMP"),
    (2, "MAVLINK_DATA_STREAM_IMG_RAW8U"),
    (3, "MAVLINK_DATA_STREAM_IMG_RAW32U"),
    (4, "MAVLINK_DATA_STREAM_IMG_PGM"),
    (5, "MAVLINK_DATA_STREAM_IMG_PNG")]

def mavDistanceSensor : EnumSpec where
  name := "MAV_DISTANCE_SENSOR"
  entries := [
    (0, "MAV_DISTANCE_SENSOR_LASER"),
    (1, "MAV_DISTANCE_SENSOR_ULTRASOUND"),
    (2, "MAV_DISTANCE_SENSOR_INFRARED"),
    (3, "MAV_DISTANCE_SENSOR_RADAR"),
    (4, "MAV_DISTANCE_SENSOR_UNKNOWN")]

def mavSensorOrientation : EnumSpec where
  name := "MAV_SENSOR_ORIENTATION"
  entries := [
    (0, "MAV_SENSOR_ROTATION_NONE"),
    (1, "MAV_SENSOR_ROTATION_YAW_45"),
    (2, "MAV_SENSOR_ROTATION_YAW_90"),
    (3, "MAV_SENSOR_ROTATION_YAW_135"),
    (4, "MAV_SENSOR_ROTATION_YAW_180"),
    (5, "MAV_SENSOR_ROTATION_YAW_225"),
    (6, "MAV_SENSOR_ROTATION_YAW_270"),
    (7, "MAV_SENSOR_ROTATION_YAW_315"),
    (8, "MAV_SENSOR_ROTATION_ROLL_180"),
    (9, "MAV_SENSOR_ROTATION_ROLL_180_YAW_45"),
    (10, "MAV_SENSOR_ROTATION_ROLL_180_YAW_90"),
    (11, "MAV_SENSOR_ROTATION_ROLL_180_YAW_135"),
    (12, "MAV_SENSOR_ROTATION_PITCH_180"),
    (13, "MAV_SENSOR_ROTATION_ROLL_180_YAW_225"),
    (14, "MAV_SENSOR_ROTATION_ROLL_180_YAW_270"),
    (15, "MAV_SENSOR_ROTATION_ROLL_180_YAW_315"),
    (16, "MAV_SENSOR_ROTATION_ROLL_90"),
    (17, "MAV_SENSOR_ROTATION_ROLL_90_YAW_45"),
    (18, "MAV_SENSOR_ROTATION_ROLL_90_YAW_90"),
    (19, "MAV_SENSOR_ROTATION_ROLL_90_YAW_135"),
    (20, "MAV_SENSOR_ROTATION_ROLL_270"),
    (21, "MAV_SENSOR_ROTATION_ROLL_270_YAW_45"),
    (22, "MAV_SENSOR_ROTATION_ROLL_270_YAW_90"),
    (23, "MAV_SENSOR_ROTATION_ROLL_270_YAW_135"),
    (24, "MAV_SENSOR_ROTATION_PITCH_90"),
    (25, "MAV_SENSOR_ROTATION_PITCH_270"),
    (26, "MAV_SENSOR_ROTATION_PITCH_180_YAW_90"),
    (27, "MAV_SENSOR_ROTATION_PITCH_180_YAW_270"),
    (28, "MAV_SENSOR_ROTATION_ROLL_90_PITCH_90"),
    (29, "MAV_SENSOR_ROTATION_ROLL_180_PITCH_90"),
    (30, "MAV_SENSOR_ROTATION_ROLL_270_PITCH_90"),
    (31, "MAV_SENSOR_ROTATION_ROLL_90_PITCH_180"),
    (32, "MAV_SENSOR_ROTATION_ROLL_270_PITCH_180"),
    (33, "MAV_SENSOR_ROTATION_ROLL_90_PITCH_270"),
    (34, "MAV_SENSOR_ROTATION_ROLL_180_PITCH_270"),
    (35, "MAV_SENSOR_ROTATION_ROLL_270_PITCH_270"),
    (36, "MAV_SENSOR_ROTATION_ROLL_90_PITCH_180_YAW_90"),
    (37, "MAV_SENSOR_ROTATION_ROLL_90_YAW_270"),
    (38, "MAV_SENSOR_ROTATION_ROLL_90_PITCH_68_YAW_293"),
    (39, "MAV_SENSOR_ROTATION_PITCH_315"),
    (40, "MAV_SENSOR_ROTATION_ROLL_90_PITCH_315"),
    (100, "MAV_SENSOR_ROTATION_CUSTOM")]

def mavBatteryFunction : EnumSpec where
  name := "MAV_BATTERY_FUNCTION"
  entries := [
    (0, "MAV_BATTERY_FUNCTION_UNKNOWN"),
    (1, "MAV_BATTERY_FUNCTION_ALL"),
    (2, "MAV_BATTERY_FUNCTION_PROPULSION"),
    (3, "MAV_BATTERY_FUNCTION_AVIONICS"),
    (4, "MAV_BATTERY_FUNCTION_PAYLOAD")]

def mavBatteryType : EnumSpec where
  name := "MAV_BATTERY_TYPE"
  entries := [
    (0, "MAV_BATTERY_TYPE_UNKNOWN"),
    (1, "MAV_BATTERY_TYPE_LIPO"),
    (2, "MAV_BATTERY_TYPE_LIFE"),
    (3, "MAV_BATTERY_TYPE_LION"),
    (4, "MAV_BATTERY_TYPE_NIMH")]

def fenceBreach : EnumSpec where
  name := "FENCE_BREACH"
  entries := [
    (0, "FENCE_BREACH_NONE"),
    (1, "FENCE_BREACH_MINALT"),
    (2, "FENCE_BREACH_MAXALT"),
    (3, "FENCE_BREACH_BOUNDARY")]

def magCalStatus : EnumSpec where
  name := "MAG_CAL_STATUS"
  entries := [
    (0, "MAG_CAL_NOT_STARTED"),
    (1, "MAG_CAL_WAITING_TO_START"),
    (2, "MAG_CAL_RUNNING_STEP_ONE"),
    (3, "MAG_CAL_RUNNING_STEP_TWO"),
    (4, "MAG_CAL_SUCCESS"),
    (5, "MAG_CAL_FAILED"),
    (6, "MAG_CAL_BAD_ORIENTATION"),
    (7, "MAG_CAL_BAD_RADIUS")]

def mavLandedState : EnumSpec where
  name := "MAV_LANDED_STATE"
  entries := [
    (0, "MAV_LANDED_STATE_UNDEFINED"),
    (1, "MAV_LANDED_STATE_ON_GROUND"),
    (2, "MAV_LANDED_STATE_IN_AIR"),
    (3, "MAV_LANDED_STATE_TAKEOFF"),
    (4, "MAV_LANDED_STATE_LANDING")]

def mavVtolState : EnumSpec where
  name := "MAV_VTOL_STATE"
  entries := [
    (0, "MAV_VTOL_STATE_UNDEFINED"),
    (1, "MAV_VTOL_STATE_TRANSITION_TO_FW"),
    (2, "MAV_VTOL_STATE_TRANSITION_TO_MC"),
    (3, "MAV_VTOL_STATE_MC"),
    (4, "MAV_VTOL_STATE_FW")]

def adsbAltitudeType : EnumSpec where
  name := "ADSB_ALTITUDE_TYPE"
  entries := [
    (0, "ADSB_ALTITUDE_TYPE_PRESSURE_QNH"),
    (1, "ADSB_ALTITUDE_TYPE_GEOMETRIC")]

def adsbEmitterType : EnumSpec where
  name := "ADSB_EMITTER_TYPE"
  entries := [
    (0, "ADSB_EMITTER_TYPE_NO_INFO"),
    (1, "ADSB_EMITTER_TYPE_LIGHT"),
    (2, "ADSB_EMITTER_TYPE_SMALL"),
    (3, "ADSB_EMITTER_TYPE_LARGE"),
    (4, "ADSB_EMITTER_TYPE_HIGH_VORTEX_LARGE"),
    (5, "ADSB_EMITTER_TYPE_HEAVY"),
    (6, "ADSB_EMITTER_TYPE_HIGHLY_MANUV"),
    (7, "ADSB_EMITTER_TYPE_ROTOCRAFT"),
    (8, "ADSB_EMITTER_TYPE_UNASSIGNED"),
    (9, "ADSB_EMITTER_TYPE_GLIDER"),
    (10, "ADSB_EMITTER_TYPE_LIGHTER_AIR"),
    (11, "ADSB_EMITTER_TYPE_PARACHUTE"),
    (12, "ADSB_EMITTER_TYPE_ULTRA_LIGHT"),
    (13, "ADSB_EMITTER_TYPE_UNASSIGNED2"),
    (14, "ADSB_EMITTER_TYPE_UAV"),
    (15, "ADSB_EMITTER_TYPE_SPACE"),
    (16, "ADSB_EMITTER_TYPE_UNASSGINED3"),
    (17, "ADSB_EMITTER_TYPE_EMERGENCY_SURFACE"),
    (18, "ADSB_EMITTER_TYPE_SERVICE_SURFACE"),
    (19, "ADSB_EMITTER_TYPE_POINT_OBSTACLE")]

def mavCollisionSrc : EnumSpec where
  name := "MAV_COLLISION_SRC"
  entries := [
    (0, "MAV_COLLISION_SRC_ADSB"),
    (1, "MAV_COLLISION_SRC_MAVLINK_GPS_GLOBAL_INT")]

def mavCollisionAction : EnumSpec where
  name := "MAV_COLLISION_ACTION"
  entries := [
    (0, "MAV_COLLISION_ACTION_NONE"),
    (1, "MAV_COLLISION_ACTION_REPORT"),
    (2, "MAV_COLLISION_ACTION_ASCEND_OR_DESCEND"),
    (3, "MAV_COLLISION_ACTION_MOVE_HORIZONTALLY"),
    (4, "MAV_COLLISION_ACTION_MOVE_PERPENDICULAR"),
    (5, "MAV_COLLISION_ACTION_RTL"),
    (6, "MAV_COLLISION_ACTION_HOVER")]

def mavCollisionThreatLevel : EnumSpec where
  name := "MAV_COLLISION_THREAT_LEVEL"
  entries := [
    (0, "MAV_COLLISION_THREAT_LEVEL_NONE"),
    (1, "MAV_COLLISION_THREAT_LEVEL_LOW"),
    (2, "MAV_COLLISION_THREAT_LEVEL_HIGH")]

def mavSeverity : EnumSpec where
  name := "MAV_SEVERITY"
  entries := [
    (0, "MAV_SEVERITY_EMERGENCY"),
    (1, "MAV_SEVERITY_ALERT"),
    (2, "MAV_SEVERITY_CRITICAL"),
    (3, "MAV_SEVERITY_ERROR"),
    (4, "MAV_SEVERITY_WARNING"),
    (5, "MAV_SEVERITY_NOTICE"),
    (6, "MAV_SEVERITY_INFO"),
    (7, "MAV_SEVERITY_DEBUG")]

def cameraMode : EnumSpec where
  name := "CAMERA_MODE"
  entries := [
    (0, "CAMERA_MODE_IMAGE"),
    (1, "CAMERA_MODE_VIDEO"),
    (2, "CAMERA_MODE_IMAGE_SURVEY")]

def storageStatus : EnumSpec where
  name := "STORAGE_STATUS"
  entries := [
    (0, "STORAGE_STATUS_EMPTY"),
    (1, "STORAGE_STATUS_UNFORMATTED"),
    (2, "STORAGE_STATUS_READY"),
    (3, "STORAGE_STATUS_NOT_SUPPORTED")]

def videoStreamType : EnumSpec where
  name := "VIDEO_STREAM_TYPE"
  entries := [
    (0, "VIDEO_STREAM_TYPE_RTSP"),
    (1, "VIDEO_STREAM_TYPE_RTPUDP"),
    (2, "VIDEO_STREAM_TYPE_TCP_MPEG"),
    (3, "VIDEO_STREAM_TYPE_MPEG_TS_H264")]

def cameraTrackingStatusFlags : EnumSpec where
  name := "CAMERA_TRACKING_STATUS_FLAGS"
  entries := [
    (0, "CAMERA_TRACKING_STATUS_FLAGS_IDLE"),
    (1, "CAMERA_TRACKING_STATUS_FLAGS_ACTIVE"),
    (2, "CAMERA_TRACKING_STATUS_FLAGS_ERROR")]

def cameraTrackingMode : EnumSpec where
  name := "CAMERA_TRACKING_MODE"
  entries := [
    (0, "CAMERA_TRACKING_MODE_NONE"),
    (1, "CAMERA_TRACKING_MODE_POINT"),
    (2, "CAMERA_TRACKING_MODE_RECTANGLE")]

def escConnectionType : EnumSpec where
  name := "ESC_CONNECTION_TYPE"
  entries := [
    (0, "ESC_CONNECTION_TYPE_PPM"),
    (1, "ESC_CONNECTION_TYPE_SERIAL"),
    (2, "ESC_CONNECTION_TYPE_ONESHOT"),
    (3, "ESC_CONNECTION_TYPE_I2C"),
    (4, "ESC_CONNECTION_TYPE_CAN"),
    (5, "ESC_CONNECTION_TYPE_DSHOT")]

def aisNavStatus : EnumSpec where
  name := "AIS_NAV_STATUS"
  entries := [
    (0, "UNDER_WAY"),
    (1, "AIS_NAV_ANCHORED"),
    (2, "AIS_NAV_UN_COMMANDED"),
    (3, "AIS_NAV_RESTRICTED_MANOEUVERABILITY"),
    (4, "AIS_NAV_DRAUGHT_CONSTRAINED"),
    (5, "AIS_NAV_MOORED"),
    (6, "AIS_NAV_AGROUND"),
    (7, "AIS_NAV_FISHING"),
    (8, "AIS_NAV_SAILING"),
    (9, "AIS_NAV_RESERVED_HSC"),
    (10, "AIS_NAV_RESERVED_WIG"),
    (11, "AIS_NAV_RESERVED_1"),
    (12, "AIS_NAV_RESERVED_2"),
    (13, "AIS_NAV_RESERVED_3"),
    (14, "AIS_NAV_AIS_SART"),
    (15, "AIS_NAV_UNKNOWN")]

def aisType : EnumSpec where
  name := "AIS_TYPE"
  entries := [
    (0, "AIS_TYPE_UNKNOWN"),
    (1, "AIS_TYPE_RESERVED_1"),
    (2, "AIS_TYPE_RESERVED_2"),
    (3, "AIS_TYPE_RESERVED_3"),
    (4, "AIS_TYPE_RESERVED_4"),
    (5, "AIS_TYPE_RESERVED_5"),
    (6, "AIS_TYPE_RESERVED_6"),
    (7, "AIS_TYPE_RESERVED_7"),
    (8, "AIS_TYPE_RESERVED_8"),
    (9, "AIS_TYPE_RESERVED_9"),
    (10, "AIS_TYPE_RESERVED_10"),
    (11, "AIS_TYPE_RESERVED_11"),
    (12, "AIS_TYPE_RESERVED_12"),
    (13, "AIS_TYPE_RESERVED_13"),
    (14, "AIS_TYPE_RESERVED_14"),
    (15, "AIS_TYPE_RESERVED_15"),
    (16, "AIS_TYPE_RESERVED_16"),
    (17, "AIS_TYPE_RESERVED_17"),
    (18, "AIS_TYPE_RESERVED_18"),
    (19, "AIS_TYPE_RESERVED_19"),
    (20, "AIS_TYPE_WIG"),
    (21, "AIS_TYPE_WIG_HAZARDOUS_A"),
    (22, "AIS_TYPE_WIG_HAZARDOUS_B"),
    (23, "AIS_TYPE_WIG_HAZARDOUS_C"),
    (24, "AIS_TYPE_WIG_HAZARDOUS_D"),
    (25, "AIS_TYPE_WIG_RESERVED_1"),
    (26, "AIS_TYPE_WIG_RESERVED_2"),
    (27, "AIS_TYPE_WIG_RESERVED_3"),
    (28, "AIS_TYPE_WIG_RESERVED_4"),
    (29, "AIS_TYPE_WIG_RESERVED_5"),
    (30, "AIS_TYPE_FISHING"),
    (31, "AIS_TYPE_TOWING"),
    (32, "AIS_TYPE_TOWING_LARGE"),
    (33, "AIS_TYPE_DREDGING"),
    (34, "AIS_TYPE_DIVING"),
    (35, "AIS_TYPE_MILITARY"),
    (36, "AIS_TYPE_SAILING"),
    (37, "AIS_TYPE_PLEASURE"),
    (38, "AIS_TYPE_RESERVED_20"),
    (39, "AIS_TYPE_RESERVED_21"),
    (40, "AIS_TYPE_HSC"),
    (41, "AIS_TYPE_HSC_HAZARDOUS_A"),
    (42, "AIS_TYPE_HSC_HAZARDOUS_B"),
    (43, "AIS_TYPE_HSC_HAZARDOUS_C"),
    (44, "AIS_TYPE_HSC_HAZARDOUS_D"),
    (45, "AIS_TYPE_HSC_RESERVED_1"),
    (46, "AIS_TYPE_HSC_RESERVED_2"),
    (47, "AIS_TYPE_HSC_RESERVED_3"),
    (48, "AIS_TYPE_HSC_RESERVED_4"),
    (49, "AIS_TYPE_HSC_UNKNOWN"),
    (50, "AIS_TYPE_PILOT"),
    (51, "AIS_TYPE_SAR"),
    (52, "AIS_TYPE_TUG"),
    (53, "AIS_TYPE_PORT_TENDER"),
    (54, "AIS_TYPE_ANTI_POLLUTION"),
    (55, "AIS_TYPE_LAW_ENFORCEMENT"),
    (56, "AIS_TYPE_SPARE_LOCAL_1"),
    (57, "AIS_TYPE_SPARE_LOCAL_2"),
    (58, "AIS_TYPE_MEDICAL_TRANSPORT"),
    (59, "AIS_TYPE_NONECOMBATANT"),
    (60, "AIS_TYPE_PASSENGER"),
    (61, "AIS_TYPE_PASSENGER_HAZARDOUS_A"),
    (62, "AIS_TYPE_PASSENGER_HAZARDOUS_B"),
    (63, "AIS_TYPE_PASSENGER_HAZARDOUS_C"),
    (64, "AIS_TYPE_PASSENGER_HAZARDOUS_D"),
    (65, "AIS_TYPE_PASSENGER_RESERVED_1"),
    (66, "AIS_TYPE_PASSENGER_RESERVED_2"),
    (67, "AIS_TYPE_PASSENGER_RESERVED_3"),
    (68, "AIS_TYPE_PASSENGER_RESERVED_4"),
    (69, "AIS_TYPE_PASSENGER_UNKNOWN"),
    (70, "AIS_TYPE_CARGO"),
    (71, "AIS_TYPE_CARGO_HAZARDOUS_A"),
    (72, "AIS_TYPE_CARGO_HAZARDOUS_B"),
    (73, "AIS_TYPE_CARGO_HAZARDOUS_C"),
    (74, "AIS_TYPE_CARGO_HAZARDOUS_D"),
    (75, "AIS_TYPE_CARGO_RESERVED_1"),
    (76, "AIS_TYPE_CARGO_RESERVED_2"),
    (77, "AIS_TYPE_CARGO_RESERVED_3"),
    (78, "AIS_TYPE_CARGO_RESERVED_4"),
    (79, "AIS_TYPE_CARGO_UNKNOWN"),
    (80, "AIS_TYPE_TANKER"),
    (81, "AIS_TYPE_TANKER_HAZARDOUS_A"),
    (82, "AIS_TYPE_TANKER_HAZARDOUS_B"),
    (83, "AIS_TYPE_TANKER_HAZARDOUS_C"),
    (84, "AIS_TYPE_TANKER_HAZARDOUS_D"),
    (85, "AIS_TYPE_TANKER_RESERVED_1"),
    (86, "AIS_TYPE_TANKER_RESERVED_2"),
    (87, "AIS_TYPE_TANKER_RESERVED_3"),
    (88, "AIS_TYPE_TANKER_RESERVED_4"),
    (89, "AIS_TYPE_TANKER_UNKNOWN"),
    (90, "AIS_TYPE_OTHER"),
    (91, "AIS_TYPE_OTHER_HAZARDOUS_A"),
    (92, "AIS_TYPE_OTHER_HAZARDOUS_B"),
    (93, "AIS_TYPE_OTHER_HAZARDOUS_C"),
    (94, "AIS_TYPE_OTHER_HAZARDOUS_D"),
    (95, "AIS_TYPE_OTHER_RESERVED_1"),
    (96, "AIS_TYPE_OTHER_RESERVED_2"),
    (97, "AIS_TYPE_OTHER_RESERVED_3"),
    (98, "AIS_TYPE_OTHER_RESERVED_4"),
    (99, "AIS_TYPE_OTHER_UNKNOWN")]

def uavcanNodeHealth : EnumSpec where
  name := "UAVCAN_NODE_HEALTH"
  entries := [
    (0, "UAVCAN_NODE_HEALTH_OK"),
    (1, "UAVCAN_NODE_HEALTH_WARNING"),
    (2, "UAVCAN_NODE_HEALTH_ERROR"),
    (3, "UAVCAN_NODE_HEALTH_CRITICAL")]

def uavcanNodeMode : EnumSpec where
  name := "UAVCAN_NODE_MODE"
  entries := [
    (0, "UAVCAN_NODE_MODE_OPERATIONAL"),
    (1, "UAVCAN_NODE_MODE_INITIALIZATION"),
    (2, "UAVCAN_NODE_MODE_MAINTENANCE"),
    (3, "UAVCAN_NODE_MODE_SOFTWARE_UPDATE"),
    (7, "UAVCAN_NODE_MODE_OFFLINE")]

def paramAck : EnumSpec where
  name := "PARAM_ACK"
  entries := [
    (0, "PARAM_ACK_ACCEPTED"),
    (1, "PARAM_ACK_VALUE_UNSUPPORTED"),
    (2, "PARAM_ACK_FAILED"),
    (3, "PARAM_ACK_IN_PROGRESS")]

def cellularStatusFlag : EnumSpec where
  name := "CELLULAR_STATUS_FLAG"
  entries := [
    (0, "CELLULAR_STATUS_FLAG_UNKNOWN"),
    (1, "CELLULAR_STATUS_FLAG_FAILED"),
    (2, "CELLULAR_STATUS_FLAG_INITIALIZING"),
    (3, "CELLULAR_STATUS_FLAG_LOCKED"),
    (4, "CELLULAR_STATUS_FLAG_DISABLED"),
    (5, "CELLULAR_STATUS_FLAG_DISABLING"),
    (6, "CELLULAR_STATUS_FLAG_ENABLING"),
    (7, "CELLULAR_STATUS_FLAG_ENABLED"),
    (8, "CELLULAR_STATUS_FLAG_SEARCHING"),
    (9, "CELLULAR_STATUS_FLAG_REGISTERED"),
    (10, "CELLULAR_STATUS_FLAG_DISCONNECTING"),
    (11, "CELLULAR_STATUS_FLAG_CONNECTING"),
    (12, "CELLULAR_STATUS_FLAG_CONNECTED")]

def cellularNetworkFailedReason : EnumSpec where
  name := "CELLULAR_NETWORK_FAILED_REASON"
  entries := [
    (0, "CELLULAR_NETWORK_FAILED_REASON_NONE"),
    (1, "CELLULAR_NETWORK_FAILED_REASON_UNKNOWN"),
    (2, "CELLULAR_NETWORK_FAILED_REASON_SIM_MISSING"),
    (3, "CELLULAR_NETWORK_FAILED_REASON_SIM_ERROR")]

def cellularNetworkRadioType : EnumSpec where
  name := "CELLULAR_NETWORK_RADIO_TYPE"
  entries := [
    (0, "CELLULAR_NETWORK_RADIO_TYPE_NONE"),
    (1, "CELLULAR_NETWORK_RADIO_TYPE_GSM"),
    (2, "CELLULAR_NETWORK_RADIO_TYPE_CDMA"),
    (3, "CELLULAR_NETWORK_RADIO_TYPE_WCDMA"),
    (4, "CELLULAR_NETWORK_RADIO_TYPE_LTE")]

def cellularConfigResponse : EnumSpec where
  name := "CELLULAR_CONFIG_RESPONSE"
  entries := [
    (0, "CELLULAR_CONFIG_RESPONSE_ACCEPTED"),
    (1, "CELLULAR_CONFIG_RESPONSE_APN_ERROR"),
    (2, "CELLULAR_CONFIG_RESPONSE_PIN_ERROR"),
    (3, "CELLULAR_CONFIG_RESPONSE_REJECTED"),
    (4, "CELLULAR_CONFIG_BLOCKED_PUK_REQUIRED")]

def utmFlightState : EnumSpec where
  name := "UTM_FLIGHT_STATE"
  entries := [
    (1, "UTM_FLIGHT_STATE_UNKNOWN"),
    (2, "UTM_FLIGHT_STATE_GROUND"),
    (3, "UTM_FLIGHT_STATE_AIRBORNE"),
    (16, "UTM_FLIGHT_STATE_EMERGENCY"),
    (32, "UTM_FLIGHT_STATE_NOCTRL")]

def mavTunnelPayloadType : EnumSpec where
  name := "MAV_TUNNEL_PAYLOAD_TYPE"
  entries := [
    (0, "MAV_TUNNEL_PAYLOAD_TYPE_UNKNOWN"),
    (200, "MAV_TUNNEL_PAYLOAD_TYPE_STORM32_RESERVED0"),
    (201, "MAV_TUNNEL_PAYLOAD_TYPE_STORM32_RESERVED1"),
    (202, "MAV_TUNNEL_PAYLOAD_TYPE_STORM32_RESERVED2"),
    (203, "MAV_TUNNEL_PAYLOAD_TYPE_STORM32_RESERVED3"),
    (204, "MAV_TUNNEL_PAYLOAD_TYPE_STORM32_RESERVED4"),
    (205, "MAV_TUNNEL_PAYLOAD_TYPE_STORM32_RESERVED5"),
    (206, "MAV_TUNNEL_PAYLOAD_TYPE_STORM32_RESERVED6"),
    (207, "MAV_TUNNEL_PAYLOAD_TYPE_STORM32_RESERVED7"),
    (208, "MAV_TUNNEL_PAYLOAD_TYPE_STORM32_RESERVED8"),
    (209, "MAV_TUNNEL_PAYLOAD_TYPE_STORM32_RESERVED9")]

def canFilterOp : EnumSpec where
  name := "CAN_FILTER_OP"
  entries := [
    (0, "CAN_FILTER_REPLACE"),
    (1, "CAN_FILTER_ADD"),
    (2, "CAN_FILTER_REMOVE")]

def mavEventErrorReason : EnumSpec where
  name := "MAV_EVENT_ERROR_REASON"
  entries := [
    (0, "MAV_EVENT_ERROR_REASON_UNAVAILABLE")]

end LinkTap.Mavlink.Dialect
