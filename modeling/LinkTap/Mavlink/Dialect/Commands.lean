import LinkTap.Mavlink.Schema

/-!
# Commands

The command numbers of the standard dialect and their names. Command messages and
acknowledgements carry one of them.
-/

set_option autoImplicit false

namespace LinkTap.Mavlink.Dialect

def mavCmd : EnumSpec where
  name := "MAV_CMD"
  entries := [
    (16, "MAV_CMD_NAV_WAYPOINT"),
    (17, "MAV_CMD_NAV_LOITER_UNLIM"),
    (18, "MAV_CMD_NAV_LOITER_TURNS"),
    (19, "MAV_CMD_NAV_LOITER_TIME"),
    (20, "MAV_CMD_NAV_RETURN_TO_LAUNCH"),
    (21, "MAV_CMD_NAV_LAND"),
    (22, "MAV_CMD_NAV_TAKEOFF"),
    (23, "MAV_CMD_NAV_LAND_LOCAL"),
    (24, "MAV_CMD_NAV_TAKEOFF_LOCAL"),
    (25, "MAV_CMD_NAV_FOLLOW"),
    (30, "MAV_CMD_NAV_CONTINUE_AND_CHANGE_ALT"),
    (31, "MAV_CMD_NAV_LOITER_TO_ALT"),
    (32, "MAV_CMD_DO_FOLLOW"),
    (33, "MAV_CMD_DO_FOLLOW_REPOSITION"),
    (34, "MAV_CMD_DO_ORBIT"),
    (80, "MAV_CMD_NAV_ROI"),
    (81, "MAV_CMD_NAV_PATHPLANNING"),
    (82, "MAV_CMD_NAV_SPLINE_WAYPOINT"),
    (84, "MAV_CMD_NAV_VTOL_TAKEOFF"),
    (85, "MAV_CMD_NAV_VTOL_LAND"),
    (92, "MAV_CMD_NAV_GUIDED_ENABLE"),
    (93, "MAV_CMD_NAV_DELAY"),
    (94, "MAV_CMD_NAV_PAYLOAD_PLACE"),
    (95, "MAV_CMD_NAV_LAST"),
    (112, "MAV_CMD_CONDITION_DELAY"),
    (113, "MAV_CMD_CONDITION_CHANGE_ALT"),
    (114, "MAV_CMD_CONDITION_DISTANCE"),
    (115, "MAV_CMD_CONDITION_YAW"),
    (159, "MAV_CMD_CONDITION_LAST"),
    (176, "MAV_CMD_DO_SET_MODE"),
    (177, "MAV_CMD_DO_JUMP"),
    (178, "MAV_CMD_DO_CHANGE_SPEED"),
    (179, "MAV_CMD_DO_SET_HOME"),
    (180, "MAV_CMD_DO_SET_PARAMETER"),
    (181, "MAV_CMD_DO_SET_RELAY"),
    (182, "MAV_CMD_DO_REPEAT_RELAY"),
    (183, "MAV_CMD_DO_SET_SERVO"),
    (184, "MAV_CMD_DO_REPEAT_SERVO"),
    (185, "MAV_CMD_DO_FLIGHTTERMINATION"),
    (186, "MAV_CMD_DO_CHANGE_ALTITUDE"),
    (187, "MAV_CMD_DO_SET_ACTUATOR"),
    (189, "MAV_CMD_DO_LAND_START"),
    (190, "MAV_CMD_DO_RALLY_LAND"),
    (191, "MAV_CMD_DO_GO_AROUND"),
    (192, "MAV_CMD_DO_REPOSITION"),
    (193, "MAV_CMD_DO_PAUSE_CONTINUE"),
    (194, "MAV_CMD_DO_SET_REVERSE"),
    (195, "MAV_CMD_DO_SET_ROI_LOCATION"),
    (196, "MAV_CMD_DO_SET_ROI_WPNEXT_OFFSET"),
    (197, "MAV_CMD_DO_SET_ROI_NONE"),
    (198, "MAV_CMD_DO_SET_ROI_SYSID"),
    (200, "MAV_CMD_DO_CONTROL_VIDEO"),
    (201, "MAV_CMD_DO_SET_ROI"),
    (202, "MAV_CMD_DO_DIGICAM_CONFIGURE"),
    (203, "MAV_CMD_DO_DIGICAM_CONTROL"),
    (204, "MAV_CMD_DO_MOUNT_CONFIGURE"),
    (205, "MAV_CMD_DO_MOUNT_CONTROL"),
    (206, "MAV_CMD_DO_SET_CAM_TRIGG_DIST"),
    (207, "MAV_CMD_DO_FENCE_ENABLE"),
    (208, "MAV_CMD_DO_PARACHUTE"),
    (209, "MAV_CMD_DO_MOTOR_TEST"),
    (210, "MAV_CMD_DO_INVERTED_FLIGHT"),
    (211, "MAV_CMD_DO_GRIPPER"),
    (212, "MAV_CMD_DO_AUTOTUNE_ENABLE"),
    (213, "MAV_CMD_NAV_SET_YAW_SPEED"),
    (214, "MAV_CMD_DO_SET_CAM_TRIGG_INTERVAL"),
    (220, "MAV_CMD_DO_MOUNT_CONTROL_QUAT"),
    (221, "MAV_CMD_DO_GUIDED_MASTER"),
    (222, "MAV_CMD_DO_GUIDED_LIMITS"),
    (223, "MAV_CMD_DO_ENGINE_CONTROL"),
    (224, "MAV_CMD_DO_SET_MISSION_CURRENT"),
    (240, "MAV_CMD_DO_LAST"),
    (241, "MAV_CMD_PREFLIGHT_CALIBRATION"),
    (242, "MAV_CMD_PREFLIGHT_SET_SENSOR_OFFSETS"),
    (243, "MAV_CMD_PREFLIGHT_UAVCAN"),
    (245, "MAV_CMD_PREFLIGHT_STORAGE"),
    (246, "MAV_CMD_PREFLIGHT_REBOOT_SHUTDOWN"),
    (252, "MAV_CMD_OVERRIDE_GOTO"),
    (260, "MAV_CMD_OBLIQUE_SURVEY"),
    (300, "MAV_CMD_MISSION_START"),
    (310, "MAV_CMD_ACTUATOR_TEST"),
    (311, "MAV_CMD_CONFIGURE_ACTUATOR"),
    (400, "MAV_CMD_COMPONENT_ARM_DISARM"),
    (401, "MAV_CMD_RUN_PREARM_CHECKS"),
    (405, "MAV_CMD_ILLUMINATOR_ON_OFF"),
    (410, "MAV_CMD_GET_HOME_POSITION"),
    (420, "MAV_CMD_INJECT_FAILURE"),
    (500, "MAV_CMD_START_RX_PAIR"),
    (510, "MAV_CMD_GET_MESSAGE_INTERVAL"),
    (511, "MAV_CMD_SET_MESSAGE_INTERVAL"),
    (512, "MAV_CMD_REQUEST_MESSAGE"),
    (519, "MAV_CMD_REQUEST_PROTOCOL_VERSION"),
    (520, "MAV_CMD_REQUEST_AUTOPILOT_CAPABILITIES"),
    (521, "MAV_CMD_REQUEST_CAMERA_INFORMATION"),
    (522, "MAV_CMD_REQUEST_CAMERA_SETTINGS"),
    (525, "MAV_CMD_REQUEST_STORAGE_INFORMATION"),
    (526, "MAV_CMD_STORAGE_FORMAT"),
    (527, "MAV_CMD_REQUEST_CAMERA_CAPTURE_STATUS"),
    (528, "MAV_CMD_REQUEST_FLIGHT_INFORMATION"),
    (529, "MAV_CMD_RESET_CAMERA_SETTINGS"),
    (530, "MAV_CMD_SET_CAMERA_MODE"),
    (531, "MAV_CMD_SET_CAMERA_ZOOM"),
    (532, "MAV_CMD_SET_CAMERA_FOCUS"),
    (533, "MAV_CMD_SET_STORAGE_USAGE"),
    (600, "MAV_CMD_JUMP_TAG"),
    (601, "MAV_CMD_DO_JUMP_TAG"),
    (1000, "MAV_CMD_DO_GIMBAL_MANAGER_PITCHYAW"),
    (1001, "MAV_CMD_DO_GIMBAL_MANAGER_CONFIGURE"),
    (2000, "MAV_CMD_IMAGE_START_CAPTURE"),
    (2001, "MAV_CMD_IMAGE_STOP_CAPTURE"),
    (2002, "MAV_CMD_REQUEST_CAMERA_IMAGE_CAPTURE"),
    (2003, "MAV_CMD_DO_TRIGGER_CONTROL"),
    (2004, "MAV_CMD_CAMERA_TRACK_POINT"),
    (2005, "MAV_CMD_CAMERA_TRACK_RECTANGLE"),
    (2010, "MAV_CMD_CAMERA_STOP_TRACKING"),
    (2500, "MAV_CMD_VIDEO_START_CAPTURE"),
    (2501, "MAV_CMD_VIDEO_STOP_CAPTURE"),
    (2502, "MAV_CMD_VIDEO_START_STREAMING"),
    (2503, "MAV_CMD_VIDEO_STOP_STREAMING"),
    (2504, "MAV_CMD_REQUEST_VIDEO_STREAM_INFORMATION"),
    (2505, "MAV_CMD_REQUEST_VIDEO_STREAM_STATUS"),
    (2510, "MAV_CMD_LOGGING_START"),
    (2511, "MAV_CMD_LOGGING_STOP"),
    (2520, "MAV_CMD_AIRFRAME_CONFIGURATION"),
    (2600, "MAV_CMD_CONTROL_HIGH_LATENCY"),
    (2800, "MAV_CMD_PANORAMA_CREATE"),
    (3000, "MAV_CMD_DO_VTOL_TRANSITION"),
    (3001, "MAV_CMD_ARM_AUTHORIZATION_REQUEST"),
    (4000, "MAV_CMD_SET_GUIDED_SUBMODE_STANDARD"),
    (4001, "MAV_CMD_SET_GUIDED_SUBMODE_CIRCLE"),
    (4501, "MAV_CMD_CONDITION_GATE"),
    (5000, "MAV_CMD_NAV_FENCE_RETURN_POINT"),
    (5001, "MAV_CMD_NAV_FENCE_POLYGON_VERTEX_INCLUSION"),
    (5002, "MAV_CMD_NAV_FENCE_POLYGON_VERTEX_EXCLUSION"),
    (5003, "MAV_CMD_NAV_FENCE_CIRCLE_INCLUSION"),
    (5004, "MAV_CMD_NAV_FENCE_CIRCLE_EXCLUSION"),
    (5100, "MAV_CMD_NAV_RALLY_POINT"),
    (5200, "MAV_CMD_UAVCAN_GET_NODE_INFO"),
    (10001, "MAV_CMD_DO_ADSB_OUT_IDENT"),
    (30001, "MAV_CMD_PAYLOAD_PREPARE_DEPLOY"),
    (30002, "MAV_CMD_PAYLOAD_CONTROL_DEPLOY"),
    (31000, "MAV_CMD_WAYPOINT_USER_1"),
    (31001, "MAV_CMD_WAYPOINT_USER_2"),
    (31002, "MAV_CMD_WAYPOINT_USER_3"),
    (31003, "MAV_CMD_WAYPOINT_USER_4"),
    (31004, "MAV_CMD_WAYPOINT_USER_5"),
    (31005, "MAV_CMD_SPATIAL_USER_1"),
    (31006, "MAV_CMD_SPATIAL_USER_2"),
    (31007, "MAV_CMD_SPATIAL_USER_3"),
    (31008, "MAV_CMD_SPATIAL_USER_4"),
    (31009, "MAV_CMD_SPATIAL_USER_5"),
    (31010, "MAV_CMD_USER_1"),
    (31011, "MAV_CMD_USER_2"),
    (31012, "MAV_CMD_USER_3"),
    (31013, "MAV_CMD_USER_4"),
    (31014, "MAV_CMD_USER_5"),
    (32000, "MAV_CMD_CAN_FORWARD"),
    (42006, "MAV_CMD_FIXED_MAG_CAL_YAW"),
    (42600, "MAV_CMD_DO_WINCH")]

end LinkTap.Mavlink.Dialect
