import LinkTap.Mavlink.Schema

/-!
# Enumerations of remote identification

The enumerations of the broadcast remote identification messages, each with the numbers that
name its variants.
-/

set_option autoImplicit false

namespace LinkTap.Mavlink.Dialect

def mavOdidIdType : EnumSpec where
  name := "MAV_ODID_ID_TYPE"
  entries := [
    (0, "MAV_ODID_ID_TYPE_NONE"),
    (1, "MAV_ODID_ID_TYPE_SERIAL_NUMBER"),
    (2, "MAV_ODID_ID_TYPE_CAA_REGISTRATION_ID"),
    (3, "MAV_ODID_ID_TYPE_UTM_ASSIGNED_UUID"),
    (4, "MAV_ODID_ID_TYPE_SPECIFIC_SESSION_ID")]

def mavOdidUaType : EnumSpec where
  name := "MAV_ODID_UA_TYPE"
  entries := [
    (0, "MAV_ODID_UA_TYPE_NONE"),
    (1, "MAV_ODID_UA_TYPE_AEROPLANE"),
    (2, "MAV_ODID_UA_TYPE_HELICOPTER_OR_MULTIROTOR"),
    (3, "MAV_ODID_UA_TYPE_GYROPLANE"),
    (4, "MAV_ODID_UA_TYPE_HYBRID_LIFT"),
    (5, "MAV_ODID_UA_TYPE_ORNITHOPTER"),
    (6, "MAV_ODID_UA_TYPE_GLIDER"),
    (7, "MAV_ODID_UA_TYPE_KITE"),
    (8, "MAV_ODID_UA_TYPE_FREE_BALLOON"),
    (9, "MAV_ODID_UA_TYPE_CAPTIVE_BALLOON"),
    (10, "MAV_ODID_UA_TYPE_AIRSHIP"),
    (11, "MAV_ODID_UA_TYPE_FREE_FALL_PARACHUTE"),
    (12, "MAV_ODID_UA_TYPE_ROCKET"),
    (13, "MAV_ODID_UA_TYPE_TETHERED_POWERED_AIRCRAFT"),
    (14, "MAV_ODID_UA_TYPE_GROUND_OBSTACLE"),
    (15, "MAV_ODID_UA_TYPE_OTHER")]

def mavOdidStatus : EnumSpec where
  name := "MAV_ODID_STATUS"
  entries := [
    (0, "MAV_ODID_STATUS_UNDECLARED"),
    (1, "MAV_ODID_STATUS_GROUND"),
    (2, "MAV_ODID_STATUS_AIRBORNE"),
    (3, "MAV_ODID_STATUS_EMERGENCY"),
    (4, "MAV_ODID_STATUS_REMOTE_ID_SYSTEM_FAILURE")]

def mavOdidHeightRef : EnumSpec where
  name := "MAV_ODID_HEIGHT_REF"
  entries := [
    (0, "MAV_ODID_HEIGHT_REF_OVER_TAKEOFF"),
    (1, "MAV_ODID_HEIGHT_REF_OVER_GROUND")]

def mavOdidHorAcc : EnumSpec where
  name := "MAV_ODID_HOR_ACC"
  entries := [
    (0, "MAV_ODID_HOR_ACC_UNKNOWN"),
    (1, "MAV_ODID_HOR_ACC_10NM"),
    (2, "MAV_ODID_HOR_ACC_4NM"),
    (3, "MAV_ODID_HOR_ACC_2NM"),
    (4, "MAV_ODID_HOR_ACC_1NM"),
    (5, "MAV_ODID_HOR_ACC_0_5NM"),
    (6, "MAV_ODID_HOR_ACC_0_3NM"),
    (7, "MAV_ODID_HOR_ACC_0_1NM"),
    (8, "MAV_ODID_HOR_ACC_0_05NM"),
    (9, "MAV_ODID_HOR_ACC_30_METER"),
    (10, "MAV_ODID_HOR_ACC_10_METER"),
    (11, "MAV_ODID_HOR_ACC_3_METER"),
    (12, "MAV_ODID_HOR_ACC_1_METER")]

def mavOdidVerAcc : EnumSpec where
  name := "MAV_ODID_VER_ACC"
  entries := [
    (0, "MAV_ODID_VER_ACC_UNKNOWN"),
    (1, "MAV_ODID_VER_ACC_150_METER"),
    (2, "MAV_ODID_VER_ACC_45_METER"),
    (3, "MAV_ODID_VER_ACC_25_METER"),
    (4, "MAV_ODID_VER_ACC_10_METER"),
    (5, "MAV_ODID_VER_ACC_3_METER"),
    (6, "MAV_ODID_VER_ACC_1_METER")]

def mavOdidSpeedAcc : EnumSpec where
  name := "MAV_ODID_SPEED_ACC"
  entries := [
    (0, "MAV_ODID_SPEED_ACC_UNKNOWN"),
    (1, "MAV_ODID_SPEED_ACC_10_METERS_PER_SECOND"),
    (2, "MAV_ODID_SPEED_ACC_3_METERS_PER_SECOND"),
    (3, "MAV_ODID_SPEED_ACC_1_METERS_PER_SECOND"),
    (4, "MAV_ODID_SPEED_ACC_0_3_METERS_PER_SECOND")]

def mavOdidTimeAcc : EnumSpec where
  name := "MAV_ODID_TIME_ACC"
  entries := [
    (0, "MAV_ODID_TIME_ACC_UNKNOWN"),
    (1, "MAV_ODID_TIME_ACC_0_1_SECOND"),
    (2, "MAV_ODID_TIME_ACC_0_2_SECOND"),
    (3, "MAV_ODID_TIME_ACC_0_3_SECOND"),
    (4, "MAV_ODID_TIME_ACC_0_4_SECOND"),
    (5, "MAV_ODID_TIME_ACC_0_5_SECOND"),
    (6, "MAV_ODID_TIME_ACC_0_6_SECOND"),
    (7, "MAV_ODID_TIME_ACC_0_7_SECOND"),
    (8, "MAV_ODID_TIME_ACC_0_8_SECOND"),
    (9, "MAV_ODID_TIME_ACC_0_9_SECOND"),
    (10, "MAV_ODID_TIME_ACC_1_0_SECOND"),
    (11, "MAV_ODID_TIME_ACC_1_1_SECOND"),
    (12, "MAV_ODID_TIME_ACC_1_2_SECOND"),
    (13, "MAV_ODID_TIME_ACC_1_3_SECOND"),
    (14, "MAV_ODID_TIME_ACC_1_4_SECOND"),
    (15, "MAV_ODID_TIME_ACC_1_5_SECOND")]

def mavOdidAuthType : EnumSpec where
  name := "MAV_ODID_AUTH_TYPE"
  entries := [
    (0, "MAV_ODID_AUTH_TYPE_NONE"),
    (1, "MAV_ODID_AUTH_TYPE_UAS_ID_SIGNATURE"),
    (2, "MAV_ODID_AUTH_TYPE_OPERATOR_ID_SIGNATURE"),
    (3, "MAV_ODID_AUTH_TYPE_MESSAGE_SET_SIGNATURE"),
    (4, "MAV_ODID_AUTH_TYPE_NETWORK_REMOTE_ID"),
    (5, "MAV_ODID_AUTH_TYPE_SPECIFIC_AUTHENTICATION")]

def mavOdidDescType : EnumSpec where
  name := "MAV_ODID_DESC_TYPE"
  entries := [
    (0, "MAV_ODID_DESC_TYPE_TEXT"),
    (1, "MAV_ODID_DESC_TYPE_EMERGENCY"),
    (2, "MAV_ODID_DESC_TYPE_EXTENDED_STATUS")]

def mavOdidOperatorLocationType : EnumSpec where
  name := "MAV_ODID_OPERATOR_LOCATION_TYPE"
  entries := [
    (0, "MAV_ODID_OPERATOR_LOCATION_TYPE_TAKEOFF"),
    (1, "MAV_ODID_OPERATOR_LOCATION_TYPE_LIVE_GNSS"),
    (2, "MAV_ODID_OPERATOR_LOCATION_TYPE_FIXED")]

def mavOdidClassificationType : EnumSpec where
  name := "MAV_ODID_CLASSIFICATION_TYPE"
  entries := [
    (0, "MAV_ODID_CLASSIFICATION_TYPE_UNDECLARED"),
    (1, "MAV_ODID_CLASSIFICATION_TYPE_EU")]

def mavOdidCategoryEu : EnumSpec where
  name := "MAV_ODID_CATEGORY_EU"
  entries := [
    (0, "MAV_ODID_CATEGORY_EU_UNDECLARED"),
    (1, "MAV_ODID_CATEGORY_EU_OPEN"),
    (2, "MAV_ODID_CATEGORY_EU_SPECIFIC"),
    (3, "MAV_ODID_CATEGORY_EU_CERTIFIED")]

def mavOdidClassEu : EnumSpec where
  name := "MAV_ODID_CLASS_EU"
  entries := [
    (0, "MAV_ODID_CLASS_EU_UNDECLARED"),
    (1, "MAV_ODID_CLASS_EU_CLASS_0"),
    (2, "MAV_ODID_CLASS_EU_CLASS_1"),
    (3, "MAV_ODID_CLASS_EU_CLASS_2"),
    (4, "MAV_ODID_CLASS_EU_CLASS_3"),
    (5, "MAV_ODID_CLASS_EU_CLASS_4"),
    (6, "MAV_ODID_CLASS_EU_CLASS_5"),
    (7, "MAV_ODID_CLASS_EU_CLASS_6")]

def mavOdidOperatorIdType : EnumSpec where
  name := "MAV_ODID_OPERATOR_ID_TYPE"
  entries := [
    (0, "MAV_ODID_OPERATOR_ID_TYPE_CAA")]

def mavOdidArmStatus : EnumSpec where
  name := "MAV_ODID_ARM_STATUS"
  entries := [
    (0, "MAV_ODID_ARM_STATUS_GOOD_TO_ARM"),
    (1, "MAV_ODID_ARM_STATUS_PRE_ARM_FAIL_GENERIC")]

end LinkTap.Mavlink.Dialect
